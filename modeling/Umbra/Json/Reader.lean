import Umbra.Json.Basic

/-!
Reading JSON. The reader is strict about what stands outside the grammar, and has two degrees of
care about what the grammar allows: a careful reader also refuses numbers out of range and strings
without a text. Nesting is bounded by the depth that the reader is given.
-/

namespace Umbra.Json

def isBlank (c : Char) : Bool := c == ' ' || c == '\t' || c == '\n' || c == '\r'

def skipBlank (s : List Char) : List Char := s.dropWhile isBlank

/-- Four hexadecimal digits, which name a UTF-16 unit. -/
def unit? (a b c d : Char) : Option Nat :=
  if [a, b, c, d].all Text.isHexDigit then some (Text.hexValue [a, b, c, d]) else none

def isHighSurrogate (u : Nat) : Bool := 0xD800 ≤ u && u < 0xDC00

def isLowSurrogate (u : Nat) : Bool := 0xDC00 ≤ u && u < 0xE000

def joinSurrogates (high low : Nat) : Char :=
  Char.ofNat (0x10000 + (high - 0xD800) * 0x400 + (low - 0xDC00))

/-- The character behind a backslash that stands for one character. -/
def shortEscape? (c : Char) : Option Char :=
  match c with
  | '"' => some '"'
  | '\\' => some '\\'
  | '/' => some '/'
  | 'b' => some '\x08'
  | 'f' => some '\x0C'
  | 'n' => some '\n'
  | 'r' => some '\r'
  | 't' => some '\t'
  | _ => none

/-- What a string reader has read: the text, if there is one, and the rest. -/
abbrev StringRead := Option (Option (List Char) × List Char)

def StringRead.push (c : Char) (r : StringRead) : StringRead :=
  r.map fun (text, rest) => (text.map (c :: ·), rest)

/-- The string goes on, but its text is lost. -/
def StringRead.spoil (r : StringRead) : StringRead := r.map fun (_, rest) => (none, rest)

/-- The low surrogate that the six characters at the start of a text escape. -/
def lowSurrogate? : List Char → Option Nat
  | '\\' :: 'u' :: a :: b :: c :: d :: _ => (unit? a b c d).filter isLowSurrogate
  | _ => none

/-- Reads a string from behind its opening quote. -/
def readString (s : List Char) : StringRead :=
  match s with
  | [] => none
  | '"' :: t => some (some [], t)
  | '\\' :: 'u' :: a :: b :: c :: d :: t =>
    match unit? a b c d with
    | none => none
    | some u =>
      if isHighSurrogate u then
        match lowSurrogate? t with
        | some v => (readString (t.drop 6)).push (joinSurrogates u v)
        | none => (readString t).spoil
      else if isLowSurrogate u then (readString t).spoil
      else (readString t).push (Char.ofNat u)
  | '\\' :: c :: t =>
    match shortEscape? c with
    | some d => (readString t).push d
    | none => none
  | c :: t => if c.toNat < 0x20 then none else (readString t).push c
termination_by s.length
decreasing_by all_goals simp only [List.length_cons, List.length_drop]; omega

/-- A nonempty run of decimal digits. -/
def readDigits? (s : List Char) : Option (List Char × List Char) :=
  let digits := s.takeWhile Text.isAsciiDigit
  if digits.isEmpty then none else some (digits, s.dropWhile Text.isAsciiDigit)

/-- The digits before the point: no zero stands before another digit. -/
def readWhole? : List Char → Option (List Char × List Char)
  | '0' :: s => if (readDigits? s).isSome then none else some (['0'], s)
  | s => readDigits? s

def readExponent? (s : List Char) : Option (Option (Bool × List Char) × List Char) :=
  match s with
  | c :: t =>
    if c == 'e' || c == 'E' then
      let (down, u) := match t with
        | '-' :: u => (true, u)
        | '+' :: u => (false, u)
        | _ => (false, t)
      (readDigits? u).map fun (digits, rest) => (some (down, digits), rest)
    else some (none, s)
  | [] => some (none, [])

def readNumber? (s : List Char) : Option (JsonNumber × List Char) := do
  let (negative, s) := match s with
    | '-' :: t => (true, t)
    | _ => (false, s)
  let (whole, s) ← readWhole? s
  let (pointed, fraction, s) ← match s with
    | '.' :: t => (readDigits? t).map fun (digits, rest) => (true, digits, rest)
    | _ => some (false, [], s)
  let (exponent, s) ← readExponent? s
  return (⟨negative, whole, fraction, exponent, pointed⟩, s)

/-- Reads `item`s with commas between them, up to the character `close`. At least one is there. -/
def readItems {α : Type} (item : List Char → Option (α × List Char)) (close : Char)
    (s : List Char) : Option (List α × List Char) :=
  match item s with
  | none => none
  | some (a, r) =>
    match skipBlank r with
    | [] => none
    | c :: t =>
      if c = close then some ([a], t)
      else if c = ',' then
        if t.length < s.length then (readItems item close t).map fun (as, u) => (a :: as, u)
        else none
      else none
termination_by s.length

/-- The items behind an opening bracket, none or more. -/
def readBracketed {α : Type} (item : List Char → Option (α × List Char)) (close : Char)
    (s : List Char) : Option (List α × List Char) :=
  match skipBlank s with
  | [] => none
  | c :: t => if c = close then some ([], t) else readItems item close s

/-- A name, a colon and a value. -/
def readMember (careful : Bool) (value : List Char → Option (Json × List Char)) (s : List Char) :
    Option ((Option String × Json) × List Char) :=
  match skipBlank s with
  | '"' :: t =>
    match readString t with
    | none => none
    | some (name, u) =>
      if careful && name.isNone then none
      else match skipBlank u with
        | ':' :: v => (value v).map fun (j, w) => ((name.map String.ofList, j), w)
        | _ => none
  | _ => none

/-- A value that holds no other. -/
def readScalar (careful : Bool) (s : List Char) : Option (Json × List Char) :=
  match s with
  | '"' :: t =>
    match readString t with
    | none => none
    | some (text, rest) =>
      if careful && text.isNone then none else some (.string (text.map String.ofList), rest)
  | 'n' :: 'u' :: 'l' :: 'l' :: t => some (.null, t)
  | 't' :: 'r' :: 'u' :: 'e' :: t => some (.bool true, t)
  | 'f' :: 'a' :: 'l' :: 's' :: 'e' :: t => some (.bool false, t)
  | _ =>
    match readNumber? s with
    | none => none
    | some (n, rest) => if careful && !n.inRange then none else some (.number n, rest)

/-- Reads a value in which arrays and objects are nested at most `depth` deep. -/
def readValue (careful : Bool) : Nat → List Char → Option (Json × List Char)
  | 0, s =>
    match skipBlank s with
    | '[' :: _ => none
    | '{' :: _ => none
    | t => readScalar careful t
  | depth + 1, s =>
    match skipBlank s with
    | '[' :: t =>
      (readBracketed (readValue careful depth) ']' t).map fun (items, rest) => (.array items, rest)
    | '{' :: t =>
      (readBracketed (readMember careful (readValue careful depth)) '}' t).map
        fun (members, rest) => (.object members, rest)
    | t => readScalar careful t

/-- Reads a text that holds one value and nothing else. -/
def read? (careful : Bool) (depth : Nat) (text : String) : Option Json :=
  match readValue careful depth text.toList with
  | some (j, rest) => if (skipBlank rest).isEmpty then some j else none
  | none => none

end Umbra.Json
