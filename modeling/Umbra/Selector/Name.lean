import Umbra.Text.Ascii
import Umbra.Selector.SyntaxError

/-!
Names and quoted strings, the two forms of free text in a selector, with the escapes that both
share. Each form has a reader and a writer.
-/

namespace Umbra.Selector

/-- White space between the tokens of a selector. -/
def isSpace (c : Char) : Bool :=
  c == '\n' || c == '\t' || c == ' ' || c == '\r' || c == '\x0C'

def skipSpace (s : List Char) : List Char := s.dropWhile isSpace

def isNameStart (c : Char) : Bool := Text.isAsciiLetter c || c == '_' || !Text.isAscii c

def isNameChar (c : Char) : Bool := isNameStart c || Text.isAsciiDigit c || c == '-'

def isControl (c : Char) : Bool := c.toNat < 0x20 || (0x7F ≤ c.toNat && c.toNat < 0xA0)

/-- Whether a backslash and a character other than a line feed come next. -/
def atEscape : List Char → Bool
  | '\\' :: c :: _ => c != '\n'
  | _ => false

/-- Whether a name comes next: a start character, an escape, or a hyphen before one of these or
before a second hyphen. -/
def atName : List Char → Bool
  | '-' :: '\\' :: s => atEscape ('\\' :: s)
  | '-' :: c :: _ => isNameStart c || c == '-'
  | c :: s => isNameStart c || atEscape (c :: s)
  | [] => false

/-- The character that a code point escapes; what is no character is the replacement character. -/
def escapedChar (codePoint : Nat) : Char :=
  if Char.ofNat codePoint = '\x00' then '\uFFFD' else Char.ofNat codePoint

def skipOneSpace : List Char → List Char
  | [] => []
  | c :: s => if isSpace c then s else c :: s

/-- Reads an escape from behind its backslash: up to six hexadecimal digits and one white space, or
any other character for itself. -/
def readEscape : List Char → Char × List Char
  | [] => ('\uFFFD', [])
  | c :: s =>
    if Text.isHexDigit c then
      let digits := (s.take 5).takeWhile Text.isHexDigit
      (escapedChar (Text.hexValue (c :: digits)), skipOneSpace (s.drop digits.length))
    else (c, s)

theorem length_skipOneSpace_le (s : List Char) : (skipOneSpace s).length ≤ s.length := by
  cases s with
  | nil => simp [skipOneSpace]
  | cons c s => simp only [skipOneSpace]; split <;> simp

theorem length_readEscape_le (s : List Char) : (readEscape s).2.length ≤ s.length := by
  cases s with
  | nil => simp [readEscape]
  | cons c s =>
    simp only [readEscape]
    split
    · have := length_skipOneSpace_le (s.drop ((s.take 5).takeWhile Text.isHexDigit).length)
      simp only [List.length_drop] at this
      simp only [List.length_cons]
      omega
    · simp

/-- Reads name characters and escapes as far as they go. -/
def readName (s : List Char) : List Char × List Char :=
  match s with
  | [] => ([], [])
  | c :: t =>
    if isNameChar c then
      let (name, rest) := readName t
      (c :: name, rest)
    else if atEscape (c :: t) then
      let (name, rest) := readName (readEscape t).2
      ((readEscape t).1 :: name, rest)
    else ([], c :: t)
termination_by s.length
decreasing_by
  · simp
  · have := length_readEscape_le t
    simp only [List.length_cons]
    omega

/-- Reads a name that has to be there. -/
def expectName (expected : Expected) (s : List Char) : Read (String × List Char) :=
  if (s.head?.any isNameChar) || atEscape s then
    let (name, rest) := readName s
    .ok (String.ofList name, rest)
  else .error (unexpected expected s)

/-- Reads a string from behind its opening quote. It has to close on the same line; an escaped line
feed is left out. -/
def readString (unterminated : SyntaxError (List Char)) (quote : Char) (s : List Char) :
    Read (List Char × List Char) :=
  match s with
  | [] => .error unterminated
  | c :: t =>
    if c = quote then .ok ([], t)
    else if c = '\n' then .error unterminated
    else if c = '\\' then
      match t with
      | [] => .error unterminated
      | d :: u =>
        if d = '\n' then readString unterminated quote u
        else do
          let (value, rest) ← readString unterminated quote (readEscape (d :: u)).2
          return ((readEscape (d :: u)).1 :: value, rest)
    else do
      let (value, rest) ← readString unterminated quote t
      return (c :: value, rest)
termination_by s.length
decreasing_by
  · simp only [List.length_cons]; omega
  · have := length_readEscape_le (d :: u)
    simp only [List.length_cons] at this ⊢
    omega
  · simp

/-- Reads a quoted string whose opening quote comes next. -/
def readQuoted : List Char → Read (List Char × List Char)
  | [] => .ok ([], [])
  | quote :: s => readString (.unterminatedString (quote :: s)) quote s

/-- Writes one character of a name. A digit in a leading place is escaped like a control
character, by its code point. -/
def writeNameChar (leading : Bool) (c : Char) : List Char :=
  if c = '\x00' then ['\uFFFD']
  else if isControl c || (leading && Text.isAsciiDigit c) then
    '\\' :: Text.hexDigits c.toNat ++ [' ']
  else if isNameChar c then [c]
  else ['\\', c]

/-- Behind a hyphen the second place is a leading one too. -/
def writeName : List Char → List Char
  | [] => []
  | '-' :: c :: s => '-' :: writeNameChar true c ++ s.flatMap (writeNameChar false)
  | c :: s => writeNameChar true c ++ s.flatMap (writeNameChar false)

def writeStringChar (c : Char) : List Char :=
  if c = '\x00' then ['\uFFFD']
  else if c = '"' || c = '\\' then ['\\', c]
  else if isControl c then '\\' :: Text.hexDigits c.toNat ++ [' ']
  else [c]

def writeString (s : List Char) : List Char := '"' :: s.flatMap writeStringChar ++ ['"']

end Umbra.Selector
