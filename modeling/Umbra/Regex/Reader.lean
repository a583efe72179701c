import Umbra.Text.Letters
import Umbra.Text.Search
import Umbra.Regex.Pattern
import Umbra.Regex.Property

/-!
Reading regular expressions. The reader goes through the text once; groups, and the brackets of a
class, that are still open are kept in a list, the innermost first. In verbose mode white space and
comments between the pieces are passed over.
-/

namespace Umbra.Pattern

/-- Passes over white space and comments; a comment ends with its line. -/
def skipComments : (inComment : Bool) → List Char → List Char
  | _, [] => []
  | true, c :: s => skipComments (c != '\n') s
  | false, c :: s =>
    if Text.isBlank c then skipComments false s
    else if c = '#' then skipComments true s
    else c :: s

def skipVerbose (verbose : Bool) (s : List Char) : List Char :=
  if verbose then skipComments false s else s

theorem length_skipComments_le (inComment : Bool) (s : List Char) :
    (skipComments inComment s).length ≤ s.length := by
  induction s generalizing inComment with
  | nil => cases inComment <;> simp [skipComments]
  | cons c s ih =>
    cases inComment with
    | true => exact Nat.le_succ_of_le (by simpa [skipComments] using ih _)
    | false =>
      simp only [skipComments]
      split
      · exact Nat.le_succ_of_le (ih _)
      · split
        · exact Nat.le_succ_of_le (ih _)
        · simp

theorem length_skipVerbose_le (verbose : Bool) (s : List Char) :
    (skipVerbose verbose s).length ≤ s.length := by
  unfold skipVerbose
  split
  · exact length_skipComments_le _ _
  · simp

/-- The next character that counts behind the current one. A comment sign counts once. -/
def peekVerbose (verbose : Bool) (s : List Char) : Option Char :=
  if verbose then
    match (s.drop 1).dropWhile Text.isBlank with
    | '#' :: t => (t.dropWhile Text.isBlank).head?
    | t => t.head?
  else (s.drop 1).head?

/-- Characters that have a meaning of their own somewhere and stand for themselves behind a
backslash. -/
def isMeta (c : Char) : Bool := "\\.+*?()|[]\x7b\x7d^$#&-~".toList.contains c

/-- Whether a backslash before the character changes nothing. -/
def isEscapable (c : Char) : Bool :=
  isMeta c ||
    (Text.isAscii c && !Text.isAsciiLetter c && !Text.isAsciiDigit c && c != '<' && c != '>')

/-- The characters that are escaped by a letter. -/
def namedEscape? (c : Char) : Option Char :=
  match c with
  | 'a' => some '\x07'
  | 'f' => some '\x0C'
  | 't' => some '\t'
  | 'n' => some '\n'
  | 'r' => some '\r'
  | 'v' => some '\x0B'
  | _ => none

/-- Exactly `n` hexadecimal digits. -/
def readFixedHex (verbose : Bool) : Nat → List Char → Option (List Char × List Char)
  | 0, s => some ([], s)
  | _ + 1, [] => none
  | n + 1, c :: s =>
    if Text.isHexDigit c then
      (readFixedHex verbose n (skipVerbose verbose s)).map fun (ds, rest) => (c :: ds, rest)
    else none

/-- The characters up to a closing brace, which is passed over. -/
def readBraced (verbose : Bool) (s : List Char) : Option (List Char × List Char) :=
  match s with
  | [] => none
  | c :: t =>
    if c = '\x7d' then some ([], t)
    else (readBraced verbose (skipVerbose verbose t)).map fun (cs, rest) => (c :: cs, rest)
termination_by s.length
decreasing_by
  have := length_skipVerbose_le verbose t
  simp only [List.length_cons]
  omega

def charOfCode? (n : Nat) : Option Char :=
  if n < 0xD800 || (0xDFFF < n && n < 0x110000) then some (Char.ofNat n) else none

/-- A character given by its code, from behind the letter that says with how many digits. -/
def readHex (verbose : Bool) (digits : Nat) (s : List Char) : Option (Letter × List Char) :=
  match skipVerbose verbose s with
  | [] => none
  | c :: t =>
    if c = '\x7b' then do
      let (ds, rest) ← readBraced verbose (skipVerbose verbose t)
      if ds.isEmpty || !ds.all Text.isHexDigit then none
      else return (⟨← charOfCode? (Text.hexValue ds), false⟩, skipVerbose verbose rest)
    else do
      let (ds, rest) ← readFixedHex verbose digits (c :: t)
      return (⟨← charOfCode? (Text.hexValue ds), digits = 2⟩, rest)

/-- The property that is named between braces, and whether the name negates it. -/
def propertyNamed? (name : List Char) : Option (CharSet × Bool) :=
  match Text.cutBefore? ['!', '='] name with
  | some (kind, value) => (CharSet.valued? kind (value.drop 2)).map fun s => (s, true)
  | none =>
    match Text.cutBefore? [':'] name with
    | some (kind, value) => (CharSet.valued? kind (value.drop 1)).map fun s => (s, false)
    | none =>
      match Text.cutBefore? ['='] name with
      | some (kind, value) => (CharSet.valued? kind (value.drop 1)).map fun s => (s, false)
      | none => (CharSet.named? name).map fun s => (s, false)

def readProperty (verbose negated : Bool) (s : List Char) : Option (Pattern × List Char) :=
  match skipVerbose verbose s with
  | [] => none
  | c :: t =>
    if c = '\x7b' then do
      let (name, rest) ← readBraced verbose (skipVerbose verbose t)
      let (chars, flipped) ← propertyNamed? name
      return (.property chars (negated != flipped), rest)
    else if c = '\\' then none
    else do
      let chars ← CharSet.named? [c]
      return (.property chars negated, skipVerbose verbose t)

def isBoundaryChar (c : Char) : Bool := Text.isAsciiLetter c || c == '-'

/-- Which end of a word is named between braces. -/
def boundaryNamed? (name : List Char) : Option Assertion :=
  if name = "start".toList then some .wordStart
  else if name = "end".toList then some .wordEnd
  else if name = "start-half".toList then some .wordStartHalf
  else if name = "end-half".toList then some .wordEndHalf
  else none

/-- A word boundary, from behind its letter. Braces that hold no name belong to a repetition. -/
def readBoundary (verbose : Bool) (s : List Char) : Option (Pattern × List Char) :=
  match s with
  | '\x7b' :: t =>
    match skipVerbose verbose t with
    | [] => none
    | c :: u =>
      if isBoundaryChar c then do
        let (name, rest) ← readBraced verbose (c :: u)
        return (.assertion (← boundaryNamed? name), rest)
      else some (.assertion .wordBoundary, s)
  | _ => some (.assertion .wordBoundary, s)

/-- An escape, from behind its backslash. -/
def readEscape (verbose : Bool) : List Char → Option (Pattern × List Char)
  | [] => none
  | c :: s =>
    match c with
    | 'x' => (readHex verbose 2 s).map fun (l, rest) => (.letter l, rest)
    | 'u' => (readHex verbose 4 s).map fun (l, rest) => (.letter l, rest)
    | 'U' => (readHex verbose 8 s).map fun (l, rest) => (.letter l, rest)
    | 'p' => readProperty verbose false s
    | 'P' => readProperty verbose true s
    | 'd' => some (.shorthand .digit false, s)
    | 'D' => some (.shorthand .digit true, s)
    | 's' => some (.shorthand .blank false, s)
    | 'S' => some (.shorthand .blank true, s)
    | 'w' => some (.shorthand .word false, s)
    | 'W' => some (.shorthand .word true, s)
    | 'A' => some (.assertion .textStart, s)
    | 'z' => some (.assertion .textEnd, s)
    | 'b' => readBoundary verbose s
    | 'B' => some (.assertion .notWordBoundary, s)
    | '<' => some (.assertion .wordStart, s)
    | '>' => some (.assertion .wordEnd, s)
    | _ =>
      if isEscapable c then some (.letter ⟨c, false⟩, s)
      else (namedEscape? c).map fun d => (.letter ⟨d, false⟩, s)

/-! ## Classes -/

def AsciiClass.ofName? (name : List Char) : Option AsciiClass :=
  [("alnum", AsciiClass.alnum), ("alpha", .alpha), ("ascii", .ascii), ("blank", .blank),
    ("cntrl", .cntrl), ("digit", .digit), ("graph", .graph), ("lower", .lower), ("print", .print),
    ("punct", .punct), ("space", .space), ("upper", .upper), ("word", .word),
    ("xdigit", .xdigit)].lookup (String.ofList name)

/-- A class such as `[:alpha:]`, whose bracket comes next. -/
def readAsciiClass? (s : List Char) : Option (ClassSet × List Char) :=
  match s with
  | '[' :: ':' :: t =>
    let (negated, t) := match t with
      | '^' :: u => (true, u)
      | _ => (false, t)
    match t.dropWhile (· != ':') with
    | ':' :: ']' :: rest =>
      (AsciiClass.ofName? (t.takeWhile (· != ':'))).map fun kind => (.ascii kind negated, rest)
    | _ => none
  | _ => none

/-- Hyphens at the start of a class stand for themselves; the class must go on behind them. -/
def readHyphens (verbose : Bool) (s : List Char) : List ClassSet × List Char :=
  match s with
  | [] => ([], [])
  | c :: t =>
    if c = '-' then
      let (items, rest) := readHyphens verbose (skipVerbose verbose t)
      (.letter ⟨'-', false⟩ :: items, rest)
    else ([], c :: t)
termination_by s.length
decreasing_by
  have := length_skipVerbose_le verbose t
  simp only [List.length_cons]
  omega

/-- The opening of a class, whose bracket comes next: whether the class is negated, and the
characters that stand for themselves only there, the last one first. -/
def readClassStart (verbose : Bool) (s : List Char) : Bool × List ClassSet × List Char :=
  let (negated, t) := match skipVerbose verbose (s.drop 1) with
    | '^' :: u => (true, skipVerbose verbose u)
    | t => (false, t)
  let (hyphens, u) := readHyphens verbose t
  match hyphens, u with
  | [], ']' :: v => (negated, [.letter ⟨']', false⟩], skipVerbose verbose v)
  | _, _ => (negated, hyphens, u)

def readClassLetter (verbose : Bool) : List Char → Option (Pattern × List Char)
  | [] => none
  | '\\' :: s => readEscape verbose s
  | c :: s => some (.letter ⟨c, false⟩, s)

/-- What a piece outside classes means inside one. -/
def ClassSet.ofPattern? : Pattern → Option ClassSet
  | .letter l => some (.letter l)
  | .shorthand kind negated => some (.shorthand kind negated)
  | .property s negated => some (.property s negated)
  | _ => none

/-- A single item of a class, or a range. -/
def readClassItem (verbose : Bool) (s : List Char) : Option (ClassSet × List Char) := do
  let (first, t) ← readClassLetter verbose s
  let t := skipVerbose verbose t
  if t.isEmpty then none
  else if t.head? = some '-' && peekVerbose verbose t != some ']' &&
      peekVerbose verbose t != some '-' then
    match first, ← readClassLetter verbose (skipVerbose verbose (t.drop 1)) with
    | .letter l, (.letter m, rest) => if l.char ≤ m.char then some (.range l m, rest) else none
    | _, _ => none
  else return (← ClassSet.ofPattern? first, t)

inductive ClassFrame where
  /-- An open bracket, with the items before it. -/
  | opened (before : List ClassSet) (negated : Bool)
  | operator (operator : SetOperator) (left : ClassSet)

/-- Applies the operator that waits for its right side, if there is one. -/
def applyOperator (right : ClassSet) : List ClassFrame → ClassSet × List ClassFrame
  | .operator operator left :: frames => (.binary operator left right, frames)
  | frames => (right, frames)

def setOperator? : List Char → Option SetOperator
  | '&' :: '&' :: _ => some .inter
  | '-' :: '-' :: _ => some .difference
  | '~' :: '~' :: _ => some .symmetricDifference
  | _ => none

/-- Reads a class up to its end. `items` are those behind the last bracket or operator, the last
one first. -/
def readClassBody (verbose : Bool) (frames : List ClassFrame) (items : List ClassSet)
    (s : List Char) : Option (Pattern × List Char) :=
  let goOn (frames : List ClassFrame) (items : List ClassSet) (rest : List Char) :=
    if _shorter : rest.length < s.length then readClassBody verbose frames items rest else none
  let body := ClassSet.ofItems items.reverse
  match skipVerbose verbose s with
  | [] => none
  | c :: t =>
    if c = '[' then
      match readAsciiClass? (c :: t) with
      | some (ascii, rest) => goOn frames (ascii :: items) rest
      | none =>
        let (negated, start, rest) := readClassStart verbose (c :: t)
        goOn (.opened items negated :: frames) start.reverse rest
    else if c = ']' then
      match applyOperator body frames with
      | (whole, [.opened _ negated]) => some (.bracketed negated whole, t)
      | (whole, .opened before negated :: outer) =>
        goOn outer (.bracketed negated whole :: before) t
      | _ => none
    else
      match setOperator? (c :: t) with
      | some operator =>
        let (left, outer) := applyOperator body frames
        goOn (.operator operator left :: outer) [] (t.drop 1)
      | none =>
        match readClassItem verbose (c :: t) with
        | some (item, rest) => goOn frames (item :: items) rest
        | none => none
termination_by s.length

/-- A class, whose bracket comes next. -/
def readClass (verbose : Bool) (s : List Char) : Option (Pattern × List Char) :=
  let (negated, start, rest) := readClassStart verbose s
  readClassBody verbose [.opened [] negated] start.reverse rest

/-! ## Groups and repetitions -/

/-- Flags up to a colon or a closing parenthesis, which is left to be read. `value` is false
behind the minus sign, which may stand once and not last. -/
def readFlags (value : Bool) (seen : FlagChange) : List Char → Option (FlagChange × List Char)
  | [] => none
  | c :: s =>
    if c = ':' || c = ')' then some (seen.reverse, c :: s)
    else if c = '-' then
      match s with
      | [] => none
      | d :: _ => if value && d != ':' && d != ')' then readFlags false seen s else none
    else
      match Flag.ofChar? c with
      | none => none
      | some f =>
        if (seen.lookup f).isSome then none else readFlags value ((f, value) :: seen) s

/-- The name of a group, up to the closing angle bracket. -/
def readGroupName (s : List Char) : Option (List Char × List Char) :=
  match s.takeWhile (· != '>'), s.dropWhile (· != '>') with
  | c :: name, '>' :: rest =>
    let starts := c == '_' || Text.isLetter c
    let goesOn (d : Char) := d == '_' || d == '.' || d == '[' || d == ']' ||
      Text.isLetter d || Text.isNumeral d
    if starts && name.all goesOn then some (c :: name, rest) else none
  | _, _ => none

inductive GroupStart where
  /-- Flags for the rest of the enclosing group. -/
  | flags (change : FlagChange)
  | group (change : FlagChange)
  | capture (name : Option (List Char))

/-- The start of a group, from behind its parenthesis. -/
def readGroupStart (verbose : Bool) (s : List Char) : Option (GroupStart × List Char) :=
  match skipVerbose verbose s with
  | '?' :: 'P' :: '<' :: t => (readGroupName t).map fun (name, rest) => (.capture name, rest)
  | '?' :: '<' :: t =>
    match t with
    | '=' :: _ => none
    | '!' :: _ => none
    | _ => (readGroupName t).map fun (name, rest) => (.capture name, rest)
  | '?' :: t =>
    match readFlags true [] t with
    | some (change, ')' :: rest) => if change.isEmpty then none else some (.flags change, rest)
    | some (change, ':' :: rest) => some (.group change, rest)
    | _ => none
  | t => some (.capture none, t)

/-- The least number that a repetition may not name. -/
def countLimit : Nat := UInt32.size

/-- The digits of a number, with white space around them passed over. -/
def readCount (verbose : Bool) (s : List Char) : List Char × List Char :=
  let rec digits (s : List Char) : List Char × List Char :=
    match s with
    | [] => ([], [])
    | c :: t =>
      if Text.isAsciiDigit c then
        let (ds, rest) := digits (skipVerbose verbose t)
        (c :: ds, rest)
      else ([], c :: t)
  termination_by s.length
  decreasing_by
    have := length_skipVerbose_le verbose t
    simp only [List.length_cons]
    omega
  let (ds, rest) := digits (s.dropWhile Text.isBlank)
  (ds, skipVerbose verbose (rest.dropWhile Text.isBlank))

def countOf? (digits : List Char) : Option Nat :=
  if digits.isEmpty then none
  else if Text.decimalValue digits < countLimit then some (Text.decimalValue digits)
  else none

/-- The bounds of a repetition, from behind the opening brace and up to the closing one. -/
def readBounds (verbose : Bool) (s : List Char) : Option ((Nat × Option Nat) × List Char) := do
  let (low, t) := readCount verbose (skipVerbose verbose s)
  let min ← countOf? low
  match t with
  | ',' :: u =>
    match skipVerbose verbose u with
    | '\x7d' :: rest => return ((min, none), rest)
    | u =>
      let (high, v) := readCount verbose u
      let max ← countOf? high
      match v with
      | '\x7d' :: rest => if min ≤ max then some ((min, some max), rest) else none
      | _ => none
  | '\x7d' :: rest => return ((min, some min), rest)
  | _ => none

/-- Whether a repetition is greedy, which a question mark behind it undoes. -/
def readGreed : List Char → Bool × List Char
  | '?' :: s => (false, s)
  | s => (true, s)

/-- A group that is still open, with what stands before it. Captures have an index. -/
structure GroupFrame where
  branches : List Pattern
  items : List Pattern
  index : Option Nat
  change : FlagChange
  verbose : Bool

/-- What has been read so far: the open groups, and in the innermost one the finished branches and
the items of the current branch, the last one first. -/
structure Progress where
  frames : List GroupFrame
  captures : Nat
  names : List (List Char)
  verbose : Bool
  branches : List Pattern
  items : List Pattern

namespace Progress

def start : Progress := ⟨[], 0, [], false, [], []⟩

def push (p : Progress) (item : Pattern) : Progress := { p with items := item :: p.items }

/-- The pattern of the innermost open group. -/
def body (p : Progress) : Pattern :=
  ofBranches ((ofItems p.items.reverse :: p.branches).reverse)

def openGroup (p : Progress) (index : Option Nat) (change : FlagChange) : Progress :=
  { p with
    frames := ⟨p.branches, p.items, index, change, p.verbose⟩ :: p.frames
    verbose := (change.lookup .verbose).getD p.verbose
    branches := []
    items := [] }

def openCapture (p : Progress) : Progress :=
  { p.openGroup (some (p.captures + 1)) [] with captures := p.captures + 1 }

def closeGroup? (p : Progress) : Option Progress :=
  match p.frames with
  | [] => none
  | frame :: outer =>
    let group : Pattern := match frame.index with
      | some index => .capture index p.body
      | none => .group frame.change p.body
    some { p with
      frames := outer
      verbose := frame.verbose
      branches := frame.branches
      items := group :: frame.items }

/-- Repeats the last item, which has to be there and to be no flags. -/
def repeatLast? (p : Progress) (min : Nat) (max : Option Nat) (greedy : Bool) : Option Progress :=
  match p.items with
  | [] => none
  | .flags _ :: _ => none
  | .empty :: _ => none
  | item :: before => some { p with items := .repeat item min max greedy :: before }

end Progress

/-- Reads a repetition from behind its bounds. -/
def readRepetition (p : Progress) (min : Nat) (max : Option Nat) (s : List Char) :
    Option (Progress × List Char) :=
  let (greedy, rest) := readGreed s
  (p.repeatLast? min max greedy).map fun q => (q, rest)

/-- Reads one piece of a pattern, which is not at its end. -/
def readPiece (p : Progress) (c : Char) (s : List Char) : Option (Progress × List Char) :=
  match c with
  | '(' => do
    let (start, rest) ← readGroupStart p.verbose s
    match start with
    | .flags change =>
      return ({ p.push (.flags change) with
        verbose := (change.lookup .verbose).getD p.verbose }, rest)
    | .group change => return (p.openGroup none change, rest)
    | .capture none => return (p.openCapture, rest)
    | .capture (some name) =>
      if p.names.contains name then none
      else return ({ p.openCapture with names := name :: p.names }, rest)
  | ')' => do return (← p.closeGroup?, s)
  | '|' => some ({ p with branches := ofItems p.items.reverse :: p.branches, items := [] }, s)
  | '[' => do
    let (item, rest) ← readClass p.verbose (c :: s)
    return (p.push item, rest)
  | '?' => readRepetition p 0 (some 1) s
  | '*' => readRepetition p 0 none s
  | '+' => readRepetition p 1 none s
  | '\x7b' => do
    let ((min, max), rest) ← readBounds p.verbose s
    readRepetition p min max (skipVerbose p.verbose rest)
  | '\\' => do
    let (item, rest) ← readEscape p.verbose s
    return (p.push item, rest)
  | '.' => some (p.push .dot, s)
  | '^' => some (p.push (.assertion .caret), s)
  | '$' => some (p.push (.assertion .dollar), s)
  | _ => some (p.push (.letter ⟨c, false⟩), s)

def readPieces (p : Progress) (s : List Char) : Option Pattern :=
  match skipVerbose p.verbose s with
  | [] => if p.frames.isEmpty then some p.body else none
  | c :: t =>
    match readPiece p c t with
    | none => none
    | some (q, rest) =>
      if _shorter : rest.length < s.length then readPieces q rest else none
termination_by s.length

/-- Reads a whole pattern, of bounded depth. -/
def parse? (s : List Char) : Option Pattern :=
  (readPieces .start s).filter fun p => p.depth ≤ depthLimit

end Umbra.Pattern
