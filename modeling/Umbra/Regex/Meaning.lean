import Umbra.Regex.Reader
import Umbra.Regex.Program.Search

/-!
What a pattern means: its flags are applied to what they stand in front of, and what is left is a
regular expression. A flag change holds to the end of the group it stands in, through the branches
of an alternation.

Without Unicode a pattern may speak of ASCII characters only, wherever it speaks of sets.
-/

namespace Umbra

namespace Pattern

/-- The flags that are in force at a place of a pattern, but for those that reading has used up. -/
structure Mode where
  caseInsensitive : Bool
  multiLine : Bool
  dotMatchesNewLine : Bool
  unicode : Bool
  carriageReturns : Bool
  /-- Whether repetitions are greedy where they are not marked. -/
  greedy : Bool

namespace Mode

/-- The flags that are written behind a pattern are in force from its start. -/
def ofLetters (letters : List Char) : Mode :=
  ⟨letters.contains 'i', letters.contains 'm', letters.contains 's', true, false, true⟩

def set (m : Mode) : Flag × Bool → Mode
  | (.caseInsensitive, value) => { m with caseInsensitive := value }
  | (.multiLine, value) => { m with multiLine := value }
  | (.dotMatchesNewLine, value) => { m with dotMatchesNewLine := value }
  | (.unicode, value) => { m with unicode := value }
  | (.carriageReturns, value) => { m with carriageReturns := value }
  | (.swapGreed, value) => { m with greedy := !value }
  | (.verbose, _) => m

def change (m : Mode) (changes : FlagChange) : Mode := changes.foldl set m

/-- Closes a set under the change of case, where case does not count. -/
def fold (m : Mode) (s : CharSet) : CharSet :=
  if !m.caseInsensitive then s
  else if m.unicode then .folded s
  else .asciiFolded s

/-- The complement of a set of ASCII characters is no such set. -/
def negate? (m : Mode) (negated : Bool) (s : CharSet) : Option CharSet :=
  if !negated then some s
  else if m.unicode then some (.complement s)
  else none

end Mode

def AsciiClass.ranges : AsciiClass → List (Char × Char)
  | .alnum => [('0', '9'), ('A', 'Z'), ('a', 'z')]
  | .alpha => [('A', 'Z'), ('a', 'z')]
  | .ascii => [('\x00', '\x7F')]
  | .blank => [('\t', '\t'), (' ', ' ')]
  | .cntrl => [('\x00', '\x1F'), ('\x7F', '\x7F')]
  | .digit => [('0', '9')]
  | .graph => [('!', '~')]
  | .lower => [('a', 'z')]
  | .print => [(' ', '~')]
  | .punct => [('!', '/'), (':', '@'), ('[', '\x60'), ('\x7B', '~')]
  | .space => [('\t', '\r'), (' ', ' ')]
  | .upper => [('A', 'Z')]
  | .word => [('0', '9'), ('A', 'Z'), ('_', '_'), ('a', 'z')]
  | .xdigit => [('0', '9'), ('A', 'F'), ('a', 'f')]

def AsciiClass.charSet (kind : AsciiClass) : CharSet :=
  .unions (kind.ranges.map fun (first, last) => .range first last)

def Shorthand.charSet (unicode : Bool) : Shorthand → CharSet
  | .digit => if unicode then .digit else AsciiClass.digit.charSet
  | .blank => if unicode then .blank else AsciiClass.space.charSet
  | .word => if unicode then .word else AsciiClass.word.charSet

def Shorthand.meaning? (kind : Shorthand) (negated : Bool) (m : Mode) : Option CharSet :=
  m.negate? negated (kind.charSet m.unicode)

def propertySet? (s : CharSet) (negated : Bool) (m : Mode) : Option CharSet :=
  if m.unicode then m.negate? negated (m.fold s) else none

/-- A byte that is no ASCII character stands for itself only where Unicode is on. -/
def Letter.char? (l : Letter) (m : Mode) : Option Char :=
  if l.isByte && !m.unicode && !Text.isAscii l.char then none else some l.char

def Letter.meaning? (l : Letter) (m : Mode) : Option Regex :=
  (l.char? m).map fun c =>
    .ofChars (if m.unicode || Text.isAscii c then m.fold (.single c) else .single c)

/-- A character within a class. -/
def Letter.member? (l : Letter) (m : Mode) : Option Char :=
  if m.unicode || Text.isAscii l.char then some l.char else none

def SetOperator.apply : SetOperator → CharSet → CharSet → CharSet
  | .inter => .inter
  | .difference => .difference
  | .symmetricDifference => .symmetricDifference

mutual

def ClassSet.meaning? (m : Mode) : ClassSet → Option CharSet
  | .letter l => (l.member? m).map .single
  | .range first last => do return .range (← first.member? m) (← last.member? m)
  | .ascii kind negated => m.negate? negated (m.fold kind.charSet)
  | .shorthand kind negated => kind.meaning? negated m
  | .property s negated => propertySet? s negated m
  | .bracketed negated body => do m.negate? negated (m.fold (← body.meaning? m))
  | .union items => itemsMeaning? m items
  | .binary operator left right => do
    let l ← left.meaning? m
    let r ← right.meaning? m
    return operator.apply (m.fold l) (m.fold r)

def itemsMeaning? (m : Mode) : List ClassSet → Option CharSet
  | [] => some .empty
  | c :: cs => do
    let s ← c.meaning? m
    let t ← itemsMeaning? m cs
    return s.union t

end

def Assertion.look (a : Assertion) (m : Mode) : Look :=
  match a with
  | .caret => if m.multiLine then .lineStart m.carriageReturns else .textStart
  | .dollar => if m.multiLine then .lineEnd m.carriageReturns else .textEnd
  | .textStart => .textStart
  | .textEnd => .textEnd
  | .wordBoundary => .wordBoundary m.unicode
  | .notWordBoundary => .notWordBoundary m.unicode
  | .wordStart => .wordStart m.unicode
  | .wordEnd => .wordEnd m.unicode
  | .wordStartHalf => .wordStartHalf m.unicode
  | .wordEndHalf => .wordEndHalf m.unicode

/-- The characters that a dot does not match. -/
def Mode.lineEnds (m : Mode) : List Char :=
  if m.dotMatchesNewLine then []
  else if m.carriageReturns then ['\n', '\r']
  else ['\n']

def Mode.dot? (m : Mode) : Option CharSet :=
  if m.unicode then some (.complement (.ofList m.lineEnds)) else none

mutual

/-- The meaning of a pattern, and the flags that are in force behind it. -/
def meaning? (m : Mode) : Pattern → Option (Regex × Mode)
  | .empty => some (.empty, m)
  | .flags change => some (.empty, m.change change)
  | .letter l => do return (← l.meaning? m, m)
  | .dot => do return (.ofChars (← m.dot?), m)
  | .assertion a => some (.look (a.look m), m)
  | .shorthand kind negated => do return (.ofChars (← kind.meaning? negated m), m)
  | .property s negated => do return (.ofChars (← propertySet? s negated m), m)
  | .bracketed negated body => do
    return (.ofChars (← m.negate? negated (m.fold (← body.meaning? m))), m)
  | .repeat body min max greedy => do
    let (r, after) ← body.meaning? m
    return (.repeated r min max (greedy == after.greedy), after)
  | .group change body => do
    let (r, _) ← body.meaning? (m.change change)
    return (r, m)
  | .capture index body => do
    let (r, _) ← body.meaning? m
    return (.capture index r, m)
  | .alternation branches => do
    let (rs, after) ← listMeaning? m branches
    return (.choice rs, after)
  | .concat items => do
    let (rs, after) ← listMeaning? m items
    return (.sequence rs, after)

def listMeaning? (m : Mode) : List Pattern → Option (List Regex × Mode)
  | [] => some ([], m)
  | p :: ps => do
    let (r, after) ← p.meaning? m
    let (rs, last) ← listMeaning? after ps
    return (r :: rs, last)

end

end Pattern

/-- The program of the regular expression that is written as `source`, with flags by their
letters. -/
def Regex.compile? (source flags : List Char) : Option Program := do
  let p ← Pattern.parse? source
  let (r, _) ← p.meaning? (.ofLetters flags)
  r.program?

end Umbra
