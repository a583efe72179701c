import Umbra.Text.Casing.Lowercase
import Umbra.Text.Blank
import Umbra.Text.Search
import Umbra.Selector.Name

/-!
Patterns for the text of an element. Before it is tested, a text has its white space collapsed.

A pattern in quotes is the whole text. A pattern between slashes, with no more than flags behind
the second one, is a regular expression. Any other pattern is looked for without regard to case.

What a regular expression means is not said here: a library compiles its source and searches with the
program.
-/

namespace Umbra

/-- A library of regular expressions. -/
class RegexLibrary where
  Program : Type
  /-- The program of a source with flags by their letters, if the source is well formed. -/
  compile? (source flags : List Char) : Option Program
  occursIn (program : Program) (text : List Char) : Bool

variable [RegexLibrary]

inductive TextPattern where
  | substring (needle : String)
  | exact (text : String)
  | regex (source flags : String) (program : RegexLibrary.Program)

instance [DecidableEq RegexLibrary.Program] : DecidableEq TextPattern
  | .substring s, .substring t => decidable_of_iff (s = t) (by simp)
  | .exact s, .exact t => decidable_of_iff (s = t) (by simp)
  | .regex s f p, .regex t g q => decidable_of_iff (s = t ∧ f = g ∧ p = q) (by simp)
  | .substring _, .exact _ => isFalse (by simp)
  | .substring _, .regex .. => isFalse (by simp)
  | .exact _, .substring _ => isFalse (by simp)
  | .exact _, .regex .. => isFalse (by simp)
  | .regex .., .substring _ => isFalse (by simp)
  | .regex .., .exact _ => isFalse (by simp)

namespace TextPattern

/-- Whether a character turns on something in a regular expression. -/
def isFlag (c : Char) : Bool := c == 'i' || c == 'm' || c == 's'

def lowered (clause : List Char) : TextPattern :=
  .substring (String.ofList (Text.lowercase (Text.collapse clause)))

/-- Reads a pattern in quotes, with nothing but white space behind it. -/
def readExact (s : List Char) : Read TextPattern := do
  let (text, rest) ← Selector.readQuoted s
  match Selector.skipSpace rest with
  | [] => .ok (.exact (String.ofList (Text.collapse text)))
  | c :: t => .error (.unexpectedCharacter c (c :: t))

/-- The source and the flags of a regular expression, from behind its first slash. -/
def splitFlags? (s : List Char) : Option (List Char × List Char) :=
  (Text.splitLast? '/' s).filter fun (_, flags) => flags.all isFlag

def readRegex (source flags : List Char) : Read TextPattern :=
  match RegexLibrary.compile? source flags with
  | some program => .ok (.regex (String.ofList source) (String.ofList flags) program)
  | none => .error (.invalidRegex (String.ofList source))

def parse (clause : List Char) : Read TextPattern :=
  match clause with
  | [] => .ok (lowered [])
  | c :: s =>
    if c = '"' || c = '\'' then readExact (c :: s)
    else if c = '/' then
      match splitFlags? s with
      | some (source, flags) => readRegex source flags
      | none => .ok (lowered (c :: s))
    else .ok (lowered (c :: s))

/-- Whether the pattern fits an element of the given text. -/
def fits (p : TextPattern) (ownText : List Char) : Bool :=
  let text := Text.collapse ownText
  match p with
  | substring needle => Text.occursIn needle.toList (Text.lowercase text)
  | exact expected => text == expected.toList
  | regex _ _ program => RegexLibrary.occursIn program text

def write : TextPattern → List Char
  | substring needle => needle.toList
  | exact text => Selector.writeString text.toList
  | regex source flags _ => '/' :: source.toList ++ '/' :: flags.toList

end TextPattern

end Umbra
