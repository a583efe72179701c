import Umbra.Text.Ascii
import Umbra.Regex.CharSet

/-!
What is written in a regular expression, before the flags have been applied to it.
-/

namespace Umbra.Pattern

inductive Flag where
  | caseInsensitive
  | multiLine
  | dotMatchesNewLine
  | swapGreed
  | unicode
  | verbose
  | carriageReturns
  deriving DecidableEq

def Flag.ofChar? (c : Char) : Option Flag :=
  match c with
  | 'i' => some caseInsensitive
  | 'm' => some multiLine
  | 's' => some dotMatchesNewLine
  | 'U' => some swapGreed
  | 'u' => some unicode
  | 'x' => some verbose
  | 'R' => some carriageReturns
  | _ => none

/-- Flags that are set and flags that are cleared; none stands twice. -/
abbrev FlagChange := List (Flag × Bool)

/-- A single character as it was written. Only the two-digit form of an escape names a byte. -/
structure Letter where
  char : Char
  isByte : Bool

inductive AsciiClass where
  | alnum | alpha | ascii | blank | cntrl | digit | graph | lower | print | punct | space | upper
  | word | xdigit
  deriving DecidableEq

inductive Shorthand where
  | digit
  | blank
  | word
  deriving DecidableEq

inductive SetOperator where
  | inter
  | difference
  | symmetricDifference

inductive ClassSet where
  | letter (l : Letter)
  | range (first last : Letter)
  | ascii (kind : AsciiClass) (negated : Bool)
  | shorthand (kind : Shorthand) (negated : Bool)
  | property (s : CharSet) (negated : Bool)
  | bracketed (negated : Bool) (body : ClassSet)
  | union (items : List ClassSet)
  | binary (operator : SetOperator) (left right : ClassSet)

inductive Assertion where
  | caret
  | dollar
  | textStart
  | textEnd
  | wordBoundary
  | notWordBoundary
  | wordStart
  | wordEnd
  | wordStartHalf
  | wordEndHalf

end Pattern

inductive Pattern where
  | empty
  | flags (change : Pattern.FlagChange)
  | letter (l : Pattern.Letter)
  | dot
  | assertion (a : Pattern.Assertion)
  | shorthand (kind : Pattern.Shorthand) (negated : Bool)
  | property (s : CharSet) (negated : Bool)
  | bracketed (negated : Bool) (body : Pattern.ClassSet)
  | repeat (body : Pattern) (min : Nat) (max : Option Nat) (greedy : Bool)
  | group (change : Pattern.FlagChange) (body : Pattern)
  /-- A group whose match is kept; the groups are numbered by their opening parentheses. -/
  | capture (index : Nat) (body : Pattern)
  | alternation (branches : List Pattern)
  | concat (items : List Pattern)

namespace Pattern

/-- One item is itself, none is empty. -/
def ofItems : List Pattern → Pattern
  | [] => empty
  | [p] => p
  | ps => concat ps

def ofBranches : List Pattern → Pattern
  | [] => empty
  | [p] => p
  | ps => alternation ps

def ClassSet.ofItems : List ClassSet → ClassSet
  | [c] => c
  | cs => union cs

mutual

/-- How deep brackets, unions and operators are nested in a class. -/
def ClassSet.depth : ClassSet → Nat
  | .bracketed _ body => body.depth + 1
  | .union [] => 0
  | .union (c :: cs) => unionDepth (c :: cs) + 1
  | .binary _ left right => max left.depth right.depth + 1
  | _ => 0

def unionDepth : List ClassSet → Nat
  | [] => 0
  | c :: cs => max c.depth (unionDepth cs)

end

mutual

/-- How deep the pieces of a pattern are nested. -/
def depth : Pattern → Nat
  | .bracketed _ body => body.depth + 1
  | .repeat body _ _ _ => body.depth + 1
  | .group _ body => body.depth + 1
  | .capture _ body => body.depth + 1
  | .alternation branches => listDepth branches + 1
  | .concat items => listDepth items + 1
  | _ => 0

def listDepth : List Pattern → Nat
  | [] => 0
  | p :: ps => max p.depth (listDepth ps)

end

/-- The depth beyond which a pattern is refused. -/
def depthLimit : Nat := 250

end Pattern

end Umbra
