import Umbra.Selector.Nth
import Umbra.Selector.Attribute

/-!
Selectors. A compound selector is a list of conditions on one element. A complex selector is a
chain of compounds that is read from the right: its subject, and to the left of that a combinator
and what the combinator leads to. A selector list holds alternatives.
-/

namespace Umbra.Selector

/-- Which siblings are counted: all elements, or those of the same type. -/
inductive Siblings where
  | all
  | sameType
  deriving DecidableEq

inductive PseudoClassName where
  | root
  | scope
  | empty
  | first (among : Siblings)
  | last (among : Siblings)
  | only (among : Siblings)
  | nth (among : Siblings)
  | nthLast (among : Siblings)
  | not
  deriving DecidableEq

namespace PseudoClassName

def all : List PseudoClassName :=
  [root, scope, empty, first .all, last .all, only .all, first .sameType, last .sameType,
    only .sameType, nth .all, nthLast .all, nth .sameType, nthLast .sameType, not]

def text : PseudoClassName → String
  | root => "root"
  | scope => "scope"
  | empty => "empty"
  | first .all => "first-child"
  | last .all => "last-child"
  | only .all => "only-child"
  | first .sameType => "first-of-type"
  | last .sameType => "last-of-type"
  | only .sameType => "only-of-type"
  | nth .all => "nth-child"
  | nthLast .all => "nth-last-child"
  | nth .sameType => "nth-of-type"
  | nthLast .sameType => "nth-last-of-type"
  | not => "not"

/-- The pseudo-class with exactly this name. -/
def ofText? (name : String) : Option PseudoClassName := all.find? fun p => p.text = name

/-- The pseudo-class with this name up to ASCII case. -/
def ofWritten? (name : String) : Option PseudoClassName := ofText? (Text.asciiLowered name)

/-- Whether an argument in parentheses belongs to the pseudo-class. -/
def isFunctional : PseudoClassName → Bool
  | nth _ => true
  | nthLast _ => true
  | not => true
  | _ => false

theorem mem_all (p : PseudoClassName) : p ∈ all := by
  cases p with
  | first s => cases s <;> decide
  | last s => cases s <;> decide
  | only s => cases s <;> decide
  | nth s => cases s <;> decide
  | nthLast s => cases s <;> decide
  | _ => decide

end PseudoClassName

inductive Combinator where
  | descendant
  | child
  | nextSibling
  | subsequentSibling
  deriving DecidableEq

mutual

inductive SimpleSelector where
  | type (name : String)
  | universal
  | id (name : String)
  | className (name : String)
  | attribute (predicate : AttributePredicate)
  | pseudo (pseudoClass : PseudoClass)

inductive PseudoClass where
  | root
  | scope
  | empty
  | first (among : Siblings)
  | last (among : Siblings)
  | only (among : Siblings)
  | nth (among : Siblings) (positions : Nth)
  | nthLast (among : Siblings) (positions : Nth)
  | not (alternatives : List ComplexSelector)

inductive ComplexSelector where
  | compound (subject : List SimpleSelector)
  | link (subject : List SimpleSelector) (combinator : Combinator) (left : ComplexSelector)

end

abbrev CompoundSelector := List SimpleSelector

abbrev SelectorList := List ComplexSelector

def PseudoClass.name : PseudoClass → PseudoClassName
  | root => .root
  | scope => .scope
  | empty => .empty
  | first among => .first among
  | last among => .last among
  | only among => .only among
  | nth among _ => .nth among
  | nthLast among _ => .nthLast among
  | not _ => .not

namespace ComplexSelector

/-- The compound that the selected element itself satisfies. -/
def subject : ComplexSelector → CompoundSelector
  | compound c => c
  | link c _ _ => c

/-- The combinators with the compounds they lead to, from right to left. -/
def steps : ComplexSelector → List (Combinator × CompoundSelector)
  | compound _ => []
  | link _ k left => (k, left.subject) :: left.steps

/-- Sets a further compound to the right of a selector. -/
def extend (left : ComplexSelector) (step : Combinator × CompoundSelector) : ComplexSelector :=
  link step.2 step.1 left

end ComplexSelector

end Umbra.Selector
