import Umbra.Regex.Look
import Umbra.Text.Bytes

/-!
Regular expressions. The constructors of the type are not meant to be used alone: `ofChars`,
`repeated`, `sequence` and `choice` build expressions in their simplest form, in which sequences and
choices are flat, neighbouring literals are one, a choice between characters is a set, and what the
branches of a choice begin with in common stands before the choice.
-/

namespace Umbra

inductive Regex where
  | empty
  | literal (text : List Char)
  /-- One character of the set. Where the set is empty, nothing matches. -/
  | chars (s : CharSet)
  | look (condition : Look)
  /-- From `min` to `max` times, or from `min` times on, as often or as seldom as can be. -/
  | repeat (r : Regex) (min : Nat) (max : Option Nat) (greedy : Bool)
  /-- What matches is kept under the number `index`. -/
  | capture (index : Nat) (r : Regex)
  | concat (rs : List Regex)
  | alternation (rs : List Regex)

namespace Regex

mutual

/-- Whether two expressions are written in the same way. -/
def same : Regex → Regex → Bool
  | empty, empty => true
  | literal s, literal t => s == t
  | chars s, chars t => s = t
  | look k, look l => k = l
  | .repeat r min max greedy, .repeat q least most eager =>
    r.same q && min == least && max == most && greedy == eager
  | capture i r, capture j q => i == j && r.same q
  | concat rs, concat qs => sameList rs qs
  | alternation rs, alternation qs => sameList rs qs
  | _, _ => false

def sameList : List Regex → List Regex → Bool
  | [], [] => true
  | r :: rs, q :: qs => r.same q && sameList rs qs
  | _, _ => false

end

/-! ## Lengths, in bytes -/

mutual

/-- The least length of what matches. It is unknown where a set without members is part of the
expression. -/
def minLength : Regex → Option Nat
  | empty => some 0
  | literal text => some (Text.byteLength text)
  | chars s => s.stretches.head?.map fun r => (Char.ofNat r.first).utf8Size
  | look _ => some 0
  | .repeat r min _ _ => r.minLength.map (· * min)
  | capture _ r => r.minLength
  | concat rs => minLengthSum rs
  | alternation rs => minLengthLeast rs

def minLengthSum : List Regex → Option Nat
  | [] => some 0
  | r :: rs => do return (← r.minLength) + (← minLengthSum rs)

def minLengthLeast : List Regex → Option Nat
  | [] => none
  | [r] => r.minLength
  | r :: rs => do return min (← r.minLength) (← minLengthLeast rs)

end

mutual

/-- The greatest length of what matches, if it is bounded and known. -/
def maxLength : Regex → Option Nat
  | empty => some 0
  | literal text => some (Text.byteLength text)
  | chars s => s.stretches.getLast?.map fun r => (Char.ofNat r.last).utf8Size
  | look _ => some 0
  | .repeat r _ max _ => do return (← r.maxLength) * (← max)
  | capture _ r => r.maxLength
  | concat rs => maxLengthSum rs
  | alternation rs => maxLengthMost rs

def maxLengthSum : List Regex → Option Nat
  | [] => some 0
  | r :: rs => do return (← r.maxLength) + (← maxLengthSum rs)

def maxLengthMost : List Regex → Option Nat
  | [] => none
  | [r] => r.maxLength
  | r :: rs => do return max (← r.maxLength) (← maxLengthMost rs)

end

/-- Whether no match reads anything. -/
def readsNothing (r : Regex) : Bool := r.maxLength == some 0

/-- Whether every match is known to read something. -/
def readsAlways (r : Regex) : Bool := r.minLength.any (0 < ·)

/-! ## Matches that are bound to an end of the text -/

mutual

/-- Whether every match has to begin at the start of the text. -/
def startsAtTextStart : Regex → Bool
  | look l => l = .textStart
  | .repeat r min _ _ => 0 < min && r.startsAtTextStart
  | capture _ r => r.startsAtTextStart
  | concat rs => anyStartsAtTextStart rs
  | alternation rs => allStartAtTextStart rs
  | _ => false

/-- One of the expressions does before anything is read. -/
def anyStartsAtTextStart : List Regex → Bool
  | [] => false
  | r :: rs => r.startsAtTextStart || (r.readsNothing && anyStartsAtTextStart rs)

def allStartAtTextStart : List Regex → Bool
  | [] => true
  | r :: rs => r.startsAtTextStart && allStartAtTextStart rs

end

mutual

/-- Whether every match has to stop at the end of the text. -/
def stopsAtTextEnd : Regex → Bool
  | look l => l = .textEnd
  | .repeat r min _ _ => 0 < min && r.stopsAtTextEnd
  | capture _ r => r.stopsAtTextEnd
  | concat rs => anyStopsAtTextEnd rs
  | alternation rs => allStopAtTextEnd rs
  | _ => false

/-- One of the expressions does when nothing more is read. -/
def anyStopsAtTextEnd : List Regex → Bool
  | [] => false
  | r :: rs => anyStopsAtTextEnd rs || (rs.all readsNothing && r.stopsAtTextEnd)

def allStopAtTextEnd : List Regex → Bool
  | [] => true
  | r :: rs => r.stopsAtTextEnd && allStopAtTextEnd rs

end

/-! ## Expressions in their simplest form -/

def ofChars (s : CharSet) : Regex :=
  match s.onlyMember? with
  | some c => literal [c]
  | none => chars s

/-- An expression that reads nothing is not repeated more than once. -/
def repeated (r : Regex) (min : Nat) (max : Option Nat) (greedy : Bool) : Regex :=
  let least := if r.readsNothing then Nat.min min 1 else min
  let most := if r.readsNothing then some (max.elim 1 (Nat.min · 1)) else max
  if least = 0 ∧ most = some 0 then empty
  else if least = 1 ∧ most = some 1 then r
  else .repeat r least most greedy

/-- The expressions that follow one another in an expression. -/
def items : Regex → List Regex
  | empty => []
  | concat rs => rs
  | r => [r]

/-- The expressions that an expression leaves a choice between. -/
def branches : Regex → List Regex
  | alternation rs => rs
  | r => [r]

def joinLiterals : List Regex → List Regex
  | [] => []
  | literal s :: rs =>
    match joinLiterals rs with
    | literal t :: qs => literal (s ++ t) :: qs
    | qs => literal s :: qs
  | r :: rs => r :: joinLiterals rs

/-- One item is itself, none is empty. -/
def ofItems : List Regex → Regex
  | [] => empty
  | [r] => r
  | rs => concat rs

def sequence (rs : List Regex) : Regex := ofItems (joinLiterals (rs.flatMap items))

/-- The characters that single literals stand for. -/
def singleChars? : List Regex → Option (List Char)
  | [] => some []
  | literal [c] :: rs => (singleChars? rs).map (c :: ·)
  | _ => none

/-- The sets that are given alone. -/
def charSets? : List Regex → Option (List CharSet)
  | [] => some []
  | chars s :: rs => (charSets? rs).map (s :: ·)
  | _ => none

def commonPrefix : List Regex → List Regex → List Regex
  | r :: rs, q :: qs => if r.same q then r :: commonPrefix rs qs else []
  | _, _ => []

/-- What all of the expressions begin with, if they are sequences. -/
def sharedItems : List Regex → List Regex
  | [] => []
  | [concat rs] => rs
  | concat rs :: rest => commonPrefix rs (sharedItems rest)
  | _ => []

/-- A choice in which common beginnings are looked for at most `depth` times. -/
def choiceWithin : (depth : Nat) → List Regex → Regex
  | depth, rs =>
    match rs.flatMap branches with
    | [] => chars .empty
    | [r] => r
    | rs =>
      match singleChars? rs, charSets? rs, sharedItems rs, depth with
      | some cs, _, _, _ => ofChars (.ofList cs)
      | none, some ss, _, _ => ofChars (.unions ss)
      | none, none, [], _ => alternation rs
      | none, none, _ :: _, 0 => alternation rs
      | none, none, shared, depth + 1 =>
        let rests := rs.map fun r => sequence (r.items.drop shared.length)
        sequence (shared ++ [choiceWithin depth rests])

mutual

/-- The number of expressions in an expression, itself included. -/
def size : Regex → Nat
  | .repeat r _ _ _ => r.size + 1
  | capture _ r => r.size + 1
  | concat rs => sizeSum rs + 1
  | alternation rs => sizeSum rs + 1
  | _ => 1

def sizeSum : List Regex → Nat
  | [] => 0
  | r :: rs => r.size + sizeSum rs

end

/-- A choice. Every common beginning takes at least one expression out of its branches, so their
size bounds how often one can be found. -/
def choice (rs : List Regex) : Regex := choiceWithin (sizeSum rs) rs

end Regex

end Umbra
