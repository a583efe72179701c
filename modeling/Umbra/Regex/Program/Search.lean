import Umbra.Regex.Program.Basic

/-!
Running a program. All states that can be reached at a place of the text are followed at once, so
that a text is read once, whatever the expression is.
-/

namespace Umbra.Program

namespace State

/-- The states that are reached from one without reading. Inside the bytes of a character there is
no place that a condition could hold at. -/
def nexts (place : Option Surroundings) : State → List Nat
  | pass next => [next]
  | look condition next => if place.any condition.holds then [next] else []
  | fork nexts => nexts
  | _ => []

def isReader : State → Bool
  | byte _ => true
  | bytes _ => true
  | _ => false

/-- The state that is reached by reading a byte. -/
def read? (b : UInt8) : State → Option Nat
  | byte step => if step.range.first ≤ b && b ≤ step.range.last then some step.next else none
  | bytes steps =>
    (steps.find? fun step => step.range.first ≤ b && b ≤ step.range.last).map Step.next
  | _ => none

/-- Whether a match ends with the state, which it cannot do inside the bytes of a character. -/
def accepts (place : Option Surroundings) : State → Bool
  | accept => place.isSome
  | _ => false

end State

def state (p : Program) (i : Nat) : State := (p.states[i]?).getD (.fork [])

/-- What is reached at a place: a match, or states that read on. For every state there is the number
of the last place at which it was reached. -/
inductive Reached where
  | accepted
  | waiting (seen : Array Nat) (readers : List State)

theorem countP_set_lt {seen : Array Nat} {i n : Nat} (h : i < seen.size) (fresh : seen[i] ≠ n) :
    (seen.set i n).countP (· != n) < seen.countP (· != n) := by
  have member : 0 < seen.countP (· != n) :=
    Array.countP_pos_iff.mpr ⟨seen[i], Array.getElem_mem h, by simpa using fresh⟩
  have removed : (seen.set i n).countP (· != n) = seen.countP (· != n) - 1 := by
    rw [Array.countP_set h]
    simp [fresh]
  omega

/-- Follows the states `todo`, and all that are reached from them without reading, at the place with
the number `n`. -/
def reach (p : Program) (place : Option Surroundings) (n : Nat) (todo : List Nat)
    (seen : Array Nat) (readers : List State) : Reached :=
  match todo with
  | [] => .waiting seen readers
  | i :: rest =>
    if h : i < seen.size then
      if fresh : seen[i] ≠ n then
        let s := p.state i
        if s.accepts place then .accepted
        else
          reach p place n (s.nexts place ++ rest) (seen.set i n)
            (if s.isReader then s :: readers else readers)
      else reach p place n rest seen readers
    else reach p place n rest seen readers
termination_by (seen.countP (· != n), todo.length)
decreasing_by
  · exact Prod.Lex.left _ _ (countP_set_lt h fresh)
  · exact Prod.Lex.right _ (Nat.lt_succ_self _)
  · exact Prod.Lex.right _ (Nat.lt_succ_self _)

/-- The bytes of a text, each with the place before it if a character begins there. -/
def placedBytes (prev : Option Char) : List Char → List (Option Surroundings × UInt8)
  | [] => []
  | c :: s =>
    let bytes := match String.utf8EncodeChar c with
      | [] => []
      | b :: bs => (some ⟨prev, some c⟩, b) :: bs.map (none, ·)
    bytes ++ placedBytes (some c) s

/-- Reads the bytes before the place `last`, which is the end of the text, and tells whether there
is a match at any place on the way. -/
def run (p : Program) (last : Surroundings) (n : Nat) (todo : List Nat) (seen : Array Nat) :
    List (Option Surroundings × UInt8) → Bool
  | [] =>
    match p.reach (some last) n todo seen [] with
    | .accepted => true
    | .waiting _ _ => false
  | (place, b) :: rest =>
    match p.reach place n todo seen [] with
    | .accepted => true
    | .waiting seen readers => p.run last (n + 1) (readers.filterMap (·.read? b)) seen rest

/-- Whether the program finds a match in the text. -/
def occursIn (p : Program) (text : List Char) : Bool :=
  p.run ⟨text.getLast?, none⟩ 1 [p.start] (Array.replicate p.states.size 0) (placedBytes none text)

end Umbra.Program
