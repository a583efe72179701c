import Umbra.Text.Blank

/-!
Sets and partitions of code points in a short written form. A set is written as the places where
belonging to it begins and ends; a partition as the places where a new label starts. Both are
written as distances from one place to the next, in base 36.
-/

namespace Umbra.Unicode

/-- A stretch of code points, both ends included. -/
structure Stretch where
  first : Nat
  last : Nat
  deriving DecidableEq

def Stretch.covers (s : Stretch) (n : Nat) : Bool := s.first ≤ n && n ≤ s.last

def lastCodePoint : Nat := 0x10FFFF

def digit36? (c : Char) : Option Nat :=
  if '0' ≤ c && c ≤ '9' then some (c.toNat - '0'.toNat)
  else if 'a' ≤ c && c ≤ 'z' then some (c.toNat - 'a'.toNat + 10)
  else none

/-- A distance and the label that follows it, which starts with no digit and no small letter. -/
def readWord (word : List Char) : Nat × String :=
  let digits := word.takeWhile fun c => (digit36? c).isSome
  (digits.foldl (fun n c => n * 36 + (digit36? c).getD 0) 0,
    String.ofList (word.drop digits.length))

/-- The places that words lead to from the place `last`, with their labels. -/
def placesFrom (last : Nat) : List (List Char) → List (Nat × String)
  | [] => []
  | word :: words =>
    let (distance, label) := readWord word
    (last + distance, label) :: placesFrom (last + distance) words

/-- The places that a text writes as distances, with their labels. -/
def places (text : String) : List (Nat × String) := placesFrom 0 (Text.words text.toList)

/-- The stretches of a set: every second place lies behind one. -/
def stretches : List (Nat × String) → List Stretch
  | (first, _) :: (next, _) :: places => ⟨first, next - 1⟩ :: stretches places
  | _ => []

/-- The stretches of a partition whose labels are chosen. -/
def stretchesWhere (chosen : String → Bool) : List (Nat × String) → List Stretch
  | [] => []
  | (first, label) :: places =>
    let last := match places with
      | [] => lastCodePoint
      | (next, _) :: _ => next - 1
    let others := stretchesWhere chosen places
    if chosen label then ⟨first, last⟩ :: others else others

end Umbra.Unicode
