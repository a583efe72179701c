import Umbra.Regex.Program.Writer

/-!
Choices between literals as one tree, in which literals share what they begin with. A literal does
not share what was added before a literal ended in the same place.
-/

namespace Umbra.Program

/-- The ways on from a node of the tree, from the newest to the oldest. -/
inductive Trie where
  | leaf
  /-- A literal ends at the node; the older ways follow. -/
  | mark (older : Trie)
  | branch (byte : UInt8) (child older : Trie)

namespace Trie

/-- Whether no literal goes on from the node. -/
def isEnd : Trie → Bool
  | leaf => true
  | mark older => older.isEnd
  | branch _ _ _ => false

def ofBytes : List UInt8 → Trie
  | [] => mark leaf
  | b :: bs => branch b (ofBytes bs) leaf

def insert : Trie → List UInt8 → Trie
  | leaf, bytes => ofBytes bytes
  | mark leaf, [] => mark leaf
  | mark older, [] => mark (mark older)
  | mark older, b :: bs => branch b (ofBytes bs) (mark older)
  | branch byte child older, [] => mark (branch byte child older)
  | branch byte child older, b :: bs =>
    if b = byte then branch byte (child.insert bs) older
    else branch byte child (older.insert (b :: bs))

/-- Writes one state for the steps between two marks, if there are any. -/
def writeSteps (steps : List Step) (ways : List Nat) : Writer (List Nat) := do
  match steps with
  | [] => return ways
  | [step] => return (← add (.byte step)) :: ways
  | steps => return (← add (.bytes steps)) :: ways

/-- Writes the states of a node, and of those below it, from which `stop` is reached at the end of
a literal. The steps since the last mark are still to be written. -/
def write (stop : Nat) : Trie → (steps : List Step) → (ways : List Nat) → Writer Nat
  | leaf, steps, ways => do add (.fork (← writeSteps steps ways))
  | mark older, steps, ways => do older.write stop [] (stop :: (← writeSteps steps ways))
  | branch byte child older, steps, ways => do
    let next ← if child.isEnd then pure stop else child.write stop [] []
    older.write stop (⟨⟨byte, byte⟩, next⟩ :: steps) ways

end Trie

/-- A choice between literals. -/
def oneOf (literals : List (List UInt8)) : Writer Piece := do
  let stop ← add (.pass 0)
  let start ← (literals.foldl Trie.insert .leaf).write stop [] []
  return ⟨start, stop⟩

end Umbra.Program
