import Umbra.Dom.Walk

/-! The path to a node, from the topmost node above it down, across shadow boundaries. -/

namespace Umbra.Dom

/-- The nodes from a node up, through at most `n` trees: to the top of its tree, and on from the
host there if it has one. -/
def climb (d : Dom) : Nat → NodeId → List NodeId
  | 0, _ => []
  | n + 1, id =>
    let above := d.ancestors id
    id :: above ++
      match d.host? (above.getLastD id) with
      | some host => d.climb n host
      | none => []

/-- How a node shows in a path: an element by its tag and its id, a shadow root as such. -/
def pathStep? (d : Dom) (id : NodeId) : Option String :=
  match d.data? id with
  | some (.element tag attributes) =>
    match attributes.named? "id" with
    | some name => some (tag ++ "#" ++ name)
    | none => some tag
  | some (.shadowRoot _) => some "#shadow-root"
  | _ => none

def pathSteps (d : Dom) (id : NodeId) : List String :=
  ((d.climb d.size id).filterMap d.pathStep?).reverse

def path (d : Dom) (id : NodeId) : String := " > ".intercalate (d.pathSteps id)

end Umbra.Dom
