import Umbra.Dom.Basic

/-!
Walks along the links of a document. Every walk follows links of one kind, and no such chain is
longer than the arena, so the size of the arena bounds them all.
-/

namespace Umbra

/-- The places met from `start` on by following `step`, at most `n` of them. -/
def follow (step : NodeId → Option NodeId) : Nat → Option NodeId → List NodeId
  | 0, _ => []
  | _, none => []
  | n + 1, some id => id :: follow step n (step id)

namespace Dom

def ancestors (d : Dom) (id : NodeId) : List NodeId := follow d.parent? d.size (d.parent? id)

def nextSiblings (d : Dom) (id : NodeId) : List NodeId := follow d.next? d.size (d.next? id)

/-- Nearest first. -/
def prevSiblings (d : Dom) (id : NodeId) : List NodeId := follow d.prev? d.size (d.prev? id)

def nextElements (d : Dom) (id : NodeId) : List NodeId := (d.nextSiblings id).filter d.isElement

/-- Nearest first. -/
def prevElements (d : Dom) (id : NodeId) : List NodeId := (d.prevSiblings id).filter d.isElement

/-- The children of a node as the sibling links give them from the first child on. -/
def linkedChildren (d : Dom) (id : NodeId) : List NodeId :=
  follow d.next? d.size (d.firstChild? id)

def parentElement? (d : Dom) (id : NodeId) : Option NodeId := (d.parent? id).filter d.isElement

/-- One step up: from a shadow root to its host, from any other node to its parent. -/
def up? (d : Dom) (id : NodeId) : Option NodeId :=
  if d.isShadowRoot id then d.host? id else d.parent? id

/-- The chain from a node up to the topmost one, the node itself first. -/
def chain (d : Dom) (id : NodeId) : List NodeId := id :: follow d.up? d.size (d.up? id)

/-- The topmost node above a node, across shadow boundaries. -/
def topmost (d : Dom) (id : NodeId) : NodeId := (d.chain id).getLastD id

/-- What lies directly below a node: its children, and before them, if shadows are pierced, the
children of its open shadow root. -/
def inner (d : Dom) (pierce : Bool) (id : NodeId) : List NodeId :=
  let shadow := if pierce then d.openShadow? id else none
  (match shadow with
    | some s => d.linkedChildren s
    | none => []) ++ d.linkedChildren id

/-- The nodes below a node in pre-order, at most `depth` levels down. -/
def below (d : Dom) (pierce : Bool) : Nat → NodeId → List NodeId
  | 0, _ => []
  | depth + 1, id => (d.inner pierce id).flatMap fun child => child :: d.below pierce depth child

/-- The nodes below a node in pre-order. -/
def descendants (d : Dom) (pierce : Bool) (id : NodeId) : List NodeId := d.below pierce d.size id

/-- The text below a node that is met through elements, at most `depth` levels down. -/
def textBelow (d : Dom) : Nat → NodeId → List Char
  | 0, _ => []
  | depth + 1, id => (d.children id).flatMap fun child =>
    match d.data? child with
    | some (.text content) => content.toList
    | some (.element _ _) => d.textBelow depth child
    | _ => []

/-- The text of a node's descendants, without shadow trees. -/
def textContent (d : Dom) (id : NodeId) : String := String.ofList (d.textBelow d.size id)

/-- The text of a node's text children. -/
def ownText (d : Dom) (id : NodeId) : List Char :=
  (d.linkedChildren id).flatMap fun child => ((d.text? child).getD "").toList

end Dom

end Umbra
