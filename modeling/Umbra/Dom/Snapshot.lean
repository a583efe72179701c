import Umbra.Dom.Basic

/-!
Snapshots: documents as nested values. `Snapshot.load` lays the nodes of a snapshot out in an arena,
and `Dom.snapshot` reads one back from any node.

An element comes before its shadow root, the shadow root before what is in it, and that before the
children of the element. The maps of the elements are new, and a snapshot does not say in which order
they are gone through.
-/

namespace Umbra

mutual

inductive Snapshot where
  | document (children : List Snapshot)
  | element (tag : String) (attributes : Attributes) (shadow : ShadowSnapshot)
      (children : List Snapshot)
  | text (content : String)
  | comment (content : String)

/-- What is attached to an element as its shadow root. -/
inductive ShadowSnapshot where
  | absent
  | attached (mode : ShadowMode) (children : List Snapshot)

end

inductive LoadError where
  | malformed
  | nestedDocument
  deriving DecidableEq

def LoadError.message? : LoadError → Option String
  | .malformed => none
  | .nestedDocument =>
    some "invalid DOM snapshot: a document node can only appear at the top level"

/-- The orders in which the maps of new elements are gone through: any order for each of them. -/
structure MapOrders where
  map : NodeId → Attributes → AttributeMap
  perm : ∀ id as, (map id as).entries.Perm as.entries

/-- Every map is gone through by name. -/
def MapOrders.byName : MapOrders := ⟨fun _ as => .ofAttributes as, fun _ _ => .refl _⟩

mutual

/-- Lays out a snapshot and makes it the last child of `parent`. -/
def Snapshot.loadBelow (orders : MapOrders) (parent : NodeId) :
    Snapshot → Dom → Except LoadError Dom
  | .document _, _ => .error .nestedDocument
  | .element tag attributes shadow children, d => do
    let id := d.size
    let d ← shadow.loadOnto orders id (d.add (.element tag (orders.map id attributes)))
    let d ← loadAll orders id children d
    return d.append parent id
  | .text content, d => .ok ((d.add (.text content)).append parent d.size)
  | .comment content, d => .ok ((d.add (.comment content)).append parent d.size)

def ShadowSnapshot.loadOnto (orders : MapOrders) (host : NodeId) :
    ShadowSnapshot → Dom → Except LoadError Dom
  | .absent, d => .ok d
  | .attached mode children, d => loadAll orders d.size children (d.addShadow host mode)

def loadAll (orders : MapOrders) (parent : NodeId) : List Snapshot → Dom → Except LoadError Dom
  | [], d => .ok d
  | s :: rest, d => do
    let d ← s.loadBelow orders parent d
    loadAll orders parent rest d

end

/-- The top of a snapshot is the document node, or the only child of one. -/
def Snapshot.load (s : Snapshot) (orders : MapOrders := .byName) : Except LoadError Dom :=
  match s with
  | .document children => loadAll orders Dom.root children Dom.new
  | s => s.loadBelow orders Dom.root Dom.new

namespace Dom

/-- Reads a snapshot back, at most `depth` levels down. A shadow root, and a place that holds no
node, read as a document. -/
def snapshotBelow (d : Dom) : Nat → NodeId → Snapshot
  | 0, _ => .document []
  | depth + 1, id =>
    match d.data? id with
    | some (.element tag attributes) =>
      let shadow := match d.shadow? id with
        | some s =>
          .attached ((d.mode? s).getD .opened) ((d.children s).map (d.snapshotBelow depth))
        | none => .absent
      .element tag attributes.sorted shadow ((d.children id).map (d.snapshotBelow depth))
    | some (.text content) => .text content
    | some (.comment content) => .comment content
    | _ => .document ((d.children id).map (d.snapshotBelow depth))

def snapshot (d : Dom) (id : NodeId) : Snapshot := d.snapshotBelow (d.size + 1) id

end Dom

end Umbra
