import Umbra.Dom.Attributes

/-!
A document as an arena of linked nodes. A node is known by its place in the arena, and every link
is such a place. A shadow root is a node of its own: it has no parent, but a host, and the host
knows its shadow root.

The operations only add nodes and links. `append` does not detach the child from where it was, so
a node that is appended twice is in two child lists.
-/

namespace Umbra

abbrev NodeId := Nat

inductive ShadowMode where
  | opened
  | closed
  deriving DecidableEq

def ShadowMode.name : ShadowMode → String
  | .opened => "open"
  | .closed => "closed"

def ShadowMode.ofName? (name : String) : Option ShadowMode :=
  if name = "open" then some .opened else if name = "closed" then some .closed else none

inductive NodeData where
  | document
  | element (tag : String) (attributes : AttributeMap)
  | shadowRoot (mode : ShadowMode)
  | text (content : String)
  | comment (content : String)

/-- A node with its links, by default detached. -/
structure Node where
  data : NodeData
  parent : Option NodeId := none
  children : List NodeId := []
  next : Option NodeId := none
  prev : Option NodeId := none
  shadow : Option NodeId := none
  host : Option NodeId := none

structure Dom where
  nodes : Array Node

inductive ShadowError where
  | notAnElement (id : NodeId)
  | alreadyHost (id : NodeId)

def ShadowError.message : ShadowError → String
  | .notAnElement id =>
    "node NodeId(" ++ toString id ++ ") is not an element and cannot host a shadow root"
  | .alreadyHost id => "node NodeId(" ++ toString id ++ ") already hosts a shadow root"

namespace Dom

/-- The document node alone. -/
def new : Dom := ⟨#[{ data := .document }]⟩

/-- The document node of every document. -/
def root : NodeId := 0

def size (d : Dom) : Nat := d.nodes.size

def node? (d : Dom) (id : NodeId) : Option Node := d.nodes[id]?

def data? (d : Dom) (id : NodeId) : Option NodeData := (d.node? id).map Node.data

def parent? (d : Dom) (id : NodeId) : Option NodeId := (d.node? id).bind Node.parent

def next? (d : Dom) (id : NodeId) : Option NodeId := (d.node? id).bind Node.next

def prev? (d : Dom) (id : NodeId) : Option NodeId := (d.node? id).bind Node.prev

def host? (d : Dom) (id : NodeId) : Option NodeId := (d.node? id).bind Node.host

/-- The shadow root of a host, whatever its mode. -/
def shadow? (d : Dom) (id : NodeId) : Option NodeId := (d.node? id).bind Node.shadow

/-- The child list of a node. -/
def children (d : Dom) (id : NodeId) : List NodeId :=
  match d.node? id with
  | some n => n.children
  | none => []

def firstChild? (d : Dom) (id : NodeId) : Option NodeId := (d.children id).head?

def mode? (d : Dom) (id : NodeId) : Option ShadowMode :=
  match d.data? id with
  | some (.shadowRoot mode) => some mode
  | _ => none

/-- The shadow root of a host, if it is open. -/
def openShadow? (d : Dom) (id : NodeId) : Option NodeId :=
  (d.shadow? id).filter fun s => d.mode? s = some .opened

def element? (d : Dom) (id : NodeId) : Option (String × AttributeMap) :=
  match d.data? id with
  | some (.element tag attributes) => some (tag, attributes)
  | _ => none

def isElement (d : Dom) (id : NodeId) : Bool := (d.element? id).isSome

def isDocument (d : Dom) (id : NodeId) : Bool :=
  match d.data? id with
  | some .document => true
  | _ => false

def isShadowRoot (d : Dom) (id : NodeId) : Bool := (d.mode? id).isSome

def tag? (d : Dom) (id : NodeId) : Option String := (d.element? id).map Prod.fst

def attribute? (d : Dom) (id : NodeId) (name : String) : Option String :=
  (d.element? id).bind fun (_, attributes) => attributes.get? name

/-- The attribute named exactly `id`. -/
def idAttribute? (d : Dom) (id : NodeId) : Option String :=
  (d.element? id).bind fun (_, attributes) => attributes.named? "id"

def text? (d : Dom) (id : NodeId) : Option String :=
  match d.data? id with
  | some (.text content) => some content
  | _ => none

/-- The first element among the children of the document node. -/
def documentElement? (d : Dom) : Option NodeId := (d.children root).find? d.isElement

/-- Changes one node; a place outside the arena changes nothing. -/
def update (d : Dom) (id : NodeId) (f : Node → Node) : Dom := ⟨d.nodes.modify id f⟩

/-- Adds a detached node, whose place is the size before. -/
def add (d : Dom) (data : NodeData) : Dom := ⟨d.nodes.push { data }⟩

/-- Links `child` behind the last child of `parent`. -/
def append (d : Dom) (parent child : NodeId) : Dom :=
  let linked := (d.update parent fun n => { n with children := n.children ++ [child] }).update child
    fun n => { n with parent := some parent }
  match (d.children parent).getLast? with
  | none => linked
  | some last =>
    (linked.update last fun n => { n with next := some child }).update child
      fun n => { n with prev := some last }

/-- `append` for nodes of the arena; nothing for others. -/
def append? (d : Dom) (parent child : NodeId) : Option Dom :=
  if parent < d.size ∧ child < d.size then some (d.append parent child) else none

/-- Adds a shadow root and ties it to its host. -/
def addShadow (d : Dom) (host : NodeId) (mode : ShadowMode) : Dom :=
  let shadow := d.size
  ((d.add (.shadowRoot mode)).update shadow fun n => { n with host := some host }).update host
    fun n => { n with shadow := some shadow }

/-- Attaches a shadow root to an element that has none, and gives its place. -/
def attachShadow (d : Dom) (host : NodeId) (mode : ShadowMode) :
    Except ShadowError (NodeId × Dom) :=
  if !d.isElement host then .error (.notAnElement host)
  else if (d.shadow? host).isSome then .error (.alreadyHost host)
  else .ok (d.size, d.addShadow host mode)

@[simp]
theorem size_new : new.size = 1 := rfl

@[simp]
theorem size_update (d : Dom) (id : NodeId) (f : Node → Node) : (d.update id f).size = d.size := by
  simp [update, size]

@[simp]
theorem size_add (d : Dom) (data : NodeData) : (d.add data).size = d.size + 1 := by
  simp [add, size]

@[simp]
theorem size_append (d : Dom) (parent child : NodeId) : (d.append parent child).size = d.size := by
  simp only [append]
  split <;> simp

@[simp]
theorem size_addShadow (d : Dom) (host : NodeId) (mode : ShadowMode) :
    (d.addShadow host mode).size = d.size + 1 := by simp [addShadow]

end Dom

end Umbra
