import Umbra.Proofs.Dom.Attributes
import Umbra.Proofs.Dom.LetterCase
import Umbra.Dom.Snapshot

/-!
# Documents up to the orders of their maps

The map of an element is gone through in an order of its own, which its entries do not determine.
`ordered` gives other orders to the maps of a document, and `byName` leaves of them what does not
depend on an order. Links, kinds, names and texts stay as they are, so of all that is asked about a
node only the look-up of an attribute can tell an order, where two names are equal up to case.
-/

namespace Umbra

/-- The data with another order of its map. -/
def NodeData.ordered (order : Attributes → AttributeMap) : NodeData → NodeData
  | .element tag attributes => .element tag (order attributes.sorted)
  | data => data

namespace Dom

/-- The document with its maps in the given orders. -/
def ordered (d : Dom) (orders : MapOrders) : Dom :=
  ⟨d.nodes.mapIdx fun id n => { n with data := n.data.ordered (orders.map id) }⟩

/-- The document with all maps in the order of the names. Nodes with the same data in it differ at
most in the order of their maps. -/
abbrev byName (d : Dom) : Dom := d.ordered .byName

end Dom

/-- The orders that the maps of a document have. -/
def MapOrders.ofDom (d : Dom) : MapOrders where
  map id as :=
    match d.element? id with
    | some (_, attributes) => if attributes.sorted = as then attributes else .ofAttributes as
    | none => .ofAttributes as
  perm id as := by
    split
    · split
      · rename_i attributes _ hsorted
        exact hsorted ▸ attributes.perm_sorted.symm
      · exact .refl _
    · exact .refl _

namespace Dom

variable {d d' : Dom} {orders orders' : MapOrders}

/-! ## One node -/

theorem node?_ordered (d : Dom) (orders : MapOrders) (x : NodeId) : (d.ordered orders).node? x =
    (d.node? x).map fun n => { n with data := n.data.ordered (orders.map x) } := by
  simp only [ordered, node?, Array.getElem?_mapIdx]

theorem data?_ordered (d : Dom) (orders : MapOrders) (x : NodeId) :
    (d.ordered orders).data? x = (d.data? x).map (NodeData.ordered (orders.map x)) := by
  rw [data?, data?, node?_ordered, Option.map_map, Option.map_map]
  rfl

theorem element?_ordered (d : Dom) (orders : MapOrders) (x : NodeId) :
    (d.ordered orders).element? x = (d.element? x).map fun (tag, attributes) => (tag, orders.map x attributes.sorted) := by
  rw [element?, element?, data?_ordered]
  cases d.data? x with
  | none => rfl
  | some data => cases data <;> rfl

@[simp]
theorem ordered_ordered (d : Dom) (orders orders' : MapOrders) :
    (d.ordered orders).ordered orders' = d.ordered orders' := by
  have twice (x : NodeId) (data : NodeData) :
      (data.ordered (orders.map x)).ordered (orders'.map x) = data.ordered (orders'.map x) := by
    cases data with
    | element tag attributes =>
      rw [NodeData.ordered, NodeData.ordered, NodeData.ordered,
        AttributeMap.sorted_of_perm (orders.perm x attributes.sorted)]
    | _ => rfl
  simp only [ordered, Array.mapIdx_mapIdx, Function.comp_def, twice]

/-- A document is one of those that come by giving its maps other orders. -/
theorem ordered_ofDom (d : Dom) : d.ordered (.ofDom d) = d := by
  have same (x : NodeId) : (d.ordered (.ofDom d)).node? x = d.node? x := by
    rw [node?_ordered]
    cases hn : d.node? x with
    | none => rfl
    | some n =>
      obtain ⟨data, _, _, _, _, _, _⟩ := n
      cases data with
      | element tag attributes =>
        simp [NodeData.ordered, MapOrders.ofDom, element?, data?, hn]
      | _ => rfl
  obtain ⟨nodes⟩ := d
  exact congrArg Dom.mk (Array.ext_getElem? same)

theorem folded_ordered (orders : MapOrders) (x : NodeId) (attributes : AttributeMap) :
    attributes.folded.Perm (orders.map x attributes.sorted).folded :=
  ((orders.perm x attributes.sorted).trans attributes.perm_sorted).symm.map _

theorem eqUpToCase_ordered (d : Dom) (orders : MapOrders) : d.EqUpToCase (d.ordered orders) where
  size_eq := Array.size_mapIdx
  node := by
    intro x n m hn hm
    rw [node?_ordered, hn, Option.map_some, Option.some.injEq] at hm
    subst hm
    refine ⟨?_, rfl⟩
    cases n.data with
    | document => exact .document
    | element tag attributes =>
      exact .element (Text.asciiEqual_refl tag) (folded_ordered orders x attributes)
    | shadowRoot mode => exact .shadowRoot mode
    | text content => exact .text content
    | comment content => exact .comment content

/-! ## What does not depend on an order -/

section Views

variable (d : Dom) (orders : MapOrders)

@[simp]
theorem children_ordered : (d.ordered orders).children = d.children :=
  (d.eqUpToCase_ordered orders).children_eq

@[simp]
theorem parent?_ordered : (d.ordered orders).parent? = d.parent? :=
  (d.eqUpToCase_ordered orders).parent?_eq

@[simp]
theorem host?_ordered : (d.ordered orders).host? = d.host? :=
  (d.eqUpToCase_ordered orders).host?_eq

@[simp]
theorem shadow?_ordered : (d.ordered orders).shadow? = d.shadow? :=
  (d.eqUpToCase_ordered orders).shadow?_eq

@[simp]
theorem up?_ordered : (d.ordered orders).up? = d.up? :=
  (d.eqUpToCase_ordered orders).up?_eq

@[simp]
theorem mode?_ordered : (d.ordered orders).mode? = d.mode? :=
  (d.eqUpToCase_ordered orders).mode?_eq

@[simp]
theorem isShadowRoot_ordered : (d.ordered orders).isShadowRoot = d.isShadowRoot :=
  (d.eqUpToCase_ordered orders).isShadowRoot_eq

@[simp]
theorem isDocument_ordered : (d.ordered orders).isDocument = d.isDocument :=
  (d.eqUpToCase_ordered orders).isDocument_eq

@[simp]
theorem isElement_ordered : (d.ordered orders).isElement = d.isElement :=
  (d.eqUpToCase_ordered orders).isElement_eq

@[simp]
theorem text?_ordered : (d.ordered orders).text? = d.text? :=
  (d.eqUpToCase_ordered orders).text?_eq

@[simp]
theorem tag?_ordered : (d.ordered orders).tag? = d.tag? := by
  funext x
  rw [tag?, tag?, element?_ordered, Option.map_map]
  rfl

@[simp]
theorem openShadow?_ordered : (d.ordered orders).openShadow? = d.openShadow? := by
  funext x
  rw [openShadow?, openShadow?, shadow?_ordered, mode?_ordered]

@[simp]
theorem linkedChildren_ordered : (d.ordered orders).linkedChildren = d.linkedChildren :=
  (d.eqUpToCase_ordered orders).linkedChildren_eq

@[simp]
theorem prevElements_ordered : (d.ordered orders).prevElements = d.prevElements :=
  (d.eqUpToCase_ordered orders).prevElements_eq

@[simp]
theorem nextElements_ordered : (d.ordered orders).nextElements = d.nextElements :=
  (d.eqUpToCase_ordered orders).nextElements_eq

@[simp]
theorem descendants_ordered : (d.ordered orders).descendants = d.descendants :=
  (d.eqUpToCase_ordered orders).descendants_eq

@[simp]
theorem ownText_ordered : (d.ordered orders).ownText = d.ownText :=
  (d.eqUpToCase_ordered orders).ownText_eq

end Views

theorem Linked.ordered (hd : d.Linked) (orders : MapOrders) : (d.ordered orders).Linked :=
  (d.eqUpToCase_ordered orders).linked hd

/-! ## Nodes with the same contents -/

theorem contents_of_data {x y : NodeId} (h : d'.data? y = d.data? x) :
    d'.byName.data? y = d.byName.data? x := by
  rw [data?_ordered, data?_ordered, h]
  rfl

theorem contents_of_sorted {x y : NodeId} {tag : String} {attributes attributes' : AttributeMap}
    (hy : d'.data? y = some (.element tag attributes'))
    (hx : d.data? x = some (.element tag attributes)) (h : attributes'.sorted = attributes.sorted) :
    d'.byName.data? y = d.byName.data? x := by
  rw [data?_ordered, data?_ordered, hy, hx, Option.map_some, Option.map_some, NodeData.ordered,
    NodeData.ordered, h]
  rfl

section Contents

variable {x y : NodeId} (h : d'.byName.data? y = d.byName.data? x)

include h

theorem isElement_of_contents : d'.isElement y = d.isElement x := by
  simpa using isElement_congr h

theorem isShadowRoot_of_contents : d'.isShadowRoot y = d.isShadowRoot x := by
  simpa using isShadowRoot_congr h

theorem isDocument_of_contents : d'.isDocument y = d.isDocument x := by
  simpa using isDocument_congr h

theorem text?_of_contents : d'.text? y = d.text? x := by
  rw [← text?_ordered d' .byName, ← text?_ordered d .byName, text?, text?, h]

theorem mode?_of_contents : d'.mode? y = d.mode? x := by
  rw [← mode?_ordered d' .byName, ← mode?_ordered d .byName, mode?, mode?, h]

theorem element?_of_contents : d'.byName.element? y = d.byName.element? x := by
  rw [element?, element?, h]

end Contents

/-! ## Elements with the same contents -/

section Elements

variable {x y : NodeId} (h : d'.byName.element? y = d.byName.element? x)

include h

theorem isElement_of_element? : d'.isElement y = d.isElement x := by
  rw [← isElement_ordered d' .byName, ← isElement_ordered d .byName, isElement, isElement, h]

theorem tag?_of_element? : d'.tag? y = d.tag? x := by
  rw [← tag?_ordered d' .byName, ← tag?_ordered d .byName, tag?, tag?, h]

/-- In the same order maps with the same entries answer alike. -/
theorem attribute?_ordered_of_element? (horders : orders'.map y = orders.map x) (name : String) :
    (d'.ordered orders').attribute? y name = (d.ordered orders).attribute? x name := by
  have again (d : Dom) (orders : MapOrders) (x : NodeId) : (d.ordered orders).element? x =
      (d.byName.element? x).map fun (tag, attributes) => (tag, orders.map x attributes.sorted) := by
    rw [← element?_ordered, ordered_ordered]
  rw [attribute?, attribute?, again d', again d, h, horders]

/-- Where no two names are equal up to case, they answer alike in any order. -/
theorem attribute?_of_element? (apart : ∀ e ∈ d.element? x, e.2.NamesApart) (name : String) :
    d'.attribute? y name = d.attribute? x name := by
  rw [attribute?, attribute?]
  rw [element?_ordered, element?_ordered] at h
  cases hx : d.element? x with
  | none =>
    rw [hx, Option.map_none, Option.map_eq_none_iff] at h
    rw [h]
  | some element =>
    obtain ⟨tag, attributes⟩ := element
    rw [hx, Option.map_some, Option.map_eq_some_iff] at h
    obtain ⟨⟨tag', attributes'⟩, hy, heq⟩ := h
    have hsorted : attributes'.sorted = attributes.sorted := by
      simpa [MapOrders.byName] using congrArg (fun e => AttributeMap.sorted e.2) heq
    rw [hy, Option.bind_some, Option.bind_some]
    exact AttributeMap.get?_eq_of_perm (apart (tag, attributes) hx)
      ((AttributeMap.sorted_eq_iff.1 hsorted).symm.map _) name

end Elements

end Dom

end Umbra
