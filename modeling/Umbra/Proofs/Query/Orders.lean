import Umbra.Proofs.Dom.Orders
import Umbra.Proofs.Query.LetterCase

/-!
# Answers up to the orders of maps

What a document says leaves the orders of its maps open, so a chain has as many answers as these orders
give it. `MayAnswer` collects them. There is one answer if no element has two names that are equal up
to case.
-/

namespace Umbra

/-- The chain gives this answer on the document for some orders of the maps. -/
def Chain.MayAnswer [RegexLibrary] (c : Chain) (d : Dom) (root : NodeId)
    (ids : List NodeId) : Prop :=
  ∃ orders : MapOrders, c.selectAll (d.ordered orders) root = ids

@[simp]
theorem Dom.fills_ordered (d : Dom) (orders : MapOrders) : (d.ordered orders).fills = d.fills :=
  (d.eqUpToCase_ordered orders).fills_eq

namespace Chain

section Library

variable [RegexLibrary] {d : Dom} {root : NodeId} {ids : List NodeId}

theorem mayAnswer_selectAll (c : Chain) : c.MayAnswer d root (c.selectAll d root) :=
  ⟨.ofDom d, by rw [Dom.ordered_ofDom]⟩

theorem mayAnswer_iff_of_namesApart (hd : d.NamesApart) (c : Chain) :
    c.MayAnswer d root ids ↔ c.selectAll d root = ids := by
  have same (orders : MapOrders) : c.selectAll (d.ordered orders) root = c.selectAll d root := by
    unfold selectAll
    rw [(d.eqUpToCase_ordered orders).selections_eq hd]
  simp only [MayAnswer, same, exists_const_iff, and_iff_right_iff_imp]
  exact fun _ => ⟨.byName⟩

end Library

/-- An element with two names that are equal up to case may be selected or not. -/
example : ∃ (d : Dom) (c : Chain), c.MayAnswer d 0 [1] ∧ c.MayAnswer d 0 [] := by
  let m : AttributeMap := ⟨[("ID", "x"), ("iD", "y")], by decide⟩
  let m' : AttributeMap := ⟨[("iD", "y"), ("ID", "x")], by decide⟩
  let d (attributes : AttributeMap) : Dom := ⟨#[{ data := .document, children := [1] },
    { data := .element "a" attributes, parent := some 0 }]⟩
  let c : Chain := ⟨[⟨.css, .css [.compound [.id "x"]], false⟩]⟩
  exact ⟨d m, c, ⟨.ofDom (d m), by decide +kernel⟩, ⟨.ofDom (d m'), by decide +kernel⟩⟩

end Chain

end Umbra
