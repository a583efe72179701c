import Umbra.Proofs.Dom.Agreement
import Umbra.Proofs.Selector.Progression
import Umbra.Query.Matcher

/-!
# Positions among siblings

The pseudo-classes on siblings count along the sibling links, forwards or backwards. In documents
that come about, what they count is the position of an element in the child list of its parent, taken
among all elements or among those of its name, and no count leaves the 32 bits.
-/

namespace Umbra

open Selector

theorem toInt_placeBehind {counted : List NodeId} (h : counted.length < 2147483647) :
    (placeBehind counted).toInt = counted.length + 1 := by
  have hlength : (Int32.ofNat counted.length).toInt = counted.length := by
    apply Int32.toInt_ofNat_of_lt
    omega
  have hone : (1 : Int32).toInt = 1 := rfl
  unfold placeBehind
  rw [Int32.toInt_add, hlength, hone, Int.bmod_eq_of_le] <;> omega

namespace Dom

/-! ## Rows of siblings -/

/-- Whether an element is in one row with another: always, or if they have the same name up to ASCII
case. -/
def inRow (d : Dom) : Siblings → NodeId → NodeId → Bool
  | .all, _, _ => true
  | .sameType, id, other => (d.tag? other).map Text.asciiLowered == (d.tag? id).map Text.asciiLowered

/-- The elements of the child list in which an element stands that are in one row with it; without a
parent it is on its own. -/
def row (d : Dom) (among : Siblings) (id : NodeId) : List NodeId :=
  match d.parent? id with
  | none => [id]
  | some p => (d.children p).filter fun other => d.isElement other && d.inRow among id other

/-- The position of an element in its row, counted from 1. -/
def place (d : Dom) (among : Siblings) (id : NodeId) : Nat := (d.row among id).idxOf id + 1

theorem inRow_self (d : Dom) (among : Siblings) (id : NodeId) : d.inRow among id id = true := by
  cases among <;> simp [inRow]

theorem counts_eq_inRow {d : Dom} {id other : NodeId} (hid : d.isElement id = true)
    (hother : d.isElement other = true) (among : Siblings) :
    d.counts among id other = d.inRow among id other := by
  cases among with
  | all => rfl
  | sameType =>
    obtain ⟨s, as, hs⟩ := isElement_iff.1 hid
    obtain ⟨t, bs, ht⟩ := isElement_iff.1 hother
    simp only [counts, inRow, tag?, element?, hs, ht, Option.map_some, Option.some_beq_some]
    rw [Bool.eq_iff_iff, Text.asciiEqual_iff, beq_iff_eq]

variable {d : Dom} {id : NodeId} (among : Siblings)

/-- What is counted in a list of siblings are its elements in one row with the element. -/
theorem filter_counts (he : d.isElement id = true) (l : List NodeId) :
    (l.filter d.isElement).filter (d.counts among id) =
      l.filter fun other => d.isElement other && d.inRow among id other := by
  rw [List.filter_filter]
  refine List.filter_congr fun other _ => ?_
  cases hother : d.isElement other with
  | false => rw [Bool.and_false, Bool.false_and]
  | true => rw [counts_eq_inRow he hother, Bool.and_comm]

namespace Linked

variable (hd : d.Linked)

include hd

/-- The two counts of an element are the two sides of its place. -/
theorem row_eq (he : d.isElement id = true) : d.row among id =
    (d.countedBefore among id).reverse ++ id :: d.countedAfter among id := by
  unfold row countedBefore countedAfter prevElements nextElements
  cases hp : d.parent? id with
  | none => rw [hd.prevSiblings_of_alone hp, hd.nextSiblings_of_alone hp]; rfl
  | some p =>
    obtain ⟨before, after, hplace⟩ := hd.exists_place hp
    rw [hd.prevSiblings_eq hplace, hd.nextSiblings_eq hplace, filter_counts among he,
      filter_counts among he, ← List.filter_reverse, List.reverse_reverse]
    simp only [hplace, List.filter_append]
    rw [List.filter_cons_of_pos]
    rw [he, inRow_self, Bool.and_self]

theorem nodup_row : (d.row among id).Nodup := by
  unfold row
  cases hp : d.parent? id with
  | none => exact List.nodup_singleton id
  | some p => exact (hd.nodup_children p).filter _

theorem place_eq (he : d.isElement id = true) :
    d.place among id = (d.countedBefore among id).length + 1 := by
  have hnodup : (d.row among id).Nodup := hd.nodup_row among
  unfold place
  rw [hd.row_eq among he] at hnodup ⊢
  have hid : id ∉ (d.countedBefore among id).reverse := fun h =>
    (List.nodup_append.1 hnodup).2.2 id h id (List.mem_cons_self ..) rfl
  rw [List.idxOf_append_of_notMem hid, List.idxOf_cons_self, List.length_reverse, Nat.add_zero]

theorem length_row (he : d.isElement id = true) : (d.row among id).length =
    (d.countedBefore among id).length + 1 + (d.countedAfter among id).length := by
  rw [hd.row_eq among he, List.length_append, List.length_reverse, List.length_cons]
  omega

theorem length_row_le (he : d.isElement id = true) : (d.row among id).length ≤ d.size := by
  unfold row
  cases hp : d.parent? id with
  | none =>
    have hlt := lt_size_of_isElement he
    exact Nat.succ_le_of_lt (Nat.lt_of_le_of_lt (Nat.zero_le id) hlt)
  | some p => exact (List.length_filter_le ..).trans (hd.length_children_le p)

end Linked

end Dom

namespace Matcher

/-- Each of the pseudo-classes on siblings holds by the position of an element in its row and by the
length of the row, whatever the scope is and whether shadow roots are pierced. -/
theorem holdsPseudo_place {d : Dom} (h : d.Arises) (hsize : d.size < 2147483648) {id : NodeId}
    (he : d.isElement id = true) (scope : NodeId) (pierce : Bool) (among : Siblings) :
    (∀ p : Nth, (Matcher.mk d scope pierce).holdsPseudo (.nth among p) id = true ↔
      ∃ n : Nat, (d.place among id : Int) = p.step.toInt * n + p.first.toInt) ∧
    (∀ p : Nth, (Matcher.mk d scope pierce).holdsPseudo (.nthLast among p) id = true ↔
      ∃ n : Nat, ((d.row among id).length + 1 - d.place among id : Int) =
        p.step.toInt * n + p.first.toInt) ∧
    ((Matcher.mk d scope pierce).holdsPseudo (.first among) id = true ↔ d.place among id = 1) ∧
    ((Matcher.mk d scope pierce).holdsPseudo (.last among) id = true ↔
      d.place among id = (d.row among id).length) ∧
    ((Matcher.mk d scope pierce).holdsPseudo (.only among) id = true ↔
      (d.row among id).length = 1) := by
  have hplace := h.linked.place_eq among he
  have hrow := h.linked.length_row among he
  have hle := h.linked.length_row_le among he
  have hbefore : (placeBehind (d.countedBefore among id)).toInt = d.place among id := by
    rw [toInt_placeBehind (by omega), hplace]
    rfl
  have hafter : (placeBehind (d.countedAfter among id)).toInt =
      (d.row among id).length + 1 - d.place among id := by
    rw [toInt_placeBehind (by omega), hplace, hrow]
    omega
  refine ⟨fun p => ?_, fun p => ?_, ?_, ?_, ?_⟩
  · rw [holdsPseudo, Nth.holds_iff, hbefore]
  · rw [holdsPseudo, Nth.holds_iff, hafter]
  · change (d.countedBefore among id).isEmpty = true ↔ _
    rw [List.isEmpty_iff_length_eq_zero]
    omega
  · change (d.countedAfter among id).isEmpty = true ↔ _
    rw [List.isEmpty_iff_length_eq_zero]
    omega
  · change ((d.countedBefore among id).isEmpty && (d.countedAfter among id).isEmpty) = true ↔ _
    rw [Bool.and_eq_true, List.isEmpty_iff_length_eq_zero, List.isEmpty_iff_length_eq_zero]
    omega

/-- Two items of one name up to case in a shadow tree, with a text and an element of another name. -/
theorem holdsPseudo_place_mixed : ∃ d : Dom, d.Arises ∧ d.size < 2147483648 ∧
    d.children 2 = [3, 4, 5, 6] ∧ d.isElement 6 = true ∧ d.isElement 4 = false ∧
    d.row .all 6 = [3, 5, 6] ∧ d.row .sameType 6 = [3, 6] ∧ d.place .sameType 6 = 2 ∧
    ((Matcher.mk d 1 true).holdsPseudo (.nth .sameType Nth.even) 6 = true ↔
      ∃ n : Nat, (d.place .sameType 6 : Int) = Nth.even.step.toInt * n + Nth.even.first.toInt) ∧
    ((Matcher.mk d 6 false).holdsPseudo (.last .all) 6 = true ↔
      d.place .all 6 = (d.row .all 6).length) := by
  let d : Dom := ⟨#[{ data := .document, children := [1] },
    { data := .element "a" .empty, parent := some 0, shadow := some 2 },
    { data := .shadowRoot .closed, host := some 1, children := [3, 4, 5, 6] },
    { data := .element "li" .empty, parent := some 2, next := some 4 },
    { data := .text "b", parent := some 2, next := some 5, prev := some 3 },
    { data := .element "p" .empty, parent := some 2, next := some 6, prev := some 4 },
    { data := .element "LI" .empty, parent := some 2, prev := some 5 }]⟩
  let shadow : ShadowSnapshot := .attached .closed [.element "li" .empty .absent [], .text "b",
    .element "p" .empty .absent [], .element "LI" .empty .absent []]
  have hd : d.Arises := Or.inl ⟨.document [.element "a" .empty shadow []], .byName, rfl⟩
  have hsize : d.size < 2147483648 := by decide
  have he : d.isElement 6 = true := rfl
  obtain ⟨hnth, -⟩ := holdsPseudo_place hd hsize he 1 true .sameType
  obtain ⟨-, -, -, hlast, -⟩ := holdsPseudo_place hd hsize he 6 false .all
  exact ⟨d, hd, hsize, rfl, he, rfl, by decide +kernel, by decide +kernel, by decide +kernel,
    hnth Nth.even, hlast⟩

end Matcher

end Umbra
