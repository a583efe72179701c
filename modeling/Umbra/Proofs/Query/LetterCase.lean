import Umbra.Proofs.Dom.LetterCase
import Umbra.Proofs.Dom.Agreement
import Umbra.Proofs.Query.Simulation
import Umbra.Query.Answer
import Umbra.Regex.Library

/-!
# Letter case does not change answers

Selectors compare the names of elements and of attributes without regard to ASCII case. So two
documents that are equal up to case give the same answers, if no element has two attribute names
that differ in case alone.
-/

namespace Umbra

open Selector

namespace Dom.EqUpToCase

variable {d e : Dom} (h : d.EqUpToCase e)

include h

theorem any_tag?_eq (id : NodeId) (name : String) :
    ((e.tag? id).any fun tag => Text.asciiEqual tag name) =
      (d.tag? id).any fun tag => Text.asciiEqual tag name := by
  have htag := h.tag?_eq id
  rw [Bool.eq_iff_iff, Option.any_eq_true, Option.any_eq_true]
  cases hd : d.tag? id <;> cases he : e.tag? id <;> simp_all [Text.asciiEqual_iff]

theorem counts_eq : e.counts = d.counts := by
  funext among id other
  cases among with
  | all => rfl
  | sameType =>
    have hid := h.tag?_eq id
    have hother := h.tag?_eq other
    unfold counts
    rw [Bool.eq_iff_iff]
    cases hd : d.tag? id <;> cases he : e.tag? id <;> cases hd' : d.tag? other <;>
      cases he' : e.tag? other <;> simp_all [Text.asciiEqual_iff]

theorem fills_eq : e.fills = d.fills := by
  funext id
  rw [fills, fills, h.isElement_eq, h.text?_eq]

/-! ## Matching -/

variable (scope : NodeId) (pierce : Bool)

theorem matcher_parent?_eq :
    (Matcher.mk e scope pierce).parent? = (Matcher.mk d scope pierce).parent? := by
  funext id
  simp only [Matcher.parent?, h.parent?_eq, h.isShadowRoot_eq, h.host?_eq]

theorem related_eq (id : NodeId) (k : Combinator) :
    (Matcher.mk e scope pierce).related id k = (Matcher.mk d scope pierce).related id k := by
  cases k with
  | descendant =>
    simp only [Matcher.related, Matcher.ancestors, h.matcher_parent?_eq, h.size_eq]
  | child => simp only [Matcher.related, h.matcher_parent?_eq]
  | nextSibling => simp only [Matcher.related, Matcher.prevElements, h.prevElements_eq]
  | subsequentSibling => simp only [Matcher.related, Matcher.prevElements, h.prevElements_eq]

/-- Every question that a selector asks about an element has the same answer in both documents. -/
theorem alike (hd : d.NamesApart) :
    Matcher.Alike ⟨d, scope, pierce⟩ ⟨e, scope, pierce⟩ (· = ·) where
  isElement_eq := by
    rintro a _ rfl
    rw [h.isElement_eq]
  type_eq := by
    rintro a _ rfl - name
    unfold Matcher.holdsSimple
    exact (h.any_tag?_eq a name).symm
  attribute?_eq := by
    rintro a _ rfl - name
    rw [h.attribute?_eq hd]
  isRoot_eq := by
    rintro a _ rfl -
    unfold Matcher.isRoot
    rw [h.parent?_eq, h.isDocument_eq]
  isScope_eq := by
    rintro a _ rfl -
    unfold Matcher.isScope
    rw [h.parent?_eq, h.isDocument_eq]
  isEmpty_eq := by
    rintro a _ rfl -
    unfold Matcher.isEmpty
    rw [h.linkedChildren_eq, h.fills_eq]
  before_eq := by
    rintro a _ rfl - among
    unfold countedBefore
    rw [h.prevElements_eq, h.counts_eq]
  after_eq := by
    rintro a _ rfl - among
    unfold countedAfter
    rw [h.nextElements_eq, h.counts_eq]
  related := by
    rintro a _ rfl - k
    rw [h.related_eq, List.forall₂_eq_eq_eq]

/-! ## Answers -/

variable [RegexLibrary]

theorem select_eq (hd : d.NamesApart) (s : Stage) (context : NodeId) :
    s.select e context = s.select d context := by
  have hselect := (h.alike context s.engine.piercesShadow hd).forall₂_select
    (by rw [h.descendants_eq, List.forall₂_eq_eq_eq]) (by rintro a _ rfl -; rw [h.ownText_eq])
    s.clause
  rw [List.forall₂_eq_eq_eq] at hselect
  exact hselect.symm

theorem selectAll_eq (hd : d.NamesApart) (s : Stage) (root : NodeId) (contexts : List NodeId) :
    s.selectAll e root contexts = s.selectAll d root contexts := by
  have hselect : s.select e = s.select d := funext (h.select_eq hd s)
  unfold Stage.selectAll
  rw [hselect, h.ofDom_eq]

theorem selections_eq (hd : d.NamesApart) (root : NodeId) (stages : List Stage)
    (contexts : List NodeId) :
    Stage.selections e root stages contexts = Stage.selections d root stages contexts := by
  induction stages generalizing contexts with
  | nil => rfl
  | cons s rest ih =>
    unfold Stage.selections
    simp only [h.selectAll_eq hd, ih]

end Dom.EqUpToCase

namespace Chain

/-- Every chain gives the same answer from every root, whatever the letter case of names is. -/
theorem selectAll_eq_of_eqUpToCase [RegexLibrary] {d e : Dom} (h : d.EqUpToCase e)
    (hd : d.NamesApart) (c : Chain) (root : NodeId) : c.selectAll e root = c.selectAll d root := by
  unfold selectAll
  rw [h.selections_eq hd]

/-- Names in other letters, which puts the attributes in another order. -/
theorem selectAll_eq_of_eqUpToCase_letters : ∃ (d e : Dom) (c : Chain), d.Arises ∧ e.Arises ∧
    d.EqUpToCase e ∧ d.NamesApart ∧ d.tag? 2 = some "LI" ∧ e.tag? 2 = some "li" ∧
    c.selectAll d 0 = [2] ∧ c.selectAll e 0 = c.selectAll d 0 := by
  let doc (item last : String) (as : Attributes) : Dom := ⟨#[
    { data := .document, children := [1, 2] },
    { data := .element item .empty, parent := some 0, next := some 2 },
    { data := .element last (.ofAttributes as), parent := some 0, prev := some 1 }]⟩
  let as : Attributes := ⟨[("ID", "x"), ("class", "b")], by decide +kernel⟩
  let bs : Attributes := ⟨[("CLASS", "b"), ("id", "x")], by decide +kernel⟩
  let d : Dom := doc "li" "LI" as
  let e : Dom := doc "Li" "li" bs
  let snapshot (item last : String) (as : Attributes) : Snapshot :=
    .document [.element item .empty .absent [], .element last as .absent []]
  have hd : d.Arises := Or.inl ⟨snapshot "li" "LI" as, .byName, rfl⟩
  have he : e.Arises := Or.inl ⟨snapshot "Li" "li" bs, .byName, rfl⟩
  have hperm : (AttributeMap.ofAttributes as).folded.Perm
      (AttributeMap.ofAttributes bs).folded := by
    decide +kernel
  have hcase : d.EqUpToCase e := by
    refine ⟨rfl, fun {id n m} hn hm => ?_⟩
    rcases id with _ | _ | _ | id
    · cases hn
      cases hm
      exact ⟨.document, rfl⟩
    · cases hn
      cases hm
      exact ⟨.element (by decide +kernel) (.refl _), rfl⟩
    · cases hn
      cases hm
      exact ⟨.element (by decide +kernel) hperm, rfl⟩
    · cases hn
  have hapart : d.NamesApart := by decide +kernel
  let c : Chain := ⟨[⟨.css, .css [.compound [.id "x", .className "b",
    .pseudo (.nth .sameType Nth.even)]], false⟩]⟩
  exact ⟨d, e, c, hd, he, hcase, hapart, rfl, rfl, by decide +kernel,
    selectAll_eq_of_eqUpToCase hcase hapart c 0⟩

end Chain

end Umbra
