import Umbra.Proofs.Dom.Agreement
import Umbra.Proofs.Query.Numbering
import Umbra.Proofs.Selector.Commas
import Umbra.Query.Matcher
import Umbra.Regex.Library

/-!
# Alternatives of a clause

A clause selects what any of its alternatives selects, in document order. So a list of clauses
joined by commas selects the merged selections of the clauses, and only the set of the alternatives
counts.
-/

namespace Umbra.Matcher

open Selector

variable {m : Matcher}

theorem holdsAny_iff {alternatives : SelectorList} {id : NodeId} :
    m.holdsAny alternatives id = true ↔ ∃ c ∈ alternatives, m.holds c id = true := by
  induction alternatives with
  | nil => simp [holdsAny]
  | cons c rest ih => simp [holdsAny, ih]

section Library

variable [RegexLibrary]

theorem mem_select_css {alternatives : SelectorList} {id : NodeId} :
    id ∈ m.select (.css alternatives) ↔ id ∈ m.dom.descendants m.pierce m.scope ∧
      m.dom.isElement id = true ∧ ∃ c ∈ alternatives, m.holds c id = true := by
  rw [select, List.mem_filter, Bool.and_eq_true, holdsClause, holdsAny_iff]

theorem select_css_congr {l k : SelectorList} (h : ∀ c, c ∈ l ↔ c ∈ k) :
    m.select (.css l) = m.select (.css k) := by
  refine List.filter_congr fun id _ => ?_
  have hany : m.holdsAny l id = m.holdsAny k id := by
    rw [Bool.eq_iff_iff, holdsAny_iff, holdsAny_iff]
    simp only [h]
  rw [holdsClause, holdsClause, hany]

theorem select_sublist (hd : m.dom.Linked) (clause : Clause) :
    (m.select clause).Sublist (m.dom.descendants true m.scope) :=
  List.filter_sublist.trans (hd.descendants_sublist_true m.scope)

/-- The alternatives of several lists together select the merged selections of the lists. -/
theorem select_css_flatten (hd : m.dom.Linked) (lists : List SelectorList) :
    m.select (.css lists.flatten) = (DocumentOrder.ofDom m.dom m.scope).merge
      (lists.map fun l => m.select (.css l)) := by
  have hsets : ∀ s ∈ lists.map (fun l => m.select (.css l)),
      s ⊆ m.dom.descendants true m.scope := by
    intro s hs
    obtain ⟨l, -, rfl⟩ := List.mem_map.1 hs
    exact (select_sublist hd _).subset
  have hmerge : ((DocumentOrder.ofDom m.dom m.scope).merge
      (lists.map fun l => m.select (.css l))).Sublist (m.dom.descendants true m.scope) := by
    rw [hd.merge_eq_filter hsets]
    exact List.filter_sublist
  refine hd.eq_of_descendants_sublist (select_sublist hd _) hmerge fun id => ?_
  rw [DocumentOrder.mem_merge, mem_select_css]
  constructor
  · rintro ⟨hid, helement, c, hc, hholds⟩
    obtain ⟨l, hl, hc⟩ := List.mem_flatten.1 hc
    exact ⟨_, List.mem_map_of_mem hl, mem_select_css.2 ⟨hid, helement, c, hc, hholds⟩⟩
  · rintro ⟨s, hs, hid⟩
    obtain ⟨l, hl, rfl⟩ := List.mem_map.1 hs
    obtain ⟨hid, helement, c, hc, hholds⟩ := mem_select_css.1 hid
    exact ⟨hid, helement, c, List.mem_flatten.2 ⟨l, hl, hc⟩, hholds⟩

/-- Texts that are read as clauses are read as one clause with commas between them. It has their
alternatives in order and selects the merged selections of theirs; in which order the alternatives
stand, and how often, does not matter. -/
theorem select_joined {allows : PseudoClassName → Bool} {texts : List (List Char)}
    {lists : List SelectorList}
    (hread : List.Forall₂ (fun t l => readSelectorList allows t = .ok l) texts lists)
    {s : List Char} (hs : Joined texts s) :
    readSelectorList allows s = .ok lists.flatten ∧
      ∀ d : Dom, d.Arises → ∀ (scope : NodeId) (pierce : Bool),
        (Matcher.mk d scope pierce).select (.css lists.flatten) =
          (DocumentOrder.ofDom d scope).merge
            (lists.map fun l => (Matcher.mk d scope pierce).select (.css l)) ∧
        ∀ alternatives : SelectorList, (∀ c, c ∈ alternatives ↔ c ∈ lists.flatten) →
          (Matcher.mk d scope pierce).select (.css alternatives) =
            (Matcher.mk d scope pierce).select (.css lists.flatten) := by
  refine ⟨hs.readSelectorList hread, fun d h scope pierce => ⟨?_, fun alternatives hsame => ?_⟩⟩
  · exact select_css_flatten (m := Matcher.mk d scope pierce) h.linked lists
  · exact select_css_congr hsame

end Library

/-- A text with commas of its own and one that ends with an escape, with white space behind it. -/
theorem select_joined_escape : ∃ (d : Dom) (l k : SelectorList), d.Arises ∧
    readSelectorList (fun _ => true) "a:not([x=','],b)".toList = .ok l ∧
    readSelectorList (fun _ => true) "\\62,a".toList = .ok k ∧
    readSelectorList (fun _ => true) "\ta:not([x=','],b) , \\62,a ".toList = .ok (l ++ k) ∧
    (Matcher.mk d 0 true).select (.css (l ++ k)) = [1, 2] ∧
    (Matcher.mk d 0 true).select (.css (l ++ k)) = (DocumentOrder.ofDom d 0).merge
      [(Matcher.mk d 0 true).select (.css l), (Matcher.mk d 0 true).select (.css k)] := by
  let d : Dom := ⟨#[{ data := .document, children := [1] },
    { data := .element "a" .empty, parent := some 0, children := [2] },
    { data := .element "b" .empty, parent := some 1 }]⟩
  have hd : d.Arises := Or.inl ⟨.document [.element "a" .empty .absent
    [.element "b" .empty .absent []]], .byName, rfl⟩
  let nested : SelectorList :=
    [.compound [.attribute ⟨"x", .compare .equals "," .plain⟩], .compound [.type "b"]]
  let l : SelectorList := [.compound [.type "a", .pseudo (.not nested)]]
  let k : SelectorList := [.compound [.type "b"], .compound [.type "a"]]
  have hl : readSelectorList (fun _ => true) "a:not([x=','],b)".toList = .ok l := by
    with_unfolding_all rfl
  have hk : readSelectorList (fun _ => true) "\\62,a".toList = .ok k := by with_unfolding_all rfl
  have htab : Spaces ['\t'] := List.forall_mem_singleton.2 rfl
  have hspace : Spaces [' '] := List.forall_mem_singleton.2 rfl
  have hjoined : Joined ["a:not([x=','],b)".toList, "\\62,a".toList]
      "\ta:not([x=','],b) , \\62,a ".toList :=
    .cons htab hspace (.one hspace hspace)
  obtain ⟨hread, hselect⟩ := select_joined (.cons hl (.cons hk .nil)) hjoined
  exact ⟨d, l, k, hd, hl, hk, hread, by decide +kernel, (hselect d hd 0 true).1⟩

end Umbra.Matcher
