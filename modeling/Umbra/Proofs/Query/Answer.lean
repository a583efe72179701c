import Umbra.Proofs.Dom.Agreement
import Umbra.Proofs.Query.Numbering
import Umbra.Query.Answer
import Umbra.Regex.Library
import Mathlib.Data.Set.Insert

/-!
# Answers of chains

A stage run from a set of nodes below the root gives the union of what it selects from each of them,
in document order, whether there is one such node or many. So the answer of a chain lists the set
that its stages up to the answering one lead to.
-/

namespace Umbra

variable {d : Dom}

section Library

variable [RegexLibrary]

/-- The nodes to which one stage after another leads from a set of nodes. -/
def Stage.reached (d : Dom) : List Stage → Set NodeId → Set NodeId
  | [], start => start
  | s :: rest, start => reached d rest {id | ∃ context ∈ start, id ∈ s.select d context}

/-- What each stage selects, by going over all nodes below the root. -/
def Stage.filtered (d : Dom) (root : NodeId) : List Stage → List NodeId → List (List NodeId)
  | [], _ => []
  | s :: rest, contexts =>
    let selected := (d.descendants true root).filter fun id =>
      (contexts.map (s.select d)).any fun set => set.contains id
    selected :: filtered d root rest selected

namespace Dom.Linked

variable (hd : d.Linked)

include hd

theorem select_sublist {root context : NodeId} (hc : context ∈ d.visible root) (s : Stage) :
    (s.select d context).Sublist (d.descendants true root) := by
  refine (List.filter_sublist.trans (hd.descendants_sublist_true context)).trans ?_
  rcases List.mem_cons.1 hc with rfl | hc
  · exact List.Sublist.refl _
  · exact (List.sublist_cons_self ..).trans (hd.descendants_infix hc).sublist

/-- From a single context a stage selects in the order in which the numbers would put it. -/
theorem merge_select {root context : NodeId} (hc : context ∈ d.visible root) (s : Stage) :
    (DocumentOrder.ofDom d root).merge [s.select d context] = s.select d context :=
  (hd.ofDom_numbers root).merge_singleton
    ((hd.select_sublist hc s).trans (hd.descendants_sublist_numbered root))

theorem selectAll_eq_merge {root : NodeId} {contexts : List NodeId}
    (hc : contexts ⊆ d.visible root) (s : Stage) : s.selectAll d root contexts =
      (DocumentOrder.ofDom d root).merge (contexts.map (s.select d)) := by
  match contexts with
  | [] => rfl
  | [context] => exact (hd.merge_select (hc (List.mem_singleton_self _)) s).symm
  | _ :: _ :: _ => rfl

theorem selectAll_eq_filter {root : NodeId} {contexts : List NodeId}
    (hc : contexts ⊆ d.visible root) (s : Stage) : s.selectAll d root contexts =
      (d.descendants true root).filter fun id =>
        (contexts.map (s.select d)).any fun set => set.contains id := by
  rw [hd.selectAll_eq_merge hc, hd.merge_eq_filter]
  intro set hset
  obtain ⟨context, hcontext, rfl⟩ := List.mem_map.1 hset
  exact (hd.select_sublist (hc hcontext) s).subset

theorem selectAll_sublist {root : NodeId} {contexts : List NodeId}
    (hc : contexts ⊆ d.visible root) (s : Stage) :
    (s.selectAll d root contexts).Sublist (d.descendants true root) := by
  rw [hd.selectAll_eq_filter hc]
  exact List.filter_sublist

/-- What a stage selects may be the contexts of the next one. -/
theorem selectAll_subset_visible {root : NodeId} {contexts : List NodeId}
    (hc : contexts ⊆ d.visible root) (s : Stage) : s.selectAll d root contexts ⊆ d.visible root :=
  fun _ hid => List.mem_cons_of_mem _ ((hd.selectAll_sublist hc s).subset hid)

theorem selections_eq_filtered {root : NodeId} (stages : List Stage) {contexts : List NodeId}
    (hc : contexts ⊆ d.visible root) :
    Stage.selections d root stages contexts = Stage.filtered d root stages contexts := by
  induction stages generalizing contexts with
  | nil => rfl
  | cons s rest ih =>
    rw [Stage.selections, ih (hd.selectAll_subset_visible hc s), hd.selectAll_eq_filter hc,
      Stage.filtered]

/-- No stage has to put in order what it selects: the walk below the root has the order. -/
theorem chain_selectAll_eq_filtered (c : Chain) (root : NodeId) : c.selectAll d root =
    (Stage.filtered d root c.stages [root])[c.answerIndex]?.getD [] := by
  rw [Chain.selectAll, hd.selections_eq_filtered c.stages (d.singleton_subset_visible root)]

/-- Stages lead from the root only to nodes below it. -/
theorem reached_subset {root : NodeId} (stages : List Stage) :
    Stage.reached d stages {root} ⊆ {id | id ∈ d.visible root} := by
  suffices h : ∀ start : Set NodeId, start ⊆ {id | id ∈ d.visible root} →
      Stage.reached d stages start ⊆ {id | id ∈ d.visible root} from
    h {root} fun x hx => List.mem_cons.2 (Or.inl hx)
  induction stages with
  | nil => exact fun start h => h
  | cons s rest ih =>
    intro start hstart
    refine ih _ ?_
    rintro id ⟨context, hcontext, hid⟩
    exact List.mem_cons_of_mem _ ((hd.select_sublist (hstart hcontext) s).subset hid)

theorem mem_selectAll {root : NodeId} {contexts : List NodeId} (hc : contexts ⊆ d.visible root)
    (s : Stage) {id : NodeId} :
    id ∈ s.selectAll d root contexts ↔ ∃ context ∈ contexts, id ∈ s.select d context := by
  rw [hd.selectAll_eq_merge hc, DocumentOrder.mem_merge]
  simp

/-- What the stage behind `before` selects, as a set and as a list. -/
theorem selections_spec {root : NodeId} (before : List Stage) (s : Stage) (after : List Stage)
    {contexts : List NodeId} (hc : contexts ⊆ d.visible root) :
    ∃ answer, (Stage.selections d root (before ++ s :: after) contexts)[before.length]? =
        some answer ∧
      answer.Sublist (d.descendants true root) ∧
      ∀ id, id ∈ answer ↔ id ∈ Stage.reached d (before ++ [s]) {c | c ∈ contexts} := by
  induction before generalizing contexts with
  | nil =>
    refine ⟨_, rfl, hd.selectAll_sublist hc s, fun id => ?_⟩
    rw [hd.mem_selectAll hc]
    rfl
  | cons t before ih =>
    obtain ⟨answer, hanswer, hsublist, hmem⟩ := ih (hd.selectAll_subset_visible hc t)
    have hset : {id | id ∈ t.selectAll d root contexts} =
        {id | ∃ context ∈ {c | c ∈ contexts}, id ∈ t.select d context} := by
      ext id
      exact hd.mem_selectAll hc t
    refine ⟨answer, hanswer, hsublist, fun id => ?_⟩
    rw [hmem, hset]
    rfl

end Dom.Linked

namespace Stage

/-- What a stage selects does not depend on the stages behind it. -/
theorem selections_congr {root : NodeId} (before : List Stage) (s : Stage) (after after' : List Stage)
    (contexts : List NodeId) :
    (selections d root (before ++ s :: after) contexts)[before.length]? =
      (selections d root (before ++ s :: after') contexts)[before.length]? := by
  induction before generalizing contexts with
  | nil => rfl
  | cons t before ih => exact ih _

end Stage

namespace Chain

/-- The answering stage is the first captured one or, without any, the last one. -/
theorem exists_answering (c : Chain) (hne : c.stages ≠ []) :
    ∃ before s after, c.stages = before ++ s :: after ∧ c.answerIndex = before.length ∧
      (∀ t ∈ before, t.captured = false) ∧ (s.captured = true ∨ after = [] ∧ s.captured = false) := by
  rw [answerIndex]
  cases h : c.stages.findIdx? Stage.captured with
  | none =>
    rw [List.findIdx?_eq_none_iff] at h
    have hlast := List.dropLast_concat_getLast hne
    refine ⟨c.stages.dropLast, c.stages.getLast hne, [], hlast.symm, by simp, ?_, ?_⟩
    · exact fun t ht => h t (List.dropLast_subset _ ht)
    · exact Or.inr ⟨rfl, h _ (List.getLast_mem hne)⟩
  | some i =>
    obtain ⟨hi, hs, hbefore⟩ := List.findIdx?_eq_some_iff_getElem.1 h
    refine ⟨c.stages.take i, c.stages[i], c.stages.drop (i + 1), by simp, ?_, ?_, Or.inl hs⟩
    · rw [Option.getD_some, List.length_take, Nat.min_eq_left (Nat.le_of_lt hi)]
    · intro t ht
      obtain ⟨j, hj, rfl⟩ := List.mem_take_iff_getElem.1 ht
      simpa using hbefore j (Nat.lt_of_lt_of_le hj (Nat.min_le_left _ _))

/-- The answer lists the set that the stages up to the answering one lead to, each node once and in
document order. On the way, and also for a single context, every stage gives what the numbers would
put in order, and stages behind a captured one change nothing. -/
theorem selectAll_spec (hd : d.Arises) (root : NodeId) (c : Chain) (hne : c.stages ≠ []) :
    ∃ before s after, c.stages = before ++ s :: after ∧
      (∀ t ∈ before, t.captured = false) ∧ (s.captured = true ∨ after = [] ∧ s.captured = false) ∧
      (∀ id, id ∈ c.selectAll d root ↔ id ∈ Stage.reached d (before ++ [s]) {root}) ∧
      (c.selectAll d root).Nodup ∧ (c.selectAll d root).Pairwise d.Before ∧
      (∀ first t rest, c.stages = first ++ t :: rest → ∀ context ∈ Stage.reached d first {root},
        t.select d context = (DocumentOrder.ofDom d root).merge [t.select d context]) ∧
      (s.captured = true → ∀ later,
        (Chain.mk (before ++ s :: later)).selectAll d root = c.selectAll d root) := by
  have hl := hd.linked
  obtain ⟨before, s, after, hc, hindex, hbefore, hs⟩ := c.exists_answering hne
  have hroot : {x | x ∈ [root]} = ({root} : Set NodeId) := by
    ext x
    simp
  obtain ⟨answer, hanswer, hsub, hmem⟩ :=
    hl.selections_spec before s after (d.singleton_subset_visible root)
  have hall : c.selectAll d root = answer := by
    rw [selectAll, hindex, hc, hanswer, Option.getD_some]
  rw [hroot] at hmem
  rw [hall]
  refine ⟨before, s, after, hc, hbefore, hs, hmem, (hl.nodup_descendants root).sublist hsub,
    (hl.pairwise_descendants root).sublist hsub, ?_, ?_⟩
  · intro first t rest _ context hcontext
    refine (hl.merge_select ?_ t).symm
    exact hl.reached_subset first (by simpa [Dom.visible] using hcontext)
  · intro hs later
    have hlater : (Chain.mk (before ++ s :: later)).answerIndex = before.length := by
      rw [answerIndex, List.findIdx?_append, List.findIdx?_eq_none_iff.2 hbefore]
      simp [List.findIdx?_cons, hs]
    rw [selectAll, hlater, Stage.selections_congr before s later after, hanswer, Option.getD_some]

end Chain

end Library

/-- A captured stage between two others, with an open shadow tree on the way. -/
theorem Chain.selectAll_spec_across_shadow : ∃ (d : Dom) (c : Chain), d.Arises ∧ c.stages ≠ [] ∧
    c.selectAll d 0 = [3, 4] ∧ (c.selectAll d 0).Pairwise d.Before := by
  let d : Dom := ⟨#[{ data := .document, children := [1] },
    { data := .element "a" .empty, parent := some 0, children := [4], shadow := some 2 },
    { data := .shadowRoot .opened, host := some 1, children := [3] },
    { data := .element "b" .empty, parent := some 2 },
    { data := .element "b" .empty, parent := some 1 }]⟩
  let shadow : ShadowSnapshot := .attached .opened [.element "b" .empty .absent []]
  have hd : d.Arises :=
    Or.inl ⟨.document [.element "a" .empty shadow [.element "b" .empty .absent []]], .byName, rfl⟩
  let c : Chain := ⟨[⟨.css, .css [.compound [.universal]], false⟩,
    ⟨.css, .css [.compound [.type "B"]], true⟩, ⟨.cssLight, .css [.compound [.type "c"]], false⟩]⟩
  have hall : c.selectAll d 0 = [3, 4] :=
    (hd.linked.chain_selectAll_eq_filtered c 0).trans (by decide +kernel)
  have hne : c.stages ≠ [] := List.cons_ne_nil _ _
  obtain ⟨_, _, _, _, _, _, _, _, hpair, _⟩ := Chain.selectAll_spec hd 0 c hne
  exact ⟨d, c, hd, hne, hall, hpair⟩

end Umbra
