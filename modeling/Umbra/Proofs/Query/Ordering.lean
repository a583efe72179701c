import Umbra.Proofs.Dom.Stack
import Umbra.Proofs.Query.Numbering

/-!
# Positions, and merging by them

The numbers that are given out around a root are `0`, `1` and so on up to their count, each for one
node: first the topmost node and what the walk from there meets, and only if the root is not among
these, the root and what else lies below it.

Merging puts the nodes that have a number in the order of their numbers, and behind them the others
in the order of their first occurrences.
-/

namespace Umbra

variable {d : Dom}

/-! ## Positions -/

namespace Dom

variable {x y top : NodeId}

theorem Inside.eq_of_up? (h : d.Inside x y) (hx : d.up? x = none) : y = x := by
  rcases Relation.ReflTransGen.cases_head h with rfl | ⟨z, hz, -⟩
  · rfl
  · rw [hx] at hz
    cases hz

namespace Linked

variable (hd : d.Linked)

include hd

theorem inside_topmost (x : NodeId) : d.Inside x (d.topmost x) := by
  rw [hd.inside_iff, topmost, chain, List.getLastD_cons]
  exact List.getLastD_mem_cons

theorem topmost_eq (hx : d.Inside x top) (htop : d.up? top = none) : d.topmost x = top := by
  rcases inside_total hx (hd.inside_topmost x) with h | h
  · exact h.eq_of_up? htop
  · exact (h.eq_of_up? (hd.up?_topmost x)).symm

theorem alone_of_up? (hx : d.up? x = none) : d.parent? x = none ∧ d.host? x = none := by
  constructor
  · cases hp : d.parent? x with
    | none => rfl
    | some p => rw [hd.up?_of_parent? hp] at hx; cases hx
  · cases hh : d.host? x with
    | none => rfl
    | some h => rw [hd.up?_of_host? hh] at hx; cases hx

end Linked

end Dom

namespace DocumentOrder

variable {o : DocumentOrder} {l : List NodeId}

namespace Numbers

theorem lt_count (h : Numbers o l) {id : NodeId} {n : Nat} (hn : o.position? id = some n) :
    n < o.count := by
  rw [h.count_eq]
  exact (List.getElem?_eq_some_iff.1 (h.position?_eq.1 hn)).1

theorem existsUnique_position? (h : Numbers o l) {n : Nat} (hn : n < o.count) :
    ∃! id, o.position? id = some n := by
  rw [h.count_eq] at hn
  refine ⟨l[n], h.position?_eq.2 (List.getElem?_eq_getElem hn),
    fun id (hid : o.position? id = some n) => ?_⟩
  rw [h.position?_eq, List.getElem?_eq_getElem hn, Option.some.injEq] at hid
  exact hid.symm

theorem pairwise_position? (h : Numbers o l) : l.Pairwise fun a b =>
    ∃ m n, o.position? a = some m ∧ o.position? b = some n ∧ m < n := by
  rw [List.pairwise_iff_getElem]
  intro i j hi hj hij
  exact ⟨i, j, h.position?_eq.2 (List.getElem?_eq_getElem hi),
    h.position?_eq.2 (List.getElem?_eq_getElem hj), hij⟩

/-- Numberings that begin alike give the same numbers there. -/
theorem position?_congr {o' : DocumentOrder} {l' first : List NodeId} (h : Numbers o l)
    (h' : Numbers o' l') (hl : first <+: l) (hl' : first <+: l') {id : NodeId} (hid : id ∈ first) :
    o'.position? id = o.position? id := by
  obtain ⟨n, hn⟩ := List.mem_iff_getElem?.1 hid
  have hlt := (List.getElem?_eq_some_iff.1 hn).1
  rw [h.position?_eq.2 ((List.prefix_iff_getElem?.1 hl n hlt).trans ?_),
    h'.position?_eq.2 ((List.prefix_iff_getElem?.1 hl' n hlt).trans ?_)]
  all_goals rw [← hn, List.getElem?_eq_getElem hlt]

end Numbers

end DocumentOrder

theorem Dom.visible_isPrefix_numbered (root : NodeId) :
    d.visible (d.topmost root) <+: d.numbered root := by
  rw [numbered]
  split
  · exact List.prefix_refl _
  · exact List.prefix_append _ _

open DocumentOrder in
/-- Around a root the numbers below a count are given out, each to one node. In their order stand the
node at the top of the way up from the root, what the walk into open shadow trees meets below it in
pre-order, and, unless the root is among these, the root and what is not among these below it. So all
roots with the same node at the top give what is met from there the same positions. -/
theorem Dom.Arises.positions_preorder (h : d.Arises) (root : NodeId) :
    ∃ top seen below,
      (d.Inside root top ∧ d.parent? top = none ∧ d.host? top = none) ∧
      InPreorder (d.listed true) (d.listed true top) seen ∧
      InPreorder (d.listed true) (d.listed true root) below ∧
      Numbers (ofDom d root) (if root ∈ top :: seen then top :: seen
        else top :: seen ++ root :: below.filter (· ∉ top :: seen)) ∧
      (∀ id n, (ofDom d root).position? id = some n → n < (ofDom d root).count) ∧
      (∀ n < (ofDom d root).count, ∃! id, (ofDom d root).position? id = some n) ∧
      ∀ root', d.Inside root' top → ∀ id ∈ top :: seen,
        (ofDom d root').position? id = (ofDom d root).position? id := by
  have hd := h.linked
  have hnumbers := hd.ofDom_numbers root
  refine ⟨d.topmost root, d.descendants true (d.topmost root), d.descendants true root,
    ⟨hd.inside_topmost root, hd.alone_of_up? (hd.up?_topmost root)⟩,
    hd.inPreorder_descendants _, hd.inPreorder_descendants _, ?_, fun id n => hnumbers.lt_count,
    fun n => hnumbers.existsUnique_position?, fun root' hroot' id hid => ?_⟩
  · have hlist := hnumbers
    rw [numbered, visible, visible] at hlist
    split
    · rename_i hroot
      rwa [if_pos hroot] at hlist
    · rename_i hroot
      rwa [if_neg hroot, List.filter_cons_of_pos (by simpa using hroot)] at hlist
  · have htop := hd.topmost_eq hroot' (hd.up?_topmost root)
    have hprefix := d.visible_isPrefix_numbered root'
    rw [htop] at hprefix
    exact hnumbers.position?_congr (hd.ofDom_numbers root') (d.visible_isPrefix_numbered root)
      hprefix hid

/-- Around a root in a closed shadow tree, which the walk from the document does not meet. -/
theorem Dom.Arises.positions_preorder_closed_shadow : ∃ d : Dom, d.Arises ∧
    d.mode? 2 = some .closed ∧ d.Inside 3 2 ∧ (DocumentOrder.ofDom d 3).count = 5 ∧
    (DocumentOrder.ofDom d 3).position? 3 = some 3 ∧
    (∃! id, (DocumentOrder.ofDom d 3).position? id = some 3) ∧
    (DocumentOrder.ofDom d 0).position? 5 = (DocumentOrder.ofDom d 3).position? 5 := by
  let d : Dom := ⟨#[{ data := .document, children := [1] },
    { data := .element "a" .empty, parent := some 0, children := [5], shadow := some 2 },
    { data := .shadowRoot .closed, host := some 1, children := [3] },
    { data := .element "b" .empty, parent := some 2, children := [4] },
    { data := .text "t", parent := some 3 },
    { data := .element "c" .empty, parent := some 1 }]⟩
  let shadow : ShadowSnapshot := .attached .closed [.element "b" .empty .absent [.text "t"]]
  have hd : d.Arises :=
    Or.inl ⟨.document [.element "a" .empty shadow [.element "c" .empty .absent []]], .byName, rfl⟩
  have hl := hd.linked
  obtain ⟨top, seen, below, ⟨hin, htop⟩, hseen, -, -, -, hunique, hsame⟩ := hd.positions_preorder 3
  have hzero : top = 0 := by
    have hchain : top ∈ [3, 2, 1, 0] := hl.inside_iff.1 hin
    simp only [List.mem_cons, List.not_mem_nil, or_false] at hchain
    rcases hchain with rfl | rfl | rfl | rfl
    · cases htop.1
    · cases htop.2
    · cases htop.1
    · rfl
  subst hzero
  obtain rfl := hseen.unique (hl.inPreorder_descendants 0)
  exact ⟨d, hd, rfl, .single rfl, by decide +kernel, by decide +kernel,
    hunique 3 (by decide +kernel), hsame 0 .refl 5 (by decide +kernel)⟩

/-! ## Merging -/

namespace DocumentOrder

variable {o : DocumentOrder} {l : List NodeId}

/-- Where nothing that satisfies a test stands behind anything that does not, a list is parted by the
test. -/
theorem eq_filter_append_filter {p : NodeId → Bool} {ids : List NodeId}
    (h : ids.Pairwise fun a b => p b = true → p a = true) :
    ids = ids.filter p ++ ids.filter (!p ·) := by
  induction ids with
  | nil => rfl
  | cons a ids ih =>
    obtain ⟨ha, hids⟩ := List.pairwise_cons.1 h
    by_cases hp : p a = true
    · rw [List.filter_cons_of_pos hp, List.filter_cons_of_neg (by simpa using hp), List.cons_append,
        ← ih hids]
    · have hnone : ∀ b ∈ ids, ¬ p b = true := fun b hb hpb => hp (ha b hb hpb)
      rw [List.filter_cons_of_neg hp, List.filter_cons_of_pos (by simpa using hp),
        List.filter_eq_nil_iff.2 hnone, List.nil_append,
        List.filter_eq_self.2 fun b hb => by simpa using hnone b hb]

theorem filter_firsts (p : NodeId → Bool) (ids : List NodeId) :
    (firsts ids).filter p = firsts (ids.filter p) := by
  induction ids with
  | nil => rfl
  | cons a ids ih =>
    by_cases hp : p a = true
    · rw [List.filter_cons_of_pos hp, firsts, firsts, List.filter_cons_of_pos hp, ← ih,
        List.filter_comm]
    · rw [List.filter_cons_of_neg hp, firsts, List.filter_cons_of_neg hp, ← ih, List.filter_filter]
      refine List.filter_congr fun b _ => ?_
      have hne : p b = true → b ≠ a := fun hpb heq => hp (heq ▸ hpb)
      cases hpb : p b <;> simp [hne, hpb]

/-- What is left of a list stands in the order of first occurrences. -/
theorem pairwise_firsts (ids : List NodeId) :
    (firsts ids).Pairwise fun a b => ids.idxOf a < ids.idxOf b := by
  induction ids with
  | nil => exact .nil
  | cons a ids ih =>
    have hne {b : NodeId} (hb : b ∈ (firsts ids).filter (· != a)) : b ≠ a := by
      simpa using (List.mem_filter.1 hb).2
    rw [firsts, List.pairwise_cons]
    constructor
    · intro b hb
      rw [List.idxOf_cons_self, List.idxOf_cons_ne _ (hne hb).symm]
      exact Nat.succ_pos _
    · refine (ih.sublist List.filter_sublist).imp_of_mem fun {b c} hb hc hlt => ?_
      rw [List.idxOf_cons_ne _ (hne hb).symm, List.idxOf_cons_ne _ (hne hc).symm]
      exact Nat.succ_lt_succ hlt

theorem isNumbered_of_le {a b : NodeId} (h : o.le a b = true) (hb : o.isNumbered b = true) :
    o.isNumbered a = true := by
  unfold le at h
  unfold isNumbered at hb ⊢
  cases ha : o.position? a with
  | some n => rfl
  | none =>
    cases hpb : o.position? b with
    | some n => simp [ha, hpb] at h
    | none => simp [hpb] at hb

theorem le_of_not_isNumbered {a b : NodeId} (hb : o.isNumbered b = false) : o.le a b = true := by
  have hpb : o.position? b = none := by simpa [isNumbered] using hb
  rw [le, hpb]
  cases o.position? a <;> rfl

/-- Merging leaves the nodes without a number in the order they have. -/
theorem filter_merge_not_isNumbered (sets : List (List NodeId)) :
    (o.merge sets).filter (fun id => !o.isNumbered id) =
      (firsts sets.flatten).filter fun id => !o.isNumbered id := by
  have hle : ((firsts sets.flatten).filter fun id => !o.isNumbered id).Pairwise
      fun a b => o.le a b = true := by
    refine List.pairwise_of_forall_mem_list fun a _ b hb => ?_
    exact le_of_not_isNumbered (by simpa using (List.mem_filter.1 hb).2)
  have hsub : ((firsts sets.flatten).filter fun id => !o.isNumbered id).Sublist (o.merge sets) :=
    @List.sublist_mergeSort NodeId o.le _ (fun _ _ _ => o.le_trans) o.le_total _ hle
      List.filter_sublist
  have hperm := (List.mergeSort_perm (firsts sets.flatten) o.le).filter fun id => !o.isNumbered id
  have hfiltered := hsub.filter fun id => !o.isNumbered id
  simp only [List.filter_filter, Bool.and_self] at hfiltered
  exact (hfiltered.eq_of_length hperm.length_eq.symm).symm

theorem merge_merge (o : DocumentOrder) (sets : List (List NodeId)) :
    o.merge [o.merge sets] = o.merge sets := by
  have h := firsts_of_nodup (o.nodup_merge sets)
  rw [merge, List.flatten_singleton, h]
  exact List.mergeSort_of_pairwise (o.sorted_merge sets)

namespace Numbers

/-- Merging picks the nodes that have a number out of the numbered ones, in their order. -/
theorem filter_merge_isNumbered (h : Numbers o l) (sets : List (List NodeId)) :
    (o.merge sets).filter o.isNumbered = l.filter (sets.flatten.contains ·) := by
  refine h.eq_of_mem_iff ((o.nodup_merge sets).filter _) ((o.sorted_merge sets).filter _)
    List.filter_sublist fun id => ?_
  simp only [List.mem_filter, mem_merge, h.isNumbered_iff, List.contains_iff_mem, List.mem_flatten]
  exact and_comm

theorem merge_eq (h : Numbers o l) (sets : List (List NodeId)) :
    o.merge sets = l.filter (sets.flatten.contains ·) ++
      firsts (sets.flatten.filter fun id => !o.isNumbered id) := by
  have hparted := eq_filter_append_filter (p := o.isNumbered)
    ((o.sorted_merge sets).imp fun hle => isNumbered_of_le hle)
  rw [h.filter_merge_isNumbered, filter_merge_not_isNumbered, filter_firsts] at hparted
  exact hparted

end Numbers

end DocumentOrder

open DocumentOrder in
/-- By the numbers around a root, sets of nodes are merged into one list with each of their nodes once:
the nodes that have a number in the order of their numbers, and behind them the others in the order of
their first occurrences. So of the nodes that have a number only the set counts, and merging again
changes nothing. -/
theorem Dom.Arises.merge_ordered (h : d.Arises) (root : NodeId) (sets : List (List NodeId)) :
    ∃ known unknown, (ofDom d root).merge sets = known ++ unknown ∧
      (∀ id, id ∈ known ↔ (ofDom d root).isNumbered id = true ∧ ∃ s ∈ sets, id ∈ s) ∧
      known.Pairwise (fun a b => ∃ m n, (ofDom d root).position? a = some m ∧
        (ofDom d root).position? b = some n ∧ m < n) ∧
      (∀ id, id ∈ unknown ↔ (ofDom d root).isNumbered id = false ∧ ∃ s ∈ sets, id ∈ s) ∧
      unknown.Pairwise (fun a b => sets.flatten.idxOf a < sets.flatten.idxOf b) ∧
      ((ofDom d root).merge sets).Nodup ∧
      (∀ sets' : List (List NodeId),
        (∀ id, (ofDom d root).isNumbered id = true → (id ∈ sets'.flatten ↔ id ∈ sets.flatten)) →
        sets'.flatten.filter (fun id => !(ofDom d root).isNumbered id) =
          sets.flatten.filter (fun id => !(ofDom d root).isNumbered id) →
        (ofDom d root).merge sets' = (ofDom d root).merge sets) ∧
      (ofDom d root).merge [(ofDom d root).merge sets] = (ofDom d root).merge sets := by
  have hnumbers := h.linked.ofDom_numbers root
  generalize ofDom d root = o at hnumbers
  refine ⟨_, _, hnumbers.merge_eq sets, fun id => ?_, ?_, fun id => ?_, ?_, o.nodup_merge sets,
    fun sets' hknown hunknown => ?_, o.merge_merge sets⟩
  · simp [hnumbers.isNumbered_iff]
  · exact hnumbers.pairwise_position?.sublist List.filter_sublist
  · rw [mem_firsts, List.mem_filter, List.mem_flatten, and_comm]
    simp
  · rw [← filter_firsts]
    exact (pairwise_firsts _).sublist List.filter_sublist
  · rw [hnumbers.merge_eq, hnumbers.merge_eq, hunknown]
    congr 1
    refine List.filter_congr fun id hid => ?_
    simp only [List.contains_eq_mem, hknown id (hnumbers.isNumbered_iff.2 hid)]

/-- Repeated nodes, and two that have no number: a shadow root and a place outside the document. -/
theorem Dom.Arises.merge_ordered_unknown : ∃ d : Dom, d.Arises ∧ d.isShadowRoot 2 = true ∧
    (DocumentOrder.ofDom d 0).merge [[4, 9, 3], [2, 9, 1, 4]] = [1, 3, 4, 9, 2] ∧
    (DocumentOrder.ofDom d 0).merge [[3, 9], [1, 2, 4, 9]] = [1, 3, 4, 9, 2] ∧
    (DocumentOrder.ofDom d 0).merge [[1, 3, 4, 9, 2]] = [1, 3, 4, 9, 2] := by
  let d : Dom := ⟨#[{ data := .document, children := [1] },
    { data := .element "a" .empty, parent := some 0, children := [4], shadow := some 2 },
    { data := .shadowRoot .opened, host := some 1, children := [3] },
    { data := .element "b" .empty, parent := some 2 },
    { data := .element "c" .empty, parent := some 1 }]⟩
  let shadow : ShadowSnapshot := .attached .opened [.element "b" .empty .absent []]
  have hd : d.Arises :=
    Or.inl ⟨.document [.element "a" .empty shadow [.element "c" .empty .absent []]], .byName, rfl⟩
  have hmerge : (DocumentOrder.ofDom d 0).merge [[4, 9, 3], [2, 9, 1, 4]] = [1, 3, 4, 9, 2] := by
    rw [(hd.linked.ofDom_numbers 0).merge_eq]
    decide +kernel
  obtain ⟨-, -, -, -, -, -, -, -, hset, hagain⟩ := hd.merge_ordered 0 [[4, 9, 3], [2, 9, 1, 4]]
  rw [hmerge] at hagain hset
  refine ⟨d, hd, rfl, hmerge, hset [[3, 9], [1, 2, 4, 9]] (fun id _ => ?_) (by decide +kernel), hagain⟩
  simp only [List.flatten_cons, List.mem_append, List.mem_cons, List.flatten_nil, List.not_mem_nil]
  grind

end Umbra
