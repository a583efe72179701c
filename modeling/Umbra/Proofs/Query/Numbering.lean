import Umbra.Proofs.Dom.Visible
import Umbra.Query.DocumentOrder

/-!
# Numbers in document order

The numbers that are given out are the places in a list. Whatever lies below the root stands in this
list, in the order in which the walk from the root meets it, also where the walk from the topmost
node does not see the root. So merging sets of such nodes sorts them into the order of that walk.
-/

namespace Umbra

variable {d : Dom}

namespace DocumentOrder

variable {o : DocumentOrder} {l : List NodeId}

/-- The members of `l` are numbered by their places in it, and nothing else has a number. -/
structure Numbers (o : DocumentOrder) (l : List NodeId) : Prop where
  count_eq : o.count = l.length
  position?_eq : ∀ {id n}, o.position? id = some n ↔ l[n]? = some id

theorem position?_number {id a : NodeId} :
    (o.number id).position? a = if a = id then some o.count else o.position? a := by
  rw [position?, number, List.lookup_cons]
  split
  · rename_i h
    rw [if_pos (eq_of_beq h)]
  · rename_i h
    rw [if_neg (by simpa using h), position?]

theorem firsts_of_nodup {ids : List NodeId} (h : ids.Nodup) : firsts ids = ids := by
  induction ids with
  | nil => rfl
  | cons a ids ih =>
    obtain ⟨ha, h⟩ := List.nodup_cons.1 h
    rw [firsts, ih h, List.filter_eq_self.2]
    intro b hb
    have hne : b ≠ a := fun heq => ha (heq ▸ hb)
    simpa using hne

namespace Numbers

theorem empty : Numbers empty [] := ⟨rfl, by simp [position?, DocumentOrder.empty]⟩

theorem isNumbered_iff (h : Numbers o l) {id : NodeId} : o.isNumbered id = true ↔ id ∈ l := by
  rw [isNumbered, Option.isSome_iff_exists, List.mem_iff_getElem?]
  exact exists_congr fun n => h.position?_eq

theorem nodup (h : Numbers o l) : l.Nodup := by
  refine List.pairwise_iff_getElem.2 fun i j hi hj hij heq => ?_
  have hpi := h.position?_eq.2 (List.getElem?_eq_getElem hi)
  rw [heq, h.position?_eq.2 (List.getElem?_eq_getElem hj), Option.some.injEq] at hpi
  exact Nat.lt_irrefl _ (hpi ▸ hij)

theorem number (h : Numbers o l) {id : NodeId} (hid : id ∉ l) :
    Numbers (o.number id) (l ++ [id]) := by
  have hnew : o.isNumbered id = false := by
    rw [Bool.eq_false_iff, ne_eq, h.isNumbered_iff]
    exact hid
  refine ⟨by simp [DocumentOrder.number, hnew, h.count_eq], fun {a n} => ?_⟩
  rw [position?_number, h.count_eq]
  rcases Nat.lt_trichotomy n l.length with hn | rfl | hn
  · rw [List.getElem?_append_left hn]
    split
    · rename_i ha
      subst ha
      refine ⟨fun he => absurd hn (Option.some.inj he ▸ Nat.lt_irrefl _), fun he => ?_⟩
      exact absurd (List.mem_of_getElem? he) hid
    · exact h.position?_eq
  · rw [List.getElem?_concat_length]
    split
    · rename_i ha
      simp [ha]
    · rename_i ha
      rw [h.position?_eq, List.getElem?_eq_none (Nat.le_refl _)]
      simp [Ne.symm ha]
  · rw [List.getElem?_eq_none (by rw [List.length_append]; exact hn)]
    split
    · simpa using Nat.ne_of_lt hn
    · rw [h.position?_eq, List.getElem?_eq_none (Nat.le_of_lt hn)]

theorem foldl_number (h : Numbers o l) {ids : List NodeId} (hn : (l ++ ids).Nodup) :
    Numbers (ids.foldl DocumentOrder.number o) (l ++ ids) := by
  induction ids generalizing o l with
  | nil => simpa using h
  | cons a ids ih =>
    have ha : a ∉ l := fun hl =>
      (List.nodup_append.1 hn).2.2 a hl a (List.mem_cons_self ..) rfl
    have hsplit : l ++ a :: ids = (l ++ [a]) ++ ids := by simp
    rw [hsplit] at hn ⊢
    exact ih (h.number ha) hn

theorem foldl_numberNew (h : Numbers o l) {ids : List NodeId} (hn : ids.Nodup) :
    Numbers (ids.foldl numberNew o) (l ++ ids.filter (· ∉ l)) := by
  induction ids generalizing o l with
  | nil => simpa using h
  | cons a ids ih =>
    obtain ⟨ha, hids⟩ := List.nodup_cons.1 hn
    by_cases hl : a ∈ l
    · have hold : o.numberNew a = o := by rw [numberNew, if_pos (h.isNumbered_iff.2 hl)]
      rw [List.foldl_cons, hold, List.filter_cons_of_neg (by simpa using hl)]
      exact ih h hids
    · have hnew : o.numberNew a = o.number a := by
        rw [numberNew, if_neg (mt h.isNumbered_iff.1 hl)]
      have hrest : ids.filter (· ∉ l) = ids.filter (· ∉ l ++ [a]) := by
        refine List.filter_congr fun x hx => ?_
        have hxa : x ≠ a := fun heq => ha (heq ▸ hx)
        simp [hxa]
      rw [List.foldl_cons, hnew, List.filter_cons_of_pos (by simpa using hl), hrest]
      have := ih (h.number hl) hids
      rwa [List.append_assoc, List.singleton_append] at this

/-! ## Merging -/

theorem le_iff (h : Numbers o l) {i j : Nat} {a b : NodeId} (ha : l[i]? = some a)
    (hb : l[j]? = some b) : o.le a b = true ↔ i ≤ j := by
  rw [le, h.position?_eq.2 ha, h.position?_eq.2 hb, decide_eq_true_eq]

theorem pairwise_le (h : Numbers o l) : l.Pairwise fun a b => o.le a b = true := by
  rw [List.pairwise_iff_getElem]
  intro i j hi hj hij
  rw [h.le_iff (List.getElem?_eq_getElem hi) (List.getElem?_eq_getElem hj)]
  exact Nat.le_of_lt hij

theorem le_antisymm (h : Numbers o l) {a b : NodeId} (ha : a ∈ l) (hb : b ∈ l)
    (hab : o.le a b = true) (hba : o.le b a = true) : a = b := by
  obtain ⟨i, hi⟩ := List.mem_iff_getElem?.1 ha
  obtain ⟨j, hj⟩ := List.mem_iff_getElem?.1 hb
  rw [h.le_iff hi hj] at hab
  rw [h.le_iff hj hi] at hba
  rw [Nat.le_antisymm hab hba, hj, Option.some.injEq] at hi
  exact hi.symm

/-- A set in the order of the numbers stays as it is. -/
theorem merge_singleton (h : Numbers o l) {s : List NodeId} (hs : s.Sublist l) : o.merge [s] = s := by
  rw [merge, List.flatten_singleton, firsts_of_nodup (h.nodup.sublist hs)]
  exact List.mergeSort_of_pairwise (h.pairwise_le.sublist hs)

/-- Two lists in the order of the numbers are equal if their members are, all of them with a number. -/
theorem eq_of_mem_iff (h : Numbers o l) {s t : List NodeId} (hs : s.Nodup)
    (hle : s.Pairwise fun a b => o.le a b = true) (ht : t.Sublist l) (hmem : ∀ id, id ∈ s ↔ id ∈ t) :
    s = t := by
  refine List.Perm.eq_of_pairwise ?_ hle (h.pairwise_le.sublist ht)
    ((List.perm_ext_iff_of_nodup hs (h.nodup.sublist ht)).2 hmem)
  intro a b ha hb
  exact h.le_antisymm (ht.subset ((hmem a).1 ha)) (ht.subset hb)

/-- Sets with members from a list that keeps the order of the numbers are merged into its order. -/
theorem merge_eq_filter (h : Numbers o l) {walk : List NodeId} (hw : walk.Sublist l)
    {sets : List (List NodeId)} (hs : ∀ s ∈ sets, s ⊆ walk) :
    o.merge sets = walk.filter fun id => sets.any fun s => s.contains id := by
  refine h.eq_of_mem_iff (o.nodup_merge sets) (o.sorted_merge sets)
    (List.filter_sublist.trans hw) fun id => ?_
  simp only [mem_merge, List.mem_filter, List.any_eq_true, List.contains_iff_mem]
  exact ⟨fun ⟨s, hss, hid⟩ => ⟨hs s hss hid, s, hss, hid⟩, fun hid => hid.2⟩

end Numbers

end DocumentOrder

/-! ## Nodes around a root -/

namespace Dom

/-- The nodes that are numbered around a root, in their order. -/
def numbered (d : Dom) (root : NodeId) : List NodeId :=
  let seen := d.visible (d.topmost root)
  if root ∈ seen then seen else seen ++ (d.visible root).filter (· ∉ seen)

namespace Linked

variable (hd : d.Linked)

include hd

theorem ofDom_numbers (root : NodeId) :
    (DocumentOrder.ofDom d root).Numbers (d.numbered root) := by
  have hnodup : (d.visible (d.topmost root)).Nodup := hd.nodup_cons_descendants _
  have hseen := DocumentOrder.Numbers.empty.foldl_number hnodup
  rw [List.nil_append] at hseen
  rw [DocumentOrder.ofDom, numbered]
  by_cases hroot : root ∈ d.visible (d.topmost root)
  · rw [if_pos hroot]
    simp only [if_pos (hseen.isNumbered_iff.2 hroot)]
    exact hseen
  · rw [if_neg hroot]
    simp only [if_neg (mt hseen.isNumbered_iff.1 hroot)]
    exact hseen.foldl_numberNew (hd.nodup_cons_descendants root)

theorem up?_topmost (id : NodeId) : d.up? (d.topmost id) = none := by
  have h := (Trace.cons (hd.trace_up id)).step_getLast (List.cons_ne_nil _ _)
  rw [topmost, chain, List.getLastD_cons, ← List.getLast_eq_getLastD]
  exact h

/-- The walk from a topmost node meets no node without meeting the one above it, except that it
passes over open shadow roots. -/
theorem seen_of_inner {top a c : NodeId} (htop : d.up? top = none) (hc : c ∈ d.inner true a)
    (hseen : c ∈ d.visible top) :
    a ∈ d.visible top ∨ ∃ h ∈ d.visible top, d.openShadow? h = some a := by
  rcases List.mem_cons.1 hseen with rfl | hseen
  · rcases hd.mem_inner.1 hc with hp | ⟨-, s, -, hp⟩
    · rw [hd.up?_of_parent? hp] at htop
      cases htop
    · rw [hd.up?_of_parent? hp] at htop
      cases htop
  obtain ⟨z, hz, hcz⟩ := Relation.TransGen.tail'_iff.1 (hd.mem_descendants.1 hseen)
  have hzseen : z ∈ d.visible top := by
    rcases Relation.reflTransGen_iff_eq_or_transGen.1 hz with rfl | hz
    · exact List.mem_cons_self ..
    · exact List.mem_cons_of_mem _ (hd.mem_descendants.2 hz)
  rcases hd.mem_inner.1 hc with hp | ⟨-, s, hs, hp⟩
  · rcases hd.mem_inner.1 hcz with hp' | ⟨-, s', hs', hp'⟩
    · rw [hp, Option.some.injEq] at hp'
      exact Or.inl (hp' ▸ hzseen)
    · rw [hp, Option.some.injEq] at hp'
      exact Or.inr ⟨z, hzseen, hp' ▸ hs'⟩
  · obtain ⟨hhost, hroot⟩ := hd.openShadow?_eq_some hs
    rcases hd.mem_inner.1 hcz with hp' | ⟨-, s', hs', hp'⟩
    · -- then the shadow root itself is met, and that can only be at the top
      rw [hp, Option.some.injEq] at hp'
      subst hp'
      rcases Relation.ReflTransGen.cases_tail hz with rfl | ⟨y, -, hsy⟩
      · rw [hd.up?_of_host? hhost] at htop
        cases htop
      · rw [hd.not_isShadowRoot_of_mem_inner hsy] at hroot
        cases hroot
    · rw [hp, Option.some.injEq] at hp'
      rw [← hp'] at hs'
      have ha := (hd.openShadow?_eq_some hs').1
      rw [hhost, Option.some.injEq] at ha
      exact Or.inl (ha ▸ hzseen)

theorem unseen_of_descendants {top a x : NodeId} (htop : d.up? top = none)
    (ha : a ∉ d.visible top) (hhost : ¬ ∃ h ∈ d.visible top, d.openShadow? h = some a)
    (hx : x ∈ d.descendants true a) : x ∉ d.visible top := by
  rw [hd.mem_descendants] at hx
  induction hx with
  | single hx =>
    intro hseen
    rcases hd.seen_of_inner htop hx hseen with h | h
    · exact ha h
    · exact hhost h
  | tail hy hyx ih =>
    intro hseen
    rcases hd.seen_of_inner htop hyx hseen with h | ⟨h, -, ho⟩
    · exact ih h
    · obtain ⟨z, -, hzy⟩ := Relation.TransGen.tail'_iff.1 hy
      have hr := (hd.openShadow?_eq_some ho).2
      rw [hd.not_isShadowRoot_of_mem_inner hzy] at hr
      cases hr

/-- Everything below the root is numbered in the order of the walk below the root. -/
theorem descendants_sublist_numbered (root : NodeId) :
    (d.descendants true root).Sublist (d.numbered root) := by
  rw [numbered]
  have htop := hd.up?_topmost root
  generalize d.topmost root = top at htop
  by_cases hroot : root ∈ d.visible top
  · simp only [if_pos hroot]
    rcases List.mem_cons.1 hroot with rfl | hroot
    · exact List.sublist_cons_self ..
    · exact ((List.sublist_cons_self ..).trans (hd.descendants_infix hroot).sublist).cons top
  simp only [if_neg hroot]
  by_cases hhost : ∃ h ∈ d.visible top, d.openShadow? h = some root
  · obtain ⟨h, hh, ho⟩ := hhost
    have hbelow : (d.descendants true root).Sublist (d.descendants true h) := by
      rw [hd.descendants_eq h, hd.inner_eq, List.flatMap_append, if_pos rfl, ho, hd.descendants_eq,
        hd.inner_of_isShadowRoot (hd.openShadow?_eq_some ho).2]
      exact List.sublist_append_left ..
    refine (hbelow.trans ?_).trans (List.sublist_append_left ..)
    rcases List.mem_cons.1 hh with rfl | hh
    · exact List.sublist_cons_self ..
    · exact ((List.sublist_cons_self ..).trans (hd.descendants_infix hh).sublist).cons top
  · have hnew : ∀ x ∈ d.visible root, x ∉ d.visible top := by
      intro x hx
      rcases List.mem_cons.1 hx with rfl | hx
      · exact hroot
      · exact hd.unseen_of_descendants htop hroot hhost hx
    rw [List.filter_eq_self.2 fun x hx => by simpa using hnew x hx]
    exact (List.sublist_cons_self ..).trans (List.sublist_append_right ..)

/-- Sets of nodes below the root are merged into the order of the walk below the root. -/
theorem merge_eq_filter {root : NodeId} {sets : List (List NodeId)}
    (hs : ∀ s ∈ sets, s ⊆ d.descendants true root) :
    (DocumentOrder.ofDom d root).merge sets =
      (d.descendants true root).filter fun id => sets.any fun s => s.contains id :=
  (hd.ofDom_numbers root).merge_eq_filter (hd.descendants_sublist_numbered root) hs

end Linked

end Dom

end Umbra
