import Umbra.Proofs.Dom.Preorder
import Umbra.Proofs.Dom.Siblings

/-!
# Document order

`contents` puts the shadow root of a node, open or closed, before its children, and `up?` leads
back, so documents are forests of nodes and shadow roots. `Before` is the order of this forest: a
node comes before what lies in it, and what lies in a node before what lies in a later one beside it.

`descendants` leaves things out of the pre-order of this forest, but changes no order.
-/

namespace Umbra.Dom

variable {d : Dom} {pierce : Bool}

/-- What lies directly in a node: its shadow root, whatever its mode, and then its children. -/
def contents (d : Dom) (id : NodeId) : List NodeId := (d.shadow? id).toList ++ d.children id

/-- Everything in a node in document order, shadow roots included, the node itself first. -/
def subtree (d : Dom) (id : NodeId) : List NodeId := id :: preorder d.contents d.size id

/-- How many steps lead up from a node. -/
def depth (d : Dom) (id : NodeId) : Nat := (follow d.up? d.size (d.up? id)).length

/-- Document order across shadow boundaries. -/
def Before (d : Dom) (a b : NodeId) : Prop :=
  (b ≠ a ∧ d.Inside b a) ∨
    ∃ p x y, [x, y].Sublist (d.contents p) ∧ d.Inside a x ∧ d.Inside b y

/-! ## The forest -/

namespace Linked

variable (hd : d.Linked)

include hd

theorem mem_contents {p c : NodeId} : c ∈ d.contents p ↔ d.up? c = some p := by
  rw [contents, List.mem_append, Option.mem_toList, hd.mem_children, hd.shadow_iff,
    hd.up?_eq_some_iff, or_comm]

theorem nodup_contents (p : NodeId) : (d.contents p).Nodup := by
  refine List.nodup_append.2 ⟨?_, hd.nodup_children p, ?_⟩
  · cases d.shadow? p <;> simp
  · intro s hs c hc hsc
    rw [Option.mem_toList, hd.shadow_iff] at hs
    have hr := (hd.host_kind hs).2
    rw [hsc, (hd.child_kind (hd.mem_children.1 hc)).not_shadowRoot] at hr
    cases hr

/-- Only an element has a shadow root. -/
theorem shadow?_of_not_isElement {x : NodeId} (hx : d.isElement x = false) : d.shadow? x = none := by
  cases h : d.shadow? x with
  | none => rfl
  | some r =>
    have he := (hd.host_kind (hd.shadow_iff.1 h)).1
    rw [hx] at he
    cases he

theorem shadow?_of_isShadowRoot {s : NodeId} (hs : d.isShadowRoot s = true) : d.shadow? s = none :=
  hd.shadow?_of_not_isElement (not_isElement_of_isShadowRoot hs)

theorem trace_up (start : NodeId) : Trace d.up? (d.up? start) (follow d.up? d.size (d.up? start)) := by
  obtain ⟨rank, hrank⟩ := hd.ranked
  exact Trace.of_follow hrank (fun _ h => hd.up?_lt_size h) fun _ _ h => hd.up?_lt_size h

/-- The chain up from a node meets just the nodes that it lies in. -/
theorem inside_iff {x y : NodeId} : d.Inside x y ↔ y ∈ d.chain x := by
  rw [chain, List.mem_cons, (hd.trace_up x).mem_iff, Inside,
    Relation.reflTransGen_iff_eq_or_transGen]

theorem depth_succ {x y : NodeId} (h : d.up? x = some y) : d.depth x = d.depth y + 1 := by
  have ht := hd.trace_up x
  rw [h] at ht
  rw [depth, h, ht.unique (.cons (hd.trace_up y)), List.length_cons, depth]

theorem depth_le (x : NodeId) : d.depth x ≤ d.size := by
  obtain ⟨rank, hrank⟩ := hd.ranked
  refine Trace.length_le_of_nodup ((hd.trace_up x).nodup hrank) fun y hy => ?_
  rcases (hd.trace_up x).exists_step hy with h | ⟨z, -, h⟩
  · exact hd.up?_lt_size h
  · exact hd.up?_lt_size h

theorem layered : Layered d.contents d.size := by
  refine ⟨d.depth, fun a c hc => ⟨?_, hd.depth_le c⟩⟩
  rw [hd.depth_succ (hd.mem_contents.1 hc)]
  exact Nat.lt_succ_self _

theorem subtree_eq (a : NodeId) : d.subtree a = a :: (d.contents a).flatMap d.subtree :=
  congrArg (a :: ·) (hd.layered.preorder_eq a)

theorem mem_preorder_contents {a x : NodeId} :
    x ∈ preorder d.contents d.size a ↔ Relation.TransGen (fun x y => d.up? x = some y) x a := by
  rw [hd.layered.mem_preorder, ← Relation.transGen_swap]
  have hswap : (fun b c => c ∈ d.contents b) = Function.swap fun x y => d.up? x = some y := by
    funext b c
    exact propext hd.mem_contents
  rw [hswap]

theorem mem_subtree {a x : NodeId} : x ∈ d.subtree a ↔ d.Inside x a := by
  rw [subtree, List.mem_cons, hd.mem_preorder_contents, Inside,
    Relation.reflTransGen_iff_eq_or_transGen, eq_comm]

/-! ## The order -/

theorem ne_of_transGen {a x : NodeId} (h : Relation.TransGen (fun x y => d.up? x = some y) x a) :
    x ≠ a := by
  rintro rfl
  obtain ⟨y, hy, hyx⟩ := Relation.TransGen.head'_iff.1 h
  exact hd.not_inside_of_up? hy hyx

omit hd in
/-- Of two nodes that a node lies in, one lies in the other. -/
theorem inside_total {a x y : NodeId} (hx : d.Inside a x) (hy : d.Inside a y) :
    d.Inside x y ∨ d.Inside y x :=
  Relation.ReflTransGen.total_of_right_unique
    (fun _ _ _ h h' => Option.some.inj (h.symm.trans h')) hx hy

/-- A node lies in at most one of the nodes that lie directly in another. -/
theorem eq_of_inside {a p x y : NodeId} (hx : x ∈ d.contents p) (hy : y ∈ d.contents p)
    (hax : d.Inside a x) (hay : d.Inside a y) : x = y := by
  have apart {x y : NodeId} (hx : d.up? x = some p) (hy : d.up? y = some p) (h : d.Inside x y) :
      x = y := by
    rcases Relation.ReflTransGen.cases_head h with rfl | ⟨z, hz, hzy⟩
    · rfl
    · rw [hx, Option.some.injEq] at hz
      exact absurd (hz ▸ hzy) (hd.not_inside_of_up? hy)
  rw [hd.mem_contents] at hx hy
  rcases inside_total hax hay with h | h
  · exact apart hx hy h
  · exact (apart hy hx h).symm

/-- No node lies in two different nodes that lie directly in one. -/
theorem not_inside_both {a p x y : NodeId} (hxy : [x, y].Sublist (d.contents p))
    (hx : d.Inside a x) : ¬ d.Inside a y := by
  intro hy
  have hn := hxy.nodup (hd.nodup_contents p)
  rw [hd.eq_of_inside (hxy.subset (by simp)) (hxy.subset (by simp)) hx hy] at hn
  simp at hn

theorem inside_antisymm {a b : NodeId} (hab : d.Inside a b) (hba : d.Inside b a) : a = b := by
  rcases Relation.ReflTransGen.cases_head hab with rfl | ⟨z, hz, hzb⟩
  · rfl
  · exact absurd (hzb.trans hba) (hd.not_inside_of_up? hz)

omit hd in
theorem not_sublist_swap {l : List NodeId} (hl : l.Nodup) {x y : NodeId} (hxy : [x, y].Sublist l) :
    ¬ [y, x].Sublist l := by
  intro hyx
  induction l with
  | nil => cases hxy
  | cons a l ih =>
    obtain ⟨ha, hl⟩ := List.nodup_cons.1 hl
    cases hxy with
    | cons _ hxy =>
      cases hyx with
      | cons _ hyx => exact ih hl hxy hyx
      | cons_cons _ _ => exact ha (hxy.subset (by simp))
    | cons_cons _ _ =>
      cases hyx with
      | cons _ hyx => exact ha (hyx.subset (by simp))
      | cons_cons _ hyx => exact ha (hyx.subset (by simp))

/-- Two nodes are not ordered both ways, at a place and at one that contains it. -/
theorem not_ordered_twice {a b p x y p' x' y' : NodeId} (hxy : [x, y].Sublist (d.contents p))
    (hax : d.Inside a x) (hby : d.Inside b y) (hxy' : [x', y'].Sublist (d.contents p'))
    (hbx' : d.Inside b x') (hay' : d.Inside a y') : ¬ d.Inside p p' := by
  have hx : x ∈ d.contents p := hxy.subset (by simp)
  have hy : y ∈ d.contents p := hxy.subset (by simp)
  have hx' : x' ∈ d.contents p' := hxy'.subset (by simp)
  have hy' : y' ∈ d.contents p' := hxy'.subset (by simp)
  intro h
  rcases Relation.ReflTransGen.cases_tail h with rfl | ⟨z, hpz, hz⟩
  · obtain rfl := hd.eq_of_inside hx hy' hax hay'
    obtain rfl := hd.eq_of_inside hy hx' hby hbx'
    exact not_sublist_swap (hd.nodup_contents _) hxy hxy'
  · have haz : d.Inside a z := (hax.tail (hd.mem_contents.1 hx)).trans hpz
    have hbz : d.Inside b z := (hby.tail (hd.mem_contents.1 hy)).trans hpz
    obtain rfl := hd.eq_of_inside (hd.mem_contents.2 hz) hy' haz hay'
    exact hd.not_inside_both hxy' hbx' hbz

theorem before_asymm {a b : NodeId} (hab : d.Before a b) : ¬ d.Before b a := by
  rcases hab with ⟨hne, hab⟩ | ⟨p, x, y, hxy, hax, hby⟩
  · rintro (⟨-, hba⟩ | ⟨p, x, y, hxy, hbx, hay⟩)
    · exact hne (hd.inside_antisymm hab hba)
    · exact hd.not_inside_both hxy hbx (hab.trans hay)
  · rintro (⟨-, hba⟩ | ⟨p', x', y', hxy', hbx', hay'⟩)
    · exact hd.not_inside_both hxy hax (hba.trans hby)
    · have hap : d.Inside a p := hax.tail (hd.mem_contents.1 (hxy.subset (by simp)))
      have hap' : d.Inside a p' := hay'.tail (hd.mem_contents.1 (hxy'.subset (by simp)))
      rcases inside_total hap hap' with h | h
      · exact hd.not_ordered_twice hxy hax hby hxy' hbx' hay' h
      · exact hd.not_ordered_twice hxy' hbx' hay' hxy hax hby h

/-- The walk through the forest follows document order. -/
theorem pairwise_subtree (a : NodeId) : (d.subtree a).Pairwise d.Before := by
  induction a using hd.layered.induction with
  | step a ih =>
    rw [subtree, List.pairwise_cons]
    constructor
    · intro x hx
      have hxa := hd.mem_preorder_contents.1 hx
      exact Or.inl ⟨hd.ne_of_transGen hxa, hxa.to_reflTransGen⟩
    · rw [hd.layered.preorder_eq, List.pairwise_flatMap]
      refine ⟨ih, List.pairwise_iff_forall_sublist.2 fun {x y} hxy u hu v hv => ?_⟩
      exact Or.inr ⟨a, x, y, hxy, hd.mem_subtree.1 hu, hd.mem_subtree.1 hv⟩

theorem nodup_subtree (a : NodeId) : (d.subtree a).Nodup := by
  refine (hd.pairwise_subtree a).imp ?_
  rintro x _ h rfl
  exact hd.before_asymm h h

/-! ## Descendants -/

theorem openShadow?_eq_some {h s : NodeId} (ho : d.openShadow? h = some s) :
    d.host? s = some h ∧ d.isShadowRoot s = true := by
  have hs := hd.shadow_iff.1 (Option.filter_eq_some_iff.1 ho).1
  exact ⟨hs, (hd.host_kind hs).2⟩

theorem inner_eq (a : NodeId) : d.inner pierce a =
    ((if pierce then d.openShadow? a else none).elim [] d.children) ++ d.children a := by
  simp only [inner, hd.linkedChildren_eq]
  cases (if pierce then d.openShadow? a else none) <;> rfl

theorem mem_inner {a c : NodeId} : c ∈ d.inner pierce a ↔ d.parent? c = some a ∨
    (pierce = true ∧ ∃ s, d.openShadow? a = some s ∧ d.parent? c = some s) := by
  rw [hd.inner_eq, List.mem_append, hd.mem_children, or_comm]
  cases pierce with
  | false => simp
  | true => cases d.openShadow? a <;> simp [hd.mem_children]

theorem mem_inner_of_parent? {a c : NodeId} (hp : d.parent? c = some a) : c ∈ d.inner true a :=
  hd.mem_inner.2 (Or.inl hp)

theorem mem_inner_of_openShadow? {a s c : NodeId} (hs : d.openShadow? a = some s)
    (hp : d.parent? c = some s) : c ∈ d.inner true a :=
  hd.mem_inner.2 (Or.inr ⟨rfl, s, hs, hp⟩)

/-- A shadow root has no shadow root of its own. -/
theorem inner_of_isShadowRoot {s : NodeId} (hs : d.isShadowRoot s = true) :
    d.inner pierce s = d.children s := by
  rw [hd.inner_eq, openShadow?, hd.shadow?_of_isShadowRoot hs]
  cases pierce <;> rfl

theorem layered_inner : Layered (d.inner pierce) d.size := by
  refine ⟨d.depth, fun a c hc => ⟨?_, hd.depth_le c⟩⟩
  rcases hd.mem_inner.1 hc with hp | ⟨-, s, hs, hp⟩
  · rw [hd.depth_succ (hd.up?_of_parent? hp)]
    exact Nat.lt_succ_self _
  · rw [hd.depth_succ (hd.up?_of_parent? hp),
      hd.depth_succ (hd.up?_of_host? (hd.openShadow?_eq_some hs).1)]
    exact Nat.lt_succ_of_lt (Nat.lt_succ_self _)

theorem descendants_eq (a : NodeId) : d.descendants pierce a =
    (d.inner pierce a).flatMap fun c => c :: d.descendants pierce c := by
  simp only [descendants, below_eq_preorder]
  exact hd.layered_inner.preorder_eq a

theorem mem_descendants {a x : NodeId} : x ∈ d.descendants pierce a ↔
    Relation.TransGen (fun b c => c ∈ d.inner pierce b) a x := by
  rw [descendants, below_eq_preorder]
  exact hd.layered_inner.mem_preorder

/-- Leaving out shadow roots and closed shadow trees changes no order. -/
theorem descendants_sublist (a : NodeId) :
    (d.descendants pierce a).Sublist (preorder d.contents d.size a) := by
  induction a using hd.layered.induction with
  | step a ih =>
    rw [hd.descendants_eq, hd.layered.preorder_eq, hd.inner_eq, contents, List.flatMap_append,
      List.flatMap_append]
    refine List.Sublist.append ?_ (List.Sublist.flatMap_right _ fun c hc => ?_)
    · cases hs : (if pierce then d.openShadow? a else none) with
      | none => exact List.nil_sublist _
      | some s =>
        have ho : d.openShadow? a = some s := by
          cases pierce with
          | false => cases hs
          | true => exact hs
        obtain ⟨hh, hr⟩ := hd.openShadow?_eq_some ho
        have hin : s ∈ d.contents a := hd.mem_contents.2 (hd.up?_of_host? hh)
        have hbelow := ih s hin
        rw [hd.descendants_eq, hd.inner_of_isShadowRoot hr] at hbelow
        rw [hd.shadow_iff.2 hh, Option.toList_some, List.flatMap_singleton]
        exact hbelow.cons s
    · exact (ih c (hd.mem_contents.2 (hd.up?_of_parent? (hd.mem_children.1 hc)))).cons_cons c

theorem pairwise_descendants (a : NodeId) : (d.descendants pierce a).Pairwise d.Before :=
  (hd.pairwise_subtree a).sublist ((hd.descendants_sublist a).cons a)

theorem nodup_cons_descendants (a : NodeId) : (a :: d.descendants pierce a).Nodup :=
  (hd.nodup_subtree a).sublist ((hd.descendants_sublist a).cons_cons a)

theorem nodup_descendants (a : NodeId) : (d.descendants pierce a).Nodup :=
  (List.nodup_cons.1 (hd.nodup_cons_descendants a)).2

/-- What is left of the walk is fixed by its members. -/
theorem eq_of_descendants_sublist {a : NodeId} {l l' : List NodeId}
    (hl : l.Sublist (d.descendants pierce a)) (hl' : l'.Sublist (d.descendants pierce a))
    (h : ∀ x, x ∈ l ↔ x ∈ l') : l = l' := by
  have hperm : l.Perm l' := (List.perm_ext_iff_of_nodup ((hd.nodup_descendants a).sublist hl)
    ((hd.nodup_descendants a).sublist hl')).2 h
  refine List.Perm.eq_of_pairwise ?_ ((hd.pairwise_descendants a).sublist hl)
    ((hd.pairwise_descendants a).sublist hl') hperm
  exact fun _ _ _ _ hab hba => absurd hba (hd.before_asymm hab)

theorem descendants_light_sublist (a : NodeId) :
    (d.descendants false a).Sublist (d.descendants true a) := by
  induction a using hd.layered.induction with
  | step a ih =>
    rw [hd.descendants_eq, hd.descendants_eq, hd.inner_eq, hd.inner_eq, List.flatMap_append,
      List.flatMap_append]
    refine List.Sublist.append (List.nil_sublist _) (List.Sublist.flatMap_right _ fun c hc => ?_)
    exact (ih c (hd.mem_contents.2 (hd.up?_of_parent? (hd.mem_children.1 hc)))).cons_cons c

theorem descendants_sublist_true (a : NodeId) :
    (d.descendants pierce a).Sublist (d.descendants true a) := by
  cases pierce with
  | false => exact hd.descendants_light_sublist a
  | true => exact List.Sublist.refl _

/-- The walk below a descendant is a stretch of the walk. -/
theorem descendants_infix {a x : NodeId} (h : x ∈ d.descendants pierce a) :
    x :: d.descendants pierce x <:+: d.descendants pierce a := by
  have direct {b c : NodeId} (hc : c ∈ d.inner pierce b) :
      c :: d.descendants pierce c <:+: d.descendants pierce b := by
    rw [hd.descendants_eq b]
    exact List.infix_flatMap_of_mem hc fun c => c :: d.descendants pierce c
  induction hd.mem_descendants.1 h with
  | single hx => exact direct hx
  | tail hab hbc ih =>
    exact ((direct hbc).trans (List.suffix_cons ..).isInfix).trans (ih (hd.mem_descendants.2 hab))

end Linked

end Umbra.Dom
