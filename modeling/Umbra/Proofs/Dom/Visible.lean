import Umbra.Proofs.Dom.Descendants

/-!
# What is met below a node

A walk into open shadow trees meets no shadow roots, stays in the node it starts from, and starting
again from a node that it meets leads to nothing new. `InView` adds the open shadow roots on the way.
-/

namespace Umbra.Dom

variable {d : Dom}

/-- A node and what a walk into open shadow trees meets below it. -/
def visible (d : Dom) (id : NodeId) : List NodeId := id :: d.descendants true id

theorem singleton_subset_visible (d : Dom) (id : NodeId) : [id] ⊆ d.visible id :=
  List.cons_subset.2 ⟨List.mem_cons_self .., List.nil_subset _⟩

/-- The nodes that can be seen from a node: itself, children and open shadow roots. -/
inductive InView (d : Dom) (r : NodeId) : NodeId → Prop
  | self : InView d r r
  | child {x c : NodeId} (seen : InView d r x) (child : c ∈ d.children x) : InView d r c
  | shadow {x s : NodeId} (seen : InView d r x) (shadow : d.openShadow? x = some s) : InView d r s

namespace Linked

variable (hd : d.Linked)

include hd

theorem isContent_of_mem_inner {a c : NodeId} {pierce : Bool} (h : c ∈ d.inner pierce a) :
    d.IsContent c := by
  rcases hd.mem_inner.1 h with hp | ⟨-, s, -, hp⟩
  · exact hd.child_kind hp
  · exact hd.child_kind hp

theorem not_isShadowRoot_of_mem_inner {a c : NodeId} {pierce : Bool} (h : c ∈ d.inner pierce a) :
    d.isShadowRoot c = false :=
  (hd.isContent_of_mem_inner h).not_shadowRoot

theorem ne_of_descendants {pierce : Bool} {r x : NodeId} (hx : x ∈ d.descendants pierce r) :
    x ≠ r := by
  rintro rfl
  exact (List.nodup_cons.1 (hd.nodup_cons_descendants x)).1 hx

theorem inside_of_visible {r x : NodeId} (hx : x ∈ d.visible r) : d.Inside x r := by
  rcases List.mem_cons.1 hx with rfl | hx
  · exact .refl
  · exact (hd.mem_preorder_contents.1 ((hd.descendants_sublist r).subset hx)).to_reflTransGen

theorem visible_subset {r x : NodeId} (hx : x ∈ d.visible r) : d.visible x ⊆ d.visible r := by
  rcases List.mem_cons.1 hx with rfl | hx
  · exact List.Subset.refl _
  · exact List.Subset.trans (hd.descendants_infix hx).subset (List.subset_cons_self _ _)

theorem mem_descendants_of_inner {pierce : Bool} {r y x : NodeId} (hy : y ∈ d.visible r)
    (hx : x ∈ d.inner pierce y) : x ∈ d.descendants true r := by
  have hx : x ∈ d.inner true y := by
    rw [hd.mem_inner] at hx ⊢
    exact hx.imp_right fun ⟨_, hs⟩ => ⟨rfl, hs⟩
  rw [hd.mem_descendants]
  rcases List.mem_cons.1 hy with rfl | hy
  · exact .single hx
  · exact .tail (hd.mem_descendants.1 hy) hx

/-- What lies below a node lies directly in a node that is met. -/
theorem exists_inner {r x : NodeId} (hx : x ∈ d.descendants true r) :
    ∃ y ∈ d.visible r, x ∈ d.inner true y := by
  obtain ⟨y, hy, hyx⟩ := Relation.TransGen.tail'_iff.1 (hd.mem_descendants.1 hx)
  refine ⟨y, ?_, hyx⟩
  rcases Relation.reflTransGen_iff_eq_or_transGen.1 hy with rfl | hy
  · exact List.mem_cons_self ..
  · exact List.mem_cons_of_mem _ (hd.mem_descendants.2 hy)

theorem not_isShadowRoot_of_descendants {r x : NodeId} (hx : x ∈ d.descendants true r) :
    d.isShadowRoot x = false := by
  obtain ⟨y, -, hyx⟩ := hd.exists_inner hx
  exact hd.not_isShadowRoot_of_mem_inner hyx

theorem not_isShadowRoot_of_visible {r x : NodeId} (hr : d.isShadowRoot r = false)
    (hx : x ∈ d.visible r) : d.isShadowRoot x = false := by
  rcases List.mem_cons.1 hx with rfl | hx
  · exact hr
  · exact hd.not_isShadowRoot_of_descendants hx

theorem inView_iff {r x : NodeId} :
    d.InView r x ↔ x ∈ d.visible r ∨ ∃ y ∈ d.visible r, d.openShadow? y = some x := by
  constructor
  · intro h
    induction h with
    | self => exact Or.inl (List.mem_cons_self ..)
    | child _ hc ih =>
      have hp := hd.mem_children.1 hc
      rcases ih with hx | ⟨y, hy, hx⟩
      · have hin := hd.mem_descendants_of_inner hx (hd.mem_inner_of_parent? hp)
        exact Or.inl (List.mem_cons_of_mem _ hin)
      · have hin := hd.mem_descendants_of_inner hy (hd.mem_inner_of_openShadow? hx hp)
        exact Or.inl (List.mem_cons_of_mem _ hin)
    | @shadow x s _ hs ih =>
      rcases ih with hx | ⟨y, -, hx⟩
      · exact Or.inr ⟨x, hx, hs⟩
      · rw [openShadow?, hd.shadow?_of_isShadowRoot (hd.openShadow?_eq_some hx).2] at hs
        cases hs
  · have seen {y : NodeId} (hy : y ∈ d.visible r) : d.InView r y := by
      rw [visible, List.mem_cons, hd.mem_descendants] at hy
      have step {y z : NodeId} (hy : d.InView r y) (hz : z ∈ d.inner true y) : d.InView r z := by
        rcases hd.mem_inner.1 hz with hp | ⟨-, s, hs, hp⟩
        · exact .child hy (hd.mem_children.2 hp)
        · exact .child (.shadow hy hs) (hd.mem_children.2 hp)
      rcases hy with rfl | hy
      · exact .self
      · induction hy with
        | single hz => exact step .self hz
        | tail _ hz ih => exact step ih hz
    rintro (hx | ⟨y, hy, hs⟩)
    · exact seen hx
    · exact .shadow (seen hy) hs

theorem mem_descendants_of_child {r x c : NodeId} (hx : d.InView r x) (hc : c ∈ d.children x) :
    c ∈ d.descendants true r := by
  have hp := hd.mem_children.1 hc
  rcases hd.inView_iff.1 hx with hx | ⟨y, hy, hx⟩
  · exact hd.mem_descendants_of_inner hx (hd.mem_inner_of_parent? hp)
  · exact hd.mem_descendants_of_inner hy (hd.mem_inner_of_openShadow? hx hp)

/-- The parent of what lies below a node can be seen. -/
theorem exists_parent_inView {r x : NodeId} (hx : x ∈ d.descendants true r) :
    ∃ p, d.InView r p ∧ d.parent? x = some p := by
  obtain ⟨y, hy, hyx⟩ := hd.exists_inner hx
  rcases hd.mem_inner.1 hyx with hp | ⟨-, s, hs, hp⟩
  · exact ⟨y, hd.inView_iff.2 (Or.inl hy), hp⟩
  · exact ⟨s, hd.inView_iff.2 (Or.inr ⟨y, hy, hs⟩), hp⟩

/-- Siblings of what lies below a node lie below it too. -/
theorem mem_descendants_of_sibling {r x y : NodeId} (hx : x ∈ d.descendants true r)
    (hy : y ∈ d.prevSiblings x ∨ y ∈ d.nextSiblings x) : y ∈ d.descendants true r := by
  obtain ⟨p, hp, hx⟩ := hd.exists_parent_inView hx
  obtain ⟨before, after, hplace⟩ := hd.exists_place hx
  rw [hd.prevSiblings_eq hplace, hd.nextSiblings_eq hplace] at hy
  refine hd.mem_descendants_of_child hp ?_
  rw [hplace]
  rcases hy with hy | hy
  · exact List.mem_append_left _ (List.mem_reverse.1 hy)
  · exact List.mem_append_right _ (List.mem_cons_of_mem _ hy)

end Linked

end Umbra.Dom
