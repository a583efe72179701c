import Umbra.Proofs.Dom.Recut
import Umbra.Proofs.Query.Correspondence

/-!
# Comments and cuts do not change answers

Whether an element is empty and what text it owns depends on the text of its whole child list, and
every walk of a query leads through the nodes that bear an element. So it makes no difference to an
answer where comments stand and how texts are cut. The orders of the maps are left open: the two
documents need not have the same.
-/

namespace Umbra

namespace Dom

namespace Linked

variable {d : Dom} (hd : d.Linked)

include hd

/-- A node is filled by an element among its children or by a character of its text. -/
theorem any_fills_eq (p : NodeId) : (d.linkedChildren p).any d.fills =
    (!((d.children p).filter d.isElement).isEmpty ||
      (d.ownText p).any fun c => !Text.isBlank c) := by
  have htext (id : NodeId) : ((d.text? id).any fun t => !t.toList.all Text.isBlank) =
      ((d.text? id).getD "").toList.any fun c => !Text.isBlank c := by
    cases d.text? id with
    | none => rfl
    | some content => rw [Option.any_some, Option.getD_some, List.not_all_eq_any_not]
  unfold ownText fills
  rw [hd.linkedChildren_eq, List.any_flatMap, Bool.eq_iff_iff]
  simp only [htext, List.any_eq_true, Bool.or_eq_true, Bool.not_eq_true', List.isEmpty_eq_false_iff,
    ne_eq, List.filter_eq_nil_iff, not_forall, not_not, and_or_left, exists_or, exists_prop]

/-- Elements lie below what bears them. -/
theorem elementsBelow_eq {pierce : Bool} (a : NodeId) : d.elementsBelow pierce a =
    ((d.inner pierce a).filter d.bears).flatMap fun c =>
      (c :: d.descendants pierce c).filter d.isElement := by
  have hnone (c : NodeId) (hc : d.bears c ≠ true) :
      (c :: d.descendants pierce c).filter d.isElement = [] := by
    rw [List.filter_eq_nil_iff]
    intro x hx helement
    have hvisible : x ∈ d.visible c := (hd.descendants_sublist_true c).cons_cons c |>.subset hx
    exact hc (hd.bears_of_inside (hd.inside_of_visible hvisible) (hd.bears_of_isElement helement))
  unfold elementsBelow
  rw [hd.descendants_eq, List.filter_flatMap]
  induction d.inner pierce a with
  | nil => rfl
  | cons c l ih =>
    rw [List.flatMap_cons, ih]
    by_cases hc : d.bears c = true
    · rw [List.filter_cons_of_pos hc, List.flatMap_cons]
    · rw [List.filter_cons_of_neg hc, hnone c hc, List.nil_append]

end Linked

namespace Recut

variable {d d' : Dom} {f : NodeId → NodeId} (h : Recut d d' f) (hd : d.Linked) (hd' : d'.Linked)

include h hd hd'

theorem any_fills_eq {x : NodeId} (hx : d.bears x = true) :
    (d'.linkedChildren (f x)).any d'.fills = (d.linkedChildren x).any d.fills := by
  rw [hd.any_fills_eq, hd'.any_fills_eq, h.ownText_eq hd hd' hx,
    h.filter_isElement_eq hd hd' (h.filter_children_eq hx), List.isEmpty_map]

theorem elementsBelow_eq {pierce : Bool} {x : NodeId} (hx : d.bears x = true) :
    d'.elementsBelow pierce (f x) = (d.elementsBelow pierce x).map f := by
  have hlayered : Layered (d.inner pierce) d.size := hd.layered_inner
  induction x using hlayered.induction with
  | step x ih =>
    rw [hd.elementsBelow_eq, hd'.elementsBelow_eq, h.filter_inner_eq hd hd' hx, List.flatMap_map,
      List.map_flatMap]
    refine List.flatMap_congr fun c hc => ?_
    obtain ⟨hinner, hbears⟩ := List.mem_filter.1 hc
    have hbelow := ih c hinner hbears
    unfold elementsBelow at hbelow
    rw [List.filter_cons, List.filter_cons, h.isElement_eq hbears, hbelow]
    split <;> rfl

/-- What bears an element corresponds to its counterpart. -/
theorem corresponds : Corresponds d d' (fun x => d.bears x = true) f where
  injective := h.injective
  data_eq := h.data_eq
  parent?_eq := h.parent?_eq hd hd'
  part_parent := hd.bears_parent
  host?_eq := h.host?_eq hd hd'
  part_host _ hh := hd.bears_host hh
  prevElements_eq := h.prevElements_eq hd hd'
  part_prev _ hy := hd.bears_of_isElement (List.mem_filter.1 hy).2
  nextElements_eq := h.nextElements_eq hd hd'
  part_next _ hy := hd.bears_of_isElement (List.mem_filter.1 hy).2
  any_fills_eq := h.any_fills_eq hd hd'
  ownText_eq := h.ownText_eq hd hd'
  elementsBelow_eq := h.elementsBelow_eq hd hd'
  part_below _ hy := hd.bears_of_isElement (List.mem_filter.1 hy).2

end Recut

end Dom

namespace Chain

variable {d d' : Dom} {f : NodeId → NodeId}

end Chain

end Umbra
