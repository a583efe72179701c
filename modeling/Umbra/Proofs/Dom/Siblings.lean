import Umbra.Proofs.Dom.Linked
import Umbra.Proofs.Dom.Trace

/-!
# Siblings

In a linked document the chains of sibling links are the two sides of a place in the child list of
the parent.
-/

namespace Umbra.Dom

/-- Two nodes are children of one parent, the first before the second, with a list of nodes between
them. -/
def Precedes (d : Dom) (e id : NodeId) (between : List NodeId) : Prop :=
  ∃ p before after, d.parent? id = some p ∧ d.children p = before ++ e :: (between ++ id :: after)

namespace Linked

variable {d : Dom} (hd : d.Linked)

include hd

theorem length_children_le (p : NodeId) : (d.children p).length ≤ d.size :=
  Trace.length_le_of_nodup (hd.nodup_children p) fun _ hc =>
    lt_size_of_parent? (hd.mem_children.1 hc)

theorem trace_next {p c : NodeId} {before after : List NodeId}
    (h : d.children p = before ++ c :: after) : Trace d.next? (d.next? c) after := by
  rw [hd.next_eq h]
  induction after generalizing before c with
  | nil => exact .nil
  | cons a after ih =>
    have ha : d.children p = (before ++ [c]) ++ a :: after := by simp [h]
    refine .cons ?_
    rw [hd.next_eq ha]
    exact ih ha

theorem trace_prev {p c : NodeId} {before after : List NodeId}
    (h : d.children p = before ++ c :: after) : Trace d.prev? (d.prev? c) before.reverse := by
  rw [hd.prev_eq h]
  induction hl : before.length generalizing before c after with
  | zero =>
    rw [List.length_eq_zero_iff.1 hl]
    exact .nil
  | succ n ih =>
    rcases List.eq_nil_or_concat before with rfl | ⟨rest, b, rfl⟩
    · cases hl
    · have hb : d.children p = rest ++ b :: c :: after := by simp [h]
      have hrest : rest.length = n := by simpa using hl
      simp only [List.concat_eq_append, List.getLast?_append, List.getLast?_singleton,
        Option.some_or, List.reverse_append, List.reverse_singleton, List.singleton_append]
      refine .cons ?_
      rw [hd.prev_eq hb]
      exact ih hb hrest

theorem nextSiblings_eq {p c : NodeId} {before after : List NodeId}
    (h : d.children p = before ++ c :: after) : d.nextSiblings c = after := by
  refine (hd.trace_next h).follow_eq ?_
  have hl := hd.length_children_le p
  rw [h, List.length_append, List.length_cons] at hl
  omega

theorem prevSiblings_eq {p c : NodeId} {before after : List NodeId}
    (h : d.children p = before ++ c :: after) : d.prevSiblings c = before.reverse := by
  refine (hd.trace_prev h).follow_eq ?_
  have hl := hd.length_children_le p
  rw [h, List.length_append, List.length_cons] at hl
  rw [List.length_reverse]
  omega

theorem prevSiblings_of_alone {c : NodeId} (h : d.parent? c = none) : d.prevSiblings c = [] := by
  rw [prevSiblings, (hd.alone h).2, Trace.nil.follow_eq (Nat.zero_le _)]

theorem nextSiblings_of_alone {c : NodeId} (h : d.parent? c = none) : d.nextSiblings c = [] := by
  rw [nextSiblings, (hd.alone h).1, Trace.nil.follow_eq (Nat.zero_le _)]

/-- A node with a parent has one place in the child list of that parent. -/
theorem exists_place {p c : NodeId} (h : d.parent? c = some p) :
    ∃ before after, d.children p = before ++ c :: after :=
  List.append_of_mem (hd.mem_children.2 h)

/-- The nodes before a node, read off the child list of its parent. -/
theorem reach_prevSiblings {id e : NodeId} {q : NodeId → Prop} :
    (∃ a b, d.prevSiblings id = a ++ e :: b ∧ ∀ y ∈ a, q y) ↔
      ∃ between, d.Precedes e id between ∧ ∀ y ∈ between, q y := by
  constructor
  · rintro ⟨a, b, h, ha⟩
    cases hp : d.parent? id with
    | none =>
      rw [hd.prevSiblings_of_alone hp] at h
      simp at h
    | some p =>
      obtain ⟨before, after, hplace⟩ := hd.exists_place hp
      rw [hd.prevSiblings_eq hplace, List.reverse_eq_iff] at h
      refine ⟨a.reverse, ⟨p, b.reverse, after, hp, ?_⟩, by simpa using ha⟩
      simp [hplace, h]
  · rintro ⟨between, ⟨p, before, after, -, h⟩, hq⟩
    have hplace : d.children p = (before ++ e :: between) ++ id :: after := by simp [h]
    refine ⟨between.reverse, before.reverse, ?_, by simpa using hq⟩
    simp [hd.prevSiblings_eq hplace]

/-- The sibling links lead from the first child through the whole child list, and end there. -/
theorem trace_children (p : NodeId) : Trace d.next? (d.firstChild? p) (d.children p) := by
  rw [firstChild?]
  cases h : d.children p with
  | nil => exact .nil
  | cons c after =>
    have hp : d.children p = [] ++ c :: after := h
    exact .cons (hd.trace_next hp)

theorem linkedChildren_eq (p : NodeId) : d.linkedChildren p = d.children p :=
  (hd.trace_children p).follow_eq (hd.length_children_le p)

end Linked

end Umbra.Dom
