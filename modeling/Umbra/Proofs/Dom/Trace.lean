import Umbra.Dom.Walk
import Mathlib.Data.List.Perm.Subperm
import Mathlib.Logic.Relation

/-!
# Chains of links

`follow` cuts a chain of links off after a given number of steps. `Trace step start l` says that
`l` is the whole chain. Along a step that lowers a rank no chain returns to where it was, so in an
arena a chain is no longer than the arena and nothing is cut off.
-/

namespace Umbra

variable {step : NodeId → Option NodeId}

/-- The nodes of `l` are all that are met from `start` on. -/
inductive Trace (step : NodeId → Option NodeId) : Option NodeId → List NodeId → Prop
  | nil : Trace step none []
  | cons {id : NodeId} {l : List NodeId} (rest : Trace step (step id) l) :
      Trace step (some id) (id :: l)

namespace Trace

theorem follow_eq {start : Option NodeId} {l : List NodeId} (h : Trace step start l) {n : Nat}
    (hn : l.length ≤ n) : follow step n start = l := by
  induction h generalizing n with
  | nil => cases n <;> rfl
  | cons _ ih =>
    cases n with
    | zero => simp at hn
    | succ n => rw [follow, ih (Nat.le_of_succ_le_succ hn)]

theorem unique {start : Option NodeId} {l l' : List NodeId} (h : Trace step start l)
    (h' : Trace step start l') : l = l' := by
  induction h generalizing l' with
  | nil => cases h'; rfl
  | cons _ ih =>
    cases h' with
    | cons rest => rw [ih rest]

/-- Every member of a chain is its start or comes by a step from a member before it. -/
theorem exists_step {start : Option NodeId} {l : List NodeId} (h : Trace step start l) {id : NodeId}
    (hid : id ∈ l) : start = some id ∨ ∃ a ∈ l, step a = some id := by
  induction h with
  | nil => cases hid
  | @cons a l rest ih =>
    rcases List.mem_cons.1 hid with rfl | hid
    · exact Or.inl rfl
    · rcases ih hid with hs | ⟨b, hb, hs⟩
      · exact Or.inr ⟨a, by simp, hs⟩
      · exact Or.inr ⟨b, by simp [hb], hs⟩

theorem step_mem {start : Option NodeId} {l : List NodeId} (h : Trace step start l) {a b : NodeId}
    (ha : a ∈ l) (hs : step a = some b) : b ∈ l := by
  induction h with
  | nil => cases ha
  | @cons c l rest ih =>
    rcases List.mem_cons.1 ha with rfl | ha
    · rw [hs] at rest
      cases rest
      simp
    · exact List.mem_cons_of_mem _ (ih ha)

/-- What every step keeps holds along a whole chain. -/
theorem forall_mem {P : NodeId → Prop} {start : Option NodeId} {l : List NodeId}
    (h : Trace step start l) (hstart : ∀ a, start = some a → P a)
    (hstep : ∀ a b, P a → step a = some b → P b) : ∀ a ∈ l, P a := by
  induction h with
  | nil => simp
  | @cons a l rest ih =>
    have ha := hstart a rfl
    exact List.forall_mem_cons.2 ⟨ha, ih fun b hb => hstep a b ha hb⟩

theorem congr {step' : NodeId → Option NodeId} {start : Option NodeId} {l : List NodeId}
    (h : Trace step start l) (hl : ∀ a ∈ l, step' a = step a) : Trace step' start l := by
  induction h with
  | nil => exact .nil
  | cons _ ih =>
    obtain ⟨ha, hl⟩ := List.forall_mem_cons.1 hl
    refine .cons ?_
    rw [ha]
    exact ih hl

/-- Along a map that takes steps to steps a chain is taken to a chain. -/
theorem map {step' : NodeId → Option NodeId} {f : NodeId → NodeId} {start : Option NodeId}
    {l : List NodeId} (h : Trace step start l) (hl : ∀ a ∈ l, step' (f a) = (step a).map f) :
    Trace step' (start.map f) (l.map f) := by
  induction h with
  | nil => exact .nil
  | cons _ ih =>
    obtain ⟨ha, hl⟩ := List.forall_mem_cons.1 hl
    refine .cons ?_
    rw [ha]
    exact ih hl

theorem mem_iff {a b : NodeId} {l : List NodeId} (h : Trace step (step a) l) :
    b ∈ l ↔ Relation.TransGen (fun x y => step x = some y) a b := by
  constructor
  · intro hb
    generalize hs : step a = start at h
    induction h generalizing a with
    | nil => cases hb
    | @cons c l rest ih =>
      rcases List.mem_cons.1 hb with rfl | hb
      · exact .single hs
      · exact .head hs (ih hb rfl)
  · intro hab
    induction hab with
    | single hs =>
      rw [hs] at h
      cases h
      simp
    | tail _ hs ih => exact h.step_mem ih hs

/-- A chain goes on until a step leads nowhere. -/
theorem step_getLast {start : Option NodeId} {l : List NodeId} (h : Trace step start l) (hl : l ≠ []) :
    step (l.getLast hl) = none := by
  induction h with
  | nil => exact absurd rfl hl
  | @cons a l rest ih =>
    cases l with
    | nil =>
      rw [List.getLast_singleton]
      cases hs : step a with
      | none => rfl
      | some b => rw [hs] at rest; cases rest
    | cons b l =>
      rw [List.getLast_cons (List.cons_ne_nil _ _)]
      exact ih _

/-- A list without repeats, of numbers below `n`, is no longer than `n`. -/
theorem length_le_of_nodup {l : List Nat} {n : Nat} (hl : l.Nodup) (hn : ∀ a ∈ l, a < n) :
    l.length ≤ n := by
  have := (List.subperm_of_subset hl fun a ha => List.mem_range.2 (hn a ha)).length_le
  simpa using this

section Ranked

variable {rank : NodeId → Nat} (hrank : ∀ a b, step a = some b → rank b < rank a)

include hrank

theorem rank_le {start : NodeId} {l : List NodeId} (h : Trace step (some start) l) :
    ∀ id ∈ l, rank id ≤ rank start := by
  induction l generalizing start with
  | nil => simp
  | cons a l ih =>
    cases h with
    | cons rest =>
      intro id hid
      rcases List.mem_cons.1 hid with rfl | hid
      · exact Nat.le_refl _
      · cases hs : step a with
        | none =>
          rw [hs] at rest
          cases rest
          cases hid
        | some b =>
          rw [hs] at rest
          exact Nat.le_trans (ih rest id hid) (Nat.le_of_lt (hrank _ _ hs))

theorem nodup {start : Option NodeId} {l : List NodeId} (h : Trace step start l) : l.Nodup := by
  induction h with
  | nil => exact List.nodup_nil
  | @cons a l rest ih =>
    refine List.nodup_cons.2 ⟨fun ha => ?_, ih⟩
    cases hs : step a with
    | none =>
      rw [hs] at rest
      cases rest
      cases ha
    | some b =>
      rw [hs] at rest
      exact absurd (rank_le hrank rest a ha) (Nat.not_le_of_lt (hrank _ _ hs))

theorem exists_of_rank (start : Option NodeId) : ∃ l, Trace step start l := by
  cases start with
  | none => exact ⟨[], .nil⟩
  | some id =>
    induction h : rank id using Nat.strongRecOn generalizing id with
    | _ n ih =>
      cases hs : step id with
      | none => exact ⟨[id], .cons (hs ▸ .nil)⟩
      | some next =>
        obtain ⟨l, hl⟩ := ih _ (h ▸ hrank _ _ hs) next rfl
        exact ⟨id :: l, .cons (hs ▸ hl)⟩

/-- A chain that stays below `n` is not cut off after `n` steps. -/
theorem of_follow {n : Nat} {start : Option NodeId} (hstart : ∀ id, start = some id → id < n)
    (hstep : ∀ a b, step a = some b → b < n) : Trace step start (follow step n start) := by
  obtain ⟨l, hl⟩ := exists_of_rank hrank start
  have hlt : ∀ id ∈ l, id < n := by
    intro id hid
    rcases hl.exists_step hid with hs | ⟨a, -, hs⟩
    · exact hstart id hs
    · exact hstep a id hs
  rw [hl.follow_eq (length_le_of_nodup (hl.nodup hrank) hlt)]
  exact hl

end Ranked

end Trace

end Umbra
