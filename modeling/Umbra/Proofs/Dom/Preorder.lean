import Umbra.Dom.Walk
import Mathlib.Data.List.Basic
import Mathlib.Data.List.Flatten
import Mathlib.Logic.Relation

/-!
# Pre-order

Pre-order over any way to say what lies directly below a node. When that leads ever deeper and no
deeper than `n`, the bound `n` on the levels cuts nothing off: the walk satisfies its own recursion
equation, and there is an induction from the bottom up. `InPreorder` is pre-order without a bound.
-/

namespace Umbra

variable {kids : NodeId → List NodeId} {n : Nat}

/-- The nodes below a node in pre-order, at most `n` levels down. -/
def preorder (kids : NodeId → List NodeId) : Nat → NodeId → List NodeId
  | 0, _ => []
  | n + 1, id => (kids id).flatMap fun c => c :: preorder kids n c

theorem Dom.below_eq_preorder (d : Dom) (pierce : Bool) :
    d.below pierce = preorder (d.inner pierce) := by
  funext n
  induction n with
  | zero => rfl
  | succ n ih =>
    funext id
    rw [below, preorder, ih]

/-- `l` lists a forest in pre-order: a node, then what lies in it, then the rest of the forest. -/
inductive InPreorder (kids : NodeId → List NodeId) : List NodeId → List NodeId → Prop
  | nil : InPreorder kids [] []
  | cons {c : NodeId} {forest inside beside : List NodeId}
      (first : InPreorder kids (kids c) inside) (others : InPreorder kids forest beside) :
      InPreorder kids (c :: forest) (c :: (inside ++ beside))

theorem InPreorder.unique {forest l l' : List NodeId} (h : InPreorder kids forest l)
    (h' : InPreorder kids forest l') : l = l' := by
  induction h generalizing l' with
  | nil => cases h'; rfl
  | cons _ _ ihFirst ihOthers =>
    cases h' with
    | cons first others => rw [ihFirst first, ihOthers others]

theorem InPreorder.flatMap {below : NodeId → List NodeId} {forest : List NodeId}
    (h : ∀ c ∈ forest, InPreorder kids (kids c) (below c)) :
    InPreorder kids forest (forest.flatMap fun c => c :: below c) := by
  induction forest with
  | nil => exact .nil
  | cons c forest ih =>
    obtain ⟨hc, hforest⟩ := List.forall_mem_cons.1 h
    rw [List.flatMap_cons, List.cons_append]
    exact .cons hc (ih hforest)

/-- Everything is at most `n` levels deep. -/
def Layered (kids : NodeId → List NodeId) (n : Nat) : Prop :=
  ∃ depth : NodeId → Nat, ∀ a c, c ∈ kids a → depth a < depth c ∧ depth c ≤ n

namespace Layered

variable (h : Layered kids n)

include h

/-- What holds of a node when it holds of all that lies directly below it holds of every node. -/
theorem induction {P : NodeId → Prop} (step : ∀ a, (∀ c ∈ kids a, P c) → P a) (a : NodeId) : P a := by
  obtain ⟨depth, hdepth⟩ := h
  induction hk : n - depth a using Nat.strongRecOn generalizing a with
  | _ k ih =>
    apply step
    intro c hc
    obtain ⟨hlt, hle⟩ := hdepth a c hc
    exact ih (n - depth c) (by omega) c rfl

theorem preorder_eq (a : NodeId) :
    preorder kids n a = (kids a).flatMap fun c => c :: preorder kids n c := by
  obtain ⟨depth, hdepth⟩ := h
  -- a bound that reaches the bottom from `a` may be raised
  have stable : ∀ k a, n ≤ depth a + k → ∀ m, k ≤ m → preorder kids m a = preorder kids k a := by
    intro k
    induction k with
    | zero =>
      intro a ha m _
      have hnil : kids a = [] := by
        rw [List.eq_nil_iff_forall_not_mem]
        intro c hc
        obtain ⟨hlt, hle⟩ := hdepth a c hc
        omega
      cases m with
      | zero => rfl
      | succ m => simp [preorder, hnil]
    | succ k ih =>
      intro a ha m hm
      cases m with
      | zero => omega
      | succ m =>
        rw [preorder, preorder]
        refine List.flatMap_congr fun c hc => ?_
        obtain ⟨hlt, _⟩ := hdepth a c hc
        rw [ih c (by omega) m (by omega)]
  exact (stable n a (Nat.le_add_left _ _) (n + 1) (Nat.le_succ n)).symm

theorem inPreorder (a : NodeId) : InPreorder kids (kids a) (preorder kids n a) := by
  induction a using h.induction with
  | step a ih =>
    rw [h.preorder_eq]
    exact .flatMap ih

theorem mem_preorder {a x : NodeId} :
    x ∈ preorder kids n a ↔ Relation.TransGen (fun b c => c ∈ kids b) a x := by
  induction a using h.induction with
  | step a ih =>
    rw [h.preorder_eq, List.mem_flatMap]
    constructor
    · rintro ⟨c, hc, hx⟩
      rcases List.mem_cons.1 hx with rfl | hx
      · exact .single hc
      · exact .head hc ((ih c hc).1 hx)
    · intro hx
      rcases Relation.TransGen.head'_iff.1 hx with ⟨c, hc, hcx⟩
      refine ⟨c, hc, List.mem_cons.2 ?_⟩
      rcases Relation.reflTransGen_iff_eq_or_transGen.1 hcx with rfl | hcx
      · exact Or.inl rfl
      · exact Or.inr ((ih c hc).2 hcx)

end Layered

end Umbra
