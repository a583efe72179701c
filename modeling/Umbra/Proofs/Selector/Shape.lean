import Umbra.Proofs.Outcome
import Umbra.Proofs.Selector.Name
import Umbra.Selector.Reader

/-!
# The shape of what is read

A selector that was read has no empty list, compound or name anywhere, a type or universal selector
stands first in its compound, the names of types and attributes are in lower case, and every
pseudo-class is allowed.
-/

namespace Umbra.Selector

open Text

/-- The names of types and of attributes. -/
def IsLowered (name : String) : Prop := name ≠ "" ∧ asciiLowered name = name

def SimpleSelector.isHead : SimpleSelector → Bool
  | .type _ => true
  | .universal => true
  | _ => false

mutual

def SimpleSelector.Shaped (allows : PseudoClassName → Bool) : SimpleSelector → Prop
  | .type name => IsLowered name
  | .universal => True
  | .id name => name ≠ ""
  | .className name => name ≠ ""
  | .attribute predicate => IsLowered predicate.name
  | .pseudo pseudoClass => allows pseudoClass.name = true ∧ pseudoClass.Shaped allows

def PseudoClass.Shaped (allows : PseudoClassName → Bool) : PseudoClass → Prop
  | .not alternatives => alternatives ≠ [] ∧ shapedList allows alternatives
  | _ => True

/-- The conditions behind the head of a compound. -/
def shapedConditions (allows : PseudoClassName → Bool) : List SimpleSelector → Prop
  | [] => True
  | s :: rest => s.isHead = false ∧ s.Shaped allows ∧ shapedConditions allows rest

def shapedCompound (allows : PseudoClassName → Bool) : List SimpleSelector → Prop
  | [] => False
  | s :: rest => s.Shaped allows ∧ shapedConditions allows rest

def ComplexSelector.Shaped (allows : PseudoClassName → Bool) : ComplexSelector → Prop
  | .compound subject => shapedCompound allows subject
  | .link subject _ left => shapedCompound allows subject ∧ left.Shaped allows

def shapedList (allows : PseudoClassName → Bool) : List ComplexSelector → Prop
  | [] => True
  | c :: rest => c.Shaped allows ∧ shapedList allows rest

end

variable {allows : PseudoClassName → Bool}

theorem shapedList_iff {alternatives : List ComplexSelector} :
    shapedList allows alternatives ↔ ∀ c ∈ alternatives, c.Shaped allows := by
  induction alternatives with
  | nil => simp [shapedList]
  | cons c rest ih => rw [shapedList, ih, List.forall_mem_cons]

theorem shapedConditions_iff {conditions : List SimpleSelector} :
    shapedConditions allows conditions ↔ ∀ s ∈ conditions, s.isHead = false ∧ s.Shaped allows := by
  induction conditions with
  | nil => simp [shapedConditions]
  | cons s rest ih => rw [shapedConditions, ih, List.forall_mem_cons, and_assoc]

/-! ## Names -/

theorem readName_ne_nil {s : List Char} (h : continues s = true) : (readName s).1 ≠ [] := by
  cases s with
  | nil => cases h
  | cons c t =>
    rw [continues, List.head?_cons, Option.any_some, Bool.or_eq_true] at h
    rw [readName]
    split
    · exact List.cons_ne_nil _ _
    · rename_i hc
      rw [if_pos (h.resolve_left hc)]
      exact List.cons_ne_nil _ _

theorem ofList_ne_empty {s : List Char} (h : s ≠ []) : String.ofList s ≠ "" := by
  intro he
  have hs := congrArg String.toList he
  rw [String.toList_ofList] at hs
  exact h hs

theorem expectName_ne_empty {expected : Expected} {s rest : List Char} {name : String}
    (h : expectName expected s = .ok (name, rest)) : name ≠ "" := by
  rw [expectName] at h
  split at h
  · rename_i hc
    obtain ⟨rfl, -⟩ := Prod.mk.inj (Except.ok.inj h)
    exact ofList_ne_empty (readName_ne_nil hc)
  · cases h

theorem isLowered_ofList {s : List Char} (h : s ≠ []) : IsLowered (String.ofList (asciiLower s)) := by
  refine ⟨ofList_ne_empty ?_, ?_⟩
  · simpa [asciiLower] using h
  · rw [asciiLowered, String.toList_ofList, asciiLower_asciiLower]

/-! ## Readers -/

/-- What every step gives holds of everything that is read. -/
theorem forall_readMany {α : Type} {P : α → Prop} {step : List Char → Read (Option (α × List Char))}
    (hstep : ∀ s a r, step s = .ok (some (a, r)) → P a) {s t : List Char} {as : List α}
    (h : readMany step s = .ok (as, t)) : ∀ a ∈ as, P a := by
  fun_induction readMany step s generalizing as t with
  | case1 => cases h
  | case2 s hs =>
    cases h
    simp
  | case3 => cases h
  | case4 s a r hs hlt as' t' hr ih =>
    cases h
    exact List.forall_mem_cons.2 ⟨hstep s a r hs, ih hr⟩
  | case5 s a r hs hlt =>
    cases h
    simpa using hstep s a r hs

theorem isLowered_make {name : List Char} (h : name ≠ []) (test : AttributeTest) :
    IsLowered (AttributePredicate.make (String.ofList name) test).name := by
  rw [AttributePredicate.make, asciiLowered, String.toList_ofList]
  exact isLowered_ofList h

theorem isLowered_readAttribute {s rest : List Char} {p : AttributePredicate}
    (h : readAttribute s = .ok (p, rest)) : IsLowered p.name := by
  rw [readAttribute] at h
  split at h
  · cases h
  · rename_i hstart
    rw [Bool.not_eq_true', Bool.not_eq_false] at hstart
    have hname := readName_ne_nil (continues_of_atName hstart)
    split at h
    rename_i name afterName hread
    rw [hread] at hname
    split at h
    · cases h
    · cases h
      exact isLowered_make hname _
    · simp only [bind_eq_ok, Prod.exists] at h
      obtain ⟨operator, afterOperator, -, value, afterValue, -, mode, afterMode, -, h⟩ := h
      split at h
      · cases h
      · cases h
        exact isLowered_make hname _
      · cases h

section Inner

variable {inner : List Char → Read SelectorList}
  (hinner : ∀ t alternatives, inner t = .ok alternatives →
    alternatives ≠ [] ∧ shapedList allows alternatives)

include hinner

theorem shaped_readPseudoClass {s rest : List Char} {p : PseudoClass}
    (h : readPseudoClass inner allows s = .ok (p, rest)) :
    allows p.name = true ∧ p.Shaped allows := by
  unfold readPseudoClass at h
  split at h
  · cases h
  · simp only [bind_eq_ok, Prod.exists] at h
    obtain ⟨written, t, -, h⟩ := h
    split at h
    · cases h
    · rename_i name hname
      have hallowed : allows name = true := (Option.filter_eq_some_iff.1 hname).2
      split at h
      · split at h
        · simp only [bind_eq_ok, Prod.exists] at h
          obtain ⟨positions, r, -, h⟩ := h
          cases h
          exact ⟨hallowed, trivial⟩
        · simp only [bind_eq_ok, Prod.exists] at h
          obtain ⟨positions, r, -, h⟩ := h
          cases h
          exact ⟨hallowed, trivial⟩
        · simp only [bind_eq_ok, Prod.exists] at h
          obtain ⟨argument, r, -, alternatives, hread, h⟩ := h
          cases h
          exact ⟨hallowed, hinner argument alternatives (Read.within_eq_ok.1 hread)⟩
        · cases h
      · split at h <;> first
          | (cases h; exact ⟨hallowed, trivial⟩)
          | cases h

theorem shaped_readCondition {s rest : List Char} {c : SimpleSelector}
    (h : readCondition inner allows s = .ok (some (c, rest))) :
    c.isHead = false ∧ c.Shaped allows := by
  unfold readCondition at h
  split at h
  · simp only [bind_eq_ok, Prod.exists] at h
    obtain ⟨name, r, hread, h⟩ := h
    cases h
    exact ⟨rfl, expectName_ne_empty hread⟩
  · simp only [bind_eq_ok, Prod.exists] at h
    obtain ⟨name, r, hread, h⟩ := h
    cases h
    exact ⟨rfl, expectName_ne_empty hread⟩
  · simp only [bind_eq_ok, Prod.exists] at h
    obtain ⟨predicate, r, hread, h⟩ := h
    cases h
    exact ⟨rfl, isLowered_readAttribute hread⟩
  · simp only [bind_eq_ok, Prod.exists] at h
    obtain ⟨pseudoClass, r, hread, h⟩ := h
    cases h
    exact ⟨rfl, shaped_readPseudoClass hinner hread⟩
  · cases h
  · cases h

omit hinner in
theorem shaped_readHead (s : List Char) :
    (readHead s).1 = [] ∨ ∃ head, (readHead s).1 = [head] ∧ head.Shaped allows := by
  unfold readHead
  split
  · exact Or.inr ⟨.universal, rfl, trivial⟩
  · split
    · rename_i hstart
      exact Or.inr ⟨_, rfl, isLowered_ofList (readName_ne_nil (continues_of_atName hstart))⟩
    · exact Or.inl rfl

theorem shaped_readCompound {s rest : List Char} {c : CompoundSelector}
    (h : readCompound inner allows s = .ok (c, rest)) : c = [] ∨ shapedCompound allows c := by
  simp only [readCompound, bind_eq_ok, Prod.exists] at h
  obtain ⟨conditions, r, hread, h⟩ := h
  cases h
  have hconditions := forall_readMany (P := fun c => c.isHead = false ∧ c.Shaped allows)
    (fun s a r h => shaped_readCondition hinner h) hread
  have hhead : (readHead s).1 = [] ∨ ∃ head, (readHead s).1 = [head] ∧ head.Shaped allows :=
    shaped_readHead s
  rcases hhead with hhead | ⟨head, hhead, hshaped⟩
  · rw [hhead, List.nil_append]
    cases conditions with
    | nil => exact Or.inl rfl
    | cons c rest =>
      obtain ⟨hc, hrest⟩ := List.forall_mem_cons.1 hconditions
      exact Or.inr ⟨hc.2, shapedConditions_iff.2 hrest⟩
  · rw [hhead]
    exact Or.inr ⟨hshaped, shapedConditions_iff.2 hconditions⟩

theorem shaped_readStep {s rest : List Char} {step : Combinator × CompoundSelector}
    (h : readStep inner allows s = .ok (some (step, rest))) : shapedCompound allows step.2 := by
  simp only [readStep, bind_eq_ok] at h
  obtain ⟨next, -, h⟩ := h
  split at h
  · cases h
  · simp only [bind_eq_ok, Prod.exists] at h
    obtain ⟨compound, r, hread, h⟩ := h
    split at h
    · cases h
    · rename_i hne
      cases h
      exact (shaped_readCompound hinner hread).resolve_left (by simpa using hne)

omit hinner in
theorem shaped_foldl_extend {steps : List (Combinator × CompoundSelector)} {c : ComplexSelector}
    (hc : c.Shaped allows) (hsteps : ∀ step ∈ steps, shapedCompound allows step.2) :
    (steps.foldl .extend c).Shaped allows := by
  induction steps generalizing c with
  | nil => exact hc
  | cons step steps ih =>
    obtain ⟨hstep, hsteps⟩ := List.forall_mem_cons.1 hsteps
    exact ih ⟨hstep, hc⟩ hsteps

theorem shaped_readComplex {s : List Char} {c : ComplexSelector}
    (h : readComplex inner allows s = .ok c) : c.Shaped allows := by
  simp only [readComplex, bind_eq_ok, Prod.exists] at h
  obtain ⟨compound, r, hread, h⟩ := h
  split at h
  · cases h
  · rename_i hne
    simp only [bind_eq_ok, Prod.exists] at h
    obtain ⟨steps, t, hsteps, h⟩ := h
    cases h
    exact shaped_foldl_extend
      ((shaped_readCompound hinner hread).resolve_left (by simpa using hne))
      (forall_readMany (fun s a r h => shaped_readStep hinner h) hsteps)

end Inner

theorem splitTopLevel_ne_nil {sep s : List Char} {segments : List Segment}
    (h : splitTopLevel sep s = .ok segments) : segments ≠ [] := by
  rw [splitTopLevel] at h
  split at h
  · cases h
  · cases h
    exact List.cons_ne_nil _ _
  · split at h
    · split at h
      · cases h
      · cases h
        exact List.cons_ne_nil _ _
    · cases h
      exact List.cons_ne_nil _ _

/-- Everything that was read has the shape of a selector. -/
theorem shaped_readSelectorList {s : List Char} {alternatives : SelectorList}
    (h : readSelectorList allows s = .ok alternatives) :
    alternatives ≠ [] ∧ shapedList allows alternatives := by
  induction hn : s.length using Nat.strongRecOn generalizing s alternatives with
  | _ n ih =>
    rw [readSelectorList, readAlternatives, bind_eq_ok] at h
    obtain ⟨segments, hsegments, h⟩ := h
    have hread := mapM_eq_ok.1 h
    constructor
    · rintro rfl
      exact splitTopLevel_ne_nil hsegments (List.forall₂_nil_right_iff.1 hread)
    · refine shapedList_iff.2 fun c hc => ?_
      obtain ⟨segment, -, hsegment⟩ := exists_of_forall₂ hread hc
      refine shaped_readComplex (fun argument nested hargument => ?_) (Read.within_eq_ok.1 hsegment)
      split at hargument
      · rename_i hlt
        exact ih _ (hn ▸ hlt) hargument rfl
      · cases hargument

end Umbra.Selector
