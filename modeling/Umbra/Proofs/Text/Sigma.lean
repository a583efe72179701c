import Umbra.Proofs.Text.Lowercase

/-!
# Lowering a part of a text

The lower-case form of a part is a part of the lower-case form of the text, but for its capital
sigmas: whether one is final depends on what stands around it, and that may lie outside the part.
-/

namespace Umbra.Text

/-- The lower-case form of a part, with `before` read backwards from it and `after` behind it. -/
def lowercaseWithin (before : List Char) : List Char → List Char → List Char
  | [], _ => []
  | c :: s, after => lowerIn before c (s ++ after) ++ lowercaseWithin (c :: before) s after

/-- Whether a sigma has its final form, with `before` read backwards from it. -/
def isFinal (before after : List Char) : Bool := meetsCased before && !meetsCased after

/-- Every sigma of a part has the form that it has in the part alone. -/
def SigmaKept (front s rest : List Char) : Prop :=
  ∀ u v, s = u ++ 'Σ' :: v →
    isFinal (u.reverse ++ front.reverse) (v ++ rest) = isFinal u.reverse v

section Parts

variable {before before' after after' front rest s t : List Char} {c : Char}

theorem lowerIn_sigma (before after : List Char) :
    lowerIn before 'Σ' after = [if isFinal before after then 'ς' else 'σ'] := rfl

theorem lowerIn_congr (hc : c ≠ 'Σ') : lowerIn before c after = lowerIn before' c after' := by
  rw [lowerIn, if_neg hc, lowerIn, if_neg hc]

theorem length_lowerIn (before after before' after' : List Char) (c : Char) :
    (lowerIn before c after).length = (lowerIn before' c after').length := by
  by_cases hc : c = 'Σ'
  · subst hc
    rfl
  · rw [lowerIn_congr hc]

theorem lowerIn_eq_iff : lowerIn before c after = lowerIn before' c after' ↔
    (c = 'Σ' → isFinal before after = isFinal before' after') := by
  by_cases hc : c = 'Σ'
  · subst hc
    rw [lowerIn_sigma, lowerIn_sigma]
    cases isFinal before after <;> cases isFinal before' after' <;> simp
  · exact ⟨fun _ h => absurd h hc, fun _ => lowerIn_congr hc⟩

theorem lowercaseFrom_append (before s t : List Char) : lowercaseFrom before (s ++ t) =
    lowercaseWithin before s t ++ lowercaseFrom (s.reverse ++ before) t := by
  induction s generalizing before with
  | nil => rfl
  | cons c s ih =>
    rw [List.cons_append, lowercaseFrom, ih, lowercaseWithin, List.append_assoc]
    simp

theorem lowercaseWithin_nil (before s : List Char) :
    lowercaseWithin before s [] = lowercaseFrom before s := by
  have h := lowercaseFrom_append before s []
  rw [lowercaseFrom, List.append_nil, List.append_nil] at h
  exact h.symm

theorem length_lowercaseWithin (before after before' after' s : List Char) :
    (lowercaseWithin before s after).length = (lowercaseWithin before' s after').length := by
  induction s generalizing before before' with
  | nil => rfl
  | cons c s ih =>
    rw [lowercaseWithin, lowercaseWithin, List.length_append, List.length_append,
      ih (c :: before) (c :: before'), length_lowerIn]

theorem lowercaseWithin_eq_iff : lowercaseWithin before s after = lowercaseWithin before' s after' ↔
    ∀ u v, s = u ++ 'Σ' :: v →
      isFinal (u.reverse ++ before) (v ++ after) = isFinal (u.reverse ++ before') (v ++ after') := by
  induction s generalizing before before' with
  | nil => simp [lowercaseWithin]
  | cons c s ih =>
    have hlength := length_lowerIn before (s ++ after) before' (s ++ after') c
    rw [lowercaseWithin, lowercaseWithin, List.append_eq_append_iff_of_size_eq_left hlength, ih,
      lowerIn_eq_iff]
    constructor
    · rintro ⟨hc, hs⟩ u v huv
      cases u with
      | nil =>
        obtain ⟨rfl, rfl⟩ := List.cons.inj huv
        exact hc rfl
      | cons d u =>
        obtain ⟨rfl, rfl⟩ := List.cons.inj huv
        simpa using hs u v rfl
    · intro h
      refine ⟨fun hc => h [] s (by rw [hc]; rfl), fun u v huv => ?_⟩
      simpa using h (c :: u) v (by rw [huv]; rfl)

/-- The part has its own lower-case form in the text just if every sigma of it has its own form. -/
theorem sigmaKept_iff :
    SigmaKept front s rest ↔ lowercaseWithin front.reverse s rest = lowercase s := by
  rw [lowercase, ← lowercaseWithin_nil, lowercaseWithin_eq_iff]
  simp only [SigmaKept, List.append_nil]

/-! ## Parts of a lower-case text -/

theorem eq_of_prefix_append {α : Type} {a b t : List α} (h : a <+: b ++ t)
    (hlength : a.length = b.length) : a = b := by
  obtain ⟨u, hu⟩ := h
  exact (List.append_inj hu hlength).1

theorem eq_of_suffix_append {α : Type} {a b t : List α} (h : a <:+ t ++ b)
    (hlength : a.length = b.length) : a = b := by
  obtain ⟨u, hu⟩ := h
  exact (List.append_inj' hu hlength).2

theorem length_lowercase (before after s : List Char) :
    (lowercase s).length = (lowercaseWithin before s after).length := by
  rw [lowercase, ← lowercaseWithin_nil]
  exact length_lowercaseWithin [] [] before after s

theorem lowercase_append (s rest : List Char) : lowercase (s ++ rest) =
    lowercaseWithin [] s rest ++ lowercaseFrom s.reverse rest := by
  rw [lowercase, lowercaseFrom_append, List.append_nil]

theorem SigmaKept.lowercase_append (h : SigmaKept [] s rest) :
    lowercase (s ++ rest) = lowercase s ++ lowercaseFrom s.reverse rest := by
  rw [Text.lowercase_append, ← sigmaKept_iff.1 h, List.reverse_nil]

/-- A text begins with the lower-case form of its beginning just if that keeps its sigmas. -/
theorem lowercase_prefix_iff :
    lowercase s <+: lowercase (s ++ rest) ↔ SigmaKept [] s rest := by
  constructor
  · intro h
    rw [lowercase_append] at h
    exact sigmaKept_iff.2 (eq_of_prefix_append h (length_lowercase [] rest s)).symm
  · intro h
    rw [h.lowercase_append]
    exact List.prefix_append _ _

/-- A text ends in the lower-case form of its end just if that keeps its sigmas. -/
theorem lowercase_suffix_iff :
    lowercase s <:+ lowercase (front ++ s) ↔ SigmaKept front s [] := by
  rw [sigmaKept_iff, lowercase_append, ← lowercaseWithin_nil]
  constructor
  · intro h
    exact (eq_of_suffix_append h (length_lowercase front.reverse [] s)).symm
  · intro h
    rw [h]
    exact List.suffix_append _ _

theorem SigmaKept.lowercase_infix (h : SigmaKept front s rest) :
    lowercase s <:+: lowercase (front ++ s ++ rest) := by
  rw [List.append_assoc, Text.lowercase_append, lowercaseFrom_append, sigmaKept_iff.1 h,
    ← List.append_assoc]
  exact List.infix_append _ _ _

/-! ## Where sigmas are kept -/

theorem SigmaKept.of_not_mem (h : 'Σ' ∉ s) : SigmaKept front s rest := by
  intro u v huv
  exact absurd (huv ▸ List.mem_append_right u List.mem_cons_self) h

theorem meetsCased_append (ht : meetsCased t = false) : meetsCased (s ++ t) = meetsCased s := by
  rw [meetsCased, List.dropWhile_append, meetsCased]
  cases hs : s.dropWhile isCaseIgnorable with
  | nil => exact ht
  | cons c s => rfl

/-- Nothing around the part has a case. -/
theorem SigmaKept.of_not_meetsCased (hfront : meetsCased front.reverse = false)
    (hrest : meetsCased rest = false) : SigmaKept front s rest := by
  intro u v _
  rw [isFinal, meetsCased_append hfront, meetsCased_append hrest, isFinal]

theorem meetsCased_cons (hignorable : isCaseIgnorable c = false) (hcased : isCased c = false)
    (s : List Char) : meetsCased (c :: s) = false := by
  rw [meetsCased, List.dropWhile_cons_of_neg (Bool.eq_false_iff.1 hignorable)]
  exact hcased

/-! ## Words -/

/-- White space has no case, and it is its own lower-case form. -/
theorem blank_spec (hc : isBlank c = true) :
    isCaseIgnorable c = false ∧ isCased c = false ∧ lowerSimple c = c := by
  have hall : ∀ n ∈ blankCodePoints, isCaseIgnorable (Char.ofNat n) = false ∧
      isCased (Char.ofNat n) = false ∧ lowerSimple (Char.ofNat n) = Char.ofNat n := by
    decide +kernel
  simpa using hall c.toNat (mem_blankCodePoints hc)

theorem lowerIn_blank (hc : isBlank c = true) (before after : List Char) :
    lowerIn before c after = [c] := by
  have hsigma : c ≠ 'Σ' := by
    rintro rfl
    cases hc
  have hdotted : c ≠ 'İ' := by
    rintro rfl
    cases hc
  rw [lowerIn, if_neg hsigma, if_neg hdotted, (blank_spec hc).2.2]

theorem not_isBlank_lowercaseFrom (hs : ∀ c ∈ s, isBlank c = false) (before : List Char) :
    ∀ c ∈ lowercaseFrom before s, isBlank c = false := by
  induction s generalizing before with
  | nil => exact hs
  | cons c s ih =>
    obtain ⟨hc, hs⟩ := List.forall_mem_cons.1 hs
    rw [lowercaseFrom, List.forall_mem_append]
    exact ⟨(isWord_lowerIn before s hc).2, ih hs (c :: before)⟩

theorem stretches_word {w : List Char} {v : List Char} {vs : List (List Char)}
    (hw : ∀ c ∈ w, isBlank c = false) (hs : stretches s = v :: vs) :
    stretches (w ++ s) = (w ++ v) :: vs := by
  induction w with
  | nil => exact hs
  | cons c w ih =>
    obtain ⟨hc, hw⟩ := List.forall_mem_cons.1 hw
    rw [List.cons_append, stretches, if_neg (by simp [hc]), ih hw]
    rfl

/-- Behind the first stretch comes the end or white space. -/
theorem exists_of_stretches {v : List Char} {vs : List (List Char)} (h : stretches s = v :: vs) :
    ∃ rest, s = v ++ rest ∧ meetsCased rest = false := by
  induction s generalizing v vs with
  | nil =>
    obtain ⟨rfl, -⟩ := List.cons.inj h
    exact ⟨[], rfl, rfl⟩
  | cons c s ih =>
    rw [stretches] at h
    split at h
    · rename_i hc
      obtain ⟨rfl, -⟩ := List.cons.inj h
      obtain ⟨hignorable, hcased, -⟩ := blank_spec hc
      exact ⟨c :: s, rfl, meetsCased_cons hignorable hcased s⟩
    · obtain ⟨w, ws, hs⟩ := List.exists_cons_of_ne_nil (stretches_ne_nil s)
      rw [hs] at h
      obtain ⟨rfl, -⟩ := List.cons.inj h
      obtain ⟨rest, rfl, hrest⟩ := ih hs
      exact ⟨rest, rfl, hrest⟩

theorem lowercaseFrom_of_not_meetsCased (hbefore : meetsCased before = false) (s : List Char) :
    lowercaseFrom before s = lowercase s := by
  have hkept : SigmaKept before.reverse s [] :=
    .of_not_meetsCased (by rwa [List.reverse_reverse]) rfl
  rw [← sigmaKept_iff.1 hkept, List.reverse_reverse, lowercaseWithin_nil]

/-- Lowering goes stretch by stretch. -/
theorem stretches_lowercaseFrom {v : List Char} {vs : List (List Char)}
    (h : stretches s = v :: vs) (before : List Char) :
    stretches (lowercaseFrom before s) = lowercaseFrom before v :: vs.map lowercase := by
  induction s generalizing v vs before with
  | nil =>
    obtain ⟨rfl, rfl⟩ := List.cons.inj h
    rfl
  | cons c s ih =>
    obtain ⟨w, ws, hs⟩ := List.exists_cons_of_ne_nil (stretches_ne_nil s)
    rw [stretches] at h
    split at h
    · rename_i hc
      obtain ⟨rfl, rfl⟩ := List.cons.inj h
      obtain ⟨hignorable, hcased, -⟩ := blank_spec hc
      have hbefore := meetsCased_cons hignorable hcased before
      have hlower : lowercaseFrom before (c :: s) = c :: lowercaseFrom (c :: before) s := by
        rw [lowercaseFrom, lowerIn_blank hc, List.singleton_append]
      rw [hlower, stretches, if_pos hc, ih hs, hs, lowercaseFrom_of_not_meetsCased hbefore]
      rfl
    · rename_i hc
      rw [hs] at h
      obtain ⟨rfl, rfl⟩ := List.cons.inj h
      obtain ⟨rest, rfl, hrest⟩ := exists_of_stretches hs
      have hlower : lowerIn before c (w ++ rest) = lowerIn before c w :=
        lowerIn_eq_iff.2 fun _ => by rw [isFinal, meetsCased_append hrest, isFinal]
      have hword := isWord_lowerIn before w (Bool.eq_false_iff.2 hc)
      rw [lowercaseFrom, hlower, stretches_word hword.2 (ih hs _), lowercaseFrom]

theorem isEmpty_lowercase (s : List Char) : (lowercase s).isEmpty = s.isEmpty := by
  cases s with
  | nil => rfl
  | cons c s =>
    rw [lowercase, lowercaseFrom, lowerIn]
    split
    · rfl
    · split <;> rfl

/-- Lowering goes word by word. -/
theorem words_lowercase (s : List Char) : words (lowercase s) = (words s).map lowercase := by
  obtain ⟨v, vs, hs⟩ := List.exists_cons_of_ne_nil (stretches_ne_nil s)
  have hstretches : stretches (lowercase s) = (stretches s).map lowercase := by
    rw [lowercase, stretches_lowercaseFrom hs, hs]
    rfl
  rw [words, words, hstretches, List.filter_map]
  congr 1
  exact List.filter_congr fun w _ => by rw [Function.comp, isEmpty_lowercase]

end Parts

end Umbra.Text
