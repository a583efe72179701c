import Umbra.Proofs.Text.Collapse
import Umbra.Text.Casing.Lowercase
import Mathlib.Data.Nat.Bitwise

/-!
# Lower-case texts

The characters of a lower-case text are their own lower-case forms, so lowering a text again changes
nothing, and lowering keeps the white space of a collapsed text. That no lower-case form is mapped
itself is seen by comparing the mapped code points and their images as sets of bits.
-/

namespace Umbra.Text

/-! ## Numbers as sets of bits -/

/-- A list of numbers as the bits of one number. -/
def bitSet (ns : List Nat) : Nat := ns.foldr (fun n bits => Nat.lor (Nat.shiftLeft 1 n) bits) 0

theorem testBit_bitSet {n : Nat} {ns : List Nat} (h : n ∈ ns) : (bitSet ns).testBit n = true := by
  induction ns with
  | nil => cases h
  | cons m ns ih =>
    have hor : bitSet (m :: ns) = 1 <<< m ||| bitSet ns := rfl
    rw [hor, Nat.testBit_or, Bool.or_eq_true]
    rcases List.mem_cons.1 h with rfl | h
    · exact Or.inl (by simp)
    · exact Or.inr (ih h)

theorem not_mem_of_bitSet {ns ms : List Nat} (h : Nat.land (bitSet ns) (bitSet ms) = 0) {n : Nat}
    (hn : n ∈ ns) : n ∉ ms := by
  intro hm
  have hand : bitSet ns &&& bitSet ms = 0 := h
  have hbit := congrArg (fun bits => bits.testBit n) hand
  simp [Nat.testBit_and, testBit_bitSet hn, testBit_bitSet hm] at hbit

/-! ## The mapping -/

theorem mem_pairs {r : Unicode.CaseRun} {n : Nat} (h : r.covers n = true) :
    (n, r.imageOf n) ∈ r.pairs := by
  simp only [Unicode.CaseRun.covers, Bool.and_eq_true, decide_eq_true_eq, beq_iff_eq] at h
  obtain ⟨⟨hfirst, hlast⟩, hstep⟩ := h
  have hplace : (n - r.first) / r.step * r.step = n - r.first :=
    Nat.div_mul_cancel (Nat.dvd_of_mod_eq_zero hstep)
  refine List.mem_map.2 ⟨(n - r.first) / r.step, List.mem_range.2 (Nat.lt_succ_of_le ?_), ?_⟩
  · exact Nat.div_le_div_right (Nat.sub_le_sub_right hlast _)
  · rw [hplace, Unicode.CaseRun.imageOf, Nat.add_sub_cancel' hfirst]

/-- The blank code points. -/
def blankCodePoints : List Nat :=
  List.range' 9 5 ++ [0x20, 0x85, 0xA0, 0x1680] ++ List.range' 0x2000 11 ++
    [0x2028, 0x2029, 0x202F, 0x205F, 0x3000]

theorem mem_blankCodePoints {c : Char} (h : isBlank c = true) : c.toNat ∈ blankCodePoints := by
  simp only [isBlank, Bool.or_eq_true, Bool.and_eq_true, decide_eq_true_eq, beq_iff_eq] at h
  simp only [blankCodePoints, List.mem_append, List.mem_range'_1, List.mem_cons, List.not_mem_nil]
  omega

/-- The code points that lowering maps, with their images. -/
def lowerings : List (Nat × Nat) := lowercaseRuns.flatMap Unicode.CaseRun.pairs

/-- The code points that no image has: the mapped ones, `İ`, and the blank ones. -/
def unlowered : List Nat := 0x130 :: blankCodePoints ++ lowerings.map Prod.fst

theorem mem_lowerings {n : Nat} {r : Unicode.CaseRun}
    (h : (lowercaseRuns.find? fun r => r.covers n) = some r) : (n, r.imageOf n) ∈ lowerings := by
  have hcovers : r.covers n = true := by simpa using List.find?_some h
  exact List.mem_flatMap.2 ⟨r, List.mem_of_find?_eq_some h, mem_pairs hcovers⟩

theorem not_mem_unlowered {n : Nat} (h : n ∈ lowerings.map Prod.snd) : n ∉ unlowered :=
  not_mem_of_bitSet
    (by decide +kernel : Nat.land (bitSet (lowerings.map Prod.snd)) (bitSet unlowered) = 0) h

theorem isValidChar_of_lowerings {n : Nat} (h : n ∈ lowerings.map Prod.snd) : n.isValidChar := by
  have hall : (lowerings.map Prod.snd).all
      (fun n => n < 0xD800 || (0xE000 ≤ n && n < 0x110000)) = true := by decide +kernel
  have hn := List.all_eq_true.1 hall n h
  simp only [Bool.or_eq_true, Bool.and_eq_true, decide_eq_true_eq] at hn
  simp only [Nat.isValidChar]
  omega

/-! ## Lower-case characters -/

/-- What lowering leaves alone, wherever it stands. -/
structure IsLower (c : Char) : Prop where
  ne_sigma : c ≠ 'Σ'
  ne_dotted : c ≠ 'İ'
  lowerSimple_eq : lowerSimple c = c

theorem isLower_of_lowerings {c : Char} (h : c.toNat ∈ lowerings.map Prod.snd) : IsLower c := by
  have hnot := not_mem_unlowered h
  refine ⟨?_, ?_, ?_⟩
  · rintro rfl
    exact hnot (by decide +kernel)
  · rintro rfl
    exact hnot (List.mem_cons_self ..)
  · rw [lowerSimple]
    cases hfind : lowercaseRuns.find? fun r => r.covers c.toNat with
    | none => rfl
    | some r =>
      have hmem := List.mem_map_of_mem (f := Prod.fst) (mem_lowerings hfind)
      exact absurd (List.mem_append_right _ hmem) hnot

theorem not_isBlank_of_lowerings {c : Char} (h : c.toNat ∈ lowerings.map Prod.snd) :
    isBlank c = false := by
  rw [← Bool.not_eq_true]
  intro hc
  exact not_mem_unlowered h
    (List.mem_cons_of_mem _ (List.mem_append_left _ (mem_blankCodePoints hc)))

/-- Lowering leaves a character alone or gives the image of a mapped one. -/
theorem lowerSimple_cases (c : Char) :
    lowerSimple c = c ∨ (lowerSimple c).toNat ∈ lowerings.map Prod.snd := by
  rw [lowerSimple]
  cases h : lowercaseRuns.find? fun r => r.covers c.toNat with
  | none => exact Or.inl rfl
  | some r =>
    have hmem := List.mem_map_of_mem (f := Prod.snd) (mem_lowerings h)
    have hchar : Char.ofNat (r.imageOf c.toNat) =
        Char.ofNatAux _ (isValidChar_of_lowerings hmem) := dif_pos _
    have himage : (Char.ofNat (r.imageOf c.toNat)).toNat = r.imageOf c.toNat :=
      congrArg Char.toNat hchar
    exact Or.inr (himage ▸ hmem)

theorem isLower_lowerIn {before after : List Char} {c x : Char} (hx : x ∈ lowerIn before c after) :
    IsLower x := by
  have hsigma : IsLower 'ς' ∧ IsLower 'σ' := by
    constructor <;> exact ⟨by decide, by decide, by decide +kernel⟩
  have hdotted : IsLower 'i' ∧ IsLower '\u0307' := by
    constructor <;> exact ⟨by decide, by decide, by decide +kernel⟩
  rw [lowerIn] at hx
  split at hx
  · rw [List.mem_singleton] at hx
    split at hx
    · exact hx ▸ hsigma.1
    · exact hx ▸ hsigma.2
  · rename_i hne
    split at hx
    · simp only [List.mem_cons, List.not_mem_nil, or_false] at hx
      rcases hx with rfl | rfl
      · exact hdotted.1
      · exact hdotted.2
    · rename_i hne'
      rw [List.mem_singleton] at hx
      subst hx
      rcases lowerSimple_cases c with h | h
      · exact ⟨by rwa [h], by rwa [h], by rw [h, h]⟩
      · exact isLower_of_lowerings h

theorem isWord_lowerIn (before after : List Char) {c : Char} (hc : isBlank c = false) :
    IsWord (lowerIn before c after) := by
  rw [lowerIn]
  split
  · refine ⟨List.cons_ne_nil _ _, ?_⟩
    split <;> exact List.forall_mem_singleton.2 (by decide)
  · split
    · refine ⟨List.cons_ne_nil _ _, List.forall_mem_cons.2 ⟨by decide, ?_⟩⟩
      exact List.forall_mem_singleton.2 (by decide)
    · refine ⟨List.cons_ne_nil _ _, List.forall_mem_singleton.2 ?_⟩
      rcases lowerSimple_cases c with h | h
      · rw [h, hc]
      · exact not_isBlank_of_lowerings h

theorem lowerIn_space (before after : List Char) : lowerIn before ' ' after = [' '] := by
  have h : lowerSimple ' ' = ' ' := by decide +kernel
  rw [lowerIn, if_neg (by decide), if_neg (by decide), h]

/-! ## Lower-case texts -/

theorem isLower_lowercaseFrom {before s : List Char} :
    ∀ c ∈ lowercaseFrom before s, IsLower c := by
  induction s generalizing before with
  | nil => simp [lowercaseFrom]
  | cons c s ih =>
    rw [lowercaseFrom, List.forall_mem_append]
    exact ⟨fun _ => isLower_lowerIn, ih⟩

theorem lowercaseFrom_of_isLower {before s : List Char} (h : ∀ c ∈ s, IsLower c) :
    lowercaseFrom before s = s := by
  induction s generalizing before with
  | nil => rfl
  | cons c s ih =>
    obtain ⟨hc, hs⟩ := List.forall_mem_cons.1 h
    rw [lowercaseFrom, ih hs, lowerIn, if_neg hc.ne_sigma, if_neg hc.ne_dotted, hc.lowerSimple_eq]
    rfl

theorem lowercase_lowercase (s : List Char) : lowercase (lowercase s) = lowercase s :=
  lowercaseFrom_of_isLower isLower_lowercaseFrom

theorem Collapsed.lowercaseFrom {s : List Char} (h : Collapsed s) (before : List Char) :
    Collapsed (lowercaseFrom before s) := by
  induction h generalizing before with
  | last hc =>
    rw [Text.lowercaseFrom, Text.lowercaseFrom, List.append_nil]
    exact (isWord_lowerIn _ _ hc).collapsed
  | next hc _ ih =>
    rw [Text.lowercaseFrom]
    exact (isWord_lowerIn _ _ hc).collapsed_append (ih _)
  | space hc _ ih =>
    rw [Text.lowercaseFrom, Text.lowercaseFrom, lowerIn_space]
    exact (isWord_lowerIn _ _ hc).collapsed_space (ih _)

/-- Lowering keeps a collapsed text collapsed. -/
theorem collapse_lowercase_collapse (s : List Char) :
    collapse (lowercase (collapse s)) = lowercase (collapse s) := by
  rcases collapse_cases s with h | h
  · rw [h]
    rfl
  · exact (h.lowercaseFrom []).collapse_eq

end Umbra.Text
