import Umbra.Selector.Nth

/-!
# Positions as progressions

An index is one of the positions A·n + B just when A times some n = 0, 1, 2, … leads to it from B.
Between 32-bit numbers the difference, the remainder and the quotient that decide this fit in 64 bits:
a test that checks each of its steps never fails.
-/

namespace Umbra.Selector

/-- A division decides whether a number is a multiple by 0, 1, 2, …. -/
theorem tmod_tdiv_iff {a d : Int} (ha : a ≠ 0) :
    d.tmod a = 0 ∧ 0 ≤ d.tdiv a ↔ ∃ n : Nat, d = a * n := by
  constructor
  · rintro ⟨hmod, hdiv⟩
    have hd := Int.mul_tdiv_add_tmod d a
    rw [hmod, Int.add_zero] at hd
    exact ⟨(d.tdiv a).toNat, by rw [Int.toNat_of_nonneg hdiv, hd]⟩
  · rintro ⟨n, rfl⟩
    rw [Int.mul_tdiv_cancel_left _ ha]
    exact ⟨Int.mul_tmod_right a n, Int.natCast_nonneg n⟩

section Wide

variable (i j : Int32)

theorem toInt_difference : (i.toInt64 - j.toInt64).toInt = i.toInt - j.toInt := by
  have hi := i.minValue_le_toInt
  have hi' := i.toInt_le
  have hj := j.minValue_le_toInt
  have hj' := j.toInt_le
  simp only [Int32.toInt_minValue, Int32.toInt_maxValue] at hi hi' hj hj'
  rw [Int64.toInt_sub, Int32.toInt_toInt64, Int32.toInt_toInt64]
  apply Int.bmod_eq_of_le <;> omega

theorem difference_ne_minValue : i.toInt64 - j.toInt64 ≠ Int64.minValue := by
  intro h
  have hd := toInt_difference i j
  have hi := i.minValue_le_toInt
  have hj' := j.toInt_le
  rw [h] at hd
  simp only [Int32.toInt_minValue, Int32.toInt_maxValue, Int64.toInt_minValue] at hi hj' hd
  omega

end Wide

/-- The positions that are tested for are those that the expression denotes. -/
theorem Nth.holds_iff (p : Nth) (index : Int32) :
    p.holds index = true ↔ ∃ n : Nat, index.toInt = p.step.toInt * n + p.first.toInt := by
  unfold Nth.holds
  by_cases hstep : p.step = 0
  · rw [if_pos hstep, beq_iff_eq, hstep, ← Int32.toInt_inj]
    simp
  · have ha : p.step.toInt ≠ 0 := fun h => hstep (Int32.toInt_inj.1 h)
    rw [if_neg hstep, Bool.and_eq_true, beq_iff_eq, decide_eq_true_eq, ← Int64.toInt_inj,
      Int64.le_iff_toInt_le, Int64.toInt_mod,
      Int64.toInt_div_of_ne_left _ _ (difference_ne_minValue index p.first), toInt_difference,
      Int32.toInt_toInt64]
    refine (tmod_tdiv_iff ha).trans (exists_congr fun n => ?_)
    omega

/-! ## Checked steps -/

/-- A number, if it fits in 64 bits. -/
def wide? (i : Int) : Option Int64 :=
  if Int64.minValue.toInt ≤ i ∧ i ≤ Int64.maxValue.toInt then some (Int64.ofInt i) else none

/-- The remainder and the quotient of a division towards zero, unless the divisor is zero or one of
them does not fit in 64 bits. -/
def divide? (i j : Int64) : Option (Int64 × Int64) :=
  if j = 0 then none
  else do return (← wide? (i.toInt.tmod j.toInt), ← wide? (i.toInt.tdiv j.toInt))

/-- The test of `Nth.holds` with its steps checked: it fails where something is divided by zero, and
where a difference, a remainder or a quotient does not fit in 64 bits. -/
def Nth.holds? (p : Nth) (index : Int32) : Option Bool :=
  if p.step = 0 then some (index == p.first)
  else do
    let difference ← wide? (index.toInt64.toInt - p.first.toInt64.toInt)
    let (remainder, quotient) ← divide? difference p.step.toInt64
    return remainder == 0 && 0 ≤ quotient

theorem wide?_toInt (i : Int64) : wide? i.toInt = some i := by
  rw [wide?, if_pos ⟨i.minValue_le_toInt, i.toInt_le⟩, Int64.ofInt_toInt]

/-- Only the quotient of the least number by -1 does not fit in 64 bits. -/
theorem divide?_eq {i j : Int64} (hj : j ≠ 0) (hi : i ≠ Int64.minValue) :
    divide? i j = some (i % j, i / j) := by
  rw [divide?, if_neg hj, ← Int64.toInt_mod, ← Int64.toInt_div_of_ne_left _ _ hi, wide?_toInt,
    wide?_toInt]
  rfl

theorem toInt64_ne_zero {i : Int32} (hi : i ≠ 0) : i.toInt64 ≠ 0 := by
  intro h
  apply hi
  rw [← Int32.toInt_inj, ← Int32.toInt_toInt64, h]
  rfl

theorem Nth.holds?_eq (p : Nth) (index : Int32) : p.holds? index = some (p.holds index) := by
  unfold holds? holds
  by_cases hstep : p.step = 0
  · rw [if_pos hstep, if_pos hstep]
  · have hdifference : wide? (index.toInt64.toInt - p.first.toInt64.toInt) =
        some (index.toInt64 - p.first.toInt64) := by
      rw [Int32.toInt_toInt64, Int32.toInt_toInt64, ← toInt_difference, wide?_toInt]
    have hdivide := divide?_eq (toInt64_ne_zero hstep) (difference_ne_minValue index p.first)
    rw [if_neg hstep, if_neg hstep, hdifference]
    simp only [Option.bind_eq_bind, Option.bind_some, hdivide]
    rfl

/-- An index is tested for being A·n + B with some n = 0, 1, 2, …, and no step of the test fails: the
difference, the remainder and the quotient in 64 bits are those of the integers, and what is divided
by is not zero. -/
theorem Nth.holds_progression (p : Nth) (index : Int32) :
    (p.holds index = true ↔ ∃ n : Nat, p.step.toInt * n + p.first.toInt = index.toInt) ∧
    p.holds? index = some (p.holds index) ∧
    (index.toInt64 - p.first.toInt64).toInt = index.toInt - p.first.toInt ∧
    (p.step ≠ 0 → p.step.toInt64 ≠ 0 ∧
      ((index.toInt64 - p.first.toInt64) % p.step.toInt64).toInt =
        (index.toInt - p.first.toInt).tmod p.step.toInt ∧
      ((index.toInt64 - p.first.toInt64) / p.step.toInt64).toInt =
        (index.toInt - p.first.toInt).tdiv p.step.toInt) := by
  refine ⟨?_, p.holds?_eq index, toInt_difference index p.first, fun hstep => ?_⟩
  · rw [p.holds_iff index]
    exact exists_congr fun n => eq_comm
  · refine ⟨toInt64_ne_zero hstep, ?_, ?_⟩
    · rw [Int64.toInt_mod, toInt_difference, Int32.toInt_toInt64]
    · rw [Int64.toInt_div_of_ne_left _ _ (difference_ne_minValue index p.first), toInt_difference,
        Int32.toInt_toInt64]

/-- By steps of -1 from the greatest number of 32 bits down to the least one. -/
theorem Nth.holds_progression_extreme :
    (∃ n : Nat, (-1 : Int32).toInt * n + Int32.maxValue.toInt = Int32.minValue.toInt) ∧
    (Nth.mk (-1) Int32.maxValue).holds? Int32.minValue = some true ∧ (-1 : Int32).toInt64 ≠ 0 ∧
    ((Int32.minValue.toInt64 - Int32.maxValue.toInt64) / (-1 : Int32).toInt64).toInt = 4294967295 := by
  have hholds : (Nth.mk (-1) Int32.maxValue).holds Int32.minValue = true := by decide
  obtain ⟨hiff, hchecked, -, hsteps⟩ :=
    Nth.holds_progression (Nth.mk (-1) Int32.maxValue) Int32.minValue
  obtain ⟨hne, -, hquotient⟩ := hsteps (by decide)
  exact ⟨hiff.1 hholds, by rw [hchecked, hholds], hne, by rw [hquotient]; decide⟩

end Umbra.Selector
