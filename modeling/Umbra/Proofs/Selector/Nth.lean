import Umbra.Proofs.Text.Trim
import Umbra.Selector.Nth
import Mathlib.Data.List.TakeWhile

/-!
# Positions read back

Reading without regard to white space and case changes nothing in what is written: there are only
digits, signs and the `n`.
-/

namespace Umbra.Selector

open Text

/-! ## Numbers -/

theorem mem_digits {c : Char} (h : isAsciiDigit c = true) :
    c ∈ ['0', '1', '2', '3', '4', '5', '6', '7', '8', '9'] := by
  simp only [isAsciiDigit, Bool.and_eq_true, decide_eq_true_eq] at h
  have h0 : 48 ≤ c.toNat := h.1
  have h9 : c.toNat ≤ 57 := h.2
  rw [← Char.ofNat_toNat c]
  generalize c.toNat = n at h0 h9
  have : n = 48 ∨ n = 49 ∨ n = 50 ∨ n = 51 ∨ n = 52 ∨ n = 53 ∨ n = 54 ∨ n = 55 ∨ n = 56 ∨ n = 57 := by
    omega
  rcases this with rfl | rfl | rfl | rfl | rfl | rfl | rfl | rfl | rfl | rfl <;> decide

theorem isAsciiDigit_of_mem_toDigits {n : Nat} {c : Char} (h : c ∈ Nat.toDigits 10 n) :
    isAsciiDigit c = true := by
  have hd := Nat.isDigit_of_mem_toDigits (by decide) (by decide) h
  simp only [Char.isDigit, Bool.and_eq_true, decide_eq_true_eq] at hd
  simp only [isAsciiDigit, Bool.and_eq_true, decide_eq_true_eq]
  exact hd

theorem decimalValue_eq (digits : List Char) : decimalValue digits = Nat.ofDigitChars 10 digits 0 := by
  rw [decimalValue, Nat.ofDigitChars_eq_foldl]
  exact congrArg (fun f => List.foldl f 0 digits) (by funext n c; rw [Nat.mul_comm])

theorem decimalValue_toDigits (n : Nat) : decimalValue (Nat.toDigits 10 n) = n := by
  rw [decimalValue_eq, Nat.ofDigitChars_ten_toDigits]

theorem all_toDigits (n : Nat) : (Nat.toDigits 10 n).all isAsciiDigit = true :=
  List.all_eq_true.2 fun _ => isAsciiDigit_of_mem_toDigits

theorem isEmpty_toDigits (n : Nat) : (Nat.toDigits 10 n).isEmpty = false := by
  rw [List.isEmpty_eq_false_iff]
  exact Nat.toDigits_ne_nil

theorem readInt?_minus {i : Int32} (hi : i.toInt < 0) :
    readInt? ('-' :: Nat.toDigits 10 i.toInt.natAbs) = some i := by
  have hvalue : -(i.toInt.natAbs : Int) = i.toInt := by omega
  simp only [readInt?, isEmpty_toDigits, all_toDigits, decimalValue_toDigits, hvalue, Bool.not_true,
    Bool.or_self, Bool.false_eq_true, if_false, if_true, Int32.ofInt_toInt]
  rw [if_pos ⟨i.minValue_le_toInt, i.toInt_le⟩]

theorem readInt?_plus {i : Int32} (hi : 0 ≤ i.toInt) :
    readInt? ('+' :: Nat.toDigits 10 i.toInt.natAbs) = some i := by
  have hvalue : (i.toInt.natAbs : Int) = i.toInt := by omega
  simp only [readInt?, isEmpty_toDigits, all_toDigits, decimalValue_toDigits, hvalue, Bool.not_true,
    Bool.or_self, Bool.false_eq_true, if_false, Int32.ofInt_toInt]
  rw [if_pos ⟨i.minValue_le_toInt, i.toInt_le⟩]

/-- A plus sign in front of a number makes no difference. -/
theorem readInt?_digit {c : Char} (hc : isAsciiDigit c = true) (digits : List Char) :
    readInt? (c :: digits) = readInt? ('+' :: c :: digits) := by
  have hmem := mem_digits hc
  have hminus : c ≠ '-' := by
    rintro rfl
    exact absurd hmem (by decide)
  have hplus : c ≠ '+' := by
    rintro rfl
    exact absurd hmem (by decide)
  simp [readInt?, hminus, hplus]

theorem readInt?_toDigits (n : Nat) :
    readInt? (Nat.toDigits 10 n) = readInt? ('+' :: Nat.toDigits 10 n) := by
  have hall := all_toDigits n
  cases hd : Nat.toDigits 10 n with
  | nil => rfl
  | cons c digits =>
    rw [hd, List.all_cons, Bool.and_eq_true] at hall
    exact readInt?_digit hall.1 digits

theorem writeInt_of_neg {i : Int32} (hi : i.toInt < 0) :
    writeInt i = '-' :: Nat.toDigits 10 i.toInt.natAbs := by
  rw [writeInt, if_pos hi, List.singleton_append]

theorem writeInt_of_not_neg {i : Int32} (hi : ¬ i.toInt < 0) :
    writeInt i = Nat.toDigits 10 i.toInt.natAbs := by
  rw [writeInt, if_neg hi, List.nil_append]

theorem readInt?_writeInt (i : Int32) : readInt? (writeInt i) = some i := by
  by_cases hi : i.toInt < 0
  · rw [writeInt_of_neg hi, readInt?_minus hi]
  · rw [writeInt_of_not_neg hi, readInt?_toDigits, readInt?_plus (Int.not_lt.1 hi)]

theorem readInt?_plus_writeInt {i : Int32} (hi : 0 < i) : readInt? ('+' :: writeInt i) = some i := by
  rw [Int32.lt_iff_toInt_lt] at hi
  have hi : 0 < i.toInt := hi
  rw [writeInt_of_not_neg (by omega), readInt?_plus (Int.le_of_lt hi)]

/-! ## Expressions -/

/-- The characters that are written in positions, apart from the `n`. -/
def isNumberChar (c : Char) : Bool := isAsciiDigit c || c == '-' || c == '+'

theorem mem_of_isNumberChar {c : Char} (h : isNumberChar c = true) :
    c ∈ ['0', '1', '2', '3', '4', '5', '6', '7', '8', '9', '-', '+'] := by
  simp only [isNumberChar, Bool.or_eq_true, beq_iff_eq] at h
  rcases h with (h | rfl) | rfl
  · exact List.mem_append_left ['-', '+'] (mem_digits h)
  · decide
  · decide

theorem all_writeInt (i : Int32) : (writeInt i).all isNumberChar = true := by
  have hdigits : (Nat.toDigits 10 i.toInt.natAbs).all isNumberChar = true := by
    refine List.all_eq_true.2 fun c hc => ?_
    rw [isNumberChar, isAsciiDigit_of_mem_toDigits hc]
    rfl
  rw [writeInt, List.all_append, hdigits, Bool.and_true]
  split <;> decide

theorem writeInt_ne_nil (i : Int32) : writeInt i ≠ [] := by
  rw [writeInt]
  exact List.append_ne_nil_of_right_ne_nil _ Nat.toDigits_ne_nil

theorem isNumberChar_spec {c : Char} (h : isNumberChar c = true) :
    isBlank c = false ∧ c.toLower = c ∧ c ≠ 'n' ∧ c ≠ 'o' ∧ c ≠ 'e' := by
  have hc := mem_of_isNumberChar h
  simp only [List.mem_cons, List.not_mem_nil, or_false] at hc
  rcases hc with rfl | rfl | rfl | rfl | rfl | rfl | rfl | rfl | rfl | rfl | rfl | rfl <;> decide

namespace Nth

/-- The letters of an expression: what is left without white space, in lower case. -/
def compact (s : List Char) : List Char := asciiLower (s.filter fun c => !isBlank c)

section Compact

variable {s front rest : List Char} {p : Nth}

theorem compact_eq (h : ∀ c ∈ s, isNumberChar c = true ∨ c = 'n') : compact s = s := by
  have hspec : ∀ c ∈ s, isBlank c = false ∧ c.toLower = c := by
    intro c hc
    rcases h c hc with hn | rfl
    · exact ⟨(isNumberChar_spec hn).1, (isNumberChar_spec hn).2.1⟩
    · decide
  have hsolid : Solid s := fun c hc => (hspec c hc).1
  rw [compact, hsolid.filter, asciiLower]
  exact (List.map_congr_left fun c hc => (hspec c hc).2).trans (List.map_id s)

theorem not_mem_front (h : ∀ c ∈ front, isNumberChar c = true) : 'n' ∉ front := fun hn =>
  (isNumberChar_spec (h 'n' hn)).2.2.1 rfl

theorem ne_odd (h : ∀ c ∈ s, isNumberChar c = true) : s ≠ ['o', 'd', 'd'] := by
  intro hs
  have ho := h 'o' (hs ▸ List.mem_cons_self ..)
  exact (isNumberChar_spec ho).2.2.2.1 rfl

theorem front_ne_even (h : ∀ c ∈ front, isNumberChar c = true) :
    front ++ 'n' :: rest ≠ ['e', 'v', 'e', 'n'] := by
  cases front with
  | nil => simp
  | cons c front =>
    have hc := (isNumberChar_spec (h c (List.mem_cons_self ..))).2.2.2.2
    simp [hc]

/-- What is read without an `n`. -/
theorem parse?_without_eq_some (hs : compact s = s) (hn : 'n' ∉ s) : parse? s = some p ↔
    (s = ['o', 'd', 'd'] ∧ p = odd) ∨
      (s ≠ ['o', 'd', 'd'] ∧ p.step = 0 ∧ readInt? s = some p.first) := by
  have heven : s ≠ ['e', 'v', 'e', 'n'] := by
    rintro rfl
    simp at hn
  have hdrop : s.dropWhile (· != 'n') = [] := by
    rw [List.dropWhile_eq_nil_iff]
    intro c hc
    simpa using fun h : c = 'n' => hn (h ▸ hc)
  have hs : asciiLower (s.filter fun c => !isBlank c) = s := hs
  obtain ⟨step, first⟩ := p
  rw [parse?]
  simp only [hs, if_neg heven, hdrop]
  by_cases hodd : s = ['o', 'd', 'd']
  · simp [hodd, eq_comm]
  · cases readInt? s <;> simp [hodd, eq_comm]

/-- What is read in front of the first `n` and behind it. -/
theorem parse?_front_eq_some (hs : compact (front ++ 'n' :: rest) = front ++ 'n' :: rest)
    (hn : 'n' ∉ front) : parse? (front ++ 'n' :: rest) = some p ↔
      (front ++ 'n' :: rest = ['e', 'v', 'e', 'n'] ∧ p = even) ∨
        (front ++ 'n' :: rest ≠ ['e', 'v', 'e', 'n'] ∧ readStep? front = some p.step ∧
          readFirst? rest = some p.first) := by
  have hodd : front ++ 'n' :: rest ≠ ['o', 'd', 'd'] := by
    intro h
    have hmem : 'n' ∈ ['o', 'd', 'd'] := h ▸ List.mem_append_right _ (List.mem_cons_self ..)
    simp at hmem
  have hskip : ∀ c ∈ front, (c != 'n') = true := by
    intro c hc
    simpa using fun h : c = 'n' => hn (h ▸ hc)
  have hs : asciiLower ((front ++ 'n' :: rest).filter fun c => !isBlank c) =
      front ++ 'n' :: rest := hs
  obtain ⟨step, first⟩ := p
  rw [parse?]
  simp only [hs, if_neg hodd, List.dropWhile_append_of_pos hskip,
    List.takeWhile_append_of_pos hskip, List.dropWhile_cons_of_neg, List.takeWhile_cons_of_neg,
    bne_self_eq_false, Bool.false_eq_true, not_false_eq_true, List.append_nil]
  by_cases heven : front ++ 'n' :: rest = ['e', 'v', 'e', 'n']
  · simp [heven, eq_comm]
  · cases readStep? front <;> cases readFirst? rest <;> simp [heven]

end Compact

/-! ## Written positions -/

def writeStep (step : Int32) : List Char :=
  if step = 1 then [] else if step = -1 then ['-'] else writeInt step

def writeFirst (first : Int32) : List Char :=
  if first = 0 then []
  else if 0 < first then '+' :: writeInt first
  else writeInt first

theorem all_writeStep (step : Int32) : (writeStep step).all isNumberChar = true := by
  rw [writeStep]
  split
  · rfl
  · split
    · decide
    · exact all_writeInt step

theorem all_writeFirst (first : Int32) : (writeFirst first).all isNumberChar = true := by
  rw [writeFirst]
  split
  · rfl
  · split
    · rw [List.all_cons, all_writeInt]
      decide
    · exact all_writeInt first

theorem readStep?_writeStep (step : Int32) : readStep? (writeStep step) = some step := by
  rw [writeStep]
  split
  · rename_i h
    rw [h]
    rfl
  · split
    · rename_i h
      rw [h]
      rfl
    · have hread := readInt?_writeInt step
      have hne := writeInt_ne_nil step
      rw [readStep?]
      · exact hread
      · exact hne
      · intro h
        rw [h] at hread
        cases hread
      · intro h
        rw [h] at hread
        cases hread

theorem readFirst?_writeFirst (first : Int32) : readFirst? (writeFirst first) = some first := by
  rw [writeFirst]
  split
  · rename_i h
    rw [h]
    rfl
  · rename_i h0
    split
    · rename_i hpos
      rw [readFirst?, if_pos (by decide)]
      exact readInt?_plus_writeInt hpos
    · rename_i hpos
      have hneg : first.toInt < 0 := by
        rw [Int32.lt_iff_toInt_lt] at hpos
        have hne : first.toInt ≠ (0 : Int32).toInt := fun h => h0 (Int32.toInt_inj.1 h)
        have hzero : (0 : Int32).toInt = 0 := rfl
        omega
      have hread := readInt?_writeInt first
      rw [writeInt_of_neg hneg] at hread ⊢
      rw [readFirst?, if_pos (by decide)]
      exact hread

theorem write_step {step : Int32} (hstep : step ≠ 0) (first : Int32) :
    write ⟨step, first⟩ = writeStep step ++ 'n' :: writeFirst first := if_neg hstep

/-- There is no white space and no capital letter in what is written. -/
theorem compact_write (n : Nth) : compact n.write = n.write := by
  obtain ⟨step, first⟩ := n
  refine compact_eq fun c hc => ?_
  by_cases hstep : step = 0
  · rw [write, if_pos hstep] at hc
    exact Or.inl (List.all_eq_true.1 (all_writeInt first) c hc)
  · rw [write_step hstep] at hc
    rcases List.mem_append.1 hc with hc | hc
    · exact Or.inl (List.all_eq_true.1 (all_writeStep step) c hc)
    · rcases List.mem_cons.1 hc with rfl | hc
      · exact Or.inr rfl
      · exact Or.inl (List.all_eq_true.1 (all_writeFirst first) c hc)

/-- Written positions are read back. -/
theorem parse?_write (n : Nth) : parse? n.write = some n := by
  have hcompact := compact_write n
  obtain ⟨step, first⟩ := n
  by_cases hstep : step = 0
  · subst hstep
    have hwrite : write ⟨0, first⟩ = writeInt first := if_pos rfl
    have hall := List.all_eq_true.1 (all_writeInt first)
    rw [hwrite] at hcompact ⊢
    exact (parse?_without_eq_some hcompact (not_mem_front hall)).2
      (Or.inr ⟨ne_odd hall, rfl, readInt?_writeInt first⟩)
  · have hfront := List.all_eq_true.1 (all_writeStep step)
    rw [write_step hstep] at hcompact ⊢
    exact (parse?_front_eq_some hcompact (not_mem_front hfront)).2
      (Or.inr ⟨front_ne_even hfront, readStep?_writeStep step, readFirst?_writeFirst first⟩)

end Nth

end Umbra.Selector
