import Umbra.Proofs.Selector.Nth
import Umbra.Selector.Reader
import Mathlib.Data.List.Basic

/-!
# The notation of positions

`Denotes` is the notation of positions in lower case, with integers for what it denotes, and `Means`
the same up to white space at both ends and the case of letters, with numbers of 32 bits.

An expression is read without regard to white space, wherever that stands. So what is read has the
letters of an expression in the notation, and it is in the notation itself just if white space stands
only where the notation has it: at both ends, and around the sign behind the `n`.
-/

namespace Umbra.Selector

open Text

namespace Nth

/-! ## The notation -/

inductive Sign where
  | plus
  | minus

def Sign.char : Sign → Char
  | plus => '+'
  | minus => '-'

def Sign.apply : Sign → Nat → Int
  | plus, n => n
  | minus, n => -n

/-- The sign in front of a number, if there is one. -/
def leading (sign : Option Sign) : List Char := (sign.map Sign.char).toList

/-- The number with that sign in front of it. -/
def signed (sign : Option Sign) (n : Nat) : Int := (sign.getD .plus).apply n

def IsDigits (s : List Char) : Prop := ∀ c ∈ s, isAsciiDigit c = true

/-- At least one digit. -/
def IsNumber (s : List Char) : Prop := s ≠ [] ∧ IsDigits s

def value (digits : List Char) : Nat := Nat.ofDigitChars 10 digits 0

/-- The number in front of an `n`: without digits it is one. -/
def coefficient (digits : List Char) : Nat := if digits = [] then 1 else value digits

/-- The expression denotes the positions `step` times 0, 1, 2, … plus `first`. -/
inductive Denotes : List Char → Int → Int → Prop
  | odd : Denotes ['o', 'd', 'd'] 2 1
  | even : Denotes ['e', 'v', 'e', 'n'] 2 0
  | number (sign : Option Sign) {digits : List Char} (h : IsNumber digits) :
    Denotes (leading sign ++ digits) 0 (signed sign (value digits))
  | multiples (sign : Option Sign) {digits : List Char} (h : IsDigits digits) :
    Denotes (leading sign ++ digits ++ ['n']) (signed sign (coefficient digits)) 0
  | shifted (sign : Option Sign) {digits before behind shift : List Char} (h : IsDigits digits)
    (hbefore : Blank before) (mark : Sign) (hbehind : Blank behind) (hshift : IsNumber shift) :
    Denotes (leading sign ++ digits ++ 'n' :: (before ++ mark.char :: (behind ++ shift)))
      (signed sign (coefficient digits)) (mark.apply (value shift))

def Means (s : List Char) (p : Nth) : Prop :=
  Denotes (asciiLower (trim s)) p.step.toInt p.first.toInt

/-- White space stands only around a sign behind the first `n`. -/
inductive WellSpaced : List Char → Prop
  | solid {s : List Char} (h : Solid s) : WellSpaced s
  | gaps {front before behind shift : List Char} (hfront : Solid front) (hn : 'n' ∉ front)
    (hbefore : Blank before) (mark : Sign) (hbehind : Blank behind) (hshift : Solid shift) :
    WellSpaced (front ++ 'n' :: (before ++ mark.char :: (behind ++ shift)))

/-! ## Numbers -/

/-- A number, if it fits in 32 bits. -/
def fit? (i : Int) : Option Int32 :=
  if Int32.minValue.toInt ≤ i ∧ i ≤ Int32.maxValue.toInt then some (Int32.ofInt i) else none

theorem fit?_eq_some {i : Int} {n : Int32} : fit? i = some n ↔ n.toInt = i := by
  rw [fit?, Int32.toInt_minValue, Int32.toInt_maxValue]
  constructor
  · intro h
    split at h
    · rename_i hi
      cases h
      exact Int32.toInt_ofInt_of_le hi.1 (by omega)
    · cases h
  · rintro rfl
    rw [if_pos ⟨n.minValue_le_toInt, n.toInt_le⟩, Int32.ofInt_toInt]

theorem readInt?_number {sign : Option Sign} {digits : List Char} (h : IsNumber digits) :
    readInt? (leading sign ++ digits) = fit? (signed sign (value digits)) := by
  obtain ⟨hne, hdigits⟩ := h
  have hcheck : (digits.isEmpty || !digits.all isAsciiDigit) = false := by
    rw [List.isEmpty_eq_false_iff.2 hne, List.all_eq_true.2 hdigits]
    rfl
  have hplus : readInt? ('+' :: digits) = fit? (value digits) := by
    simp only [readInt?, hcheck, decimalValue_eq, Bool.false_eq_true, if_false]
    rfl
  cases sign with
  | none =>
    cases digits with
    | nil => exact absurd rfl hne
    | cons c rest => exact (readInt?_digit (hdigits c (List.mem_cons_self ..)) rest).trans hplus
  | some sign =>
    cases sign with
    | plus => exact hplus
    | minus =>
      simp only [leading, Option.map_some, Option.toList_some, Sign.char, List.singleton_append,
        readInt?, hcheck, decimalValue_eq, Bool.false_eq_true, if_false, if_true]
      rfl

theorem exists_of_readInt? {s : List Char} {i : Int32} (h : readInt? s = some i) :
    ∃ sign digits, s = leading sign ++ digits ∧ IsNumber digits := by
  have number {digits : List Char} {r : Option Int32}
      (h : (if (digits.isEmpty || !digits.all isAsciiDigit) = true then none else r) = some i) :
      IsNumber digits := by
    split at h
    · cases h
    · rename_i hcheck
      simpa [IsNumber, IsDigits] using hcheck
  unfold readInt? at h
  split at h
  rename_i hmatch
  split at hmatch
  · cases hmatch
    exact ⟨some .minus, _, rfl, number h⟩
  · cases hmatch
    exact ⟨some .plus, _, rfl, number h⟩
  · cases hmatch
    exact ⟨none, _, rfl, number h⟩

theorem readInt?_eq_some {s : List Char} {i : Int32} : readInt? s = some i ↔
    ∃ sign digits, s = leading sign ++ digits ∧ IsNumber digits ∧
      i.toInt = signed sign (value digits) := by
  constructor
  · intro h
    obtain ⟨sign, digits, rfl, hdigits⟩ := exists_of_readInt? h
    rw [readInt?_number hdigits, fit?_eq_some] at h
    exact ⟨sign, digits, rfl, hdigits, h⟩
  · rintro ⟨sign, digits, rfl, hdigits, hi⟩
    rw [readInt?_number hdigits, fit?_eq_some.2 hi]

/-! ## The two numbers of an expression -/

/-- A sign alone stands for the sign and one. -/
theorem readStep?_sign (sign : Option Sign) : ∃ i, readStep? (leading sign) = some i ∧
    i.toInt = signed sign 1 := by
  cases sign with
  | none => exact ⟨1, rfl, rfl⟩
  | some sign =>
    cases sign with
    | plus => exact ⟨1, rfl, rfl⟩
    | minus => exact ⟨-1, rfl, rfl⟩

theorem readStep?_of_ne {s : List Char} (hs : ∀ sign, s ≠ leading sign) :
    readStep? s = readInt? s := by
  rw [readStep?]
  · exact hs none
  · exact hs (some .plus)
  · exact hs (some .minus)

theorem not_isAsciiDigit_of_mem_leading {sign : Option Sign} {c : Char} (h : c ∈ leading sign) :
    isAsciiDigit c = false := by
  cases sign with
  | none => cases h
  | some sign =>
    obtain rfl := List.mem_singleton.1 h
    cases sign <;> rfl

theorem leading_append_ne {sign sign' : Option Sign} {digits : List Char} (h : IsNumber digits) :
    leading sign ++ digits ≠ leading sign' := by
  intro hs
  obtain ⟨c, hc⟩ := List.exists_mem_of_ne_nil digits h.1
  have hdigit := not_isAsciiDigit_of_mem_leading (hs ▸ List.mem_append_right _ hc)
  rw [h.2 c hc] at hdigit
  cases hdigit

theorem readStep?_eq_some {s : List Char} {i : Int32} : readStep? s = some i ↔
    ∃ sign digits, s = leading sign ++ digits ∧ IsDigits digits ∧
      i.toInt = signed sign (coefficient digits) := by
  have number {digits : List Char} (h : IsNumber digits) : coefficient digits = value digits :=
    if_neg h.1
  constructor
  · intro h
    by_cases hs : ∃ sign, s = leading sign
    · obtain ⟨sign, rfl⟩ := hs
      obtain ⟨j, hj, hone⟩ := readStep?_sign sign
      rw [hj, Option.some.injEq] at h
      exact ⟨sign, [], (List.append_nil _).symm, by simp [IsDigits], h ▸ hone⟩
    · rw [readStep?_of_ne fun sign hsign => hs ⟨sign, hsign⟩] at h
      obtain ⟨sign, digits, rfl, hdigits, hi⟩ := readInt?_eq_some.1 h
      exact ⟨sign, digits, rfl, hdigits.2, by rw [number hdigits, hi]⟩
  · rintro ⟨sign, digits, rfl, hdigits, hi⟩
    by_cases hnil : digits = []
    · obtain ⟨j, hj, hone⟩ := readStep?_sign sign
      have hij : i = j := by
        rw [← Int32.toInt_inj, hi, hone, hnil]
        rfl
      rw [hnil, List.append_nil, hj, hij]
    · have hnumber : IsNumber digits := ⟨hnil, hdigits⟩
      rw [readStep?_of_ne fun sign' => leading_append_ne hnumber]
      exact readInt?_eq_some.2 ⟨sign, digits, rfl, hnumber, by rw [hi, number hnumber]⟩

theorem readFirst?_cons {mark : Sign} {shift : List Char} :
    readFirst? (mark.char :: shift) = readInt? (mark.char :: shift) := by
  cases mark <;> rfl

theorem readFirst?_eq_some {s : List Char} {i : Int32} : readFirst? s = some i ↔
    (s = [] ∧ i = 0) ∨ ∃ (mark : Sign) (shift : List Char), s = mark.char :: shift ∧
      IsNumber shift ∧ i.toInt = mark.apply (value shift) := by
  constructor
  · intro h
    cases s with
    | nil => exact Or.inl ⟨rfl, (Option.some.inj h).symm⟩
    | cons c rest =>
      rw [readFirst?] at h
      split at h
      · rename_i hc
        obtain ⟨sign, shift, hs, hshift, hi⟩ := readInt?_eq_some.1 h
        cases sign with
        | some mark => exact Or.inr ⟨mark, shift, hs, hshift, hi⟩
        | none =>
          have hs : shift = c :: rest := hs.symm
          have hdigit := hshift.2 c (hs ▸ List.mem_cons_self ..)
          rcases Bool.or_eq_true_iff.1 hc with hc | hc <;>
            rw [of_decide_eq_true hc] at hdigit <;> cases hdigit
      · cases h
  · rintro (⟨rfl, rfl⟩ | ⟨mark, shift, rfl, hshift, hi⟩)
    · rfl
    · rw [readFirst?_cons]
      exact readInt?_eq_some.2 ⟨some mark, shift, rfl, hshift, hi⟩

/-! ## White space and case -/

theorem isBlank_toLower (c : Char) : isBlank c.toLower = isBlank c := by
  rcases toLower_cases c with ⟨h65, h90, hc⟩ | ⟨-, hc⟩
  · simp only [isBlank, hc]
    grind
  · rw [hc]

theorem compact_eq_filter (s : List Char) :
    compact s = (asciiLower s).filter fun c => !isBlank c := by
  rw [compact, asciiLower, asciiLower, List.filter_map]
  simp only [Function.comp_def, isBlank_toLower]

theorem solid_compact (s : List Char) : Solid (compact s) := by
  intro c hc
  rw [compact_eq_filter, List.mem_filter] at hc
  simpa using hc.2

theorem compact_compact (s : List Char) : compact (compact s) = compact s := by
  rw [compact, (solid_compact s).filter, compact, asciiLower_asciiLower]

theorem compact_trim (s : List Char) : compact (trim s) = compact s := by
  rw [compact, filter_trim, compact]

theorem parse?_compact (s : List Char) : parse? (compact s) = parse? s := by
  have hs : asciiLower ((compact s).filter fun c => !isBlank c) =
      asciiLower (s.filter fun c => !isBlank c) := compact_compact s
  rw [parse?, hs, parse?]

/-! ## Compact expressions -/

section Compact

variable {s front rest shift before behind : List Char} {p : Nth}

theorem mark_ne_even (mark : Sign) :
    front ++ 'n' :: mark.char :: shift ≠ ['e', 'v', 'e', 'n'] := by
  intro h
  have hmem : mark.char ∈ ['e', 'v', 'e', 'n'] := h ▸ by simp
  cases mark <;> simp [Sign.char] at hmem

/-- White space may be put around the sign behind the `n`. -/
theorem denotes_gaps {mark : Sign}
    (hs : compact (front ++ 'n' :: mark.char :: shift) = front ++ 'n' :: mark.char :: shift)
    (hn : 'n' ∉ front) (hbefore : Blank before) (hbehind : Blank behind)
    (h : parse? (front ++ 'n' :: mark.char :: shift) = some p) :
    Denotes (front ++ 'n' :: (before ++ mark.char :: (behind ++ shift)))
      p.step.toInt p.first.toInt := by
  obtain ⟨heven, -⟩ | ⟨-, hstep, hfirst⟩ := (parse?_front_eq_some hs hn).1 h
  · exact absurd heven (mark_ne_even mark)
  · obtain ⟨sign, digits, rfl, hdigits, hstep⟩ := readStep?_eq_some.1 hstep
    obtain ⟨hnil, -⟩ | ⟨mark', shift', hmark, hshift, hfirst⟩ := readFirst?_eq_some.1 hfirst
    · cases hnil
    · rw [List.cons.injEq] at hmark
      obtain ⟨hchar, rfl⟩ := hmark
      rw [hstep, hfirst, hchar]
      exact .shifted sign hdigits hbefore mark' hbehind hshift

theorem denotes_of_parse? (hs : compact s = s) (h : parse? s = some p) :
    Denotes s p.step.toInt p.first.toInt := by
  by_cases hn : 'n' ∈ s
  · obtain ⟨front, rest, rfl, hfront⟩ := List.eq_append_cons_of_mem hn
    obtain ⟨heven, rfl⟩ | ⟨-, hstep, hfirst⟩ := (parse?_front_eq_some hs hfront).1 h
    · rw [heven]
      exact .even
    · obtain ⟨rfl, hzero⟩ | ⟨mark, shift, rfl, -⟩ := readFirst?_eq_some.1 hfirst
      · obtain ⟨sign, digits, rfl, hdigits, hstep⟩ := readStep?_eq_some.1 hstep
        rw [hstep, hzero]
        exact .multiples sign hdigits
      · exact denotes_gaps hs hfront .nil .nil h
  · obtain ⟨rfl, rfl⟩ | ⟨-, hstep, hfirst⟩ := (parse?_without_eq_some hs hn).1 h
    · exact .odd
    · obtain ⟨sign, digits, rfl, hdigits, hfirst⟩ := readInt?_eq_some.1 hfirst
      rw [hstep, hfirst]
      exact .number sign hdigits

theorem IsDigits.isNumberChar {digits : List Char} (h : IsDigits digits) (sign : Option Sign) :
    ∀ c ∈ leading sign ++ digits, isNumberChar c = true := by
  intro c hc
  rcases List.mem_append.1 hc with hc | hc
  · cases sign with
    | none => cases hc
    | some sign =>
      obtain rfl := List.mem_singleton.1 hc
      cases sign <;> rfl
  · simp [Selector.isNumberChar, h c hc]

theorem eq_of_toInt {q : Nth} (hstep : p.step.toInt = q.step.toInt)
    (hfirst : p.first.toInt = q.first.toInt) : p = q := by
  rw [Int32.toInt_inj] at hstep hfirst
  cases p
  cases q
  cases hstep
  cases hfirst
  rfl

/-- What is in the notation and has no white space is read. -/
theorem parse?_of_denotes (hs : compact s = s) {step first : Int} (h : Denotes s step first)
    (hstep : p.step.toInt = step) (hfirst : p.first.toInt = first) : parse? s = some p := by
  cases h with
  | odd =>
    exact (parse?_without_eq_some hs (by decide)).2 (Or.inl ⟨rfl, eq_of_toInt hstep hfirst⟩)
  | even =>
    have hfront : 'n' ∉ ['e', 'v', 'e'] := by decide
    have hread := @parse?_front_eq_some ['e', 'v', 'e'] [] p hs hfront
    exact hread.2 (Or.inl ⟨rfl, eq_of_toInt hstep hfirst⟩)
  | number sign hdigits =>
    have hchars := hdigits.2.isNumberChar sign
    have hread := readInt?_eq_some.2 ⟨sign, _, rfl, hdigits, hfirst⟩
    refine (parse?_without_eq_some hs (not_mem_front hchars)).2
      (Or.inr ⟨fun hodd => ?_, Int32.toInt_inj.1 hstep, hread⟩)
    exact (isNumberChar_spec (hchars 'o' (hodd ▸ List.mem_cons_self ..))).2.2.2.1 rfl
  | multiples sign hdigits =>
    have hchars := hdigits.isNumberChar sign
    have hread := readStep?_eq_some.2 ⟨sign, _, rfl, hdigits, hstep⟩
    have hnothing := readFirst?_eq_some.2 (Or.inl ⟨rfl, Int32.toInt_inj.1 hfirst⟩)
    exact (parse?_front_eq_some hs (not_mem_front hchars)).2
      (Or.inr ⟨front_ne_even hchars, hread, hnothing⟩)
  | @shifted sign digits before behind shift hdigits hbefore mark hbehind hshift =>
    have hsolid := hs ▸ solid_compact _
    obtain rfl : before = [] := hbefore.eq_nil hsolid fun c hc => by simp [hc]
    obtain rfl : behind = [] := hbehind.eq_nil hsolid fun c hc => by simp [hc]
    have hchars := hdigits.isNumberChar sign
    have hread := readStep?_eq_some.2 ⟨sign, _, rfl, hdigits, hstep⟩
    have hbehind := readFirst?_eq_some.2 (Or.inr ⟨mark, shift, rfl, hshift, hfirst⟩)
    exact (parse?_front_eq_some hs (not_mem_front hchars)).2
      (Or.inr ⟨front_ne_even hchars, hread, hbehind⟩)

end Compact

theorem parse?_eq_some (s : List Char) {p : Nth} :
    parse? s = some p ↔ Denotes (compact s) p.step.toInt p.first.toInt := by
  rw [← parse?_compact]
  exact ⟨denotes_of_parse? (compact_compact s),
    fun h => parse?_of_denotes (compact_compact s) h rfl rfl⟩

/-! ## White space in expressions -/

section Spaced

variable {s front rest shift before behind : List Char}

theorem filter_gaps (hfront : Solid front) (hbefore : Blank before) (mark : Sign)
    (hbehind : Blank behind) (hshift : Solid shift) :
    ((front ++ 'n' :: (before ++ mark.char :: (behind ++ shift))).filter fun c => !isBlank c) =
      front ++ 'n' :: mark.char :: shift := by
  have hn : isBlank 'n' = false := rfl
  have hmark : isBlank mark.char = false := by cases mark <;> rfl
  simp [hfront.filter, hshift.filter, hbefore.filter, hbehind.filter, hn, hmark]

theorem IsDigits.solid {digits : List Char} (h : IsDigits digits) (sign : Option Sign) :
    Solid (leading sign ++ digits) := fun c hc =>
  (isNumberChar_spec (h.isNumberChar sign c hc)).1

theorem IsDigits.solid_multiples {digits : List Char} (h : IsDigits digits) (sign : Option Sign) :
    Solid (leading sign ++ digits ++ ['n']) := by
  intro c hc
  rcases List.mem_append.1 hc with hc | hc
  · exact h.solid sign c hc
  · rw [List.mem_singleton.1 hc]
    rfl

theorem Denotes.wellSpaced {step first : Int} (h : Denotes s step first) : WellSpaced s := by
  cases h with
  | odd => exact .solid (by decide)
  | even => exact .solid (by decide)
  | number sign hdigits => exact .solid (hdigits.2.solid sign)
  | multiples sign hdigits => exact .solid (hdigits.solid_multiples sign)
  | shifted sign hdigits hbefore mark hbehind hshift =>
    exact .gaps (hdigits.solid sign) (not_mem_front (hdigits.isNumberChar sign)) hbefore mark hbehind
      (hshift.2.solid none)

/-- Without its white space an expression denotes the same. -/
theorem Denotes.filter {step first : Int} (h : Denotes s step first) :
    Denotes (s.filter fun c => !isBlank c) step first := by
  cases h with
  | odd => exact .odd
  | even => exact .even
  | number sign hdigits =>
    rw [(hdigits.2.solid sign).filter]
    exact .number sign hdigits
  | multiples sign hdigits =>
    rw [(hdigits.solid_multiples sign).filter]
    exact .multiples sign hdigits
  | @shifted sign _ _ _ shift hdigits hbefore mark hbehind hshift =>
    have hsolid : Solid shift := hshift.2.solid none
    rw [filter_gaps (hdigits.solid sign) hbefore mark hbehind hsolid]
    exact .shifted sign hdigits .nil mark .nil hshift

end Spaced

theorem compact_eq_trim (s : List Char) :
    compact s = (asciiLower (trim s)).filter fun c => !isBlank c := by
  rw [← compact_eq_filter, compact_trim]

theorem parse?_of_means {s : List Char} {p : Nth} (h : Means s p) : parse? s = some p := by
  rw [parse?_eq_some, compact_eq_trim]
  exact h.filter

/-- What is read is in the notation if its white space stands where the notation has it. -/
theorem means_of_parse? {s : List Char} {p : Nth} (h : parse? s = some p)
    (hspaced : WellSpaced (asciiLower (trim s))) : Means s p := by
  have hcompact := compact_compact s
  rw [← parse?_compact] at h
  rw [Means]
  generalize hs : compact s = t at h hcompact
  rw [compact_eq_trim] at hs
  generalize asciiLower (trim s) = u at hs hspaced
  cases hspaced with
  | solid hsolid =>
    rw [hsolid.filter] at hs
    exact denotes_of_parse? (hs ▸ hcompact) (hs ▸ h)
  | gaps hfront hn hbefore mark hbehind hshift =>
    rw [filter_gaps hfront hbefore mark hbehind hshift] at hs
    exact denotes_gaps (hs ▸ hcompact) hn hbefore hbehind (hs ▸ h)

theorem means_compact {s : List Char} {p : Nth} : Means (compact s) p ↔ parse? s = some p := by
  rw [Means, (solid_compact s).trim, compact, asciiLower_asciiLower, parse?_eq_some, compact]

/-- An argument that is not read is named by its text. -/
theorem readNthArgument_eq_error {s t rest : List Char} (h : readArgument t = .ok (s, rest)) :
    readNthArgument t = .error (.invalidNth (String.ofList s)) ↔ parse? s = none := by
  rw [readNthArgument, h]
  simp only [bind, Except.bind]
  cases parse? s <;> simp

/-- An expression is in the notation just if it is read and its white space stands where the notation
has it. It is read just if it has the letters of an expression in the notation, and then as what that
one denotes; every other argument is refused, with its text. -/
theorem means_iff_parse? (s : List Char) :
    (∀ p, Means s p ↔ parse? s = some p ∧ WellSpaced (asciiLower (trim s))) ∧
    (∀ p, parse? s = some p ↔ ∃ t, compact t = compact s ∧ Means t p) ∧
    ∀ t rest, readArgument t = .ok (s, rest) →
      (readNthArgument t = .error (.invalidNth (String.ofList s)) ↔
        ¬ ∃ u p, compact u = compact s ∧ Means u p) := by
  have hread (p : Nth) : parse? s = some p ↔ ∃ t, compact t = compact s ∧ Means t p := by
    constructor
    · intro h
      exact ⟨compact s, compact_compact s, means_compact.2 h⟩
    · rintro ⟨t, ht, h⟩
      rw [← parse?_compact, ← ht, parse?_compact]
      exact parse?_of_means h
  refine ⟨fun p => ⟨fun h => ⟨parse?_of_means h, h.wellSpaced⟩, fun h => means_of_parse? h.1 h.2⟩,
    hread, fun t rest hargument => ?_⟩
  rw [readNthArgument_eq_error hargument, Option.eq_none_iff_forall_ne_some, exists_comm,
    not_exists]
  exact forall_congr' fun p => not_congr (hread p)

/-- White space in a number is passed over, though the notation has none there. -/
theorem means_iff_parse?_spaces :
    parse? "1 2".toList = some ⟨0, 12⟩ ∧ ¬ Means "1 2".toList ⟨0, 12⟩ ∧
    Means " +5N - 2 ".toList ⟨5, -2⟩ ∧
    readNthArgument "(1.5)".toList = .error (.invalidNth "1.5") := by
  have hspaced : ¬ WellSpaced ['1', ' ', '2'] := by
    intro h
    generalize hs : ['1', ' ', '2'] = s at h
    cases h with
    | solid hsolid =>
      have hblank := hsolid ' ' (hs ▸ by decide)
      cases hblank
    | gaps =>
      have hn : 'n' ∈ ['1', ' ', '2'] := hs ▸ by simp
      exact absurd hn (by decide)
  have hgap : Blank [' '] := by decide
  have hgaps : WellSpaced (asciiLower (trim " +5N - 2 ".toList)) :=
    @WellSpaced.gaps ['+', '5'] [' '] [' '] ['2'] (by decide) (by decide) hgap .minus hgap (by decide)
  refine ⟨by decide +kernel, fun h => hspaced ?_, ?_, ?_⟩
  · exact (((means_iff_parse? "1 2".toList).1 ⟨0, 12⟩).1 h).2
  · exact ((means_iff_parse? " +5N - 2 ".toList).1 ⟨5, -2⟩).2 ⟨by decide +kernel, hgaps⟩
  · have hread := (means_iff_parse? "1.5".toList).2
    refine (hread.2 "(1.5)".toList [] rfl).2 ?_
    rintro ⟨u, p, hu, hp⟩
    have hnone : parse? "1.5".toList = none := by decide +kernel
    rw [(hread.1 p).2 ⟨u, hu, hp⟩] at hnone
    cases hnone

/-! ## Written positions -/

/-- Positions are written in the notation, so that they are read back as themselves, and what is
written denotes no others. -/
theorem means_write_iff (step first : Int32) :
    parse? (write ⟨step, first⟩) = some ⟨step, first⟩ ∧
      ∀ p, Means (write ⟨step, first⟩) p ↔ p = ⟨step, first⟩ := by
  have hread := parse?_write ⟨step, first⟩
  refine ⟨hread, fun p => ?_⟩
  rw [← compact_write, means_compact, hread, Option.some.injEq, eq_comm]

/-- The step is left out where it is one, but not where it is the least. -/
example : write ⟨1, -2147483648⟩ = "n-2147483648".toList ∧
    write ⟨-2147483648, 2147483647⟩ = "-2147483648n+2147483647".toList := by
  cbv

end Nth

end Umbra.Selector
