import Umbra.Selector.Name
import Mathlib.Data.List.Basic

/-!
# Names and strings read back

A name or a string that was written is read back, except that the null character comes back as the
replacement character. What follows must not go on like a name. An escape by code point ends with a
space of its own, and where a text ends that space may be missing: `Written` covers both.
-/

namespace Umbra.Selector

open Text

/-- The null character has no written form, the replacement character stands for it. -/
def scrubbedChar (c : Char) : Char := if c = '\x00' then '\uFFFD' else c

def scrubbed (s : List Char) : List Char := s.map scrubbedChar

theorem scrubbedChar_eq_iff {c : Char} : scrubbedChar c = c ↔ c ≠ '\x00' := by
  constructor
  · rintro h rfl
    exact absurd h (by decide)
  · exact fun h => if_neg h

theorem scrubbed_eq_iff {s : List Char} : scrubbed s = s ↔ '\x00' ∉ s := by
  induction s with
  | nil => simp [scrubbed]
  | cons c s ih =>
    have hcons : scrubbed (c :: s) = scrubbedChar c :: scrubbed s := rfl
    rw [hcons, List.cons.injEq, scrubbedChar_eq_iff, ih, List.mem_cons, not_or, ne_comm]

theorem append_singleton_inj {u t : List Char} {c d : Char} (h : u ++ [c] = t ++ [d]) :
    u = t ∧ c = d := by
  obtain ⟨hu, hc⟩ := List.append_inj' h rfl
  exact ⟨hu, List.singleton_inj.1 hc⟩

/-- Whether a name goes on. -/
def continues (s : List Char) : Bool := s.head?.any isNameChar || atEscape s

/-- A text that starts with `w`, which has been written, and goes on with `rest`. -/
inductive Written (w : List Char) : List Char → List Char → Prop
  | whole (rest : List Char) : Written w rest (w ++ rest)
  | bare {t : List Char} (last : w = t ++ [' ']) (hex : t.getLast?.any isHexDigit = true) :
    Written w [] t

namespace Written

variable {w v rest t : List Char}

theorem self (w : List Char) : Written w [] w := by
  have h := Written.whole (w := w) []
  rwa [List.append_nil] at h

theorem of_append (h : Written (v ++ w) rest t) (hw : w ≠ []) (hspace : w ≠ [' ']) :
    ∃ u, t = v ++ u ∧ Written w rest u := by
  cases h with
  | whole => exact ⟨w ++ rest, List.append_assoc .., .whole rest⟩
  | bare last hex =>
    obtain ⟨u, c, rfl⟩ := (List.eq_nil_or_concat w).resolve_left hw
    rw [List.concat_eq_append, ← List.append_assoc] at last
    obtain ⟨rfl, rfl⟩ := append_singleton_inj last
    rcases List.eq_nil_or_concat u with rfl | ⟨u, d, rfl⟩
    · exact absurd rfl hspace
    · refine ⟨_, rfl, .bare (List.concat_eq_append ..) ?_⟩
      simpa using hex

theorem eq_append (h : Written w rest t) (hw : w.getLast? ≠ some ' ') : t = w ++ rest := by
  cases h with
  | whole => rfl
  | bare last => simp [last] at hw

theorem length_le (h : Written w rest t) : w.length ≤ t.length + 1 := by
  cases h with
  | whole =>
    rw [List.length_append]
    omega
  | bare last => exact Nat.le_of_eq (by simp [last])

/-- What is written in two pieces starts with the first and goes on with the second. -/
theorem split (h : Written (v ++ w) rest t) (hspace : w ≠ [' ']) :
    ∃ u, Written v u t ∧ Written w rest u := by
  by_cases hw : w = []
  · subst hw
    rw [List.append_nil] at h
    exact ⟨rest, h, .whole rest⟩
  · obtain ⟨u, rfl, hu⟩ := h.of_append hw hspace
    exact ⟨u, .whole u, hu⟩

theorem ne_nil (h : Written w rest t) (hw : w ≠ []) : t ≠ [] := by
  cases h with
  | whole => exact List.append_ne_nil_of_left_ne_nil hw rest
  | bare _ hex =>
    rintro rfl
    cases hex

theorem head?_eq (h : Written w rest t) (hw : w ≠ []) : t.head? = w.head? := by
  have ht := h.ne_nil hw
  cases h with
  | whole => rw [List.head?_append_of_ne_nil _ hw]
  | bare last => rw [last, List.head?_append_of_ne_nil _ ht]

theorem length_lt (h : Written w rest t) (hw : w ≠ []) : rest.length < t.length := by
  have ht := h.ne_nil hw
  cases h with
  | whole =>
    have hpos := List.length_pos_of_ne_nil hw
    rw [List.length_append]
    omega
  | bare => exact List.length_pos_of_ne_nil ht

end Written

/-! ## Escapes -/

theorem hexDigits_spec : ∀ n < 0xA0, (hexDigits n).all isHexDigit = true ∧
    (hexDigits n).length ≤ 2 ∧ hexDigits n ≠ [] ∧ hexValue (hexDigits n) = n := by decide +kernel

theorem readEscape_digits {digits rest : List Char} (hd : digits.all isHexDigit = true)
    (hne : digits ≠ []) (hlen : digits.length ≤ 6) (hrest : rest.head?.any isHexDigit = false) :
    readEscape (digits ++ rest) = (escapedChar (hexValue digits), skipOneSpace rest) := by
  cases digits with
  | nil => exact absurd rfl hne
  | cons d digits =>
    rw [List.all_cons, Bool.and_eq_true] at hd
    have hlen : digits.length ≤ 5 := Nat.le_of_succ_le_succ hlen
    have hstop : (rest.take (5 - digits.length)).takeWhile isHexDigit = [] := by
      cases rest with
      | nil => simp
      | cons c rest =>
        have hc : isHexDigit c = false := by simpa using hrest
        cases 5 - digits.length with
        | zero => rfl
        | succ n => rw [List.take_succ_cons, List.takeWhile_cons_of_neg (by simp [hc])]
    have htake : ((digits ++ rest).take 5).takeWhile isHexDigit = digits := by
      rw [List.take_append, List.take_of_length_le hlen,
        List.takeWhile_append_of_pos (List.all_eq_true.1 hd.2), hstop, List.append_nil]
    rw [List.cons_append, readEscape, if_pos hd.1]
    simp only [htake, List.drop_left]

theorem escapedChar_toNat {c : Char} (hc : c ≠ '\x00') : escapedChar c.toNat = c := by
  rw [escapedChar, Char.ofNat_toNat, if_neg hc]

/-- An escape by code point, with the space that ends it or at the end of a text. -/
theorem readEscape_hexDigits {c : Char} (hc : c ≠ '\x00') (hlt : c.toNat < 0xA0) :
    (∀ rest, readEscape (hexDigits c.toNat ++ ' ' :: rest) = (c, rest)) ∧
      readEscape (hexDigits c.toNat) = (c, []) := by
  obtain ⟨hall, hlen, hne, hvalue⟩ := hexDigits_spec c.toNat hlt
  have hlen : (hexDigits c.toNat).length ≤ 6 := Nat.le_trans hlen (by decide)
  constructor
  · intro rest
    rw [readEscape_digits hall hne hlen rfl, hvalue, escapedChar_toNat hc]
    rfl
  · have hnil : ([] : List Char).head?.any isHexDigit = false := rfl
    have h := readEscape_digits hall hne hlen hnil
    rwa [List.append_nil, hvalue, escapedChar_toNat hc] at h

theorem atEscape_cons (c : Char) (s : List Char) :
    atEscape (c :: s) = (c == '\\' && s.head?.any (· != '\n')) := by
  by_cases hc : c = '\\'
  · subst hc
    cases s <;> rfl
  · simp [atEscape, hc]

theorem atEscape_hexDigits {n : Nat} (hn : n < 0xA0) (s : List Char) :
    atEscape ('\\' :: (hexDigits n ++ s)) = true := by
  obtain ⟨hall, -, hne, -⟩ := hexDigits_spec n hn
  cases hd : hexDigits n with
  | nil => exact absurd hd hne
  | cons d ds =>
    rw [hd, List.all_cons, Bool.and_eq_true] at hall
    have hd : d ≠ '\n' := by
      rintro rfl
      exact absurd hall.1 (by decide)
    simpa [atEscape_cons] using hd

/-! ## Characters of a name -/

theorem isHexDigit_cases {c : Char} (h : isHexDigit c = true) :
    ('0' ≤ c ∧ c ≤ '9') ∨ ('a' ≤ c ∧ c ≤ 'f') ∨ ('A' ≤ c ∧ c ≤ 'F') := by
  rw [isHexDigit, hexDigit?] at h
  simp only [Bool.and_eq_true, decide_eq_true_eq] at h
  split at h
  · exact Or.inl ‹_›
  · split at h
    · exact Or.inr (Or.inl ‹_›)
    · split at h
      · exact Or.inr (Or.inr ‹_›)
      · cases h

theorem isNameChar_of_isHexDigit {c : Char} (h : isHexDigit c = true) : isNameChar c = true := by
  simp only [isNameChar, isNameStart, isAsciiLetter, isAsciiDigit, Bool.or_eq_true, Bool.and_eq_true,
    decide_eq_true_eq]
  rcases isHexDigit_cases h with hc | hc | hc
  · exact Or.inl (Or.inr hc)
  · exact Or.inl (Or.inl (Or.inl (Or.inl (Or.inl ⟨hc.1, Char.le_trans hc.2 (by decide)⟩))))
  · exact Or.inl (Or.inl (Or.inl (Or.inl (Or.inr ⟨hc.1, Char.le_trans hc.2 (by decide)⟩))))

theorem lt_of_isControl {c : Char} (h : isControl c = true) : c.toNat < 0xA0 := by
  simp only [isControl, Bool.or_eq_true, Bool.and_eq_true, decide_eq_true_eq] at h
  omega

theorem lt_of_isAsciiDigit {c : Char} (h : isAsciiDigit c = true) : c.toNat < 0xA0 := by
  simp only [isAsciiDigit, Bool.and_eq_true, decide_eq_true_eq] at h
  have h9 : c.toNat ≤ '9'.toNat := h.2
  exact Nat.lt_of_le_of_lt h9 (by decide)

/-- A character of a name is written by its code point, as it is or behind a backslash. -/
theorem writeNameChar_cases (leading : Bool) (c : Char) :
    (c ≠ '\x00' ∧ c.toNat < 0xA0 ∧ writeNameChar leading c = '\\' :: (hexDigits c.toNat ++ [' '])) ∨
      (isNameChar (scrubbedChar c) = true ∧ (leading = true → isAsciiDigit (scrubbedChar c) = false) ∧
        writeNameChar leading c = [scrubbedChar c]) ∨
      (c ≠ '\x00' ∧ isNameChar c = false ∧ c ≠ '\n' ∧ writeNameChar leading c = ['\\', c]) := by
  rw [writeNameChar]
  by_cases h0 : c = '\x00'
  · subst h0
    exact Or.inr (Or.inl ⟨by decide, fun _ => by decide, rfl⟩)
  · rw [if_neg h0, scrubbedChar, if_neg h0]
    split
    · rename_i hcode
      refine Or.inl ⟨h0, ?_, rfl⟩
      rw [Bool.or_eq_true, Bool.and_eq_true] at hcode
      rcases hcode with h | h
      · exact lt_of_isControl h
      · exact lt_of_isAsciiDigit h.2
    · rename_i hcode
      split
      · rename_i hname
        refine Or.inr (Or.inl ⟨hname, ?_, rfl⟩)
        rintro rfl
        simpa using fun h : isAsciiDigit c = true => hcode (by simp [h])
      · rename_i hname
        refine Or.inr (Or.inr ⟨h0, by simpa using hname, ?_, rfl⟩)
        rintro rfl
        exact hcode rfl

/-! ## Names -/

theorem readName_of_isNameChar {c : Char} (h : isNameChar c = true) (t : List Char) :
    readName (c :: t) = (c :: (readName t).1, (readName t).2) := by
  rw [readName, if_pos h]

theorem readName_escape {t : List Char} (h : atEscape ('\\' :: t) = true) :
    readName ('\\' :: t) =
      ((readEscape t).1 :: (readName (readEscape t).2).1, (readName (readEscape t).2).2) := by
  rw [readName, if_neg (by decide), if_pos h]

theorem readName_of_not_continues {s : List Char} (h : continues s = false) :
    readName s = ([], s) := by
  cases s with
  | nil => rw [readName]
  | cons c t =>
    simp only [continues, List.head?_cons, Option.any_some, Bool.or_eq_false_iff] at h
    rw [readName, if_neg (by simp [h.1]), if_neg (by simp [h.2])]

/-- The characters of a name with those marked that stand in a leading place. -/
def marked : List Char → List (Bool × Char)
  | [] => []
  | '-' :: c :: s => (true, '-') :: (true, c) :: s.map (false, ·)
  | c :: s => (true, c) :: s.map (false, ·)

def writeMarked (cs : List (Bool × Char)) : List Char := cs.flatMap fun (b, c) => writeNameChar b c

theorem writeName_eq (s : List Char) : writeName s = writeMarked (marked s) := by
  have hrest (s : List Char) : s.flatMap (writeNameChar false) = writeMarked (s.map (false, ·)) := by
    rw [writeMarked, List.flatMap_map]
  fun_cases writeName s with
  | case1 => rfl
  | case2 c s =>
    rw [hrest]
    rfl
  | case3 c s hfirst =>
    rw [hrest, marked]
    · rfl
    · exact hfirst

theorem map_snd_marked (s : List Char) : (marked s).map Prod.snd = s := by
  have hrest (s : List Char) : (s.map (false, ·)).map Prod.snd = s := by
    rw [List.map_map, Function.comp_def, List.map_id']
  fun_cases marked s with
  | case1 => rfl
  | case2 c s => rw [List.map_cons, List.map_cons, hrest]
  | case3 c s => rw [List.map_cons, hrest]

theorem readName_writeNameChar (leading : Bool) (c : Char) (rest : List Char) :
    readName (writeNameChar leading c ++ rest) =
      (scrubbedChar c :: (readName rest).1, (readName rest).2) := by
  rcases writeNameChar_cases leading c with ⟨h0, hlt, hw⟩ | ⟨hname, -, hw⟩ |
    ⟨h0, hname, hnl, hw⟩
  · rw [hw, List.cons_append, List.append_assoc, List.singleton_append,
      readName_escape (atEscape_hexDigits hlt _), (readEscape_hexDigits h0 hlt).1, scrubbedChar, if_neg h0]
  · rw [hw, List.singleton_append, readName_of_isNameChar hname]
  · have hesc : atEscape ('\\' :: c :: rest) = true := by simpa [atEscape] using hnl
    have hhex : ¬ isHexDigit c = true := by
      intro h
      rw [isNameChar_of_isHexDigit h] at hname
      cases hname
    rw [hw, List.cons_append, List.singleton_append, readName_escape hesc, readEscape, if_neg hhex,
      scrubbedChar, if_neg h0]

/-! ## Where a name starts -/

theorem atName_hyphen_cons (d : Char) (s : List Char) :
    atName ('-' :: d :: s) = (isNameStart d || d == '-' || atEscape (d :: s)) := by
  by_cases hd : d = '\\'
  · subst hd
    rfl
  · simp [atName, hd, atEscape]

theorem atName_cons {c : Char} (hc : c ≠ '-') (s : List Char) :
    atName (c :: s) = (isNameStart c || atEscape (c :: s)) := by
  rw [atName]
  · exact fun _ h => absurd h hc
  · exact fun _ _ h => absurd h hc

/-- In a leading place a written character starts a name, unless it is a hyphen. -/
theorem writeNameChar_leading {c : Char} (hc : c ≠ '-') (s : List Char) :
    ∃ d t, writeNameChar true c ++ s = d :: t ∧ d ≠ '-' ∧
      (isNameStart d || atEscape (d :: t)) = true := by
  rcases writeNameChar_cases true c with ⟨-, hlt, hw⟩ | ⟨hname, hdigit, hw⟩ | ⟨-, -, hnl, hw⟩
  · refine ⟨'\\', hexDigits c.toNat ++ ' ' :: s, by simp [hw], by decide, ?_⟩
    rw [atEscape_hexDigits hlt, Bool.or_true]
  · have hhyphen : scrubbedChar c ≠ '-' := by
      rw [scrubbedChar]
      split
      · decide
      · exact hc
    refine ⟨scrubbedChar c, s, by simp [hw], hhyphen, ?_⟩
    rw [isNameChar, hdigit rfl] at hname
    have hstart : isNameStart (scrubbedChar c) = true := by simpa [hhyphen] using hname
    rw [hstart, Bool.true_or]
  · refine ⟨'\\', c :: s, by simp [hw], by decide, ?_⟩
    have hesc : atEscape ('\\' :: c :: s) = true := by simpa [atEscape_cons] using hnl
    rw [hesc, Bool.or_true]

theorem atName_writeName {name : List Char} (hne : name ≠ []) (hhyphen : name ≠ ['-'])
    (rest : List Char) : atName (writeName name ++ rest) = true := by
  fun_cases writeName name with
  | case1 => exact absurd rfl hne
  | case2 c s =>
    simp only [List.cons_append, List.append_assoc]
    by_cases hc : c = '-'
    · subst hc
      exact (atName_hyphen_cons '-' _).trans (by simp)
    · obtain ⟨d, t, hw, -, hd⟩ := writeNameChar_leading hc (s.flatMap (writeNameChar false) ++ rest)
      rw [hw, atName_hyphen_cons, Bool.or_right_comm, hd, Bool.true_or]
  | case3 c s hfirst =>
    have hc : c ≠ '-' := by
      rintro rfl
      cases s with
      | nil => exact hhyphen rfl
      | cons d s => exact hfirst d s rfl rfl
    obtain ⟨d, t, hw, hd, hstart⟩ := writeNameChar_leading hc (s.flatMap (writeNameChar false) ++ rest)
    rw [List.append_assoc, hw, atName_cons hd, hstart]

theorem continues_of_atName {s : List Char} (h : atName s = true) : continues s = true := by
  cases s with
  | nil => cases h
  | cons c s =>
    rw [continues, List.head?_cons, Option.any_some]
    by_cases hc : c = '-'
    · subst hc
      rfl
    · rw [atName_cons hc, Bool.or_eq_true] at h
      rw [isNameChar]
      rcases h with h | h <;> simp [h]

theorem continues_writeName {name : List Char} (hne : name ≠ []) (rest : List Char) :
    continues (writeName name ++ rest) = true := by
  by_cases hhyphen : name = ['-']
  · subst hhyphen
    rfl
  · exact continues_of_atName (atName_writeName hne hhyphen rest)

/-! ## Names at the end of a text -/

theorem atEscape_of_append {t : List Char} (hex : t.getLast?.any isHexDigit = true)
    (h : atEscape (t ++ [' ']) = true) : atEscape t = true := by
  match t with
  | [] => cases hex
  | [c] =>
    rw [List.singleton_append, atEscape_cons, Bool.and_eq_true, beq_iff_eq] at h
    obtain ⟨rfl, -⟩ := h
    cases hex
  | c :: d :: s =>
    rw [List.cons_append, List.cons_append, atEscape_cons] at h
    rw [atEscape_cons]
    exact h

theorem continues_of_append {t : List Char} (hex : t.getLast?.any isHexDigit = true)
    (h : continues (t ++ [' ']) = true) : continues t = true := by
  cases t with
  | nil => cases hex
  | cons c t =>
    rw [continues, Bool.or_eq_true] at h ⊢
    exact h.imp id (atEscape_of_append hex)

theorem atName_of_append {t : List Char} (hex : t.getLast?.any isHexDigit = true)
    (h : atName (t ++ [' ']) = true) : atName t = true := by
  match t with
  | [] => cases hex
  | [c] =>
    have hc : c ≠ '-' := by
      rintro rfl
      cases hex
    rw [List.singleton_append, atName_cons hc, Bool.or_eq_true] at h
    rw [atName_cons hc, Bool.or_eq_true]
    exact h.imp id (atEscape_of_append (t := [c]) hex)
  | c :: d :: s =>
    by_cases hc : c = '-'
    · subst hc
      rw [List.cons_append, List.cons_append, atName_hyphen_cons, Bool.or_eq_true] at h
      rw [atName_hyphen_cons, Bool.or_eq_true]
      exact h.imp id (atEscape_of_append (t := d :: s) (by simpa using hex))
    · rw [List.cons_append, atName_cons hc, Bool.or_eq_true] at h
      rw [atName_cons hc, Bool.or_eq_true]
      exact h.imp id (atEscape_of_append (t := c :: d :: s) hex)

theorem writeMarked_cons (b : Bool) (c : Char) (cs : List (Bool × Char)) :
    writeMarked ((b, c) :: cs) = writeNameChar b c ++ writeMarked cs := List.flatMap_cons

/-- Something is written for a character, and never a space alone. -/
theorem writeMarked_cons_ne (b : Bool) (c : Char) (cs : List (Bool × Char)) :
    writeMarked ((b, c) :: cs) ≠ [] ∧ writeMarked ((b, c) :: cs) ≠ [' '] := by
  rw [writeMarked_cons]
  rcases writeNameChar_cases b c with ⟨-, -, hw⟩ | ⟨hname, -, hw⟩ | ⟨-, -, -, hw⟩
  · simp [hw]
  · rw [hw]
    refine ⟨by simp, fun h => ?_⟩
    rw [(List.cons.inj h).1] at hname
    cases hname
  · simp [hw]

/-- Only an escape by code point ends with a space behind a hexadecimal digit. -/
theorem readName_bare {b : Bool} {c : Char} {t : List Char} (last : writeNameChar b c = t ++ [' '])
    (hex : t.getLast?.any isHexDigit = true) : readName t = ([scrubbedChar c], []) := by
  rcases writeNameChar_cases b c with ⟨h0, hlt, hw⟩ | ⟨-, -, hw⟩ | ⟨-, -, -, hw⟩
  · rw [hw, ← List.cons_append] at last
    obtain ⟨rfl, -⟩ := append_singleton_inj last
    have hesc := atEscape_hexDigits hlt []
    rw [List.append_nil] at hesc
    rw [readName_escape hesc, (readEscape_hexDigits h0 hlt).2, readName, scrubbedChar, if_neg h0]
  · rw [hw] at last
    obtain ⟨rfl, -⟩ := append_singleton_inj (u := []) last
    cases hex
  · rw [hw] at last
    obtain ⟨rfl, -⟩ := append_singleton_inj (u := ['\\']) last
    cases hex

theorem readName_written_marked {cs : List (Bool × Char)} {rest t : List Char}
    (h : Written (writeMarked cs) rest t) (hrest : continues rest = false) :
    readName t = (scrubbed (cs.map Prod.snd), rest) := by
  induction cs generalizing t with
  | nil =>
    rw [h.eq_append (by simp [writeMarked]), writeMarked, List.flatMap_nil, List.nil_append,
      readName_of_not_continues hrest]
    rfl
  | cons x cs ih =>
    obtain ⟨b, c⟩ := x
    rw [writeMarked_cons] at h
    cases cs with
    | nil =>
      have hnil : writeMarked [] = [] := rfl
      rw [hnil, List.append_nil] at h
      cases h with
      | whole =>
        rw [readName_writeNameChar, readName_of_not_continues hrest]
        rfl
      | bare last hex => exact readName_bare last hex
    | cons y cs =>
      obtain ⟨hne, hspace⟩ := writeMarked_cons_ne y.1 y.2 cs
      obtain ⟨u, rfl, hu⟩ := h.of_append hne hspace
      rw [readName_writeNameChar, ih hu]
      rfl

theorem writeName_ne {name : List Char} (hne : name ≠ []) :
    writeName name ≠ [] ∧ writeName name ≠ [' '] := by
  rw [writeName_eq]
  cases hm : marked name with
  | nil =>
    have hname := map_snd_marked name
    rw [hm] at hname
    exact absurd hname.symm hne
  | cons x cs => exact writeMarked_cons_ne x.1 x.2 cs

/-! ## Written names -/

section Written

variable {name rest t : List Char} (h : Written (writeName name) rest t)

include h

/-- A written name is read back up to the text behind it, which must not continue it. -/
theorem readName_written (hrest : continues rest = false) : readName t = (scrubbed name, rest) := by
  rw [writeName_eq] at h
  rw [readName_written_marked h hrest, map_snd_marked]

theorem atName_written (hne : name ≠ []) (hhyphen : name ≠ ['-']) : atName t = true := by
  cases h with
  | whole => exact atName_writeName hne hhyphen rest
  | bare last hex =>
    refine atName_of_append hex ?_
    rw [← last, ← List.append_nil (writeName name)]
    exact atName_writeName hne hhyphen []

theorem continues_written (hne : name ≠ []) : continues t = true := by
  cases h with
  | whole => exact continues_writeName hne rest
  | bare last hex =>
    refine continues_of_append hex ?_
    rw [← last, ← List.append_nil (writeName name)]
    exact continues_writeName hne []

theorem expectName_written (hne : name ≠ []) (hrest : continues rest = false) (expected : Expected) :
    expectName expected t = .ok (String.ofList (scrubbed name), rest) := by
  have hc := continues_written h hne
  rw [continues] at hc
  rw [expectName, if_pos hc, readName_written h hrest]

end Written

/-! ## Strings -/

theorem readString_plain (e : SyntaxError (List Char)) {quote c : Char} (hq : c ≠ quote)
    (hnl : c ≠ '\n') (hesc : c ≠ '\\') (rest : List Char) : readString e quote (c :: rest) =
      (readString e quote rest).map fun (value, t) => (c :: value, t) := by
  rw [readString.eq_def]
  simp only [if_neg hq, if_neg hnl, if_neg hesc]
  cases readString e quote rest <;> rfl

theorem readString_escape (e : SyntaxError (List Char)) {quote d : Char} (hq : '\\' ≠ quote)
    (hnl : d ≠ '\n') (rest : List Char) : readString e quote ('\\' :: d :: rest) =
      (readString e quote (readEscape (d :: rest)).2).map fun (value, t) =>
        ((readEscape (d :: rest)).1 :: value, t) := by
  have hslash : ¬ '\\' = '\n' := by decide
  rw [readString.eq_def]
  simp only [if_neg hq, if_neg hslash, if_pos, if_neg hnl]
  cases readString e quote (readEscape (d :: rest)).2 <;> rfl

theorem readString_writeStringChar (e : SyntaxError (List Char)) (c : Char) (rest : List Char) :
    readString e '"' (writeStringChar c ++ rest) =
      (readString e '"' rest).map fun (value, t) => (scrubbedChar c :: value, t) := by
  rw [writeStringChar]
  split
  · rename_i h0
    rw [h0, List.singleton_append]
    exact readString_plain e (by decide) (by decide) (by decide) rest
  · rename_i h0
    have hchar : scrubbedChar c = c := if_neg h0
    rw [hchar]
    split
    · rename_i hc
      rw [Bool.or_eq_true, decide_eq_true_eq, decide_eq_true_eq] at hc
      have hread : readEscape (c :: rest) = (c, rest) := by
        rcases hc with rfl | rfl <;> rfl
      have hnl : c ≠ '\n' := by
        rcases hc with rfl | rfl <;> decide
      rw [List.cons_append, List.singleton_append, readString_escape e (by decide) hnl, hread]
    · rename_i hc
      rw [Bool.or_eq_true, decide_eq_true_eq, decide_eq_true_eq, not_or] at hc
      split
      · rename_i hcontrol
        have hlt := lt_of_isControl hcontrol
        have hread := (readEscape_hexDigits h0 hlt).1 rest
        have hesc := atEscape_hexDigits hlt (' ' :: rest)
        simp only [List.cons_append, List.append_assoc, List.nil_append]
        cases hd : hexDigits c.toNat ++ ' ' :: rest with
        | nil => simp at hd
        | cons d ds =>
          rw [hd] at hread hesc
          have hnl : d ≠ '\n' := by simpa [atEscape_cons] using hesc
          rw [readString_escape e (by decide) hnl, hread]
      · rename_i hcontrol
        have hnl : c ≠ '\n' := by
          rintro rfl
          exact hcontrol rfl
        rw [List.singleton_append]
        exact readString_plain e hc.1 hnl hc.2 rest

/-- A written string is read back, whatever follows it. -/
theorem readQuoted_writeString (value rest : List Char) :
    readQuoted (writeString value ++ rest) = .ok (scrubbed value, rest) := by
  have hbody (e : SyntaxError (List Char)) :
      readString e '"' (value.flatMap writeStringChar ++ '"' :: rest) =
        .ok (scrubbed value, rest) := by
    induction value with
    | nil =>
      rw [List.flatMap_nil, List.nil_append, readString.eq_def]
      rfl
    | cons c value ih =>
      rw [List.flatMap_cons, List.append_assoc, readString_writeStringChar, ih]
      rfl
  simp only [writeString, List.cons_append, List.append_assoc, List.nil_append]
  exact hbody _

end Umbra.Selector
