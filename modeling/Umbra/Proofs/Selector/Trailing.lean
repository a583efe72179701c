import Umbra.Proofs.Selector.Follows
import Umbra.Proofs.Selector.Scan

/-!
# Names, strings and attributes before white space

None of the readers of these takes white space at the end of the text for more than white space: an
escape by code point swallows one character of it, and everything else leaves it.
-/

namespace Umbra.Selector

open Text

/-! ## Escapes -/

/-- The hexadecimal digits that belong to an escape behind its first one. -/
def hexRun (s : List Char) : List Char := (s.take 5).takeWhile isHexDigit

theorem hexRun_isPrefix (s : List Char) : hexRun s <+: s :=
  (List.takeWhile_prefix _).trans (List.take_prefix 5 s)

theorem readEscape_hex {c : Char} (hc : isHexDigit c = true) (s : List Char) :
    readEscape (c :: s) =
      (escapedChar (hexValue (c :: hexRun s)), skipOneSpace (s.drop (hexRun s).length)) := by
  rw [readEscape, if_pos hc]
  rfl

theorem readEscape_other {c : Char} (hc : ¬ isHexDigit c = true) (s : List Char) :
    readEscape (c :: s) = (c, s) := by
  rw [readEscape, if_neg hc]

theorem skipOneSpace_cons (c : Char) (s : List Char) :
    skipOneSpace (c :: s) = if isSpace c then s else c :: s := rfl

theorem hexDigit_or_space_spec {c : Char} (h : isHexDigit c = true ∨ isSpace c = true) :
    c ≠ '\\' ∧ c ≠ '"' ∧ c ≠ '\'' := by
  rcases h with h | h
  · refine ⟨?_, ?_, ?_⟩ <;> rintro rfl <;> cases h
  · refine ⟨?_, ?_, ?_⟩ <;> rintro rfl <;> cases h

/-- Behind its first character an escape has digits and a white space at most. -/
theorem exists_readEscape (d : Char) (u : List Char) : ∃ skipped,
    u = skipped ++ (readEscape (d :: u)).2 ∧
      ∀ c ∈ skipped, isHexDigit c = true ∨ isSpace c = true := by
  by_cases hd : isHexDigit d = true
  · have hrun : u = hexRun u ++ u.drop (hexRun u).length :=
      (List.prefix_iff_eq_append.1 (hexRun_isPrefix u)).symm
    have hdigits : ∀ c ∈ hexRun u, isHexDigit c = true ∨ isSpace c = true :=
      fun c hc => Or.inl (List.mem_takeWhile_imp hc)
    rw [readEscape_hex hd]
    cases hrest : u.drop (hexRun u).length with
    | nil => exact ⟨hexRun u, by rwa [hrest] at hrun, hdigits⟩
    | cons c w =>
      rw [hrest] at hrun
      rw [skipOneSpace_cons]
      split
      · rename_i hspace
        refine ⟨hexRun u ++ [c], by simpa using hrun, fun e he => ?_⟩
        rcases List.mem_append.1 he with he | he
        · exact hdigits e he
        · exact Or.inr (List.mem_singleton.1 he ▸ hspace)
      · exact ⟨hexRun u, hrun, hdigits⟩
  · rw [readEscape_other hd]
    exact ⟨[], rfl, nofun⟩

theorem hexRun_append_of_head {t : List Char} (ht : t.head?.any isHexDigit = false)
    (s : List Char) : hexRun (s ++ t) = hexRun s := by
  have hstop (n : Nat) : (t.take n).takeWhile isHexDigit = [] := by
    cases t with
    | nil => rw [List.take_nil, List.takeWhile_nil]
    | cons c t =>
      cases n with
      | zero => rfl
      | succ n => rw [List.take_succ_cons, List.takeWhile_cons_of_neg (by simpa using ht)]
  rw [hexRun, hexRun, List.take_append, List.takeWhile_append, hstop, List.append_nil]
  split
  · rename_i hall
    exact ((List.takeWhile_prefix _).eq_of_length hall).symm
  · rfl

section Trailing

variable {sp : List Char} (hsp : Spaces sp)

include hsp

omit hsp in
theorem slash_of_atEscape {c : Char} {t : List Char} (h : atEscape (c :: t) = true) :
    c = '\\' ∧ t ≠ [] := by
  rw [atEscape_cons, Bool.and_eq_true, beq_iff_eq] at h
  refine ⟨h.1, ?_⟩
  rintro rfl
  exact absurd h.2 (by decide)

theorem atEscape_append {s : List Char} (hs : atEscape s = true ∨ Whole s) :
    atEscape (s ++ sp) = atEscape s := by
  cases s with
  | nil =>
    have hnone := hsp.continues_eq
    rw [continues, Bool.or_eq_false_iff] at hnone
    exact hnone.2
  | cons c t =>
    by_cases hc : c = '\\'
    · subst hc
      have ht : t ≠ [] := hs.elim (fun h => (slash_of_atEscape h).2) Whole.ne_nil
      rw [List.cons_append, atEscape_cons, atEscape_cons, List.head?_append_of_ne_nil _ ht]
    · rw [List.cons_append, atEscape_cons, atEscape_cons, beq_eq_false_iff_ne.2 hc, Bool.false_and,
        Bool.false_and]

theorem continues_append {s : List Char} (hs : continues s = true ∨ Whole s) :
    continues (s ++ sp) = continues s := by
  cases s with
  | nil => exact hsp.continues_eq
  | cons c t =>
    by_cases hname : isNameChar c = true
    · simp [continues, hname]
    · have hs : atEscape (c :: t) = true ∨ Whole (c :: t) := by
        simpa [continues, hname] using hs
      rw [continues, continues, atEscape_append hsp hs]
      rfl

theorem atName_append {s : List Char} (hs : atName s = true ∨ Whole s) :
    atName (s ++ sp) = atName s := by
  have hnone : atName sp = false := by
    rw [Bool.eq_false_iff]
    intro h
    have hname := continues_of_atName h
    rw [hsp.continues_eq] at hname
    cases hname
  cases s with
  | nil => exact hnone
  | cons c t =>
    by_cases hc : c = '-'
    · subst hc
      cases t with
      | nil =>
        cases sp with
        | nil => rfl
        | cons d u =>
          have hstop := hsp.continues_eq
          rw [continues, List.head?_cons, Option.any_some, Bool.or_eq_false_iff, isNameChar,
            Bool.or_eq_false_iff, Bool.or_eq_false_iff] at hstop
          obtain ⟨⟨⟨hstart, -⟩, hhyphen⟩, hescape⟩ := hstop
          rw [List.singleton_append, atName_hyphen_cons, hstart, hhyphen, hescape]
          rfl
      | cons d u =>
        rw [List.cons_append, List.cons_append, atName_hyphen_cons, atName_hyphen_cons]
        by_cases hd : (isNameStart d || d == '-') = true
        · rw [hd, Bool.true_or, Bool.true_or]
        · have hs : atEscape (d :: u) = true ∨ Whole (d :: u) := by
            refine hs.imp (fun h => ?_) fun h => h.tail (by decide)
            rw [atName_hyphen_cons, Bool.or_eq_true] at h
            exact h.resolve_left hd
          rw [← List.cons_append, atEscape_append hsp hs]
    · rw [List.cons_append, atName_cons hc, atName_cons hc]
      by_cases hstart : isNameStart c = true
      · rw [hstart, Bool.true_or, Bool.true_or]
      · have hs : atEscape (c :: t) = true ∨ Whole (c :: t) := by
          refine hs.imp_left fun h => ?_
          rw [atName_cons hc, Bool.or_eq_true] at h
          exact h.resolve_left hstart
        rw [← List.cons_append, atEscape_append hsp hs]

theorem exists_skipOneSpace_append (s : List Char) :
    ∃ t, t <:+ sp ∧ skipOneSpace (s ++ sp) = skipOneSpace s ++ t := by
  cases s with
  | nil =>
    cases sp with
    | nil => exact ⟨[], List.suffix_rfl, rfl⟩
    | cons c t => exact ⟨t, List.suffix_cons c t, if_pos (hsp c (List.mem_cons_self ..))⟩
  | cons c s =>
    refine ⟨sp, List.suffix_rfl, ?_⟩
    rw [List.cons_append, skipOneSpace_cons, skipOneSpace_cons]
    split <;> rfl

theorem hexRun_append (s : List Char) : hexRun (s ++ sp) = hexRun s := by
  refine hexRun_append_of_head ?_ s
  cases sp with
  | nil => rfl
  | cons c t => simpa using (isSpace_spec (hsp c List.mem_cons_self)).2.1

omit hsp in
theorem leaves_readEscape {s : List Char} (hs : s ≠ []) : Leaves ('\\' :: s) (readEscape s).2 := by
  cases s with
  | nil => exact absurd rfl hs
  | cons c u =>
    obtain ⟨skipped, hu, hskipped⟩ := exists_readEscape c u
    have hwhole : Whole skipped := .of_forall fun d hd => (hexDigit_or_space_spec (hskipped d hd)).1
    exact .escape ⟨skipped, hwhole, hu⟩

/-- White space ends the digits of an escape, and one character of it belongs to the escape. -/
theorem exists_readEscape_append {s : List Char} (hs : s ≠ []) :
    ∃ t, t <:+ sp ∧ readEscape (s ++ sp) = ((readEscape s).1, (readEscape s).2 ++ t) := by
  cases s with
  | nil => exact absurd rfl hs
  | cons c u =>
    rw [List.cons_append]
    by_cases hc : isHexDigit c = true
    · obtain ⟨t, ht, hskip⟩ := exists_skipOneSpace_append hsp (u.drop (hexRun u).length)
      refine ⟨t, ht, ?_⟩
      rw [readEscape_hex hc, readEscape_hex hc, hexRun_append hsp,
        List.drop_append_of_le_length (hexRun_isPrefix u).length_le, hskip]
    · rw [readEscape_other hc, readEscape_other hc]
      exact ⟨sp, List.suffix_rfl, rfl⟩

theorem readEscape_follows {s : List Char} (hs : s ≠ []) :
    Follows sp ('\\' :: s) (.ok (readEscape s)) (.ok (readEscape (s ++ sp))) :=
  .pure (leaves_readEscape hs) fun _ => exists_readEscape_append hsp hs

/-! ## Names and strings -/

theorem readName_follows (s : List Char) :
    Follows sp s (.ok (readName s)) (.ok (readName (s ++ sp))) := by
  -- an escape may take a character of the white space, so that varies with the text
  fun_induction readName s generalizing sp with
  | case1 =>
    rw [List.nil_append, readName_of_not_continues hsp.continues_eq]
    exact .done
  | case2 c t hc name rest hread ih =>
    rw [List.cons_append, readName_of_isNameChar hc]
    have hslash : c ≠ '\\' := by
      rintro rfl
      cases hc
    rw [hread] at ih
    exact .after (.plain hslash (.refl t)) ((ih hsp).map hsp (c :: ·))
  | case3 c t hc hescape name rest hread ih =>
    obtain ⟨rfl, ht⟩ := slash_of_atEscape hescape
    have hescape' : atEscape ('\\' :: (t ++ sp)) = true :=
      (atEscape_append hsp (Or.inl hescape)).trans hescape
    rw [List.cons_append, readName_escape hescape']
    refine (readEscape_follows hsp ht).next hsp (f := fun p => .ok (p.1 :: name, rest))
      (g := fun p => .ok (p.1 :: (readName p.2).1, (readName p.2).2)) fun u hu => ?_
    rw [hread] at ih
    exact (ih hu).map hu ((readEscape t).1 :: ·)
  | case4 c t hc hescape =>
    have hstop : continues (c :: t) = false := by simp [continues, hc, hescape]
    refine .pure (.refl _) fun hs => ⟨sp, List.suffix_rfl, ?_⟩
    rw [readName_of_not_continues ((continues_append hsp (Or.inr hs)).trans hstop)]

theorem expectName_follows (expected : Expected) (s : List Char) :
    Follows sp s (expectName expected s) (expectName expected (s ++ sp)) := by
  by_cases hc : continues s = true
  · have hread {t : List Char} (h : continues t = true) :
        expectName expected t = .ok (String.ofList (readName t).1, (readName t).2) := if_pos h
    rw [hread hc, hread ((continues_append hsp (Or.inl hc)).trans hc)]
    exact (readName_follows hsp s).map hsp String.ofList
  · rw [expectName, ← continues, if_neg hc]
    exact .error

omit hsp in
theorem readString_quote (e : SyntaxError (List Char)) (quote : Char) (rest : List Char) :
    readString e quote (quote :: rest) = .ok ([], rest) := by
  rw [readString.eq_def]
  simp only [if_pos]

omit hsp in
theorem readString_newline (e : SyntaxError (List Char)) {quote : Char} (hq : '\\' ≠ quote)
    (rest : List Char) : readString e quote ('\\' :: '\n' :: rest) = readString e quote rest := by
  have hslash : ¬ '\\' = '\n' := by decide
  rw [readString.eq_def]
  simp only [if_neg hq, if_neg hslash, if_pos]

theorem readString_follows (e e' : SyntaxError (List Char)) {quote : Char} (hquote : '\\' ≠ quote)
    (s : List Char) : Follows sp s (readString e quote s) (readString e' quote (s ++ sp)) := by
  induction s using readString.induct quote generalizing sp with
  | case1 =>
    rw [readString]
    exact .error
  | case2 t =>
    rw [List.cons_append, readString_quote, readString_quote]
    exact .after (.plain hquote.symm (.refl t)) .done
  | case3 t hq =>
    rw [readString.eq_def]
    simp only [if_neg hq, if_pos]
    exact .error
  | case4 hq hnl =>
    rw [readString.eq_def]
    simp only [if_neg hq, if_neg hnl, if_pos]
    exact .error
  | case5 u hq hnl ih =>
    rw [List.cons_append, List.cons_append, readString_newline e hquote,
      readString_newline e' hquote]
    exact .after (.escape (.refl u)) (ih hsp)
  | case6 d u hd hq hnl ih =>
    rw [List.cons_append, List.cons_append, readString_escape e hquote hd,
      readString_escape e' hquote hd, ← List.cons_append]
    refine (readEscape_follows hsp (List.cons_ne_nil d u)).next hsp
      (f := fun p => (readString e quote p.2).map fun q => (p.1 :: q.1, q.2))
      (g := fun p => (readString e' quote p.2).map fun q => (p.1 :: q.1, q.2))
      fun t ht => (ih ht).mapped ((readEscape (d :: u)).1 :: ·)
  | case7 c t hq hnl hslash ih =>
    rw [List.cons_append, readString_plain e hq hnl hslash, readString_plain e' hq hnl hslash]
    exact .after (.plain hslash (.refl t)) ((ih hsp).mapped _)

theorem readQuoted_follows {quote : Char} (hquote : '\\' ≠ quote) (s : List Char) :
    Follows sp (quote :: s) (readQuoted (quote :: s)) (readQuoted (quote :: s ++ sp)) :=
  .after (.plain hquote.symm (.refl s)) (readString_follows hsp _ _ hquote s)

/-! ## Attributes -/

omit hsp in
theorem readOperator_follows (s : List Char) :
    Follows sp s (readOperator s) (readOperator (s ++ sp)) := by
  fun_cases readOperator s with
  | case1 => exact .error
  | case2 t => exact .after (.plain (by decide) (.refl t)) .done
  | case3 c hequals operator t hmark =>
    have hslash : c ≠ '\\' := by
      rintro rfl
      cases hmark
    have hread : readOperator (c :: '=' :: (t ++ sp)) = .ok (operator, t ++ sp) := by
      rw [readOperator]
      · exact hequals
      · exact hmark
    rw [List.cons_append, List.cons_append, hread]
    exact .after (.plain hslash (.plain (by decide) (.refl t))) .done
  | case4 => exact .error

omit hsp in
theorem readBareValue_escape {t : List Char} (ht : t ≠ []) : readBareValue ('\\' :: t) =
    ((readEscape t).1 :: (readBareValue (readEscape t).2).1,
      (readBareValue (readEscape t).2).2) := by
  have hescape : ('\\' = '\\' && !t.isEmpty) = true := by simpa using ht
  rw [readBareValue, if_neg (by decide), if_pos hescape]

omit hsp in
theorem readBareValue_plain {c : Char} {t : List Char} (hc : ¬ (isSpace c || c = ']') = true)
    (hescape : ¬ (c = '\\' && !t.isEmpty) = true) :
    readBareValue (c :: t) = (c :: (readBareValue t).1, (readBareValue t).2) := by
  rw [readBareValue, if_neg hc, if_neg hescape]

/-- An unquoted value that ends before the text does. -/
theorem readBareValue_follows {s : List Char} (hrest : (readBareValue s).2 ≠ []) :
    Follows sp s (.ok (readBareValue s)) (.ok (readBareValue (s ++ sp))) := by
  induction s using readBareValue.induct generalizing sp with
  | case1 => exact absurd (by rw [readBareValue]) hrest
  | case2 c t hc =>
    have hstop (u : List Char) : readBareValue (c :: u) = ([], c :: u) := by
      rw [readBareValue, if_pos hc]
    rw [List.cons_append, hstop, hstop]
    exact .done
  | case3 c t hc hescape _ _ _ ih =>
    rw [Bool.and_eq_true, decide_eq_true_eq, Bool.not_eq_true',
      List.isEmpty_eq_false_iff] at hescape
    obtain ⟨rfl, ht⟩ := hescape
    have ht' : t ++ sp ≠ [] := List.append_ne_nil_of_left_ne_nil ht sp
    rw [readBareValue_escape ht] at hrest ⊢
    rw [List.cons_append, readBareValue_escape ht']
    exact (readEscape_follows hsp ht).next hsp
      (f := fun p => .ok (p.1 :: (readBareValue p.2).1, (readBareValue p.2).2))
      (g := fun p => .ok (p.1 :: (readBareValue p.2).1, (readBareValue p.2).2))
      fun u hu => (ih hu hrest).map hu ((readEscape t).1 :: ·)
  | case4 c t hc hescape _ _ _ ih =>
    rw [readBareValue_plain hc hescape] at hrest ⊢
    have ht : t ≠ [] := by
      rintro rfl
      exact hrest (by rw [readBareValue])
    have hslash : c ≠ '\\' := by
      rintro rfl
      exact hescape (by simpa using ht)
    rw [List.cons_append, readBareValue_plain hc (by simp [hslash])]
    exact .after (.plain hslash (.refl t)) ((ih hsp hrest).map hsp (c :: ·))

theorem readValue_follows {unclosed unclosed' : SyntaxError (List Char)} {s value rest : List Char}
    (h : readValue unclosed s = .ok (value, rest)) (hrest : rest ≠ []) :
    Leaves s rest ∧
      (Whole s → ∃ t, t <:+ sp ∧ readValue unclosed' (s ++ sp) = .ok (value, rest ++ t)) := by
  cases s with
  | nil => cases h
  | cons c s =>
    rw [readValue] at h
    by_cases hquote : (c = '"' || c = '\'') = true
    · rw [if_pos hquote] at h
      rw [List.cons_append, readValue, if_pos hquote]
      have hc : '\\' ≠ c := by
        rintro rfl
        cases hquote
      exact readQuoted_follows hsp hc s value rest h
    · rw [if_neg hquote] at h
      rw [List.cons_append, readValue, if_neg hquote]
      by_cases hclose : c = ']'
      · rw [if_pos hclose] at h
        cases h
      · rw [if_neg hclose] at h ⊢
        rw [Except.ok.injEq] at h
        rw [← List.cons_append]
        exact readBareValue_follows hsp (by rwa [h]) value rest (congrArg _ h)

omit hsp in
theorem readModifier_of_isNameChar (unclosed : SyntaxError (List Char)) {c : Char}
    (hclose : ¬ c = ']') (hname : isNameChar c = true) (t : List Char) :
    readModifier unclosed (c :: t) = (CaseMode.ofModifier? (readName (c :: t)).1).elim
      (.error (.invalidAttributeModifier (String.ofList (readName (c :: t)).1) (c :: t)))
      fun mode => .ok (mode, (readName (c :: t)).2) := by
  rw [readModifier, if_neg hclose, if_pos hname]
  dsimp only
  cases CaseMode.ofModifier? (readName (c :: t)).1 <;> rfl

theorem readModifier_follows (unclosed unclosed' : SyntaxError (List Char)) (s : List Char) :
    Follows sp s (readModifier unclosed s) (readModifier unclosed' (s ++ sp)) := by
  cases s with
  | nil => exact .error
  | cons c s =>
    by_cases hclose : c = ']'
    · rw [List.cons_append, readModifier, readModifier, if_pos hclose, if_pos hclose]
      exact .done
    · by_cases hname : isNameChar c = true
      · rw [List.cons_append, readModifier_of_isNameChar unclosed hclose hname,
          readModifier_of_isNameChar unclosed' hclose hname]
        refine (readName_follows hsp (c :: s)).next hsp
          (f := fun p => (CaseMode.ofModifier? p.1).elim
            (.error (.invalidAttributeModifier (String.ofList p.1) (c :: s)))
            fun mode => .ok (mode, p.2))
          (g := fun p => (CaseMode.ofModifier? p.1).elim
            (.error (.invalidAttributeModifier (String.ofList p.1) (c :: (s ++ sp))))
            fun mode => .ok (mode, p.2)) fun t ht => ?_
        dsimp only
        cases CaseMode.ofModifier? (readName (c :: s)).1 with
        | none => exact .error
        | some mode => exact .done
      · rw [List.cons_append, readModifier, readModifier, if_neg hclose, if_neg hclose,
          if_neg hname, if_neg hname]
        cases hmode : CaseMode.ofModifier? [c] with
        | none =>
          simp only [hmode]
          exact .error
        | some mode =>
          have hslash : c ≠ '\\' := by
            rintro rfl
            cases hmode
          simp only [hmode]
          exact .after (.plain hslash (.refl s)) .done

/-- What comes behind the name of an attribute and the white space there. -/
def behindName (unclosed : SyntaxError (List Char)) (name : List Char) :
    List Char → Read (AttributePredicate × List Char)
  | [] => .error unclosed
  | ']' :: rest => .ok (.make (String.ofList name) .present, rest)
  | c :: t => do
    let (operator, afterOperator) ← readOperator (c :: t)
    let (value, afterValue) ← readValue unclosed (skipSpace afterOperator)
    let (mode, afterMode) ← readModifier unclosed (skipSpace afterValue)
    match skipSpace afterMode with
    | [] => .error unclosed
    | ']' :: rest =>
      .ok (.make (String.ofList name) (.compare operator (String.ofList value) mode), rest)
    | d :: u => .error (.unexpectedCharacter d (d :: u))

omit hsp in
theorem readAttribute_eq {s : List Char} (h : atName (skipSpace s) = true) :
    readAttribute ('[' :: s) = behindName (.unbalancedBracket '[' ('[' :: s))
      (readName (skipSpace s)).1 (skipSpace (readName (skipSpace s)).2) := by
  have hstart : ¬ (!atName (skipSpace s)) = true := by simp [h]
  rw [readAttribute, List.drop_one, List.tail_cons, if_neg hstart]
  rfl

theorem behindName_follows (unclosed unclosed' : SyntaxError (List Char)) (name s : List Char) :
    Follows sp s (behindName unclosed name s) (behindName unclosed' name (s ++ sp)) := by
  fun_cases behindName unclosed name s with
  | case1 => exact .error
  | case2 rest => exact .after (.plain (by decide) (.refl rest)) .done
  | case3 c t hclose =>
    rw [List.cons_append, behindName]
    · refine (readOperator_follows (c :: t)).bind hsp fun operator r t ht =>
        .skip ht fun t ht hskip => ?_
      simp only [hskip]
      refine .bind_of_ne_nil ht (fun value u h hu => readValue_follows ht h hu)
        (fun value => ⟨unclosed, rfl⟩) fun value r t ht => .skip ht fun t ht hskip => ?_
      simp only [hskip]
      refine (readModifier_follows ht unclosed unclosed' (skipSpace r)).bind ht fun mode r t ht =>
        .skip ht fun t ht hskip => ?_
      simp only [hskip]
      generalize skipSpace r = rest
      split
      · exact .error
      · exact .after (.plain (by decide) (.refl _)) .done
      · exact .error
    · exact hclose

theorem readAttribute_follows (s : List Char) :
    Follows sp s (readAttribute ('[' :: s)) (readAttribute ('[' :: s ++ sp)) := by
  refine .skip hsp fun t ht hskip => ?_
  by_cases h : atName (skipSpace s) = true
  · have h' : atName (skipSpace (s ++ sp)) = true := by
      rw [hskip, atName_append ht (Or.inl h), h]
    rw [List.cons_append, readAttribute_eq h, readAttribute_eq h', hskip]
    refine (readName_follows ht (skipSpace s)).next ht
      (f := fun p => behindName (.unbalancedBracket '[' ('[' :: s)) p.1 (skipSpace p.2))
      (g := fun p => behindName (.unbalancedBracket '[' ('[' :: (s ++ sp))) p.1 (skipSpace p.2))
      fun u hu => .skip hu fun v hv hskip => ?_
    rw [hskip]
    exact behindName_follows hv _ _ _ _
  · have hstart : (!atName (skipSpace s)) = true := by simpa using h
    rw [readAttribute, List.drop_one, List.tail_cons, if_pos hstart]
    exact .error

end Trailing

end Umbra.Selector
