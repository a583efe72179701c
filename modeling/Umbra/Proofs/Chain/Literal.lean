import Umbra.Proofs.Selector.Trailing
import Umbra.Chain.Part
import Umbra.TextPattern

/-!
# Literals at the start of a clause

The search for a separator passes over the literal at the start of a clause: up to the delimiter it
starts with, a backslash taking the next character out of account. A quoted text ends there too. A
regular expression does not: it ends at the last slash of the clause.
-/

namespace Umbra.Part

open Selector Text

/-! ## Literals -/

/-- What can stand inside a literal. -/
inductive Enclosed (delimiter : Char) : List Char → Prop
  | nil : Enclosed delimiter []
  | plain {c : Char} {s : List Char} (hc : c ≠ delimiter) (hslash : c ≠ '\\')
    (rest : Enclosed delimiter s) : Enclosed delimiter (c :: s)
  | escape {c : Char} {s : List Char} (rest : Enclosed delimiter s) :
    Enclosed delimiter ('\\' :: c :: s)

theorem skipLiteral?_iff {delimiter : Char} (hd : delimiter ≠ '\\') {s rest : List Char} :
    skipLiteral? delimiter s = some rest ↔
      ∃ inner, Enclosed delimiter inner ∧ s = inner ++ delimiter :: rest := by
  constructor
  · intro h
    fun_induction skipLiteral? delimiter s with
    | case1 => cases h
    | case2 c s ih =>
      obtain ⟨inner, hinner, rfl⟩ := ih h
      exact ⟨'\\' :: c :: inner, .escape hinner, rfl⟩
    | case3 s =>
      cases h
      exact ⟨[], .nil, rfl⟩
    | case4 c s hslash hc ih =>
      obtain ⟨inner, hinner, rfl⟩ := ih h
      refine ⟨c :: inner, .plain hc (fun heq => ?_) hinner, rfl⟩
      cases inner <;> exact hslash _ _ heq rfl
  · rintro ⟨inner, hinner, rfl⟩
    induction hinner with
    | nil =>
      rw [List.nil_append, skipLiteral?, if_pos rfl]
      exact fun _ _ h => absurd h hd
    | plain hc hslash _ ih =>
      rw [List.cons_append, skipLiteral?, if_neg hc, ih]
      exact fun _ _ h => absurd h hslash
    | escape _ ih => rw [List.cons_append, List.cons_append, skipLiteral?, ih]

/-- The characters between which literals stand. -/
inductive Delimiter : Char → Prop
  | double : Delimiter '"'
  | single : Delimiter '\''
  | slash : Delimiter '/'

theorem delimiter_iff {c : Char} : Delimiter c ↔ (c = '"' || c = '\'') = true ∨ c = '/' := by
  rw [Bool.or_eq_true, decide_eq_true_eq, decide_eq_true_eq]
  constructor
  · intro h
    cases h with
    | double => exact Or.inl (Or.inl rfl)
    | single => exact Or.inl (Or.inr rfl)
    | slash => exact Or.inr rfl
  · rintro ((rfl | rfl) | rfl)
    · exact .double
    · exact .single
    · exact .slash

theorem Delimiter.spec {c : Char} (h : Delimiter c) : c ≠ '\\' ∧ isBlank c = false := by
  cases h <;> decide

/-- What a clause is searched for a separator from: the text behind the literal at its start, or all
of it. -/
inductive Searched : List Char → List Char → Prop
  | nil : Searched [] []
  | literal {c : Char} {t rest : List Char} (hc : Delimiter c) (h : skipLiteral? c t = some rest) :
    Searched (c :: t) rest
  | plain {c : Char} (hc : ¬ Delimiter c) (t : List Char) : Searched (c :: t) (c :: t)
  | slash {t : List Char} (h : skipLiteral? '/' t = none) : Searched ('/' :: t) ('/' :: t)

theorem skipStart_iff {clause rest : List Char} :
    skipStart clause = .ok rest ↔ Searched clause rest := by
  constructor
  · intro h
    cases clause with
    | nil =>
      cases h
      exact .nil
    | cons c t =>
      rw [skipStart] at h
      split at h
      · rename_i hquote
        split at h
        · rename_i hskip
          cases h
          exact .literal (delimiter_iff.2 (Or.inl hquote)) hskip
        · cases h
      · rename_i hquote
        split at h
        · rename_i hslash
          subst hslash
          cases hskip : skipLiteral? '/' t with
          | none =>
            rw [hskip] at h
            cases h
            exact .slash hskip
          | some rest =>
            rw [hskip] at h
            cases h
            exact .literal .slash hskip
        · rename_i hslash
          cases h
          exact .plain (mt delimiter_iff.1 (not_or.2 ⟨hquote, hslash⟩)) t
  · intro h
    cases h with
    | nil => rfl
    | literal hc h => cases hc <;> simp [skipStart, h]
    | @plain c hc t =>
      obtain ⟨hquote, hslash⟩ := not_or.1 (mt delimiter_iff.2 hc)
      rw [skipStart, if_neg hquote, if_neg hslash]
    | slash h => simp [skipStart, h]

theorem skipLiteral?_append {delimiter : Char} (hd : delimiter ≠ '\\') {s rest : List Char}
    (h : skipLiteral? delimiter s = some rest) (t : List Char) :
    skipLiteral? delimiter (s ++ t) = some (rest ++ t) := by
  obtain ⟨inner, hinner, rfl⟩ := (skipLiteral?_iff hd).1 h
  exact (skipLiteral?_iff hd).2 ⟨inner, hinner, by simp⟩

/-- A clause is a literal, or nothing, and the text that is searched. The literal is found as well
where less of that text stands behind it. -/
theorem Searched.exists_literal {clause rest : List Char} (h : Searched clause rest) :
    ∃ literal, clause = literal ++ rest ∧ literal.getLast?.any isBlank = false ∧
      ∀ u, u <+: rest → literal ++ u ≠ [] → Searched (literal ++ u) u := by
  cases h with
  | nil => exact ⟨[], rfl, rfl, fun u hu hne => absurd (List.prefix_nil.1 hu) hne⟩
  | @literal c t rest hc h =>
    obtain ⟨hslash, hblank⟩ := hc.spec
    obtain ⟨inner, hinner, rfl⟩ := (skipLiteral?_iff hslash).1 h
    refine ⟨c :: (inner ++ [c]), by simp, ?_, fun u _ _ => ?_⟩
    · rw [← List.cons_append, List.getLast?_concat]
      exact hblank
    · have hskip : skipLiteral? c (inner ++ c :: u) = some u :=
        (skipLiteral?_iff hslash).2 ⟨inner, hinner, rfl⟩
      simpa using Searched.literal hc hskip
  | @plain c hc t =>
    refine ⟨[], rfl, rfl, fun u hu hne => ?_⟩
    obtain ⟨d, v, rfl⟩ := List.exists_cons_of_ne_nil hne
    obtain ⟨rfl, -⟩ := List.cons_prefix_cons.1 hu
    exact .plain hc v
  | @slash t h =>
    refine ⟨[], rfl, rfl, fun u hu hne => ?_⟩
    obtain ⟨d, v, rfl⟩ := List.exists_cons_of_ne_nil hne
    obtain ⟨rfl, w, rfl⟩ := List.cons_prefix_cons.1 hu
    refine .slash ?_
    cases hskip : skipLiteral? '/' v with
    | none => rfl
    | some rest =>
      rw [skipLiteral?_append (by decide) hskip] at h
      cases h

/-! ## Quoted texts -/

theorem skipLiteral?_pass {delimiter : Char} {inner : List Char}
    (h : ∀ c ∈ inner, c ≠ delimiter ∧ c ≠ '\\') (s : List Char) :
    skipLiteral? delimiter (inner ++ s) = skipLiteral? delimiter s := by
  induction inner with
  | nil => rfl
  | cons c inner ih =>
    obtain ⟨hc, hinner⟩ := List.forall_mem_cons.1 h
    rw [List.cons_append, skipLiteral?, if_neg hc.1, ih hinner]
    exact fun _ _ h => absurd h hc.2

/-- What belongs to an escape behind its first character does not end the literal. -/
theorem skipLiteral?_readEscape {quote : Char} (hquote : quote = '"' ∨ quote = '\'') (d : Char)
    (u : List Char) : skipLiteral? quote u = skipLiteral? quote (readEscape (d :: u)).2 := by
  obtain ⟨skipped, hu, hskipped⟩ := exists_readEscape d u
  nth_rewrite 1 [hu]
  refine skipLiteral?_pass (fun c hc => ?_) _
  obtain ⟨hslash, hdouble, hsingle⟩ := hexDigit_or_space_spec (hskipped c hc)
  rcases hquote with rfl | rfl
  · exact ⟨hdouble, hslash⟩
  · exact ⟨hsingle, hslash⟩

/-- A string ends where the literal ends. -/
theorem skipLiteral?_of_readString (e : SyntaxError (List Char)) {quote : Char}
    (hquote : quote = '"' ∨ quote = '\'') {s value rest : List Char}
    (h : readString e quote s = .ok (value, rest)) : skipLiteral? quote s = some rest := by
  have hslash : '\\' ≠ quote := by rcases hquote with rfl | rfl <;> decide
  induction s using readString.induct quote generalizing value with
  | case1 =>
    rw [readString] at h
    cases h
  | case2 t =>
    rw [readString_quote] at h
    cases h
    exact (skipLiteral?_iff hslash.symm).2 ⟨[], .nil, rfl⟩
  | case3 t hq =>
    rw [readString.eq_def] at h
    simp only [if_neg hq, if_pos] at h
    cases h
  | case4 hq hnl =>
    rw [readString.eq_def] at h
    simp only [if_neg hq, if_neg hnl, if_pos] at h
    cases h
  | case5 u hq hnl ih =>
    rw [readString_newline e hslash] at h
    rw [skipLiteral?, ih h]
  | case6 d u hd hq hnl ih =>
    rw [readString_escape e hslash hd] at h
    -- the literal passes over the first character of the escape, the string over all of it
    obtain ⟨v, hv⟩ : ∃ v, readString e quote (readEscape (d :: u)).2 = .ok (v, rest) := by
      cases hread : readString e quote (readEscape (d :: u)).2 with
      | error e =>
        rw [hread] at h
        cases h
      | ok p =>
        rw [hread] at h
        cases h
        exact ⟨p.1, rfl⟩
    rw [skipLiteral?, skipLiteral?_readEscape hquote, ih hv]
  | case7 c t hq hnl hc ih =>
    rw [readString_plain e hq hnl hc] at h
    cases hread : readString e quote t with
    | error e =>
      rw [hread] at h
      cases h
    | ok p =>
      rw [hread] at h
      cases h
      rw [skipLiteral?, if_neg hq, ih hread]
      exact fun _ _ h => absurd h hc

/-! ## Text patterns -/

variable [RegexLibrary]

/-- What a clause of text is read as. -/
inductive ReadsAs : List Char → TextPattern → Prop
  | exact {c : Char} {s value rest : List Char} (hquote : c = '"' ∨ c = '\'')
    (hread : readQuoted (c :: s) = .ok (value, rest)) (hrest : Spaces rest) :
    ReadsAs (c :: s) (.exact (String.ofList (collapse value)))
  | regex {s source flags : List Char} {program : RegexLibrary.Program}
    (hs : TextPattern.splitFlags? s = some (source, flags))
    (hprogram : RegexLibrary.compile? source flags = some program) :
    ReadsAs ('/' :: s) (.regex (String.ofList source) (String.ofList flags) program)
  | slash {s : List Char} (hs : TextPattern.splitFlags? s = none) :
    ReadsAs ('/' :: s) (TextPattern.lowered ('/' :: s))
  | plain {t : List Char} (ht : ∀ c s, t = c :: s → ¬ Delimiter c) :
    ReadsAs t (TextPattern.lowered t)

theorem readsAs_of_parse {t : List Char} {p : TextPattern} (h : TextPattern.parse t = .ok p) :
    ReadsAs t p := by
  cases t with
  | nil =>
    cases h
    exact .plain nofun
  | cons c s =>
    rw [TextPattern.parse] at h
    split at h
    · rename_i hquote
      rw [Bool.or_eq_true, decide_eq_true_eq, decide_eq_true_eq] at hquote
      obtain ⟨⟨value, rest⟩, hread, h⟩ := bind_eq_ok.1 h
      cases hskip : skipSpace rest with
      | nil =>
        simp only [hskip] at h
        cases h
        exact .exact hquote hread (spaces_of_skipSpace hskip)
      | cons d u =>
        simp only [hskip] at h
        cases h
    · rename_i hquote
      split at h
      · rename_i hslash
        subst hslash
        cases hs : TextPattern.splitFlags? s with
        | none =>
          simp only [hs] at h
          cases h
          exact .slash hs
        | some q =>
          simp only [hs, TextPattern.readRegex] at h
          split at h
          · rename_i hprogram
            cases h
            exact .regex hs hprogram
          · cases h
      · rename_i hslash
        cases h
        refine .plain fun d u hd => ?_
        cases hd
        exact mt delimiter_iff.1 (not_or.2 ⟨hquote, hslash⟩)

/-- With a delimiter at its start, only a clause without flags at its end is plain text. -/
theorem ReadsAs.of_substring {c : Char} {s : List Char} {needle : String}
    (h : ReadsAs (c :: s) (.substring needle)) (hc : Delimiter c) :
    c = '/' ∧ TextPattern.splitFlags? s = none := by
  generalize ht : c :: s = t at h
  generalize hp : TextPattern.substring needle = p at h
  cases h with
  | exact => cases hp
  | regex => cases hp
  | slash hs =>
    cases ht
    exact ⟨rfl, hs⟩
  | plain hplain => exact absurd hc (hplain c s ht.symm)

end Umbra.Part
