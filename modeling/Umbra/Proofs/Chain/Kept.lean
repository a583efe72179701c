import Umbra.Proofs.Selector.Balanced
import Umbra.Proofs.Selector.Places
import Umbra.Proofs.Chain.Literal

/-!
# Texts that are kept together

A chain is cut at its separators before the clauses are read. What the readers take from a clause is
kept together by the cut: a name, a quoted text, an attribute test and an argument close what they
open. Only a bare quote, in a value without quotes around it, is not what the cut takes it for.
-/

namespace Umbra.Selector

open Text Umbra.Part

/-! ## Texts that are kept together -/

/-- The text in front of `rest` is passed by a search for a separator where it is passed by a search
for a comma. No quote is open behind it, and of the brackets that are open the outer ones stay. With
`inside`, these are the brackets from that of an attribute test on. -/
def Keeps (inside s rest : List Char) : Prop :=
  ∃ taken, Whole taken ∧ s = taken ++ rest ∧
    ∀ (below tail tail' : List Char) (o o' : Open), tail'.head? ≠ some '>' → o.quote = none →
      inside ++ below <:+ o.brackets → Scans [','] (rest ++ tail) o taken o' →
      Scans separator (rest ++ tail') o taken o' ∧ o'.quote = none ∧
        inside ++ below <:+ o'.brackets

namespace Keeps

variable {inside s t r : List Char}

theorem refl (s : List Char) : Keeps inside s s := by
  refine ⟨[], .nil, rfl, fun below tail tail' o o' _ hquote hbelow h => ?_⟩
  cases h
  exact ⟨.nil, hquote, hbelow⟩

theorem trans (h : Keeps inside s t) (h' : Keeps inside t r) : Keeps inside s r := by
  obtain ⟨taken, hw, rfl, hkeep⟩ := h
  obtain ⟨taken', hw', rfl, hkeep'⟩ := h'
  refine ⟨taken ++ taken', hw.append hw', (List.append_assoc ..).symm, ?_⟩
  intro below tail tail' o o' htail hquote hbelow hscans
  obtain ⟨o₁, hfirst, hsecond⟩ := Scans.of_append hw hscans
  rw [← List.append_assoc] at hfirst
  obtain ⟨hfirst', hquote₁, hbelow₁⟩ := hkeep below tail tail' o o₁ htail hquote hbelow hfirst
  obtain ⟨hsecond', hquote', hbelow'⟩ :=
    hkeep' below tail tail' o₁ o' htail hquote₁ hbelow₁ hsecond
  rw [List.append_assoc] at hfirst'
  exact ⟨hfirst'.append hsecond', hquote', hbelow'⟩

/-- A character that is no mark, and not the first of a separator. -/
theorem char {c : Char} (hc : isMark c = false) (hs : c = '>' → s.head? ≠ some '>') :
    Keeps inside (c :: s) s := by
  have hslash := (isMark_eq_false_iff.1 hc).1
  refine ⟨[c], .plain hslash .nil, rfl, fun below tail tail' o o' htail hquote hbelow h => ?_⟩
  obtain ⟨quote, brackets⟩ := o
  obtain rfl : quote = none := hquote
  obtain ⟨o₁, -, hstep, hnil⟩ := Scans.of_cons hslash h
  cases hnil
  cases turns_of_step? hstep with
  | quote hquote => rcases hquote with rfl | rfl <;> cases hc
  | opening hopen => rcases hopen with rfl | rfl <;> cases hc
  | closing _ hcloses => rcases closes_iff.1 hcloses with ⟨-, rfl⟩ | ⟨-, rfl⟩ <;> cases hc
  | plain =>
    refine ⟨.step hslash ?_ hstep .nil, rfl, hbelow⟩
    rintro ⟨-, hsep⟩
    obtain ⟨hc, hnext⟩ := List.cons_prefix_cons.1 hsep
    rw [List.nil_append] at hnext
    cases s with
    | nil =>
      cases tail' with
      | nil => exact absurd (List.prefix_nil.1 hnext) (List.cons_ne_nil _ _)
      | cons d tail' => exact htail (by rw [(List.cons_prefix_cons.1 hnext).1]; rfl)
    | cons d s => exact hs hc.symm (by rw [(List.cons_prefix_cons.1 hnext).1]; rfl)

theorem plain {c : Char} (hc : isPlain c = true) (s : List Char) : Keeps inside (c :: s) s :=
  .char (isMark_of_isPlain hc) fun h => absurd h (isPlain_iff.1 hc).2.2.2.2.2.2.2

theorem of_forall {taken : List Char} (h : ∀ c ∈ taken, isPlain c = true) (s : List Char) :
    Keeps inside (taken ++ s) s := by
  induction taken with
  | nil => exact .refl s
  | cons c taken ih =>
    obtain ⟨hc, htaken⟩ := List.forall_mem_cons.1 h
    exact (plain hc _).trans (ih htaken)

theorem escape (c : Char) (s : List Char) : Keeps inside ('\\' :: c :: s) s := by
  refine ⟨['\\', c], .escape .nil, rfl, fun below tail tail' o o' _ hquote hbelow h => ?_⟩
  cases Scans.of_escape h
  exact ⟨.escape .nil, hquote, hbelow⟩

theorem skipSpace (s : List Char) : Keeps inside s (skipSpace s) := by
  have hspaces : ∀ c ∈ s.takeWhile isSpace, isPlain c = true :=
    fun c hc => (isSpace_spec (List.mem_takeWhile_imp hc)).2.2.2.1
  have hkeeps : Keeps inside (s.takeWhile isSpace ++ s.dropWhile isSpace) (s.dropWhile isSpace) :=
    of_forall hspaces _
  rwa [List.takeWhile_append_dropWhile] at hkeeps

/-- Within the brackets of an attribute test other brackets may be open, but its own is not closed. -/
theorem within {c : Char} (hslash : c ≠ '\\') (hquotes : c ≠ '"' ∧ c ≠ '\'') (hclose : c ≠ ']') :
    Keeps ['['] (c :: s) s := by
  refine ⟨[c], .plain hslash .nil, rfl, fun below tail tail' o o' _ hquote hbelow h => ?_⟩
  obtain ⟨quote, brackets⟩ := o
  obtain rfl : quote = none := hquote
  obtain ⟨o₁, -, hstep, hnil⟩ := Scans.of_cons hslash h
  cases hnil
  have hgo : ¬ Stops separator ⟨none, brackets⟩ (c :: ([] ++ (s ++ tail'))) := by
    refine not_stops_of_brackets ?_
    rintro rfl
    cases List.suffix_nil.1 hbelow
  refine ⟨.step hslash hgo hstep .nil, ?_⟩
  cases turns_of_step? hstep with
  | quote hc => rcases hc with rfl | rfl <;> simp at hquotes
  | opening => exact ⟨rfl, hbelow.trans (List.suffix_cons _ _)⟩
  | closing hopened hcloses =>
    subst hopened
    rcases closes_iff.1 hcloses with ⟨-, rfl⟩ | ⟨rfl, -⟩
    · exact absurd rfl hclose
    · rcases List.suffix_cons_iff.1 hbelow with heq | hbelow
      · cases heq
      · exact ⟨rfl, hbelow⟩
  | plain => exact ⟨rfl, hbelow⟩

/-- An attribute test closes the bracket that it opens. -/
theorem square (h : Keeps ['['] s (']' :: r)) : Keeps inside ('[' :: s) r := by
  obtain ⟨taken, hw, rfl, hkeep⟩ := h
  have hwhole : Whole ('[' :: (taken ++ [']'])) :=
    .plain (by decide) (hw.append (.plain (by decide) .nil))
  refine ⟨_, hwhole, by simp, fun below tail tail' o o' htail hquote hbelow hscans => ?_⟩
  obtain ⟨quote, brackets⟩ := o
  obtain rfl : quote = none := hquote
  obtain ⟨o₁, -, hstep, hscans⟩ := Scans.of_cons (by decide) hscans
  obtain rfl : (⟨none, '[' :: brackets⟩ : Open) = o₁ := Option.some.inj hstep
  obtain ⟨o₂, hinner, hend⟩ := Scans.of_append hw hscans
  rw [List.singleton_append, ← List.cons_append] at hinner
  obtain ⟨hinner', hquote₂, hbelow₂⟩ :=
    hkeep brackets tail tail' _ o₂ htail rfl List.suffix_rfl hinner
  obtain ⟨quote₂, brackets₂⟩ := o₂
  obtain rfl : quote₂ = none := hquote₂
  obtain ⟨o₃, -, hstep₃, hnil⟩ := Scans.of_cons (by decide) hend
  cases hnil
  have hne : brackets₂ ≠ [] := by
    rintro rfl
    cases List.suffix_nil.1 hbelow₂
  have hlast : Scans separator (r ++ tail') ⟨none, brackets₂⟩ [']'] o' :=
    .step (by decide) (not_stops_of_brackets hne) hstep₃ .nil
  refine ⟨.step (by decide) (not_stops_of_isMark rfl) hstep
    (.append ?_ hlast), ?_⟩
  · rwa [List.singleton_append, ← List.cons_append]
  · cases turns_of_step? hstep₃ with
    | quote hc => rcases hc with hc | hc <;> cases hc
    | opening hc => rcases hc with hc | hc <;> cases hc
    | closing hopened _ =>
      subst hopened
      refine ⟨rfl, hbelow.trans ?_⟩
      rcases List.suffix_cons_iff.1 hbelow₂ with heq | hsuffix
      · cases heq
        exact List.suffix_rfl
      · exact (List.suffix_cons _ _).trans hsuffix
    | plain hc => rcases hc with hc | hc <;> cases hc

end Keeps

section Readers

variable {inside : List Char}

/-! ## Names and strings -/

theorem isPlain_of_hexDigit_or_space {c : Char} (h : isHexDigit c = true ∨ isSpace c = true) :
    isPlain c = true := by
  rcases h with h | h
  · exact (isPlain_of_isNameChar (isNameChar_of_isHexDigit h)).1
  · exact (isSpace_spec h).2.2.2.1

theorem keeps_readEscape {s : List Char} (hs : s ≠ []) :
    Keeps inside ('\\' :: s) (readEscape s).2 := by
  obtain ⟨d, u, rfl⟩ := List.exists_cons_of_ne_nil hs
  obtain ⟨skipped, hu, hskipped⟩ := exists_readEscape d u
  have hrest : Keeps inside u (readEscape (d :: u)).2 := by
    nth_rewrite 1 [hu]
    exact .of_forall (fun c hc => isPlain_of_hexDigit_or_space (hskipped c hc)) _
  exact (Keeps.escape d u).trans hrest

theorem keeps_readName (s : List Char) : Keeps inside s (readName s).2 := by
  fun_induction readName s with
  | case1 => exact .refl []
  | case2 c t hc name rest hread ih =>
    rw [hread] at ih
    exact (Keeps.plain (isPlain_of_isNameChar hc).1 t).trans ih
  | case3 c t hc hescape name rest hread ih =>
    obtain ⟨rfl, ht⟩ := slash_of_atEscape hescape
    rw [hread] at ih
    exact (keeps_readEscape ht).trans ih
  | case4 c t => exact .refl (c :: t)

theorem keeps_expectName {expected : Expected} {s rest : List Char} {name : String}
    (h : expectName expected s = .ok (name, rest)) : Keeps inside s rest := by
  rw [expectName] at h
  split at h
  · cases h
    exact keeps_readName s
  · cases h

theorem Enclosed.whole {delimiter : Char} {s : List Char} (h : Enclosed delimiter s) : Whole s := by
  induction h with
  | nil => exact .nil
  | plain _ hslash _ ih => exact .plain hslash ih
  | escape _ ih => exact .escape ih

/-- A scan within a quote passes over what the quote encloses. -/
theorem scans_enclosed {sep rest : List Char} {quote : Char} (hquote : quote ≠ '\\')
    {inner : List Char} (h : Enclosed quote inner) (brackets : List Char) :
    Scans sep rest ⟨some quote, brackets⟩ (inner ++ [quote]) ⟨none, brackets⟩ := by
  have hstep {c : Char} : (Open.mk (some quote) brackets).step? c =
      some ⟨if c = quote then none else some quote, brackets⟩ := rfl
  induction h with
  | nil =>
    refine .step hquote nofun hstep ?_
    rw [if_pos rfl]
    exact .nil
  | plain hc hslash _ ih =>
    refine .step hslash nofun hstep ?_
    rwa [if_neg hc]
  | escape _ ih => exact .escape ih

theorem keeps_readQuoted {quote : Char} (hquote : quote = '"' ∨ quote = '\'')
    {s value rest : List Char} (h : readQuoted (quote :: s) = .ok (value, rest)) :
    Keeps inside (quote :: s) rest := by
  have hslash : quote ≠ '\\' := by rcases hquote with rfl | rfl <;> decide
  have hmark : isMark quote = true := by rcases hquote with rfl | rfl <;> rfl
  obtain ⟨inner, hinner, rfl⟩ := (skipLiteral?_iff hslash).1 (skipLiteral?_of_readString _ hquote h)
  have hwhole : Whole (quote :: (inner ++ [quote])) :=
    .plain hslash ((Enclosed.whole hinner).append (.plain hslash .nil))
  refine ⟨_, hwhole, by simp, fun below tail tail' o o' _ hnone hbelow hscans => ?_⟩
  obtain ⟨q, brackets⟩ := o
  obtain rfl : q = none := hnone
  have hstep : (Open.mk none brackets).step? quote = some ⟨some quote, brackets⟩ := by
    rcases hquote with rfl | rfl <;> rfl
  have hpass {sep tail : List Char} :
      Scans sep tail ⟨none, brackets⟩ (quote :: (inner ++ [quote])) ⟨none, brackets⟩ :=
    .step hslash (not_stops_of_isMark hmark) hstep
      (scans_enclosed hslash hinner brackets)
  have hcomma : Scans [','] [] ⟨none, brackets⟩ (quote :: (inner ++ [quote])) ⟨none, brackets⟩ := hpass
  obtain rfl := Scans.unique hcomma hscans
  exact ⟨hpass, rfl, hbelow⟩

/-! ## Attribute tests -/

/-- Whether an unquoted value at the start of the text has a quote that is not escaped. -/
def bareQuote (s : List Char) : Bool :=
  match s with
  | [] => false
  | c :: t =>
    if isSpace c || c = ']' then false
    else if c = '\\' && !t.isEmpty then bareQuote (readEscape t).2
    else c = '"' || c = '\'' || bareQuote t
termination_by s.length
decreasing_by
  · have := length_readEscape_le t
    simp only [List.length_cons]
    omega
  · simp

theorem keeps_readBareValue {s : List Char} (hquotes : bareQuote s = false)
    (hrest : (readBareValue s).2 ≠ []) : Keeps ['['] s (readBareValue s).2 := by
  induction s using readBareValue.induct with
  | case1 => exact absurd (by rw [readBareValue]) hrest
  | case2 c t hc =>
    rw [readBareValue, if_pos hc]
    exact .refl (c :: t)
  | case3 c t hc hescape _ _ _ ih =>
    rw [bareQuote, if_neg hc, if_pos hescape] at hquotes
    rw [Bool.and_eq_true, decide_eq_true_eq, Bool.not_eq_true',
      List.isEmpty_eq_false_iff] at hescape
    obtain ⟨rfl, ht⟩ := hescape
    rw [readBareValue_escape ht] at hrest ⊢
    exact (keeps_readEscape ht).trans (ih hquotes hrest)
  | case4 c t hc hescape _ _ _ ih =>
    rw [bareQuote, if_neg hc, if_neg hescape, Bool.or_eq_false_iff, Bool.or_eq_false_iff,
      decide_eq_false_iff_not, decide_eq_false_iff_not] at hquotes
    rw [readBareValue_plain hc hescape] at hrest ⊢
    obtain ⟨hmarks, hbehind⟩ := hquotes
    have ht : t ≠ [] := by
      rintro rfl
      exact hrest (by rw [readBareValue])
    have hslash : c ≠ '\\' := by
      rintro rfl
      exact hescape (by simpa using ht)
    rw [Bool.or_eq_true, decide_eq_true_eq, not_or] at hc
    exact (Keeps.within hslash hmarks hc.2).trans (ih hbehind hrest)

/-- Whether the value that an attribute test expects has a quote in it, but none around it. -/
def bareValue : List Char → Bool
  | [] => false
  | c :: s => !(c = '"' || c = '\'') && bareQuote (c :: s)

theorem keeps_readValue {unclosed : SyntaxError (List Char)} {s value rest : List Char}
    (h : readValue unclosed s = .ok (value, rest)) (hquotes : bareValue s = false)
    (hrest : rest ≠ []) : Keeps ['['] s rest := by
  cases s with
  | nil => cases h
  | cons c s =>
    rw [readValue] at h
    split at h
    · rename_i hquote
      exact keeps_readQuoted (by simpa using hquote) h
    · rename_i hquote
      split at h
      · cases h
      · obtain ⟨-, rfl⟩ := Prod.mk.inj (Except.ok.inj h)
        rw [bareValue, Bool.and_eq_false_iff, Bool.not_eq_false'] at hquotes
        exact keeps_readBareValue (hquotes.resolve_left hquote) hrest

theorem isPlain_of_ofMark? {c : Char} {operator : AttributeOperator}
    (h : AttributeOperator.ofMark? c = some operator) : isPlain c = true := by
  have hmark : operator.mark? = some c := by simpa using List.find?_some h
  cases operator <;> cases hmark <;> rfl

theorem keeps_readOperator {s rest : List Char} {operator : AttributeOperator}
    (h : readOperator s = .ok (operator, rest)) : Keeps inside s rest := by
  revert h
  fun_cases readOperator s with
  | case1 =>
    intro h
    cases h
  | case2 t =>
    intro h
    cases h
    exact .plain rfl rest
  | case3 c hequals operator' t hmark =>
    intro h
    cases h
    exact (Keeps.plain (isPlain_of_ofMark? hmark) _).trans (.plain rfl rest)
  | case4 =>
    intro h
    cases h

theorem isNameChar_of_ofModifier? {c : Char} {mode : CaseMode}
    (h : CaseMode.ofModifier? [c] = some mode) : isNameChar c = true := by
  simp only [CaseMode.ofModifier?, List.cons.injEq, and_true, Bool.or_eq_true,
    decide_eq_true_eq] at h
  split at h
  · rename_i hc
    rcases hc with rfl | rfl <;> rfl
  · split at h
    · rename_i hc
      rcases hc with rfl | rfl <;> rfl
    · cases h

theorem keeps_readModifier {unclosed : SyntaxError (List Char)} {s rest : List Char} {mode : CaseMode}
    (h : readModifier unclosed s = .ok (mode, rest)) : Keeps inside s rest := by
  cases s with
  | nil => cases h
  | cons c s =>
    by_cases hclose : c = ']'
    · rw [readModifier, if_pos hclose] at h
      cases h
      exact .refl _
    · by_cases hname : isNameChar c = true
      · rw [readModifier_of_isNameChar unclosed hclose hname] at h
        cases hmode : CaseMode.ofModifier? (readName (c :: s)).1 with
        | none =>
          rw [hmode] at h
          cases h
        | some mode' =>
          rw [hmode] at h
          cases h
          exact keeps_readName (c :: s)
      · rw [readModifier, if_neg hclose, if_neg hname] at h
        cases hmode : CaseMode.ofModifier? [c] with
        | none =>
          simp only [hmode] at h
          cases h
        | some mode' => exact absurd (isNameChar_of_ofModifier? hmode) hname

theorem keeps_behindName {unclosed : SyntaxError (List Char)} {name s rest : List Char}
    {p : AttributePredicate} (h : behindName unclosed name s = .ok (p, rest))
    (hquotes : ∀ operator t, readOperator s = .ok (operator, t) → bareValue (skipSpace t) = false) :
    Keeps ['['] s (']' :: rest) := by
  revert h
  fun_cases behindName unclosed name s with
  | case1 =>
    intro h
    cases h
  | case2 rest' =>
    intro h
    cases h
    exact .refl _
  | case3 c t hclose =>
    simp only [bind_eq_ok, Prod.exists]
    rintro ⟨operator, afterOperator, hoperator, value, afterValue, hvalue, mode, afterMode, hmode, h⟩
    have hrest : afterValue ≠ [] := by
      rintro rfl
      cases hmode
    split at h
    · cases h
    · rename_i rest' hend
      cases h
      have hmodifier : Keeps ['['] (skipSpace afterValue) (']' :: rest) :=
        hend ▸ (keeps_readModifier hmode).trans (.skipSpace afterMode)
      have hexpected : Keeps ['['] (skipSpace afterOperator) (']' :: rest) :=
        (keeps_readValue hvalue (hquotes operator afterOperator hoperator) hrest).trans
          ((Keeps.skipSpace _).trans hmodifier)
      exact (keeps_readOperator hoperator).trans ((Keeps.skipSpace _).trans hexpected)
    · cases h

/-- Whether an attribute test expects such a value, from behind its opening bracket. -/
def bareTest (s : List Char) : Bool :=
  match readOperator (skipSpace (readName (skipSpace s)).2) with
  | .ok (_, rest) => bareValue (skipSpace rest)
  | .error _ => false

theorem keeps_readAttribute {s rest : List Char} {p : AttributePredicate}
    (h : readAttribute ('[' :: s) = .ok (p, rest)) (hquotes : bareTest s = false) :
    Keeps inside ('[' :: s) rest := by
  by_cases hname : atName (skipSpace s) = true
  · rw [readAttribute_eq hname] at h
    refine .square ((Keeps.skipSpace s).trans ((keeps_readName _).trans
      ((Keeps.skipSpace _).trans (keeps_behindName h fun operator t hoperator => ?_))))
    rwa [bareTest, hoperator] at hquotes
  · rw [readAttribute, List.drop_one, List.tail_cons, if_pos (by simpa using hname)] at h
    cases h

/-! ## Arguments -/

/-- A closing parenthesis closes the innermost bracket, which is a parenthesis. -/
theorem step?_parenthesis {opened brackets : List Char} {o₁ : Open}
    (h : (Open.mk none (opened ++ '(' :: brackets)).step? ')' = some o₁) :
    (opened = [] ∧ o₁ = ⟨none, brackets⟩) ∨
      ∃ opened', opened = '(' :: opened' ∧ o₁ = ⟨none, opened' ++ '(' :: brackets⟩ := by
  cases turns_of_step? h with
  | quote hc => rcases hc with hc | hc <;> cases hc
  | opening hc => rcases hc with hc | hc <;> cases hc
  | closing hopened hcloses =>
    rcases closes_iff.1 hcloses with ⟨-, hc⟩ | ⟨rfl, -⟩
    · cases hc
    · cases opened with
      | nil =>
        cases hopened
        exact Or.inl ⟨rfl, rfl⟩
      | cons c opened =>
        cases hopened
        exact Or.inr ⟨opened, rfl, rfl⟩
  | plain hc => rcases hc with hc | hc <;> cases hc

/-- Any other character leaves the parentheses open. -/
theorem step?_other {opened brackets : List Char} {c : Char} {o₁ : Open}
    (h : (Open.mk none (opened ++ '(' :: brackets)).step? c = some o₁)
    (hquote : ¬ (c = '"' || c = '\'') = true) (hopen : c ≠ '(') (hclose : c ≠ ')') :
    ∃ opened', opened'.count '(' = opened.count '(' ∧
      o₁ = ⟨none, opened' ++ '(' :: brackets⟩ := by
  cases turns_of_step? h with
  | quote hc => exact absurd (by simpa using hc) hquote
  | opening hc =>
    obtain rfl := hc.resolve_right hopen
    exact ⟨'[' :: opened, by simp, rfl⟩
  | closing hopened hcloses =>
    rcases closes_iff.1 hcloses with ⟨rfl, -⟩ | ⟨-, hc⟩
    · cases opened with
      | nil => cases hopened
      | cons d opened =>
        cases hopened
        exact ⟨opened, by simp, rfl⟩
    · exact absurd hc hclose
  | plain => exact ⟨opened, rfl, rfl⟩

/-- A character ends the argument, or the cut goes on behind it with the parentheses and the quote
that are open to a scan as well. -/
theorem cutArgument?_cons_cases {c : Char} (hslash : c ≠ '\\') {s argument rest : List Char}
    {depth : Nat} {quote : Option Char}
    (h : cutArgument? depth quote (c :: s) = some (argument, rest)) :
    (depth = 0 ∧ quote = none ∧ c = ')' ∧ argument = []) ∨ ∃ depth' quote' a, argument = c :: a ∧
      cutArgument? depth' quote' s = some (a, rest) ∧ ∀ {opened brackets : List Char} {o₁ : Open},
        opened.count '(' = depth → (Open.mk quote (opened ++ '(' :: brackets)).step? c = some o₁ →
          ∃ opened', opened'.count '(' = depth' ∧ o₁ = ⟨quote', opened' ++ '(' :: brackets⟩ := by
  cases quote with
  | some q =>
    have hcut : cutArgument? depth (some q) (c :: s) =
        pushArgument [c] (cutArgument? depth (if c = q then none else some q) s) := by
      rw [cutArgument?]
      · rfl
      · exact fun _ _ h => absurd h hslash
    rw [hcut] at h
    obtain ⟨a, ha, rfl⟩ := pushArgument_eq_some.1 h
    refine Or.inr ⟨depth, _, a, rfl, ha, fun {opened brackets o₁} hdepth hstep => ?_⟩
    exact ⟨opened, hdepth, (Option.some.inj hstep).symm⟩
  | none =>
    rw [cutArgument?_cons hslash] at h
    split at h
    · rename_i hquote
      obtain ⟨a, ha, rfl⟩ := pushArgument_eq_some.1 h
      refine Or.inr ⟨depth, some c, a, rfl, ha, fun {opened brackets o₁} hdepth hstep => ?_⟩
      simp only [Open.step?, if_pos hquote, Option.some.injEq] at hstep
      exact ⟨opened, hdepth, hstep.symm⟩
    · rename_i hquote
      split at h
      · rename_i hopen
        subst hopen
        obtain ⟨a, ha, rfl⟩ := pushArgument_eq_some.1 h
        refine Or.inr ⟨depth + 1, none, a, rfl, ha, fun {opened brackets o₁} hdepth hstep => ?_⟩
        exact ⟨'(' :: opened, by simp [hdepth], (Option.some.inj hstep).symm⟩
      · rename_i hopen
        split at h
        · rename_i hclose
          subst hclose
          cases depth with
          | zero =>
            cases h
            exact Or.inl ⟨rfl, rfl, rfl, rfl⟩
          | succ depth =>
            obtain ⟨a, ha, rfl⟩ := pushArgument_eq_some.1 h
            refine Or.inr ⟨depth, none, a, rfl, ha, fun {opened brackets o₁} hdepth hstep => ?_⟩
            rcases step?_parenthesis hstep with ⟨rfl, -⟩ | ⟨opened', rfl, rfl⟩
            · cases hdepth
            · exact ⟨opened', by simpa using hdepth, rfl⟩
        · rename_i hclose
          obtain ⟨a, ha, rfl⟩ := pushArgument_eq_some.1 h
          refine Or.inr ⟨depth, none, a, rfl, ha, fun {opened brackets o₁} hdepth hstep => ?_⟩
          obtain ⟨opened', hcount, rfl⟩ := step?_other hstep hquote hopen hclose
          exact ⟨opened', hcount.trans hdepth, rfl⟩

/-- A scan for a comma that passes over an argument and the parenthesis behind it closes all that was
opened there, and a search for a separator passes over them as well. -/
theorem scans_of_cutArgument? {s argument rest opened brackets tail : List Char} {depth : Nat}
    {quote : Option Char} {o' : Open} (h : cutArgument? depth quote s = some (argument, rest))
    (hdepth : opened.count '(' = depth)
    (hscans : Scans [','] tail ⟨quote, opened ++ '(' :: brackets⟩ (argument ++ [')']) o') :
    o' = ⟨none, brackets⟩ ∧ ∀ tail',
      Scans separator tail' ⟨quote, opened ++ '(' :: brackets⟩ (argument ++ [')']) o' := by
  induction s using escaped_induction generalizing depth quote argument opened with
  | nil => cases h
  | escape c s ih =>
    rw [cutArgument?_escape] at h
    obtain ⟨a, ha, rfl⟩ := pushArgument_eq_some.1 h
    obtain ⟨ho', hpass⟩ := ih ha hdepth (Scans.of_escape hscans)
    exact ⟨ho', fun tail' => .escape (hpass tail')⟩
  | char c s hc ih =>
    by_cases hslash : c = '\\'
    · subst hslash
      rw [hc rfl] at h
      cases quote <;> cases h
    have hgo {t : List Char} : ¬ Stops separator ⟨quote, opened ++ '(' :: brackets⟩ t :=
      not_stops_of_brackets (List.append_ne_nil_of_right_ne_nil _ (List.cons_ne_nil _ _))
    rcases cutArgument?_cons_cases hslash h with ⟨rfl, rfl, rfl, rfl⟩ | ⟨_, _, a, rfl, ha, hopen⟩
    · obtain ⟨o₁, -, hstep, hnil⟩ := Scans.of_cons hslash hscans
      cases hnil
      refine ⟨?_, fun tail' => .step hslash hgo hstep .nil⟩
      rcases step?_parenthesis hstep with ⟨-, ho⟩ | ⟨opened', rfl, -⟩
      · exact ho
      · simp at hdepth
    · obtain ⟨o₁, -, hstep, hscans⟩ := Scans.of_cons hslash hscans
      obtain ⟨opened', hcount, rfl⟩ := hopen hdepth hstep
      obtain ⟨ho', hpass⟩ := ih ha hcount hscans
      exact ⟨ho', fun tail' => .step hslash hgo hstep (hpass tail')⟩

theorem keeps_readArgument {s argument rest : List Char}
    (h : readArgument ('(' :: s) = .ok (argument, rest)) : Keeps inside ('(' :: s) rest := by
  have hcut := readArgument_eq_ok.1 h
  obtain ⟨rfl, hw⟩ := append_of_cutArgument? hcut
  have hwhole : Whole ('(' :: (argument ++ [')'])) :=
    .plain (by decide) (hw.append (.plain (by decide) .nil))
  refine ⟨_, hwhole, by simp, fun below tail tail' o o' _ hquote hbelow hscans => ?_⟩
  obtain ⟨quote, brackets⟩ := o
  obtain rfl : quote = none := hquote
  obtain ⟨o₁, -, hstep, hscans⟩ := Scans.of_cons (by decide) hscans
  obtain rfl : (⟨none, '(' :: brackets⟩ : Open) = o₁ := Option.some.inj hstep
  obtain ⟨rfl, hpass⟩ := scans_of_cutArgument? hcut List.count_nil hscans
  exact ⟨.step (by decide) (not_stops_of_isMark rfl) hstep (hpass _), rfl, hbelow⟩

theorem keeps_readNthArgument {s rest : List Char} {positions : Nth}
    (h : readNthArgument ('(' :: s) = .ok (positions, rest)) : Keeps inside ('(' :: s) rest := by
  simp only [readNthArgument, bind_eq_ok, Prod.exists] at h
  obtain ⟨argument, rest', hargument, h⟩ := h
  split at h
  · cases h
    exact keeps_readArgument hargument
  · cases h

end Readers

end Umbra.Selector
