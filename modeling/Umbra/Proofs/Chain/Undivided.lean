import Umbra.Proofs.Selector.ReadBack
import Umbra.Proofs.Chain.Kept

/-!
# Selectors are not divided

In a clause that can be read and has no bare quotes, all separators stand within quotes or brackets.
So the clause is not divided where a chain is cut.
-/

namespace Umbra.Selector

open Text Umbra.Part

section Readers

variable {inside : List Char} {inner : List Char → Read SelectorList}
  {allows : PseudoClassName → Bool}

/-! ## Pseudo-classes -/

theorem keeps_readFunctionalPseudo {name : PseudoClassName} {s rest : List Char} {p : PseudoClass}
    (h : readFunctionalPseudo inner name ('(' :: s) = .ok (p, rest)) :
    Keeps inside ('(' :: s) rest := by
  cases name with
  | nth | nthLast =>
    simp only [readFunctionalPseudo, bind_eq_ok, Prod.exists] at h
    obtain ⟨positions, rest', hread, h⟩ := h
    cases h
    exact keeps_readNthArgument hread
  | not =>
    simp only [readFunctionalPseudo, bind_eq_ok, Prod.exists] at h
    obtain ⟨argument, rest', hread, alternatives, -, h⟩ := h
    cases h
    exact keeps_readArgument hread
  | _ => cases h

theorem eq_of_readBarePseudo {name : PseudoClassName} {s rest : List Char} {p : PseudoClass}
    (h : readBarePseudo name s = .ok (p, rest)) : s = rest := by
  cases name with
  | nth | nthLast | not => cases h
  | _ =>
    cases h
    rfl

theorem keeps_readPseudoClass {s rest : List Char} {p : PseudoClass}
    (h : readPseudoClass inner allows s = .ok (p, rest)) : Keeps inside s rest := by
  by_cases hcolon : ∃ t, s = ':' :: t
  · obtain ⟨t, rfl⟩ := hcolon
    cases h
  · rw [readPseudoClass_eq fun t ht => hcolon ⟨t, ht⟩, bind_eq_ok] at h
    obtain ⟨⟨written, t⟩, hname, h⟩ := h
    dsimp only at h
    refine (keeps_expectName hname).trans ?_
    split at h
    · cases h
    · rw [behindPseudo.eq_def] at h
      split at h
      · exact keeps_readFunctionalPseudo h
      · rw [eq_of_readBarePseudo h]
        exact .refl _

/-! ## Compounds -/

/-- Whether a bare quote stands in the condition at the start of the text. -/
def bareCondition : List Char → Bool
  | '[' :: s => bareTest s
  | _ => false

theorem keeps_readCondition {s rest : List Char} {c : SimpleSelector}
    (h : readCondition inner allows s = .ok (some (c, rest)))
    (hquotes : bareCondition s = false) : Keeps inside s rest := by
  unfold readCondition at h
  split at h
  · simp only [bind_eq_ok, Prod.exists] at h
    obtain ⟨name, r, hread, h⟩ := h
    cases h
    exact (Keeps.plain rfl _).trans (keeps_expectName hread)
  · simp only [bind_eq_ok, Prod.exists] at h
    obtain ⟨name, r, hread, h⟩ := h
    cases h
    exact (Keeps.plain rfl _).trans (keeps_expectName hread)
  · simp only [bind_eq_ok, Prod.exists] at h
    obtain ⟨predicate, r, hread, h⟩ := h
    cases h
    exact keeps_readAttribute hread hquotes
  · simp only [bind_eq_ok, Prod.exists] at h
    obtain ⟨pseudoClass, r, hread, h⟩ := h
    cases h
    exact (Keeps.plain rfl _).trans (keeps_readPseudoClass hread)
  · cases h
  · cases h

/-- Whether there is such a place where a step is taken or the last one ends. -/
def anyPlace {α : Type} (p : List Char → Bool) (step : List Char → Read (Option (α × List Char)))
    (s : List Char) : Bool :=
  p s || match step s with
    | .ok (some (_, r)) => if r.length < s.length then anyPlace p step r else false
    | _ => false
termination_by s.length

theorem keeps_readMany {α : Type} {p : List Char → Bool}
    {step : List Char → Read (Option (α × List Char))}
    (hstep : ∀ s a r, step s = .ok (some (a, r)) → p s = false → Keeps inside s r)
    {s rest : List Char} {as : List α} (h : readMany step s = .ok (as, rest))
    (hplaces : anyPlace p step s = false) : Keeps inside s rest := by
  fun_induction readMany step s generalizing as rest with
  | case1 => cases h
  | case2 s hs =>
    cases h
    exact .refl s
  | case3 => cases h
  | case4 s a r hs hlt as' t hr ih =>
    cases h
    rw [anyPlace, Bool.or_eq_false_iff, hs] at hplaces
    simp only [if_pos hlt] at hplaces
    exact (hstep s a r hs hplaces.1).trans (ih hr hplaces.2)
  | case5 s a r hs hlt =>
    cases h
    rw [anyPlace, Bool.or_eq_false_iff] at hplaces
    exact hstep s a r hs hplaces.1

theorem keeps_readHead (s : List Char) : Keeps inside s (readHead s).2 := by
  unfold readHead
  split
  · exact .plain rfl _
  · split
    · exact keeps_readName s
    · exact .refl s

/-- Whether a bare quote stands in the compound at the start of the text. -/
def bareCompound (inner : List Char → Read SelectorList) (allows : PseudoClassName → Bool)
    (s : List Char) : Bool :=
  anyPlace bareCondition (readCondition inner allows) (readHead s).2

theorem keeps_readCompound {s rest : List Char} {c : CompoundSelector}
    (h : readCompound inner allows s = .ok (c, rest))
    (hquotes : bareCompound inner allows s = false) : Keeps inside s rest := by
  simp only [readCompound, bind_eq_ok, Prod.exists] at h
  obtain ⟨conditions, r, hread, h⟩ := h
  cases h
  exact (keeps_readHead s).trans (keeps_readMany (fun _ _ _ => keeps_readCondition) hread hquotes)

/-! ## Complex selectors -/

/-- No compound starts with the sign of a child. -/
theorem readCompound_child (s : List Char) :
    readCompound inner allows ('>' :: s) = .ok ([], '>' :: s) := by
  have hnone : readMany (readCondition inner allows) ('>' :: s) = .ok ([], '>' :: s) :=
    readMany_of_none rfl
  have hhead : readHead ('>' :: s) = ([], '>' :: s) := rfl
  rw [readCompound, hhead]
  dsimp only
  rw [hnone]
  rfl

theorem keeps_joint {s t r : List Char} {k : Combinator} {c : CompoundSelector} (hk : Joint s k t)
    (hread : readCompound inner allows t = .ok (c, r)) (hne : ¬ c.isEmpty = true) :
    Keeps inside s t := by
  cases hk with
  | @sign d _ u hd hs =>
    have hkeeps : Keeps inside (d :: u) u := by
      cases hd with
      | child =>
        refine .char rfl fun _ hhead => hne ?_
        obtain ⟨v, rfl⟩ := List.head?_eq_some_iff.1 hhead
        have hskip : Selector.skipSpace ('>' :: v) = '>' :: v := rfl
        rw [hskip, readCompound_child] at hread
        cases hread
        rfl
      | nextSibling => exact .plain rfl u
      | subsequentSibling => exact .plain rfl u
    have hstart : Keeps inside s (d :: u) := hs ▸ .skipSpace s
    exact hstart.trans (hkeeps.trans (.skipSpace u))
  | space _ hs _ =>
    rw [← hs]
    exact .skipSpace s

/-- Whether a bare quote stands in the compound behind the combinator at the start of the text. -/
def bareStep (inner : List Char → Read SelectorList) (allows : PseudoClassName → Bool)
    (s : List Char) : Bool :=
  match readCombinator s with
  | .ok (some (_, t)) => bareCompound inner allows t
  | _ => false

theorem keeps_readStep {s rest : List Char} {step : Combinator × CompoundSelector}
    (h : readStep inner allows s = .ok (some (step, rest)))
    (hquotes : bareStep inner allows s = false) : Keeps inside s rest := by
  obtain ⟨t, hk, hread, hne⟩ := readStep_eq_some.1 h
  rw [bareStep, hk] at hquotes
  exact (keeps_joint (readCombinator_iff.1 hk) hread hne).trans (keeps_readCompound hread hquotes)

/-- Whether a bare quote stands in a complex selector. -/
def bareComplex (inner : List Char → Read SelectorList) (allows : PseudoClassName → Bool)
    (s : List Char) : Bool :=
  bareCompound inner allows (skipSpace s) ||
    match readCompound inner allows (skipSpace s) with
    | .ok (_, rest) => anyPlace (bareStep inner allows) (readStep inner allows) rest
    | .error _ => false

theorem keeps_readComplex {s : List Char} {c : ComplexSelector}
    (h : readComplex inner allows s = .ok c) (hquotes : bareComplex inner allows s = false) :
    Keeps inside s [] := by
  obtain ⟨compound, behind, steps, rest, hcompound, -, hsteps, -⟩ := readComplex_eq_ok.1 h
  rw [bareComplex, Bool.or_eq_false_iff, hcompound] at hquotes
  have hend : readStep inner allows rest = .ok none :=
    step_eq_none_of_readMany (fun s a r hstep =>
      ((readStep_follows (fun _ _ h => h) (nofun : Spaces []) allows s).step a r hstep).1) hsteps
  have hrest : Keeps inside rest [] := by
    rw [← readCombinator_eq_none.1 (readStep_eq_none.1 hend)]
    exact .skipSpace rest
  have hbehind : Keeps inside behind rest :=
    keeps_readMany (fun _ _ _ => keeps_readStep) hsteps hquotes.2
  exact (Keeps.skipSpace s).trans
    ((keeps_readCompound hcompound hquotes.1).trans (hbehind.trans hrest))

end Readers

/-! ## Selector lists -/

section Lists

variable {allows : PseudoClassName → Bool}

/-- A text without separators is passed by a search for one, where it is passed at all. -/
theorem scans_of_not_infix {s tail after : List Char} {o o' : Open} (hs : Whole s)
    (h : Scans [','] tail o s o') (hsep : ¬ separator <:+: s ++ after) :
    Scans separator after o s o' := by
  induction hs generalizing o with
  | nil =>
    cases h
    exact .nil
  | plain hc _ ih =>
    obtain ⟨o₁, -, hstep, h⟩ := Scans.of_cons hc h
    refine .step hc ?_ hstep
      (ih h fun hoccurs => hsep (hoccurs.trans (List.suffix_cons _ _).isInfix))
    rintro ⟨-, hprefix⟩
    exact hsep hprefix.isInfix
  | escape _ ih =>
    refine .escape (ih (Scans.of_escape h) fun hoccurs => hsep (hoccurs.trans ?_))
    exact ((List.suffix_cons _ _).trans (List.suffix_cons _ _)).isInfix

/-- A search for a separator passes over texts between commas where it passes over each of them. -/
theorem Splits.scans_separator {s : List Char} {texts : List (List Char)} (h : Splits s texts)
    (hpass : ∀ t ∈ texts, ∀ after tail, after.head? ≠ some '>' → t ++ after <:+ s →
      Scans [','] tail .outside t .outside → Scans separator after .outside t .outside) :
    Scans separator [] .outside s .outside := by
  induction h with
  | @last s hnone =>
    have hwhole : s ++ [] <:+ s := by simp
    exact hpass s (List.mem_singleton_self s) [] [] nofun hwhole (findTopLevel_eq_none.1 hnone)
  | @cons s t rest texts hsome _ ih =>
    obtain ⟨rfl, hscans, -⟩ := findTopLevel_eq_some.1 hsome
    obtain ⟨hfirst, htexts⟩ := List.forall_mem_cons.1 hpass
    have hrest : rest <:+ t ++ ',' :: rest :=
      (List.suffix_cons ',' rest).trans (List.suffix_append _ _)
    have hbehind : Scans separator [] .outside (',' :: rest) .outside := by
      refine .step (by decide) ?_ rfl
        (ih fun u hu after tail hafter hsuffix => htexts u hu after tail hafter (hsuffix.trans hrest))
      rintro ⟨-, hsep⟩
      cases (List.cons_prefix_cons.1 hsep).1
    refine .append ?_ hbehind
    rw [List.append_nil]
    exact hfirst (',' :: rest) (',' :: rest) (by simp) List.suffix_rfl hscans

/-- Whether a bare quote stands in a selector list, outside of arguments. -/
def bareList (allows : PseudoClassName → Bool) (s : List Char) : Bool :=
  match splitTopLevel [','] s with
  | .ok segments => segments.any fun segment =>
      bareComplex (readBelow allows s.length) allows segment.text
  | .error _ => false

/-- A list that can be read has its separators within quotes and brackets, unless it has bare
quotes. -/
theorem findTopLevel_separator {s : List Char} {alternatives : SelectorList}
    (h : readSelectorList allows s = .ok alternatives)
    (hquotes : bareList allows s = false ∨ ¬ separator <:+: s) :
    findTopLevel separator s = .ok none := by
  rw [readSelectorList_eq] at h
  obtain ⟨texts, hsplits, hread⟩ := readAlternatives_iff.1 h
  obtain ⟨segments, hsegments, rfl⟩ := hsplits.exists_splitTopLevel
  refine findTopLevel_eq_none.2 (hsplits.scans_separator ?_)
  intro t ht after tail hafter hsuffix hscans
  rcases hquotes with hquotes | hsep
  · obtain ⟨segment, hsegment, rfl⟩ := List.mem_map.1 ht
    rw [bareList, hsegments, List.any_eq_false] at hquotes
    obtain ⟨c, -, hcomplex⟩ := exists_of_forall₂ hread.flip ht
    have hkeeps : Keeps [] segment.text [] :=
      keeps_readComplex hcomplex (Bool.not_eq_true _ ▸ hquotes segment hsegment)
    obtain ⟨taken, -, htaken, hkeep⟩ := hkeeps
    rw [List.append_nil] at htaken
    rw [htaken] at hscans ⊢
    exact (hkeep [] tail after _ _ hafter rfl (List.nil_suffix) hscans).1
  · exact scans_of_not_infix (ReadsEach.whole hread t ht) hscans
      fun hoccurs => hsep (hoccurs.trans hsuffix.isInfix)

/-- A bare quote behind the first `x` closes where a quoted value starts. -/
example : findTopLevel separator ['[', 'a', '=', 'x', '\'', ']', '[', 'a', '=', '\'', ']',
      '>', '>', '[', '\'', ']', '[', 'a', '=', 'x', '\'', ']'] =
    .ok (some (['[', 'a', '=', 'x', '\'', ']', '[', 'a', '=', '\'', ']'],
      ['>', '>', '[', '\'', ']', '[', 'a', '=', 'x', '\'', ']'])) := rfl

end Lists

end Umbra.Selector
