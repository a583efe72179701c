import Umbra.Proofs.Selector.Trailing

/-!
# Complex selectors between white space

A complex selector that can be read can be read as well with white space in front of it and behind
it, and is the same selector then. The reader of arguments may be another one that reads as much.
-/

namespace Umbra.Selector

open Text

section Trailing

variable {sp : List Char} (hsp : Spaces sp)

include hsp

/-! ## Arguments -/

omit hsp in
theorem pushArgument_eq_some {s argument rest : List Char} {r : Option (List Char × List Char)} :
    pushArgument s r = some (argument, rest) ↔ ∃ a, r = some (a, rest) ∧ argument = s ++ a := by
  cases r with
  | none => exact ⟨nofun, nofun⟩
  | some p =>
    constructor
    · intro h
      cases h
      exact ⟨p.1, rfl, rfl⟩
    · rintro ⟨a, ha, rfl⟩
      cases ha
      rfl

omit hsp in
/-- A character ends the argument, or the cut goes on behind it in a state that it determines. -/
theorem cutArgument?_step {c : Char} (hc : c ≠ '\\') (depth : Nat) (quote : Option Char) :
    (depth = 0 ∧ quote = none ∧ c = ')') ∨ ∃ (depth' : Nat) (quote' : Option Char), ∀ s,
      cutArgument? depth quote (c :: s) = pushArgument [c] (cutArgument? depth' quote' s) := by
  cases quote with
  | some q =>
    refine Or.inr ⟨depth, if c = q then none else some q, fun s => ?_⟩
    rw [cutArgument?]
    · rfl
    · exact fun _ _ h => absurd h hc
  | none =>
    by_cases hquote : (c = '"' || c = '\'') = true
    · exact Or.inr ⟨depth, some c, fun s => by rw [cutArgument?_cons hc, if_pos hquote]⟩
    · by_cases hopen : c = '('
      · refine Or.inr ⟨depth + 1, none, fun s => ?_⟩
        rw [cutArgument?_cons hc, if_neg hquote, if_pos hopen]
      · by_cases hclose : c = ')'
        · cases depth with
          | zero => exact Or.inl ⟨rfl, rfl, hclose⟩
          | succ outer =>
            refine Or.inr ⟨outer, none, fun s => ?_⟩
            rw [cutArgument?_cons hc, if_neg hquote, if_neg hopen, if_pos hclose]
        · refine Or.inr ⟨depth, none, fun s => ?_⟩
          rw [cutArgument?_cons hc, if_neg hquote, if_neg hopen, if_neg hclose]

omit hsp in
/-- The cut depends on nothing behind the closing parenthesis. -/
theorem cutArgument?_append (t : List Char) : (s : List Char) → ∀ {depth : Nat}
    {quote : Option Char} {argument rest : List Char},
    cutArgument? depth quote s = some (argument, rest) →
      Leaves s rest ∧ cutArgument? depth quote (s ++ t) = some (argument, rest ++ t)
  | [], _, _, _, _, h => nomatch h
  | c :: s, depth, quote, argument, rest, h => by
    by_cases hc : c = '\\'
    · subst hc
      match s, h with
      | [], h => cases quote <;> cases h
      | d :: s, h =>
        rw [cutArgument?_escape] at h
        obtain ⟨a, ha, rfl⟩ := pushArgument_eq_some.1 h
        obtain ⟨hleaves, hcut⟩ := cutArgument?_append t s ha
        refine ⟨.escape hleaves, ?_⟩
        rw [List.cons_append, List.cons_append, cutArgument?_escape]
        exact pushArgument_eq_some.2 ⟨a, hcut, rfl⟩
    · rcases cutArgument?_step hc depth quote with ⟨rfl, rfl, rfl⟩ | ⟨depth', quote', hstep⟩
      · rw [cutArgument?_end] at h
        cases h
        exact ⟨.plain hc (.refl _), cutArgument?_end _⟩
      · rw [hstep] at h
        obtain ⟨a, ha, rfl⟩ := pushArgument_eq_some.1 h
        obtain ⟨hleaves, hcut⟩ := cutArgument?_append t s ha
        refine ⟨.plain hc hleaves, ?_⟩
        rw [List.cons_append, hstep]
        exact pushArgument_eq_some.2 ⟨a, hcut, rfl⟩

omit hsp in
theorem readArgument_follows (s : List Char) :
    Follows sp ('(' :: s) (readArgument ('(' :: s)) (readArgument ('(' :: s ++ sp)) := by
  refine .after (.plain (by decide) (.refl s)) fun argument rest h => ?_
  rw [readArgument, List.drop_one, List.tail_cons] at h
  rw [List.cons_append, readArgument, List.drop_one, List.tail_cons]
  cases hcut : cutArgument? 0 none s with
  | none =>
    rw [hcut] at h
    cases h
  | some p =>
    rw [hcut] at h
    cases h
    obtain ⟨hleaves, hcut'⟩ := cutArgument?_append sp s hcut
    refine ⟨hleaves, fun _ => ⟨sp, List.suffix_rfl, ?_⟩⟩
    rw [hcut']

theorem readNthArgument_follows (s : List Char) :
    Follows sp ('(' :: s) (readNthArgument ('(' :: s)) (readNthArgument ('(' :: s ++ sp)) := by
  refine (readArgument_follows s).bind hsp fun argument r t ht => ?_
  cases hparse : Nth.parse? argument with
  | none =>
    simp only [hparse]
    exact .error
  | some positions =>
    simp only [hparse]
    exact .done

/-! ## Pseudo-classes -/

/-- A pseudo-class without an argument. -/
def readBarePseudo (name : PseudoClassName) (t : List Char) : Read (PseudoClass × List Char) :=
  match name with
  | .root => .ok (.root, t)
  | .scope => .ok (.scope, t)
  | .empty => .ok (.empty, t)
  | .first among => .ok (.first among, t)
  | .last among => .ok (.last among, t)
  | .only among => .ok (.only among, t)
  | _ => .error (.unexpectedEnd .argument)

/-- A pseudo-class with an argument; the parenthesis that opens it comes next. -/
def readFunctionalPseudo (inner : List Char → Read SelectorList) (name : PseudoClassName)
    (t : List Char) : Read (PseudoClass × List Char) :=
  match name with
  | .nth among => do
    let (positions, rest) ← readNthArgument t
    return (.nth among positions, rest)
  | .nthLast among => do
    let (positions, rest) ← readNthArgument t
    return (.nthLast among positions, rest)
  | .not => do
    let (argument, rest) ← readArgument t
    let alternatives ← (inner argument).within (')' :: rest)
    return (.not alternatives, rest)
  | _ => .error (.unexpectedCharacter '(' t)

/-- What comes behind the name of a pseudo-class. -/
def behindPseudo (inner : List Char → Read SelectorList) (name : PseudoClassName)
    (t : List Char) : Read (PseudoClass × List Char) :=
  match t with
  | '(' :: _ => readFunctionalPseudo inner name t
  | _ => readBarePseudo name t

omit hsp in
theorem readPseudoClass_eq {inner : List Char → Read SelectorList}
    {allows : PseudoClassName → Bool} {s : List Char} (h : ∀ t, s = ':' :: t → False) :
    readPseudoClass inner allows s = (do
      let (written, t) ← expectName .pseudoClassName s
      match (PseudoClassName.ofWritten? written).filter allows with
      | none => .error (.unknownPseudoClass written)
      | some name => behindPseudo inner name t) := by
  rw [readPseudoClass]
  · rfl
  · exact h

end Trailing

/-! ## Combinators -/

/-- The characters that stand for a combinator. -/
inductive Sign : Char → Combinator → Prop
  | child : Sign '>' .child
  | nextSibling : Sign '+' .nextSibling
  | subsequentSibling : Sign '~' .subsequentSibling

/-- A combinator stands at the front of `s`, and `r` behind it. -/
inductive Joint (s : List Char) : Combinator → List Char → Prop
  | sign {c : Char} {k : Combinator} {t : List Char} (hc : Sign c k) (hs : skipSpace s = c :: t) :
    Joint s k (skipSpace t)
  | space {c : Char} {t : List Char} (hc : ∀ k, ¬ Sign c k) (hs : skipSpace s = c :: t)
    (hspace : s.head?.any isSpace = true) : Joint s .descendant (c :: t)

theorem readCombinator_eq_none {s : List Char} :
    readCombinator s = .ok none ↔ skipSpace s = [] := by
  constructor
  · intro h
    rw [readCombinator] at h
    split at h
    · assumption
    · cases h
    · cases h
    · cases h
    · split at h <;> cases h
  · intro h
    rw [readCombinator, h]

theorem readCombinator_iff {s r : List Char} {k : Combinator} :
    readCombinator s = .ok (some (k, r)) ↔ Joint s k r := by
  constructor
  · intro h
    rw [readCombinator] at h
    split at h
    · cases h
    · rename_i hs
      cases h
      exact .sign .child hs
    · rename_i hs
      cases h
      exact .sign .nextSibling hs
    · rename_i hs
      cases h
      exact .sign .subsequentSibling hs
    · rename_i c t hchild hnext hsubsequent hs
      split at h
      · rename_i hspace
        cases h
        refine .space (fun k hk => ?_) hs hspace
        cases hk with
        | child => exact hchild rfl
        | nextSibling => exact hnext rfl
        | subsequentSibling => exact hsubsequent rfl
      · cases h
  · intro h
    cases h with
    | sign hc hs =>
      rw [readCombinator, hs]
      cases hc <;> rfl
    | @space c t hc hs hspace =>
      rw [readCombinator, hs]
      split
      · rename_i hnil
        cases hnil
      · rename_i ht
        cases ht
        exact absurd .child (hc _)
      · rename_i ht
        cases ht
        exact absurd .nextSibling (hc _)
      · rename_i ht
        cases ht
        exact absurd .subsequentSibling (hc _)
      · rename_i ht
        cases ht
        exact if_pos hspace

section Inner

variable {inner inner' : List Char → Read SelectorList}
  (hinner : ∀ argument alternatives, inner argument = .ok alternatives →
    inner' argument = .ok alternatives)
  {sp : List Char} (hsp : Spaces sp)

include hinner hsp

theorem readFunctionalPseudo_follows (name : PseudoClassName) (t : List Char) :
    Follows sp ('(' :: t) (readFunctionalPseudo inner name ('(' :: t))
      (readFunctionalPseudo inner' name ('(' :: t ++ sp)) := by
  cases name with
  | nth among => exact (readNthArgument_follows hsp t).bind hsp fun _ _ _ _ => .done
  | nthLast among => exact (readNthArgument_follows hsp t).bind hsp fun _ _ _ _ => .done
  | not =>
    refine (readArgument_follows t).bind hsp fun argument r u hu => ?_
    cases hread : inner argument with
    | error e =>
      simp only [hread]
      exact .error
    | ok alternatives =>
      simp only [hread, hinner argument alternatives hread]
      exact .done
  | _ => exact .error

omit hinner hsp in
theorem readBarePseudo_follows (name : PseudoClassName) (t : List Char) :
    Follows sp t (readBarePseudo name t) (readBarePseudo name (t ++ sp)) := by
  cases name with
  | nth | nthLast | not => exact .error
  | _ => exact .done

theorem behindPseudo_follows (name : PseudoClassName) (t : List Char) :
    Follows sp t (behindPseudo inner name t) (behindPseudo inner' name (t ++ sp)) := by
  fun_cases behindPseudo inner name t with
  | case1 t => exact readFunctionalPseudo_follows hinner hsp name t
  | case2 t hbare =>
    rw [behindPseudo]
    · exact readBarePseudo_follows name t
    · exact hsp.append_ne_cons rfl hbare

theorem readPseudoClass_follows (allows : PseudoClassName → Bool) (s : List Char) :
    Follows sp s (readPseudoClass inner allows s) (readPseudoClass inner' allows (s ++ sp)) := by
  by_cases h : ∃ t, s = ':' :: t
  · obtain ⟨t, rfl⟩ := h
    exact .error
  · rw [not_exists] at h
    rw [readPseudoClass_eq h, readPseudoClass_eq (hsp.append_ne_cons rfl h)]
    refine (expectName_follows hsp _ s).bind hsp fun written t u hu => ?_
    cases hname : (PseudoClassName.ofWritten? written).filter allows with
    | none =>
      simp only [hname]
      exact .error
    | some name =>
      simp only [hname]
      exact behindPseudo_follows hinner hu name t

/-! ## Compounds -/

omit hinner hsp in
theorem readHead_eq {s : List Char} (h : ∀ t, s = '*' :: t → False) : readHead s =
    if atName s then ([.type (String.ofList (asciiLower (readName s).1))], (readName s).2)
    else ([], s) := by
  rw [readHead]
  exact h

omit hinner in
theorem readHead_follows (s : List Char) :
    Follows sp s (.ok (readHead s)) (.ok (readHead (s ++ sp))) := by
  by_cases h : ∃ t, s = '*' :: t
  · obtain ⟨t, rfl⟩ := h
    exact .after (.plain (by decide) (.refl t)) .done
  · rw [not_exists] at h
    rw [readHead_eq h, readHead_eq (hsp.append_ne_cons rfl h)]
    by_cases hname : atName s = true
    · rw [if_pos hname, if_pos ((atName_append hsp (Or.inl hname)).trans hname)]
      exact (readName_follows hsp s).map hsp fun name =>
        [SimpleSelector.type (String.ofList (asciiLower name))]
    · rw [if_neg hname]
      refine .pure (.refl s) fun hs => ⟨sp, List.suffix_rfl, ?_⟩
      rw [atName_append hsp (Or.inr hs), if_neg hname]

theorem readCondition_follows (allows : PseudoClassName → Bool) (s : List Char) :
    StepFollows sp s (readCondition inner allows s) (readCondition inner' allows (s ++ sp)) := by
  fun_cases readCondition inner allows s with
  | case1 s => exact (expectName_follows hsp .id s).behind (c := '#') (by decide) SimpleSelector.id
  | case2 s =>
    have hread := expectName_follows hsp .className s
    exact hread.behind (c := '.') (by decide) SimpleSelector.className
  | case3 s =>
    have hread := readAttribute_follows hsp s
    exact hread.behind (c := '[') (by decide) SimpleSelector.attribute
  | case4 s =>
    have hread := readPseudoClass_follows hinner hsp allows s
    exact hread.behind (c := ':') (by decide) SimpleSelector.pseudo
  | case5 => exact .error
  | case6 s hid hclass hattribute hpseudo huniversal =>
    refine ⟨fun _ _ => ?_, nofun⟩
    rw [readCondition]
    · exact hsp.append_ne_cons rfl hid
    · exact hsp.append_ne_cons rfl hclass
    · exact hsp.append_ne_cons rfl hattribute
    · exact hsp.append_ne_cons rfl hpseudo
    · exact hsp.append_ne_cons rfl huniversal

theorem readCompound_follows (allows : PseudoClassName → Bool) (s : List Char) :
    Follows sp s (readCompound inner allows s) (readCompound inner' allows (s ++ sp)) := by
  refine (readHead_follows hsp s).next hsp
    (f := fun p => readMany (readCondition inner allows) p.2 >>= fun q => .ok (p.1 ++ q.1, q.2))
    (g := fun p => readMany (readCondition inner' allows) p.2 >>= fun q => .ok (p.1 ++ q.1, q.2))
    fun t ht => ?_
  have hmany := readMany_follows ht
    (fun s u hu => readCondition_follows hinner hu allows s) (readHead s).2
  exact hmany.bind ht fun _ _ _ _ => .done

/-! ## Complex selectors -/

omit hinner in
theorem readCombinator_follows (s : List Char) :
    StepFollows sp s (readCombinator s) (readCombinator (s ++ sp)) := by
  constructor
  · intro h _
    rw [readCombinator_eq_none] at h ⊢
    rw [(spaces_of_skipSpace h).skipSpace_append, hsp.skipSpace_eq]
  · intro k r h
    obtain ⟨u, hu, hskip⟩ := hsp.exists_skipSpace_append s
    have hleaves := leaves_skipSpace s
    cases readCombinator_iff.1 h with
    | @sign c _ t hc hs =>
      have hslash : c ≠ '\\' := by cases hc <;> decide
      have hlength := hleaves.length_le
      have hrest := leaves_skipSpace t
      rw [hs] at hleaves hlength hskip
      refine ⟨Nat.lt_of_le_of_lt hrest.length_le hlength, hleaves.trans (.plain hslash hrest), ?_⟩
      intro _
      obtain ⟨v, hv, hskip'⟩ := (hsp.of_suffix hu).exists_skipSpace_append t
      refine ⟨v, hv.trans hu, readCombinator_iff.2 ?_⟩
      rw [← hskip']
      exact .sign hc hskip
    | @space c t hc hs hspace =>
      obtain ⟨d, w, rfl, hd⟩ : ∃ d w, s = d :: w ∧ isSpace d = true := by
        cases s with
        | nil => cases hspace
        | cons d w => exact ⟨d, w, rfl, hspace⟩
      have hlength : (c :: t).length < (d :: w).length := by
        have hw : skipSpace (d :: w) = skipSpace w := List.dropWhile_cons_of_pos hd
        rw [← hs, hw]
        exact Nat.lt_succ_of_le (leaves_skipSpace w).length_le
      rw [hs] at hleaves hskip
      exact ⟨hlength, hleaves, fun _ => ⟨u, hu, readCombinator_iff.2 (.space hc hskip hd)⟩⟩

omit hinner hsp in
theorem readStep_eq_none {allows : PseudoClassName → Bool} {s : List Char} :
    readStep inner allows s = .ok none ↔ readCombinator s = .ok none := by
  rw [readStep, bind_eq_ok]
  constructor
  · rintro ⟨next, hnext, h⟩
    cases next with
    | none => exact hnext
    | some p =>
      obtain ⟨⟨compound, rest⟩, -, h⟩ := bind_eq_ok.1 h
      dsimp only at h
      split at h <;> cases h
  · intro h
    exact ⟨none, h, rfl⟩

omit hinner hsp in
theorem readStep_eq_some {allows : PseudoClassName → Bool} {s r : List Char} {k : Combinator}
    {compound : CompoundSelector} : readStep inner allows s = .ok (some ((k, compound), r)) ↔
      ∃ t, readCombinator s = .ok (some (k, t)) ∧ readCompound inner allows t = .ok (compound, r) ∧
        ¬ compound.isEmpty = true := by
  rw [readStep, bind_eq_ok]
  constructor
  · rintro ⟨next, hnext, h⟩
    cases next with
    | none => cases h
    | some p =>
      obtain ⟨⟨compound, rest⟩, hread, h⟩ := bind_eq_ok.1 h
      dsimp only at h
      split at h
      · cases h
      · rename_i hne
        cases h
        exact ⟨_, hnext, hread, hne⟩
  · rintro ⟨t, hnext, hread, hne⟩
    exact ⟨_, hnext, bind_eq_ok.2 ⟨_, hread, if_neg hne⟩⟩

theorem readStep_follows (allows : PseudoClassName → Bool) (s : List Char) :
    StepFollows sp s (readStep inner allows s) (readStep inner' allows (s ++ sp)) := by
  have hjoint := readCombinator_follows hsp s
  constructor
  · intro h hs
    rw [readStep_eq_none] at h ⊢
    exact hjoint.stop h hs
  · rintro ⟨k, compound⟩ r h
    obtain ⟨t, hk, hread, hne⟩ := readStep_eq_some.1 h
    obtain ⟨hlt, hleaves, hw⟩ := hjoint.step k t hk
    obtain ⟨hrest, -⟩ := readCompound_follows hinner hsp allows t compound r hread
    refine ⟨Nat.lt_of_le_of_lt hrest.length_le hlt, hleaves.trans hrest, fun hs => ?_⟩
    obtain ⟨u, hu, hk'⟩ := hw hs
    obtain ⟨-, hw'⟩ := readCompound_follows hinner (hsp.of_suffix hu) allows t compound r hread
    obtain ⟨v, hv, hread'⟩ := hw' (hleaves.whole_rest hs)
    exact ⟨v, hv.trans hu, readStep_eq_some.2 ⟨_, hk', hread', hne⟩⟩

omit hinner hsp in
theorem readComplex_eq_ok {allows : PseudoClassName → Bool} {s : List Char} {c : ComplexSelector} :
    readComplex inner allows s = .ok c ↔ ∃ compound behind steps rest,
      readCompound inner allows (skipSpace s) = .ok (compound, behind) ∧
      ¬ compound.isEmpty = true ∧ readMany (readStep inner allows) behind = .ok (steps, rest) ∧
      steps.foldl .extend (.compound compound) = c := by
  rw [readComplex, bind_eq_ok]
  constructor
  · rintro ⟨⟨compound, behind⟩, hcompound, h⟩
    dsimp only at h
    split at h
    · cases h
    · rename_i hne
      obtain ⟨⟨steps, rest⟩, hsteps, h⟩ := bind_eq_ok.1 h
      exact ⟨compound, behind, steps, rest, hcompound, hne, hsteps, Except.ok.inj h⟩
  · rintro ⟨compound, behind, steps, rest, hcompound, hne, hsteps, rfl⟩
    exact ⟨_, hcompound, (if_neg hne).trans (bind_eq_ok.2 ⟨_, hsteps, rfl⟩)⟩

omit hsp in
/-- A complex selector that can be read is a whole text, and is read with white space around it. -/
theorem readComplex_padded {allows : PseudoClassName → Bool} {s : List Char} {c : ComplexSelector}
    (h : readComplex inner allows s = .ok c) :
    Whole s ∧ ∀ left right, Spaces left → Spaces right →
      readComplex inner' allows (left ++ s ++ right) = .ok c := by
  obtain ⟨compound, behind, steps, rest, hcompound, hne, hsteps, hc⟩ := readComplex_eq_ok.1 h
  have hcompounds {t : List Char} (ht : Spaces t) :=
    readCompound_follows hinner ht allows (skipSpace s) compound behind hcompound
  have hmany {t : List Char} (ht : Spaces t) :=
    readMany_follows ht (fun s u hu => readStep_follows hinner hu allows s) behind steps rest hsteps
  have hnil : Spaces [] := nofun
  -- What is left when there is no further combinator is white space.
  have hwhole : Whole s := by
    have hend : readStep inner allows rest = .ok none := by
      refine step_eq_none_of_readMany (fun s a r hstep => ?_) hsteps
      exact ((readStep_follows hinner hnil allows s).step a r hstep).1
    have hrest := spaces_of_skipSpace (readCombinator_eq_none.1 (readStep_eq_none.1 hend))
    exact (leaves_skipSpace s).whole ((hcompounds hnil).1.whole ((hmany hnil).1.whole hrest.whole))
  refine ⟨hwhole, fun left right hleft hright => readComplex_eq_ok.2 ?_⟩
  obtain ⟨t, ht, hskip⟩ := hright.exists_skipSpace_append s
  have htspaces := hright.of_suffix ht
  have hstart := (leaves_skipSpace s).whole_rest hwhole
  obtain ⟨hleaves, hread⟩ := hcompounds htspaces
  obtain ⟨u, hu, hcompound'⟩ := hread hstart
  obtain ⟨v, -, hsteps'⟩ := (hmany (htspaces.of_suffix hu)).2 (hleaves.whole_rest hstart)
  refine ⟨compound, behind ++ u, steps, rest ++ v, ?_, hne, hsteps', hc⟩
  rw [List.append_assoc, hleft.skipSpace_append, hskip, hcompound']

end Inner

end Umbra.Selector