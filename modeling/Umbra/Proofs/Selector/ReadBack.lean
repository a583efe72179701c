import Umbra.Proofs.Selector.Conditions

/-!
# Selectors read back

A selector that has the shape of one that was read is read back, scrubbed, from what is written for
it, if no type and no attribute in it has a hyphen for its name.
-/

namespace Umbra.Selector

open Text

section Inner

variable {allows : PseudoClassName → Bool} {inner : List Char → Read SelectorList}

/-! ## Compounds -/

omit inner in
theorem readHead_written {s : SimpleSelector} (hhead : s.isHead = true) (hshaped : s.Shaped allows)
    (hnames : "-" ∉ s.names) {rest t : List Char} (h : Written s.write rest t) (hrest : Breaks rest) :
    readHead t = ([s.scrubbed], rest) := by
  cases s with
  | type name =>
    have hat := atName_written h (toList_ne_nil hshaped.1)
      (toList_ne_hyphen (by simpa [SimpleSelector.names, eq_comm] using hnames))
    have hread := readName_written h hrest.not_continues
    have hlower := hshaped.scrubbed
    rw [asciiLowered, toList_scrubbedText] at hlower
    rw [readHead, if_pos hat, hread]
    · simp only [hlower, SimpleSelector.scrubbed]
    · rintro u rfl
      cases hat
  | universal =>
    obtain rfl := h.eq_append (by decide)
    rfl
  | _ => cases hhead

theorem readCompound_written {c : List SimpleSelector} (hshaped : shapedCompound allows c)
    (hnames : "-" ∉ compoundNames c) (hinner : ReadsBack inner c) {rest t : List Char}
    (h : Written (writeCompound c) rest t) (hrest : Ends rest) :
    readCompound inner allows t = .ok (scrubbedCompound c, rest) := by
  cases c with
  | nil => cases hshaped
  | cons s cs =>
    obtain ⟨hs, hcs⟩ := hshaped
    by_cases hhead : s.isHead = true
    · rw [compoundNames, List.mem_append, not_or] at hnames
      obtain ⟨u, hwritten, hu⟩ := h.split (writeConditions_ne_space hcs)
      have hbreaks := breaks_writtenConditions hcs hu hrest.breaks
      have hread := readMany_writtenConditions hcs hnames.2
        (hinner.mono (List.subset_cons_self ..)) hu hrest
      rw [readCompound, readHead_written hhead hs hnames.1 hwritten hbreaks]
      simp only [hread, bind, Except.bind]
      rfl
    · rw [Bool.not_eq_true] at hhead
      have hconditions : shapedConditions allows (s :: cs) := ⟨hhead, hs, hcs⟩
      have hread := readMany_writtenConditions hconditions hnames hinner h hrest
      have hnone : readHead t = ([], t) := by
        obtain ⟨c, u, rfl, hc⟩ := exists_writtenConditions hconditions h
        simp only [List.mem_cons, List.not_mem_nil, or_false] at hc
        rcases hc with rfl | rfl | rfl | rfl <;> rfl
      rw [readCompound, hnone]
      simp only [hread, bind, Except.bind]
      rfl

/-! ## Complex selectors -/

omit inner in
theorem starts_writeCompound {c : List SimpleSelector} (hshaped : shapedCompound allows c) :
    Starts (writeCompound c) := by
  cases c with
  | nil => cases hshaped
  | cons s cs =>
    obtain ⟨hs, hcs⟩ := hshaped
    cases s with
    | type name => exact starts_of_continues (continues_writeName (toList_ne_nil hs.1) _)
    | universal => exact ⟨'*', _, rfl, by decide⟩
    | _ =>
      obtain ⟨c, w, hw, hc⟩ := exists_writeConditions ⟨rfl, hs, hcs⟩
      rw [hw]
      refine ⟨c, w, rfl, ?_⟩
      simp only [List.mem_cons, List.not_mem_nil, or_false] at hc
      rcases hc with rfl | rfl | rfl | rfl <;> decide

theorem readCombinator_write (k : Combinator) {s : List Char} (h : Starts s) :
    readCombinator (k.write ++ s) = .ok (some (k, s)) := by
  have hskip := h.skipSpace
  obtain ⟨c, t, rfl, hspace, hchild, hnext, hsubsequent⟩ := h
  cases k with
  | descendant =>
    have hall : skipSpace (Combinator.descendant.write ++ c :: t) = c :: t := hskip
    rw [readCombinator, hall]
    split
    · rename_i hnil
      cases hnil
    · rename_i hc
      exact absurd (List.cons.inj hc).1 hchild
    · rename_i hc
      exact absurd (List.cons.inj hc).1 hnext
    · rename_i hc
      exact absurd (List.cons.inj hc).1 hsubsequent
    · rename_i hc
      obtain ⟨rfl, rfl⟩ := List.cons.inj hc
      rfl
  | _ =>
    have hone : skipSpace (' ' :: c :: t) = c :: t := hskip
    refine Eq.trans (b := .ok (some (_, skipSpace (' ' :: c :: t)))) rfl ?_
    rw [hone]

theorem ends_write (k : Combinator) (s : List Char) : Ends (k.write ++ s) := by
  intro c hc
  obtain rfl : ' ' = c := by cases k <;> exact Option.some.inj hc
  exact Or.inl rfl

theorem readStep_written {c : List SimpleSelector} (hshaped : shapedCompound allows c)
    (hnames : "-" ∉ compoundNames c) (hinner : ReadsBack inner c) {rest t : List Char}
    (h : Written (writeCompound c) rest t) (hrest : Ends rest) (k : Combinator) :
    readStep inner allows (k.write ++ t) = .ok (some ((k, scrubbedCompound c), rest)) := by
  have hne : (scrubbedCompound c).isEmpty = false := by
    cases c with
    | nil => cases hshaped
    | cons s cs => rfl
  rw [readStep, readCombinator_write k ((starts_writeCompound hshaped).of_written h)]
  simp only [bind, Except.bind, readCompound_written hshaped hnames hinner h hrest, hne]
  rfl

/-- All conditions of a complex selector. -/
def ComplexSelector.conditions : ComplexSelector → List SimpleSelector
  | .compound subject => subject
  | .link subject _ left => left.conditions ++ subject

/-- The reading of a complex selector that was written goes on with the steps behind it. -/
theorem readMany_writtenComplex : (c : ComplexSelector) → c.Shaped allows → "-" ∉ c.names →
    ReadsBack inner c.conditions → ∀ {rest t : List Char}, Written c.write rest t → Ends rest →
    ∀ {steps : List (Combinator × CompoundSelector)} {r : List Char},
    readMany (readStep inner allows) rest = .ok (steps, r) →
    ∃ base afterFirst all, readCompound inner allows t = .ok (base, afterFirst) ∧
      base.isEmpty = false ∧ readMany (readStep inner allows) afterFirst = .ok (all, r) ∧
      all.foldl .extend (.compound base) = steps.foldl .extend c.scrubbed
  | .compound subject, hshaped, hnames, hinner, rest, t, h, hrest, steps, r, hsteps => by
    refine ⟨_, rest, steps, readCompound_written hshaped hnames hinner h hrest, ?_, hsteps, rfl⟩
    cases subject with
    | nil => cases hshaped
    | cons s cs => rfl
  | .link subject k left, hshaped, hnames, hinner, rest, t, h, hrest, steps, r, hsteps => by
    obtain ⟨hsubject, hleft⟩ := hshaped
    rw [ComplexSelector.names, List.mem_append, not_or] at hnames
    obtain ⟨hw, hspace⟩ := (starts_writeCompound hsubject).ne
    obtain ⟨v, rfl, hv⟩ := h.of_append hw hspace
    have hstep := readStep_written hsubject hnames.2
      (hinner.mono (List.subset_append_right ..)) hv hrest k
    have hlt : rest.length < (k.write ++ v).length := by
      have := hv.length_lt hw
      rw [List.length_append]
      omega
    have hsteps' : readMany (readStep inner allows) (k.write ++ v) =
        .ok ((k, scrubbedCompound subject) :: steps, r) := by
      rw [readMany, hstep]
      simp only [if_pos hlt, hsteps]
    rw [List.append_assoc]
    exact readMany_writtenComplex left hleft hnames.1 (hinner.mono (List.subset_append_left ..))
      (.whole _) (ends_write k v) hsteps'

/-- A complex selector is read back with white space in front of it or without. -/
theorem readComplex_written {c : ComplexSelector} (hshaped : c.Shaped allows) (hnames : "-" ∉ c.names)
    (hinner : ReadsBack inner c.conditions) {t : List Char} (h : Written c.write [] t)
    {s : List Char} (hs : skipSpace s = t) : readComplex inner allows s = .ok c.scrubbed := by
  have hend : Ends [] := nofun
  have hnone : readMany (readStep inner allows) [] = .ok ([], []) := by
    rw [readMany]
    rfl
  obtain ⟨base, afterFirst, all, hread, hbase, hall, hfold⟩ :=
    readMany_writtenComplex c hshaped hnames hinner h hend hnone
  rw [readComplex, hs, hread]
  simp only [bind, Except.bind, hbase, hall, hfold]
  rfl

end Inner

/-! ## Lists of alternatives -/

theorem starts_writeComplex {allows : PseudoClassName → Bool} :
    (c : ComplexSelector) → c.Shaped allows → Starts c.write
  | .compound _, hshaped => starts_writeCompound hshaped
  | .link _ _ left, hshaped => ((starts_writeComplex left hshaped.2).append _).append _

theorem starts_writeList {allows : PseudoClassName → Bool} {alternatives : List ComplexSelector}
    (hne : alternatives ≠ []) (hshaped : shapedList allows alternatives) :
    Starts (writeList alternatives) := by
  match alternatives, hne, hshaped with
  | [c], _, hshaped => exact starts_writeComplex c hshaped.1
  | c :: d :: rest, _, hshaped =>
    rw [writeList_cons_cons]
    exact ((starts_writeComplex c hshaped.1).append _).append _

section Inner

variable {allows : PseudoClassName → Bool} {inner : List Char → Read SelectorList}

theorem readAlternatives_one {s : List Char} (h : Balanced false s) {c : ComplexSelector}
    (hread : readComplex inner allows s = .ok c) : readAlternatives inner allows s = .ok [c] := by
  rw [readAlternatives, splitTopLevel, findTopLevel_balanced h (Or.inr (Or.inl ⟨rfl, rfl⟩))]
  simp only [bind, Except.bind, List.mapM_cons, List.mapM_nil, hread]
  rfl

theorem readAlternatives_cons {s : List Char} (h : Balanced false s) {c : ComplexSelector}
    (hread : readComplex inner allows s = .ok c) {rest : List Char} {cs : SelectorList}
    (hrest : readAlternatives inner allows rest = .ok cs) :
    readAlternatives inner allows (s ++ [','] ++ rest) = .ok (c :: cs) := by
  rw [readAlternatives, bind_eq_ok] at hrest ⊢
  obtain ⟨segments, hsegments, hread'⟩ := hrest
  have hlt : rest.length < (s ++ [','] ++ rest).length := by
    simp only [List.length_append, List.length_singleton]
    omega
  refine ⟨⟨s, [','] ++ rest⟩ :: segments, ?_, ?_⟩
  · rw [splitTopLevel, findTopLevel_append h (Or.inr (Or.inl ⟨rfl, rfl⟩))]
    simp only [List.drop_left, dif_pos hlt, hsegments]
  · rw [mapM_eq_ok] at hread' ⊢
    exact .cons (Read.within_eq_ok.2 hread) hread'

theorem readAlternatives_written {alternatives : List ComplexSelector} (hne : alternatives ≠ [])
    (hshaped : shapedList allows alternatives) (hnames : "-" ∉ listNames alternatives)
    (hinner : ∀ c ∈ alternatives, ReadsBack inner c.conditions) {t : List Char}
    (h : Written (writeList alternatives) [] t) {space : List Char} (hspace : Spacing space) :
    readAlternatives inner allows (space ++ t) = .ok (scrubbedList alternatives) := by
  induction alternatives generalizing t space with
  | nil => exact absurd rfl hne
  | cons c rest ih =>
    obtain ⟨hc, hrest⟩ := hshaped
    rw [listNames, List.mem_append, not_or] at hnames
    obtain ⟨hinnerc, hinnerrest⟩ := List.forall_mem_cons.1 hinner
    have hread {w : List Char} (hw : Written c.write [] w) :
        readComplex inner allows (space ++ w) = .ok c.scrubbed := by
      have hstarts := (starts_writeComplex c hc).of_written hw
      refine readComplex_written hc hnames.1 hinnerc hw ?_
      rcases hspace with rfl | rfl <;> exact hstarts.skipSpace
    cases rest with
    | nil =>
      rw [writeList] at h
      have hbalanced := hspace.balanced.append ((balanced_writeComplex c).of_written h)
      exact readAlternatives_one hbalanced (hread h)
    | cons d rest =>
      rw [writeList_cons_cons] at h
      obtain ⟨hw, hw'⟩ := (starts_writeList (List.cons_ne_nil d rest) hrest).ne
      obtain ⟨u, rfl, hu⟩ := h.of_append hw hw'
      have hnext := ih (List.cons_ne_nil d rest) hrest hnames.2 hinnerrest hu (Or.inr rfl)
      have hbalanced := hspace.balanced.append (balanced_writeComplex c)
      have hall := readAlternatives_cons hbalanced (hread (.self _)) hnext
      rw [scrubbedList]
      simpa using hall

end Inner

/-! ## Nesting -/

theorem infix_writeCompound {s : SimpleSelector} {c : List SimpleSelector} (hs : s ∈ c) :
    s.write <:+: writeCompound c := by
  induction c with
  | nil => cases hs
  | cons d c ih =>
    rw [writeCompound]
    rcases List.mem_cons.1 hs with rfl | hs
    · exact (List.prefix_append _ _).isInfix
    · exact (ih hs).trans (List.suffix_append _ _).isInfix

theorem infix_writeComplex {s : SimpleSelector} :
    (c : ComplexSelector) → s ∈ c.conditions → s.write <:+: c.write
  | .compound _, hs => infix_writeCompound hs
  | .link subject k left, hs => by
    rw [ComplexSelector.write]
    rcases List.mem_append.1 hs with hs | hs
    · exact (infix_writeComplex left hs).trans
        ((List.prefix_append _ _).trans (List.prefix_append _ _)).isInfix
    · exact (infix_writeCompound hs).trans (List.suffix_append _ _).isInfix

theorem infix_writeList {c : ComplexSelector} {alternatives : List ComplexSelector}
    (hc : c ∈ alternatives) : c.write <:+: writeList alternatives := by
  match alternatives, hc with
  | [d], hc =>
    obtain rfl := List.mem_singleton.1 hc
    exact List.infix_refl c.write
  | d :: e :: rest, hc =>
    rw [writeList_cons_cons]
    rcases List.mem_cons.1 hc with rfl | hc
    · exact ((List.prefix_append _ _).trans (List.prefix_append _ _)).isInfix
    · exact (infix_writeList hc).trans (List.suffix_append _ _).isInfix

section Nested

variable {allows : PseudoClassName → Bool}

theorem of_mem_compound {s : SimpleSelector} {c : List SimpleSelector}
    (hshaped : shapedCompound allows c) (hs : s ∈ c) :
    s.Shaped allows ∧ s.names ⊆ compoundNames c := by
  have hnames : ∀ {d : List SimpleSelector}, s ∈ d → s.names ⊆ compoundNames d := by
    intro d hs
    induction d with
    | nil => cases hs
    | cons e d ih =>
      rw [compoundNames]
      rcases List.mem_cons.1 hs with rfl | hs
      · exact List.subset_append_left ..
      · exact List.Subset.trans (ih hs) (List.subset_append_right ..)
  cases c with
  | nil => cases hs
  | cons d c =>
    refine ⟨?_, hnames hs⟩
    rcases List.mem_cons.1 hs with rfl | hs
    · exact hshaped.1
    · exact (shapedConditions_iff.1 hshaped.2 s hs).2

theorem of_mem_conditions {s : SimpleSelector} : (c : ComplexSelector) → c.Shaped allows →
    s ∈ c.conditions → s.Shaped allows ∧ s.names ⊆ c.names
  | .compound _, hshaped, hs => of_mem_compound hshaped hs
  | .link _ _ left, hshaped, hs => by
    rw [ComplexSelector.names]
    rcases List.mem_append.1 hs with hs | hs
    · obtain ⟨h, hsub⟩ := of_mem_conditions left hshaped.2 hs
      exact ⟨h, List.Subset.trans hsub (List.subset_append_left ..)⟩
    · obtain ⟨h, hsub⟩ := of_mem_compound hshaped.1 hs
      exact ⟨h, List.Subset.trans hsub (List.subset_append_right ..)⟩

theorem names_subset {c : ComplexSelector} {alternatives : List ComplexSelector}
    (hc : c ∈ alternatives) : c.names ⊆ listNames alternatives := by
  induction alternatives with
  | nil => cases hc
  | cons d rest ih =>
    rw [listNames]
    rcases List.mem_cons.1 hc with rfl | hc
    · exact List.subset_append_left ..
    · exact List.Subset.trans (ih hc) (List.subset_append_right ..)

end Nested

/-! ## Selector lists -/

/-- A selector list is read back from what is written for it. -/
theorem readSelectorList_written {allows : PseudoClassName → Bool}
    {alternatives : List ComplexSelector} (hne : alternatives ≠ [])
    (hshaped : shapedList allows alternatives) (hnames : "-" ∉ listNames alternatives)
    {t : List Char} (h : Written (writeList alternatives) [] t) :
    readSelectorList allows t = .ok (scrubbedList alternatives) := by
  -- An argument is written with fewer characters than the list in which it stands.
  induction hn : t.length using Nat.strongRecOn generalizing alternatives t with
  | _ n ih =>
    rw [readSelectorList]
    refine readAlternatives_written hne hshaped hnames (fun c hc nested hnested => ?_) h (Or.inl rfl)
    obtain ⟨⟨-, hnestedne, hnestedshaped⟩, hsub⟩ :=
      of_mem_conditions c (shapedList_iff.1 hshaped c hc) hnested
    have hnestednames : "-" ∉ listNames nested := fun h => hnames (names_subset hc (hsub h))
    have hlt : (writeList nested).length < t.length := by
      have hlength := ((infix_writeComplex c hnested).trans (infix_writeList hc)).length_le
      have hnot : PseudoClassName.not.text.toList.length = 3 := rfl
      have hle := h.length_le
      simp only [SimpleSelector.write, PseudoClass.write, List.length_cons, List.length_append,
        List.length_nil, hnot] at hlength
      omega
    rw [if_pos hlt]
    exact ih _ (hn ▸ hlt) hnestedne hnestedshaped hnestednames (.self _) rfl

end Umbra.Selector
