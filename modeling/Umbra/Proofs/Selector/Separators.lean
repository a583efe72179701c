import Umbra.Proofs.Selector.Commas

/-!
# Separators

A text that closes its quotes and brackets is cut at a separator, and what stands behind the separator
is searched from outside quotes and brackets again. So each stretch has to close what it opens, which it
does if the separator itself does. Where a separator leaves something open, there is a closed text that
it does not cut.
-/

namespace Umbra.Selector

/-! ## Texts one behind another -/

namespace Open

variable {o o₁ o' : Open} {c : Char} {s t : List Char}

theorem behind?_append (hs : Whole s) :
    o.behind? (s ++ t) = (o.behind? s).bind fun o₁ => o₁.behind? t := by
  induction hs generalizing o with
  | nil => rfl
  | @plain c s hc _ ih =>
    have hslash (u : List Char) (h : c = '\\') : u = [] := absurd h hc
    rw [List.cons_append, behind?_cons (hslash _), behind?_cons (hslash _), Option.bind_assoc]
    exact Option.bind_congr fun o₁ _ => ih
  | escape _ ih => exact ih

/-- Closing brackets that fit in a text fit in its start. -/
theorem exists_behind? (h : o.behind? (s ++ t) = some o') : ∃ o₁, o.behind? s = some o₁ := by
  induction s using escaped_induction generalizing o with
  | nil => exact ⟨o, rfl⟩
  | escape c s ih => exact ih h
  | char c s hc ih =>
    by_cases hslash : c = '\\'
    · obtain rfl := hc hslash
      subst hslash
      obtain ⟨quote, brackets⟩ := o
      cases quote <;> exact ⟨_, rfl⟩
    · rw [List.cons_append, behind?_cons fun h => absurd h hslash, Option.bind_eq_some_iff] at h
      obtain ⟨o₁, hstep, h⟩ := h
      rw [behind?_cons hc, hstep]
      exact ih h

end Open

/-! ## Closed texts -/

/-- A text that closes its quotes and brackets. An escape may be cut off at its end. -/
def Closed (s : List Char) : Prop := Open.outside.behind? s = some .outside

section Closed

variable {sep s : List Char}

theorem closed_of_findTopLevel (h : findTopLevel sep s = .ok none) : Closed s :=
  (findTopLevel_eq_none.1 h).behind?_eq

theorem findFrom_of_behind? {quote : Option Opening} {opened : List Opening}
    (h : (Open.ofScan quote opened).behind? s = some .outside) :
    findFrom sep quote opened s = .ok none ∨
      ∃ before after, findFrom sep quote opened s = .ok (some (before, after)) ∧ Closed after := by
  induction s using escaped_induction generalizing quote opened with
  | nil => exact Or.inl (findFrom_nil_eq_none.2 (Option.some.inj h))
  | escape c s ih =>
    rw [findFrom_escape]
    rcases ih h with hnone | ⟨before, after, hsome, hafter⟩
    · exact Or.inl (by rw [hnone]; rfl)
    · exact Or.inr ⟨_, after, by rw [hsome]; rfl, hafter⟩
  | char c s hc ih =>
    rcases @findFrom_cons_cases sep c s hc quote opened with
      ⟨hnone, -⟩ | ⟨hstop, hread⟩ | ⟨quote', opened', -, hstep, hread⟩
    · rw [Open.behind?_cons hc, hnone] at h
      cases h
    · generalize Open.ofScan quote opened = o at h hstop
      cases hstop with
      | intro => exact Or.inr ⟨[], c :: s, hread, h⟩
    · rw [Open.behind?_cons hc, hstep] at h
      rw [hread]
      rcases ih h with hnone | ⟨before, after, hsome, hafter⟩
      · exact Or.inl (by rw [hnone]; rfl)
      · exact Or.inr ⟨_, after, by rw [hsome]; rfl, hafter⟩

/-- In a closed text a search comes to the end or to a separator. -/
theorem Closed.findTopLevel (h : Closed s) : Selector.findTopLevel sep s = .ok none ∨
    ∃ before after, Selector.findTopLevel sep s = .ok (some (before, after)) ∧ Closed after :=
  findFrom_of_behind? h

end Closed

/-! ## Separators that cut closed texts -/

/-- A separator that cuts all closed texts: a search does not stop at its first character, or it
closes what it opens and no escape is cut off at its end. -/
def Divides (sep : List Char) : Prop :=
  sep.head?.any isMark = true ∨
    ∀ o, Open.outside.behind? sep = some o → o = .outside ∧ Whole sep

section Divides

variable {sep s : List Char}

theorem divides_of_unmarked (h : ∀ c ∈ sep, isMark c = false) : Divides sep := by
  refine Or.inr fun o ho => ⟨?_, .of_forall fun c hc => (isMark_eq_false_iff.1 (h c hc)).1⟩
  rw [Open.opened_outside.behind?_unmarked h] at ho
  exact (Option.some.inj ho).symm

theorem Divides.closed_behind (h : Divides sep) (hsep : sep ≠ []) {tail : List Char}
    (hstop : Stops sep .outside (sep ++ tail)) (hclosed : Closed (sep ++ tail)) : Closed tail := by
  rcases h with hmark | hcloses
  · obtain ⟨c, u, rfl⟩ := List.exists_cons_of_ne_nil hsep
    exact absurd hstop (not_stops_of_isMark hmark)
  · obtain ⟨o, ho⟩ := Open.exists_behind? hclosed
    obtain ⟨rfl, hwhole⟩ := hcloses o ho
    rwa [Closed, Open.behind?_append hwhole, ho] at hclosed

/-- Every stretch of a closed text is closed, so each of them is searched to its end. -/
theorem Divides.exists_splitTopLevel (h : Divides sep) (hsep : sep ≠ []) (hs : Closed s) :
    ∃ segments, splitTopLevel sep s = .ok segments := by
  induction hn : s.length using Nat.strongRecOn generalizing s with
  | _ n ih =>
    rcases hs.findTopLevel with hnone | ⟨before, after, hsome, hafter⟩
    · exact ⟨_, splitTopLevel_of_none hnone⟩
    · obtain ⟨rfl, tail, rfl⟩ := prefix_of_findTopLevel hsome
      have hstop := (findTopLevel_eq_some.1 hsome).2.2
      have hlt : tail.length < n := by
        have hpos := List.length_pos_iff.2 hsep
        rw [← hn, List.length_append, List.length_append]
        omega
      obtain ⟨segments, hsegments⟩ := ih _ hlt (h.closed_behind hsep hstop hafter) rfl
      refine ⟨⟨before, sep ++ tail⟩ :: segments, ?_⟩
      rw [splitTopLevel_of_found hsep hsome, List.drop_left, hsegments]
      rfl

/-- Where one separator is not found, another one that contains it is not found either. -/
theorem findTopLevel_of_contains {sep' : List Char} {p : List Char × List Char}
    (hsep : findTopLevel sep' sep = .ok (some p)) (hs : findTopLevel sep' s = .ok none) :
    findTopLevel sep s = .ok none := by
  rcases (closed_of_findTopLevel hs).findTopLevel with hnone | ⟨before, after, hsome, -⟩
  · exact hnone
  · obtain ⟨front, tail⟩ := p
    obtain ⟨rfl, hfront, hstop⟩ := findTopLevel_eq_some.1 hsep
    obtain ⟨hfind, u, rfl⟩ := prefix_of_findTopLevel hsome
    have hbefore := (findTopLevel_eq_some.1 hsome).2.1
    have htail : tail ≠ [] := by
      rintro rfl
      cases hstop
    have hne : front ++ tail ++ u ≠ [] := by simp [htail]
    -- both searches have nothing open where the inner separator starts
    have hscans := findTopLevel_eq_none.1 hs
    rw [hfind] at hscans
    obtain ⟨o₁, hbefore', hscans⟩ := Scans.of_append (hbefore.whole hne) hscans
    obtain rfl := Scans.unique hbefore' hbefore
    rw [List.append_assoc] at hscans
    obtain ⟨o₂, hfront', hscans⟩ := Scans.of_append (hfront.whole htail) hscans
    obtain rfl := Scans.unique hfront' hfront
    cases hstop with
    | intro hmark hstarts =>
      obtain ⟨o₃, hgo, -⟩ := Scans.of_cons (isMark_eq_false_iff.1 hmark).1 hscans
      rw [List.append_nil] at hgo
      exact absurd (.intro hmark (hstarts.trans (List.prefix_append _ u))) hgo

end Divides

/-! ## Separators that leave something open -/

def closer (bracket : Char) : Char := if bracket = '[' then ']' else ')'

/-- What closes all that is open, from the inside to the outside. -/
def Open.closing (o : Open) : List Char := o.quote.toList ++ o.brackets.map closer

section Closing

variable {sep s : List Char} {o : Open}

theorem not_closed_bracket {c : Char} (hc : c = ']' ∨ c = ')') (s : List Char) :
    ¬ Closed (c :: s) := by
  rcases hc with rfl | rfl <;> exact fun h => by cases h

theorem behind?_closers {brackets : List Char} (h : ∀ c ∈ brackets, c = '[' ∨ c = '(') :
    (Open.mk none brackets).behind? (brackets.map closer) = some .outside := by
  induction brackets with
  | nil => rfl
  | cons c brackets ih =>
    obtain ⟨hc, hbrackets⟩ := List.forall_mem_cons.1 h
    rcases hc with rfl | rfl
    · exact ih hbrackets
    · exact ih hbrackets

theorem Open.Opened.behind?_closing (h : o.Opened) : o.behind? o.closing = some .outside := by
  obtain ⟨quote, brackets⟩ := o
  cases quote with
  | none => exact behind?_closers h.bracket
  | some q =>
    rcases h.quote q rfl with rfl | rfl
    · exact behind?_closers h.bracket
    · exact behind?_closers h.bracket

theorem Open.Opened.isMark_closing (h : o.Opened) : ∀ c ∈ o.closing, isMark c = true := by
  intro c hc
  rcases List.mem_append.1 hc with hc | hc
  · rcases h.quote c (Option.mem_toList.1 hc) with rfl | rfl <;> rfl
  · obtain ⟨bracket, hbracket, rfl⟩ := List.mem_map.1 hc
    rcases h.bracket bracket hbracket with rfl | rfl <;> rfl

theorem behind?_quoted {q : Char} {brackets : List Char} (hs : ∀ c ∈ s, c ≠ '\\' ∧ c ≠ q) :
    (Open.mk (some q) brackets).behind? s = some ⟨some q, brackets⟩ := by
  induction s with
  | nil => rfl
  | cons c s ih =>
    obtain ⟨⟨hslash, hq⟩, hs⟩ := List.forall_mem_cons.1 hs
    rw [Open.behind?_cons fun h => absurd h hslash]
    simp only [Open.step?, if_neg hq]
    exact ih hs

/-- What closes something does not close itself. -/
theorem Open.Opened.not_closed_closing (h : o.Opened) (ho : o ≠ .outside) : ¬ Closed o.closing := by
  obtain ⟨quote, brackets⟩ := o
  cases quote with
  | none =>
    cases brackets with
    | nil => exact absurd rfl ho
    | cons c brackets =>
      -- the first closing bracket has none to close
      rcases (List.forall_mem_cons.1 h.bracket).1 with rfl | rfl
      · exact not_closed_bracket (Or.inl rfl) _
      · exact not_closed_bracket (Or.inr rfl) _
  | some q =>
    have hclosers : ∀ c ∈ brackets.map closer, c ≠ '\\' ∧ c ≠ q := by
      intro c hc
      obtain ⟨bracket, hbracket, rfl⟩ := List.mem_map.1 hc
      rcases h.quote q rfl with rfl | rfl
      · rcases h.bracket bracket hbracket with rfl | rfl <;> decide
      · rcases h.bracket bracket hbracket with rfl | rfl <;> decide
    have hbehind : Open.outside.behind? (q :: brackets.map closer) = some ⟨some q, []⟩ := by
      rcases h.quote q rfl with rfl | rfl <;> exact behind?_quoted hclosers
    intro hclosed
    cases hbehind.symm.trans hclosed

/-- An escape that is cut off at the end takes the next character. -/
theorem Open.Opened.behind?_append_of_not_whole {o' : Open} {c : Char} {t : List Char}
    (h : o.Opened) (hs : ¬ Whole s) (ho : o.behind? s = some o') :
    o.behind? (s ++ c :: t) = o'.behind? t := by
  induction s using escaped_induction generalizing o with
  | nil => exact absurd .nil hs
  | escape d s ih => exact ih h (fun hwhole => hs (.escape hwhole)) ho
  | char d s hd ih =>
    rw [Open.behind?_cons hd] at ho
    by_cases hslash : d = '\\'
    · obtain rfl := hd hslash
      subst hslash
      rw [h.step?_slash] at ho
      cases ho
      rfl
    · obtain ⟨o₁, hstep, ho⟩ := Option.bind_eq_some_iff.1 ho
      rw [List.cons_append, Open.behind?_cons fun h => absurd h hslash, hstep]
      exact ih (h.step hstep) (fun hwhole => hs (.plain hslash hwhole)) ho

/-- Where a separator leaves something open, marks behind it close it that are not closed themselves. -/
theorem exists_marks (h : ¬ Divides sep) : ∃ rest, (∀ c ∈ rest, isMark c = true) ∧
    Closed (sep ++ rest) ∧ ¬ Closed rest := by
  simp only [Divides, not_or, not_forall] at h
  obtain ⟨-, o, ho, hopen⟩ := h
  have hopened := Open.opened_outside.behind ho
  by_cases hwhole : Whole sep
  · refine ⟨o.closing, hopened.isMark_closing, ?_,
      hopened.not_closed_closing fun h => hopen ⟨h, hwhole⟩⟩
    rw [Closed, Open.behind?_append hwhole, ho]
    exact hopened.behind?_closing
  · refine ⟨']' :: o.closing, List.forall_mem_cons.2 ⟨rfl, hopened.isMark_closing⟩, ?_,
      not_closed_bracket (Or.inl rfl) _⟩
    rw [Closed, Open.opened_outside.behind?_append_of_not_whole hwhole ho]
    exact hopened.behind?_closing

/-- Marks that are not closed cannot be cut, because a search does not stop at a mark. -/
theorem exists_error_of_marks (hmarks : ∀ c ∈ s, isMark c = true) (hs : ¬ Closed s) :
    ∃ e, splitTopLevel sep s = .error e := by
  cases h : findTopLevel sep s with
  | error e => exact ⟨e, by rw [splitTopLevel, h]⟩
  | ok found =>
    cases found with
    | none => exact absurd (closed_of_findTopLevel h) hs
    | some p =>
      obtain ⟨before, after⟩ := p
      obtain ⟨rfl, -, hstop⟩ := findTopLevel_eq_some.1 h
      cases hstop with
      | intro hmark =>
        have hc := hmarks _ (List.mem_append_right _ List.mem_cons_self)
        rw [hmark] at hc
        cases hc

variable {x : Char} {rest : List Char}

theorem findTopLevel_cons (hne : sep ≠ []) (hx : isPlain x = true) (hhead : sep.head? ≠ some x)
    (s : List Char) : findTopLevel sep (x :: s) = Read.prepend [x] (findTopLevel sep s) := by
  refine findFrom_skip (Or.inl hx) (Or.inr (Bool.eq_false_iff.2 fun hstarts => ?_))
  obtain ⟨c, t, rfl⟩ := List.exists_cons_of_ne_nil hne
  exact hhead (congrArg some (List.cons_prefix_cons.1 (List.isPrefixOf_iff_prefix.1 hstarts)).1)

/-- Behind a character that it does not start with, a separator is found. -/
theorem splitTopLevel_cons (hne : sep ≠ []) (hsep : sep.head?.any isMark = false)
    (hx : isPlain x = true) (hhead : sep.head? ≠ some x) :
    splitTopLevel sep (x :: (sep ++ rest)) =
      (splitTopLevel sep rest).map (⟨[x], sep ++ rest⟩ :: ·) := by
  have hstart : findTopLevel sep (sep ++ rest) = .ok (some ([], sep ++ rest)) := by
    obtain ⟨c, t, rfl⟩ := List.exists_cons_of_ne_nil hne
    exact findTopLevel_eq_some.2 ⟨rfl, .nil, .intro hsep (List.prefix_append (c :: t) rest)⟩
  have hfind : findTopLevel sep (x :: (sep ++ rest)) = .ok (some ([x], sep ++ rest)) := by
    rw [findTopLevel_cons hne hx hhead, hstart]
    rfl
  rw [splitTopLevel_of_found hne hfind, List.drop_left]

/-- A separator without marks that is not found in a text is not found with marks behind it. -/
theorem findTopLevel_append_marks {avoided : List Char} (havoided : ∀ c ∈ avoided, isMark c = false)
    (hne : avoided ≠ []) (hs : ∀ p, findTopLevel avoided s ≠ .ok (some p))
    (hmarks : ∀ c ∈ rest, isMark c = true) (hclosed : Closed (s ++ rest)) :
    findTopLevel avoided (s ++ rest) = .ok none := by
  have hfree (c : Char) (hc : c ∈ rest) : c ∉ avoided := fun hmem => by
    have hmark := havoided c hmem
    rw [hmarks c hc] at hmark
    cases hmark
  rcases hclosed.findTopLevel with hnone | ⟨before, after, hsome, -⟩
  · exact hnone
  · obtain ⟨hfind, hscans, -⟩ := findTopLevel_eq_some.1 hsome
    have hstarts := (prefix_of_findTopLevel hsome).2
    obtain ⟨c, t, rfl⟩ := List.exists_cons_of_ne_nil hne
    rcases List.append_eq_append_iff.1 hfind with ⟨u, rfl, rfl⟩ | ⟨u, rfl, rfl⟩
    · -- what is behind the text are marks
      have hc := List.mem_append_right u (hstarts.subset List.mem_cons_self)
      exact absurd List.mem_cons_self (hfree c hc)
    · have hinner : c :: t <+: u := by
        cases rest with
        | nil => rwa [List.append_nil] at hstarts
        | cons d rest => exact prefix_of_prefix_append (hfree d List.mem_cons_self) hstarts
      obtain ⟨v, rfl⟩ := hinner
      exact absurd (findTopLevel_eq_some.2 ⟨rfl, hscans.shorten,
        .intro (havoided c List.mem_cons_self) (List.prefix_append (c :: t) v)⟩) (hs _)

end Closing

end Umbra.Selector
