import Umbra.Proofs.Selector.Scan

/-!
# What is open

What a scan for a separator has open, a quote and brackets, depends on the characters that it has
passed and not on the separator: `Open.behind?` gives it for any text. `Scans` says over which texts a
scan passes without stopping; the search for a separator gives a result where it does.
-/

namespace Umbra.Selector

/-- The quote that is open, and the brackets around it, the innermost first. -/
structure Open where
  quote : Option Char
  brackets : List Char

namespace Open

def outside : Open := ⟨none, []⟩

/-- What is open behind a character. A closing bracket has to close the innermost one. -/
def step? (o : Open) (c : Char) : Option Open :=
  match o.quote with
  | some q => some ⟨if c = q then none else some q, o.brackets⟩
  | none =>
    if c = '"' || c = '\'' then some ⟨some c, o.brackets⟩
    else if c = '[' || c = '(' then some ⟨none, c :: o.brackets⟩
    else if c = ']' || c = ')' then
      match o.brackets with
      | bracket :: outer => if closes bracket c then some ⟨none, outer⟩ else none
      | [] => none
    else some o

/-- What is open to a scan, wherever it was opened. -/
def ofScan (quote : Option Opening) (opened : List Opening) : Open :=
  ⟨quote.map Prod.fst, opened.map Prod.fst⟩

@[simp]
theorem ofScan_nil : ofScan none [] = outside := rfl

end Open

/-- The characters that a scan takes for more than themselves. -/
def isMark (c : Char) : Bool := ['\\', '"', '\'', '[', ']', '(', ')'].contains c

theorem isMark_eq_false_iff {c : Char} : isMark c = false ↔ c ≠ '\\' ∧ c ≠ '"' ∧ c ≠ '\'' ∧
    c ≠ '[' ∧ c ≠ ']' ∧ c ≠ '(' ∧ c ≠ ')' := by
  simp [isMark]

theorem isMark_of_isPlain {c : Char} (h : isPlain c = true) : isMark c = false := by
  obtain ⟨h1, h2, h3, h4, h5, h6, h7, -⟩ := isPlain_iff.1 h
  exact isMark_eq_false_iff.2 ⟨h1, h2, h3, h4, h5, h6, h7⟩

theorem isMark_of_delimiter {c : Char} (h : (c = '"' || c = '\'') = true ∨
    (c = '[' || c = '(') = true ∨ (c = ']' || c = ')') = true) : isMark c = true := by
  simp only [Bool.or_eq_true, decide_eq_true_eq] at h
  rcases h with (rfl | rfl) | (rfl | rfl) | rfl | rfl <;> rfl

theorem isMark_of_no_delimiter {c : Char} (hslash : c ≠ '\\')
    (hquote : ¬ (c = '"' || c = '\'') = true) (hopen : ¬ (c = '[' || c = '(') = true)
    (hclose : ¬ (c = ']' || c = ')') = true) : isMark c = false := by
  simp only [Bool.or_eq_true, decide_eq_true_eq, not_or] at hquote hopen hclose
  exact isMark_eq_false_iff.2
    ⟨hslash, hquote.1, hquote.2, hopen.1, hclose.1, hopen.2, hclose.2⟩

/-- A scan stops in front of the text: nothing is open, and the separator comes next. -/
inductive Stops (sep : List Char) : Open → List Char → Prop
  | intro {c : Char} {s : List Char} (hc : isMark c = false) (hsep : sep <+: c :: s) :
    Stops sep .outside (c :: s)

/-- A scan passes over a text that `rest` follows, and what is open changes. A backslash takes the
character behind it out of account, except at the end of the text. -/
inductive Scans (sep : List Char) (rest : List Char) : Open → List Char → Open → Prop
  | nil {o : Open} : Scans sep rest o [] o
  | escape {o o' : Open} {c : Char} {s : List Char} (hs : Scans sep rest o s o') :
    Scans sep rest o ('\\' :: c :: s) o'
  | char {o o₁ o' : Open} {c : Char} {s : List Char} (hc : c = '\\' → s ++ rest = [])
    (hgo : ¬ Stops sep o (c :: (s ++ rest))) (hstep : o.step? c = some o₁)
    (hs : Scans sep rest o₁ s o') : Scans sep rest o (c :: s) o'

/-- A character that starts no escape. -/
theorem Scans.step {sep rest s : List Char} {o o₁ o' : Open} {c : Char} (hc : c ≠ '\\')
    (hgo : ¬ Stops sep o (c :: (s ++ rest))) (hstep : o.step? c = some o₁)
    (hs : Scans sep rest o₁ s o') : Scans sep rest o (c :: s) o' :=
  .char (fun h => absurd h hc) hgo hstep hs

/-! ## Steps of a scan -/

section Find

variable {sep : List Char}

theorem not_stops_of_isMark {c : Char} (hc : isMark c = true) {o : Open} {s : List Char} :
    ¬ Stops sep o (c :: s) := by
  intro h
  cases h with
  | intro hmark => simp [hc] at hmark

/-- Outside quotes what is open turns as the scan does. -/
theorem Open.step?_ofScan (c : Char) (s : List Char) (opened : List Opening) :
    (ofScan none opened).step? c =
      if c = '"' || c = '\'' then some (ofScan (some (c, s)) opened)
      else if c = '[' || c = '(' then some (ofScan none ((c, s) :: opened))
      else if c = ']' || c = ')' then
        match opened with
        | (bracket, _) :: outer => if closes bracket c then some (ofScan none outer) else none
        | [] => none
      else some (ofScan none opened) := by
  cases opened <;> rfl

/-- Outside quotes a scan stops where no bracket is open and the separator comes next. -/
theorem stops_iff {c : Char} (hc : isMark c = false) (s : List Char) (opened : List Opening) :
    Stops sep (Open.ofScan none opened) (c :: s) ↔
      (opened.isEmpty && sep.isPrefixOf (c :: s)) = true := by
  rw [Bool.and_eq_true, List.isEmpty_iff, List.isPrefixOf_iff_prefix]
  constructor
  · intro h
    generalize ho : Open.ofScan none opened = o at h
    cases h with
    | intro _ hsep => exact ⟨List.map_eq_nil_iff.1 (congrArg Open.brackets ho), hsep⟩
  · rintro ⟨rfl, hsep⟩
    exact .intro hc hsep

/-- At a character a scan fails, stops or goes on. -/
theorem findFrom_cons_cases {c : Char} {s : List Char} (hc : c = '\\' → s = [])
    (quote : Option Opening) (opened : List Opening) :
    ((Open.ofScan quote opened).step? c = none ∧
        findFrom sep quote opened (c :: s) = .error (.unbalancedBracket c (c :: s))) ∨
      (Stops sep (Open.ofScan quote opened) (c :: s) ∧
        findFrom sep quote opened (c :: s) = .ok (some ([], c :: s))) ∨
      ∃ quote' opened', ¬ Stops sep (Open.ofScan quote opened) (c :: s) ∧
        (Open.ofScan quote opened).step? c = some (Open.ofScan quote' opened') ∧
        findFrom sep quote opened (c :: s) = Read.prepend [c] (findFrom sep quote' opened' s) := by
  cases quote with
  | some p =>
    have hstop : ¬ Stops sep (Open.ofScan (some p) opened) (c :: s) := fun h => by cases h
    refine Or.inr (Or.inr ⟨if c = p.1 then none else some p, opened, hstop, ?_, ?_⟩)
    · simp only [Open.ofScan, Open.step?, Option.map_some]
      split <;> rfl
    · rw [findFrom]
      rintro d t rfl rfl
      cases hc rfl
  | none =>
    by_cases hslash : c = '\\'
    · obtain rfl := hc hslash
      subst hslash
      exact Or.inr (Or.inr ⟨none, opened, not_stops_of_isMark rfl, rfl, rfl⟩)
    rw [findFrom_cons hslash, Open.step?_ofScan c (c :: s)]
    by_cases hquote : (c = '"' || c = '\'') = true
    · rw [if_pos hquote, if_pos hquote]
      have hmark := isMark_of_delimiter (Or.inl hquote)
      exact Or.inr (Or.inr ⟨some (c, c :: s), opened, not_stops_of_isMark hmark, rfl, rfl⟩)
    rw [if_neg hquote, if_neg hquote]
    by_cases hopen : (c = '[' || c = '(') = true
    · rw [if_pos hopen, if_pos hopen]
      have hmark := isMark_of_delimiter (Or.inr (Or.inl hopen))
      exact Or.inr (Or.inr ⟨none, (c, c :: s) :: opened, not_stops_of_isMark hmark, rfl, rfl⟩)
    rw [if_neg hopen, if_neg hopen]
    by_cases hclose : (c = ']' || c = ')') = true
    · rw [if_pos hclose, if_pos hclose]
      have hmark := isMark_of_delimiter (Or.inr (Or.inr hclose))
      cases opened with
      | nil => exact Or.inl ⟨rfl, rfl⟩
      | cons p outer =>
        by_cases hcloses : closes p.1 c = true
        · exact Or.inr (Or.inr
            ⟨none, outer, not_stops_of_isMark hmark, if_pos hcloses, if_pos hcloses⟩)
        · exact Or.inl ⟨if_neg hcloses, if_neg hcloses⟩
    rw [if_neg hclose, if_neg hclose]
    have hstops := @stops_iff sep c (isMark_of_no_delimiter hslash hquote hopen hclose) s opened
    by_cases hstop : (opened.isEmpty && sep.isPrefixOf (c :: s)) = true
    · exact Or.inr (Or.inl ⟨hstops.2 hstop, if_pos hstop⟩)
    · exact Or.inr (Or.inr ⟨none, opened, mt hstops.1 hstop, rfl, if_neg hstop⟩)

theorem Read.prepend_eq_none {α : Type} {s : List Char} {r : Read (Option (List Char × α))} :
    Read.prepend s r = .ok none ↔ r = .ok none := by
  rcases r with e | _ | p
  · exact ⟨nofun, nofun⟩
  · exact Iff.rfl
  · exact ⟨nofun, nofun⟩

/-! ## Searches as scans -/

/-- A text is taken character by character, where a backslash takes the next one with it. -/
@[elab_as_elim]
theorem escaped_induction {motive : List Char → Prop} (nil : motive [])
    (escape : ∀ c s, motive s → motive ('\\' :: c :: s))
    (char : ∀ c s, (c = '\\' → s = []) → motive s → motive (c :: s)) : (s : List Char) → motive s
  | [] => nil
  | [c] => char c [] (fun _ => rfl) nil
  | c :: d :: s => by
    by_cases hc : c = '\\'
    · subst hc
      exact escape d s (escaped_induction nil escape char s)
    · exact char c (d :: s) (fun h => absurd h hc) (escaped_induction nil escape char (d :: s))

theorem findFrom_nil_eq_none {quote : Option Opening} {opened : List Opening} :
    findFrom sep quote opened [] = .ok none ↔ Open.ofScan quote opened = .outside := by
  cases quote with
  | some p => exact ⟨nofun, nofun⟩
  | none =>
    cases opened with
    | nil => exact ⟨fun _ => rfl, fun _ => rfl⟩
    | cons p outer => exact ⟨nofun, nofun⟩

theorem findFrom_nil_ne_some {quote : Option Opening} {opened : List Opening}
    {p : List Char × List Char} : findFrom sep quote opened [] ≠ .ok (some p) := by
  cases quote with
  | some p => exact nofun
  | none => cases opened <;> exact nofun

/-- Before the separator that it finds, a search scans. -/
theorem scans_of_findFrom_some {s before after : List Char} {quote : Option Opening}
    {opened : List Opening} (h : findFrom sep quote opened s = .ok (some (before, after))) :
    s = before ++ after ∧ Scans sep after (Open.ofScan quote opened) before .outside ∧
      Stops sep .outside after := by
  induction s using escaped_induction generalizing quote opened before with
  | nil => exact absurd h findFrom_nil_ne_some
  | escape c s ih =>
    rw [findFrom_escape] at h
    obtain ⟨b, hb, rfl⟩ := Read.prepend_eq_some h
    obtain ⟨rfl, hscans, hstop⟩ := ih hb
    exact ⟨rfl, .escape hscans, hstop⟩
  | char c s hc ih =>
    rcases findFrom_cons_cases hc quote opened with
      ⟨-, hread⟩ | ⟨hstop, hread⟩ | ⟨quote', opened', hgo, hstep, hread⟩
    · rw [hread] at h
      cases h
    · rw [hread] at h
      cases h
      generalize Open.ofScan quote opened = o at hstop ⊢
      cases hstop with
      | intro hmark hsep => exact ⟨rfl, .nil, .intro hmark hsep⟩
    · rw [hread] at h
      obtain ⟨b, hb, rfl⟩ := Read.prepend_eq_some h
      obtain ⟨rfl, hscans, hstop⟩ := ih hb
      exact ⟨rfl, .char hc hgo hstep hscans, hstop⟩

theorem scans_of_findFrom_none {s : List Char} {quote : Option Opening} {opened : List Opening}
    (h : findFrom sep quote opened s = .ok none) :
    Scans sep [] (Open.ofScan quote opened) s .outside := by
  induction s using escaped_induction generalizing quote opened with
  | nil =>
    rw [findFrom_nil_eq_none.1 h]
    exact .nil
  | escape c s ih =>
    rw [findFrom_escape, Read.prepend_eq_none] at h
    exact .escape (ih h)
  | char c s hc ih =>
    rcases findFrom_cons_cases hc quote opened with
      ⟨-, hread⟩ | ⟨-, hread⟩ | ⟨quote', opened', hgo, hstep, hread⟩
    · rw [hread] at h
      cases h
    · rw [hread] at h
      cases h
    · rw [hread, Read.prepend_eq_none] at h
      refine .char (by simpa using hc) (by simpa using hgo) hstep (ih h)

/-- A search passes over what a scan passes over. -/
theorem findFrom_of_scans {s rest : List Char} {o o' : Open} (h : Scans sep rest o s o')
    {quote : Option Opening} {opened : List Opening} (ho : Open.ofScan quote opened = o) :
    ∃ quote' opened', Open.ofScan quote' opened' = o' ∧
      findFrom sep quote opened (s ++ rest) =
        Read.prepend s (findFrom sep quote' opened' rest) := by
  induction h generalizing quote opened with
  | nil => exact ⟨quote, opened, ho, (Read.prepend_nil _).symm⟩
  | escape _ ih =>
    obtain ⟨quote', opened', ho', hread⟩ := ih ho
    refine ⟨quote', opened', ho', ?_⟩
    rw [List.cons_append, List.cons_append, findFrom_escape, hread, Read.prepend_prepend]
    rfl
  | char hc hgo hstep _ ih =>
    subst ho
    rcases findFrom_cons_cases hc quote opened with
      ⟨hnone, -⟩ | ⟨hstop, -⟩ | ⟨quote₁, opened₁, -, hstep₁, hread⟩
    · rw [hnone] at hstep
      cases hstep
    · exact absurd hstop hgo
    · rw [hstep₁, Option.some.injEq] at hstep
      obtain ⟨quote', opened', ho', hrest⟩ := ih hstep
      refine ⟨quote', opened', ho', ?_⟩
      rw [List.cons_append, hread, hrest, Read.prepend_prepend]
      rfl

theorem findTopLevel_eq_none {s : List Char} :
    findTopLevel sep s = .ok none ↔ Scans sep [] .outside s .outside := by
  constructor
  · exact scans_of_findFrom_none
  · intro h
    obtain ⟨quote, opened, ho, hread⟩ := findFrom_of_scans h Open.ofScan_nil
    rw [List.append_nil] at hread
    rw [findTopLevel, hread, Read.prepend_eq_none, findFrom_nil_eq_none, ho]

theorem findTopLevel_eq_some {s before after : List Char} :
    findTopLevel sep s = .ok (some (before, after)) ↔
      s = before ++ after ∧ Scans sep after .outside before .outside ∧ Stops sep .outside after := by
  constructor
  · exact scans_of_findFrom_some
  · rintro ⟨rfl, h, hstop⟩
    obtain ⟨quote, opened, ho, hread⟩ := findFrom_of_scans h Open.ofScan_nil
    cases hstop with
    | @intro c s hc hsep =>
      have hslash : c = '\\' → s = [] := fun h => absurd h (isMark_eq_false_iff.1 hc).1
      rcases findFrom_cons_cases hslash quote opened with
        ⟨hnone, -⟩ | ⟨-, hstop⟩ | ⟨quote', opened', hgo, -, -⟩
      · rw [ho] at hnone
        simp [Open.step?, Open.outside, (isMark_eq_false_iff.1 hc)] at hnone
      · rw [findTopLevel, hread, hstop]
        simp [Read.prepend, Except.map]
      · rw [ho] at hgo
        exact absurd (.intro hc hsep) hgo

theorem prefix_of_findTopLevel {s before after : List Char}
    (h : findTopLevel sep s = .ok (some (before, after))) :
    s = before ++ after ∧ sep <+: after := by
  obtain ⟨hs, -, hstop⟩ := findTopLevel_eq_some.1 h
  cases hstop with
  | intro _ hsep => exact ⟨hs, hsep⟩

/-- A text is cut at the first separator, and what stands behind it is cut alike. -/
theorem splitTopLevel_of_found (hsep : sep ≠ []) {s before after : List Char}
    (h : findTopLevel sep s = .ok (some (before, after))) : splitTopLevel sep s =
      (splitTopLevel sep (after.drop sep.length)).map (⟨before, after⟩ :: ·) := by
  obtain ⟨rfl, tail, rfl⟩ := prefix_of_findTopLevel h
  have hlt : ((sep ++ tail).drop sep.length).length < (before ++ (sep ++ tail)).length := by
    have hpos := List.length_pos_iff.2 hsep
    simp only [List.drop_left, List.length_append]
    omega
  rw [splitTopLevel, h]
  simp only [dif_pos hlt]
  cases splitTopLevel sep ((sep ++ tail).drop sep.length) <;> rfl

/-! ## What is open behind a character -/

section Turns

variable {s : List Char} {o o₁ : Open} {c q : Char}

theorem not_stops_of_brackets (h : o.brackets ≠ []) : ¬ Stops sep o s := by
  rintro ⟨-, -⟩
  exact h rfl

/-- What is open behind a character outside quotes, by the kind of the character. -/
inductive Turns (brackets : List Char) (c : Char) : Open → Prop
  | quote (hc : c = '"' ∨ c = '\'') : Turns brackets c ⟨some c, brackets⟩
  | opening (hc : c = '[' ∨ c = '(') : Turns brackets c ⟨none, c :: brackets⟩
  | closing {bracket : Char} {outer : List Char} (h : brackets = bracket :: outer)
    (hc : closes bracket c = true) : Turns brackets c ⟨none, outer⟩
  | plain (hc : isMark c = false ∨ c = '\\') : Turns brackets c ⟨none, brackets⟩

theorem turns_of_step? {brackets : List Char} (h : (Open.mk none brackets).step? c = some o₁) :
    Turns brackets c o₁ := by
  simp only [Open.step?] at h
  split at h
  · rename_i hquote
    cases h
    exact .quote (by simpa using hquote)
  · rename_i hquote
    split at h
    · rename_i hopen
      cases h
      exact .opening (by simpa using hopen)
    · rename_i hopen
      split at h
      · split at h
        · split at h
          · rename_i hcloses
            cases h
            exact .closing rfl hcloses
          · cases h
        · cases h
      · rename_i hclose
        cases h
        refine .plain ?_
        by_cases hslash : c = '\\'
        · exact Or.inr hslash
        · exact Or.inl (isMark_of_no_delimiter hslash hquote hopen hclose)

/-- A quote and brackets that can be open. -/
structure Open.Opened (o : Open) : Prop where
  quote : ∀ q, o.quote = some q → q = '"' ∨ q = '\''
  bracket : ∀ c ∈ o.brackets, c = '[' ∨ c = '('

namespace Open

theorem opened_outside : outside.Opened where
  quote _ h := by cases h
  bracket _ h := absurd h List.not_mem_nil

theorem Opened.step (h : o.Opened) (hstep : o.step? c = some o₁) : o₁.Opened := by
  obtain ⟨quote, brackets⟩ := o
  cases quote with
  | some q =>
    cases hstep
    refine ⟨fun p hp => ?_, h.bracket⟩
    dsimp only at hp
    split at hp
    · cases hp
    · exact h.quote p hp
  | none =>
    cases turns_of_step? hstep with
    | quote hc =>
      refine ⟨fun p hp => ?_, h.bracket⟩
      cases hp
      exact hc
    | opening hc => exact ⟨h.quote, List.forall_mem_cons.2 ⟨hc, h.bracket⟩⟩
    | closing hopened =>
      subst hopened
      exact ⟨h.quote, (List.forall_mem_cons.1 h.bracket).2⟩
    | plain => exact ⟨h.quote, h.bracket⟩

theorem Opened.step?_unmarked (h : o.Opened) (hc : isMark c = false) : o.step? c = some o := by
  obtain ⟨quote, brackets⟩ := o
  obtain ⟨-, hdouble, hsingle, hsquare, hclose, hround, hend⟩ := isMark_eq_false_iff.1 hc
  cases quote with
  | none => simp [step?, hdouble, hsingle, hsquare, hclose, hround, hend]
  | some q =>
    have hq : c ≠ q := by rcases h.quote q rfl with rfl | rfl <;> assumption
    simp [step?, hq]

theorem Opened.step?_slash (h : o.Opened) : o.step? '\\' = some o := by
  obtain ⟨quote, brackets⟩ := o
  cases quote with
  | none => rfl
  | some q => rcases h.quote q rfl with rfl | rfl <;> rfl

end Open

end Turns

/-! ## What is open behind a text -/

/-- What is open behind a text, if the closing brackets in it fit. A backslash takes the character
behind it out of account. -/
def Open.behind? (o : Open) : List Char → Option Open
  | [] => some o
  | '\\' :: _ :: s => o.behind? s
  | c :: s => (o.step? c).bind fun o₁ => o₁.behind? s

section Behind

variable {rest s : List Char} {o o₁ o₂ : Open} {c : Char}

namespace Open

theorem behind?_cons (hc : c = '\\' → s = []) :
    o.behind? (c :: s) = (o.step? c).bind fun o₁ => o₁.behind? s := by
  rw [behind?]
  rintro d t rfl rfl
  cases hc rfl

theorem Opened.behind (h : o.Opened) (hs : o.behind? s = some o₁) : o₁.Opened := by
  induction s using escaped_induction generalizing o with
  | nil =>
    cases hs
    exact h
  | escape c s ih => exact ih h hs
  | char c s hc ih =>
    rw [behind?_cons hc, Option.bind_eq_some_iff] at hs
    obtain ⟨o₂, hstep, hs⟩ := hs
    exact ih (h.step hstep) hs

theorem Opened.behind?_unmarked (h : o.Opened) (hs : ∀ c ∈ s, isMark c = false) :
    o.behind? s = some o := by
  induction s with
  | nil => rfl
  | cons c s ih =>
    obtain ⟨hc, hs⟩ := List.forall_mem_cons.1 hs
    have hslash : c = '\\' → s = [] := fun h => absurd h (isMark_eq_false_iff.1 hc).1
    rw [behind?_cons hslash, h.step?_unmarked hc]
    exact ih hs

end Open

theorem Scans.behind?_eq (h : Scans sep rest o s o₁) : o.behind? s = some o₁ := by
  induction h with
  | nil => rfl
  | escape _ ih => exact ih
  | char hc _ hstep _ ih =>
    rw [Open.behind?_cons fun h => (List.append_eq_nil_iff.1 (hc h)).1, hstep]
    exact ih

/-- What is open behind a text depends on the text alone. -/
theorem Scans.unique {sep' rest' : List Char} (h : Scans sep rest o s o₁)
    (h' : Scans sep' rest' o s o₂) : o₁ = o₂ :=
  Option.some.inj (h.behind?_eq.symm.trans h'.behind?_eq)

end Behind

/-! ## Longer texts -/

theorem Stops.append {o : Open} {s : List Char} (h : Stops sep o s) (t : List Char) :
    Stops sep o (s ++ t) := by
  cases h with
  | intro hc hsep => exact .intro hc (hsep.trans (List.prefix_append _ t))

/-- A separator is not completed behind a character that it does not have. -/
theorem prefix_of_prefix_append {sep s t : List Char} {c : Char} (hc : c ∉ sep)
    (h : sep <+: s ++ c :: t) : sep <+: s := by
  have hlonger : s ++ [c] <+: s ++ c :: t := ⟨t, by simp⟩
  rcases List.prefix_or_prefix_of_prefix h hlonger with hsep | hsep
  · rcases List.prefix_concat_iff.1 hsep with rfl | hsep
    · exact absurd (by simp) hc
    · exact hsep
  · exact absurd (hsep.subset (by simp)) hc

namespace Scans

variable {rest s t : List Char} {o o₁ o' : Open}

theorem append (h : Scans sep (t ++ rest) o s o₁) (h' : Scans sep rest o₁ t o') :
    Scans sep rest o (s ++ t) o' := by
  induction h with
  | nil => exact h'
  | escape _ ih => exact .escape (ih h')
  | char hc hgo hstep _ ih =>
    rw [← List.append_assoc] at hc hgo
    exact .char hc hgo hstep (ih h')

/-- What stands behind a separator has no part in where a scan stops. -/
theorem extend (hne : sep ≠ []) (hrest : sep <+: rest) (h : Scans sep rest o s o')
    (t : List Char) : Scans sep (rest ++ t) o s o' := by
  have hrest' : rest ≠ [] := by
    rintro rfl
    exact hne (List.prefix_nil.1 hrest)
  induction h with
  | nil => exact .nil
  | escape _ ih => exact .escape ih
  | @char o o₁ o' c s hc hgo hstep _ ih =>
    refine .char (fun h => absurd (hc h) (List.append_ne_nil_of_right_ne_nil s hrest')) ?_ hstep ih
    rintro ⟨hmark, hsep⟩
    refine hgo (.intro hmark ?_)
    refine List.prefix_of_prefix_length_le hsep ⟨t, by simp⟩ ?_
    have hle := hrest.length_le
    simp only [List.length_cons, List.length_append]
    omega

/-- In front of less a scan does not stop earlier. -/
theorem shorten (h : Scans sep (rest ++ t) o s o') : Scans sep rest o s o' := by
  induction h with
  | nil => exact .nil
  | escape _ ih => exact .escape ih
  | char hc hgo hstep _ ih =>
    rw [← List.append_assoc] at hc hgo
    exact .char (fun h => (List.append_eq_nil_iff.1 (hc h)).1)
      (fun hstop => hgo (hstop.append t)) hstep ih

/-- A text at whose end nothing is open leaves nothing open with a space at its end: at most, the
space belongs to an escape then. -/
theorem space (hne : sep ≠ []) (hsep : ' ' ∉ sep) (h : Scans sep [] o s .outside)
    (ho : o.Opened) (rest : List Char) : Scans sep rest o (s ++ [' ']) .outside := by
  generalize hend : Open.outside = o' at h
  induction h with
  | nil =>
    subst hend
    refine .step (by decide) ?_ rfl .nil
    rintro ⟨-, hprefix⟩
    cases sep with
    | nil => exact hne rfl
    | cons c sep => exact hsep (by simp [(List.cons_prefix_cons.1 hprefix).1])
  | escape _ ih => exact .escape (ih ho hend)
  | @char o o₁ o' c s hc hgo hstep hs ih =>
    rw [List.append_nil] at hc hgo
    by_cases hslash : c = '\\'
    · -- an escape that was cut off takes the space
      subst hslash
      obtain rfl := hc rfl
      cases hs
      rw [ho.step?_slash, Option.some.injEq] at hstep
      subst hstep
      exact .escape (hend ▸ .nil)
    · refine .step hslash ?_ hstep (ih (ho.step hstep) hend)
      rintro ⟨hmark, hprefix⟩
      refine hgo (.intro hmark (prefix_of_prefix_append hsep (t := rest) ?_))
      simpa using hprefix

end Scans

/-- A separator that was found in a text is found as well with something behind the text. -/
theorem findTopLevel_append_of_some (hne : sep ≠ []) {s before after : List Char}
    (h : findTopLevel sep s = .ok (some (before, after))) (t : List Char) :
    findTopLevel sep (s ++ t) = .ok (some (before, after ++ t)) := by
  obtain ⟨rfl, hscans, hstop⟩ := findTopLevel_eq_some.1 h
  have hsep : sep <+: after := by
    cases hstop with
    | intro _ hsep => exact hsep
  exact findTopLevel_eq_some.2
    ⟨List.append_assoc .., hscans.extend hne hsep t, hstop.append t⟩

/-- Behind a text without a separator and a space, the next separator is found. -/
theorem findTopLevel_space_append (hne : sep ≠ []) (hsep : ' ' ∉ sep) {s after : List Char}
    (h : findTopLevel sep s = .ok none) (hstop : Stops sep .outside after) :
    findTopLevel sep (s ++ ' ' :: after) = .ok (some (s ++ [' '], after)) :=
  findTopLevel_eq_some.2
    ⟨by simp, (findTopLevel_eq_none.1 h).space hne hsep Open.opened_outside after, hstop⟩

end Find

end Umbra.Selector
