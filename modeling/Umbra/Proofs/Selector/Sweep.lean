import Umbra.Proofs.Selector.Indices

/-!
# Cutting in one scan

A text is cut at its separators by a search that starts anew behind each of them. One scan over the
whole text gives the same: it keeps what is open and the segments that it has cut off, with their
offsets in the whole text, and it fails where a closing bracket does not close the innermost open one
or where the text ends within a quote or a bracket.
-/

namespace Umbra.Selector

open Text

/-- A scan on its way: the quote and the brackets that are open, the innermost first, the segments
that were cut off, and what was read of the next one. All of them come with their byte offsets. -/
structure Sweep where
  quote : Option (Char × Nat)
  brackets : List (Char × Nat)
  cuts : List (Nat × List Char)
  start : Nat
  segment : List Char

namespace Sweep

def initial : Sweep := ⟨none, [], [], 0, []⟩

/-- The offset of the next character. -/
def offset (w : Sweep) : Nat := w.start + byteLength w.segment

def take (w : Sweep) (taken : List Char) : Sweep := { w with segment := w.segment ++ taken }

/-- Goes on behind a separator. -/
def cut (w : Sweep) (sep : List Char) : Sweep :=
  { w with cuts := w.cuts ++ [(w.start, w.segment)], start := w.offset + byteLength sep, segment := [] }

/-- The segments up to the end of the text. -/
def segments (w : Sweep) : List (Nat × List Char) := w.cuts ++ [(w.start, w.segment)]

/-- Where the scan cuts: a separator starts with a character that is no mark, and nothing is open. -/
structure Cuts (sep : List Char) (w : Sweep) (s : List Char) : Prop where
  quote : w.quote = none
  brackets : w.brackets = []
  mark : ∀ c ∈ s.head?, isMark c = false
  separator : sep <+: s

/-- One step of the scan. -/
inductive Step (sep : List Char) : Sweep → List Char → Sweep → List Char → Prop
  | escape (w : Sweep) (c : Char) (s : List Char) :
    Step sep w ('\\' :: c :: s) (w.take ['\\', c]) s
  | cut {w : Sweep} {s : List Char} (h : Cuts sep w (sep ++ s)) :
    Step sep w (sep ++ s) (w.cut sep) s
  | quoted {w : Sweep} {q c : Char} {place : Nat} {s : List Char} (hc : c = '\\' → s = [])
    (hquote : w.quote = some (q, place)) :
    Step sep w (c :: s) { w.take [c] with quote := if c = q then none else some (q, place) } s
  | quote {w : Sweep} {c : Char} (s : List Char) (hc : c = '"' ∨ c = '\'') (hquote : w.quote = none) :
    Step sep w (c :: s) { w.take [c] with quote := some (c, w.offset) } s
  | opening {w : Sweep} {c : Char} (s : List Char) (hc : c = '[' ∨ c = '(') (hquote : w.quote = none) :
    Step sep w (c :: s) { w.take [c] with brackets := (c, w.offset) :: w.brackets } s
  | closing {w : Sweep} {bracket c : Char} {place : Nat} {outer : List (Char × Nat)} (s : List Char)
    (hc : closes bracket c = true) (hquote : w.quote = none)
    (hopen : w.brackets = (bracket, place) :: outer) :
    Step sep w (c :: s) { w.take [c] with brackets := outer } s
  | plain {w : Sweep} {c : Char} {s : List Char} (hc : isMark c = false ∨ (c = '\\' ∧ s = []))
    (hquote : w.quote = none) (hgo : ¬ Cuts sep w (c :: s)) : Step sep w (c :: s) (w.take [c]) s

/-- How far the scan of a text comes. -/
inductive Reaches (sep whole : List Char) : Sweep → List Char → Prop
  | start : Reaches sep whole initial whole
  | step {w w' : Sweep} {s s' : List Char} (h : Reaches sep whole w s) (hstep : Step sep w s w' s') :
    Reaches sep whole w' s'

/-- Where the scan fails, and how. -/
inductive Fails : Sweep → List Char → SyntaxError Nat → Prop
  | closing {w : Sweep} {c : Char} (s : List Char) (hc : c = ']' ∨ c = ')') (hquote : w.quote = none)
    (hopen : ∀ bracket place outer, w.brackets = (bracket, place) :: outer →
      closes bracket c = false) : Fails w (c :: s) (.unbalancedBracket c w.offset)
  | quote {w : Sweep} {q : Char} {place : Nat} (hquote : w.quote = some (q, place)) :
    Fails w [] (.unterminatedString place)
  | bracket {w : Sweep} {bracket : Char} {place : Nat} {outer : List (Char × Nat)}
    (hquote : w.quote = none) (hopen : w.brackets = (bracket, place) :: outer) :
    Fails w [] (.unbalancedBracket bracket place)

/-- Where the scan is at its end, with nothing open. -/
structure Ends (w : Sweep) (s : List Char) : Prop where
  rest : s = []
  quote : w.quote = none
  brackets : w.brackets = []

/-! ## What a scan keeps -/

/-- What was read so far. -/
def text (sep : List Char) (w : Sweep) : List Char := w.cuts.flatMap (fun p => p.2 ++ sep) ++ w.segment

/-- Segments with a separator between two of them, each at its offset. -/
def Laid (sep : List Char) (segments : List (Nat × List Char)) : Prop :=
  ∀ before segment after, segments = before ++ segment :: after →
    segment.1 = byteLength (before.flatMap fun p => p.2 ++ sep)

section Kept

variable {sep whole s s' : List Char} {w w' : Sweep}

theorem Laid.concat {segments : List (Nat × List Char)} (h : Laid sep segments) (t : List Char) :
    Laid sep (segments ++ [(byteLength (segments.flatMap fun p => p.2 ++ sep), t)]) := by
  intro before segment after heq
  rcases List.eq_nil_or_concat after with rfl | ⟨after, last, rfl⟩
  · obtain ⟨rfl, hlast⟩ := List.append_inj' heq rfl
    rw [← (List.cons.inj hlast).1]
  · rw [List.concat_eq_append, ← List.cons_append, ← List.append_assoc] at heq
    exact h before segment after (List.append_inj' heq rfl).1

/-- What the scan has read stands in front of what is left of the text. -/
structure Keeps (sep whole : List Char) (w : Sweep) (s : List Char) : Prop where
  text : w.text sep ++ s = whole
  start : w.start = byteLength (w.cuts.flatMap fun p => p.2 ++ sep)
  laid : Laid sep w.cuts

theorem Keeps.take (taken : List Char) (h : Keeps sep whole w (taken ++ s))
    (hcuts : w'.cuts = w.cuts) (hstart : w'.start = w.start)
    (hsegment : w'.segment = w.segment ++ taken) : Keeps sep whole w' s := by
  obtain ⟨htext, hplace, hlaid⟩ := h
  refine ⟨?_, by rw [hstart, hcuts, hplace], hcuts ▸ hlaid⟩
  rw [← htext]
  simp [Sweep.text, hcuts, hsegment]

theorem Keeps.cut (h : Keeps sep whole w (sep ++ s)) : Keeps sep whole (w.cut sep) s := by
  obtain ⟨htext, hplace, hlaid⟩ := h
  refine ⟨?_, ?_, ?_⟩
  · rw [← htext]
    simp [Sweep.text, Sweep.cut]
  · simp only [Sweep.cut, Sweep.offset, hplace, List.flatMap_append, List.flatMap_singleton,
      byteLength_append, Nat.add_assoc]
  · simp only [Sweep.cut, hplace]
    exact hlaid.concat w.segment

theorem Keeps.step (h : Keeps sep whole w s) (hstep : Step sep w s w' s') :
    Keeps sep whole w' s' := by
  cases hstep with
  | escape c s => exact h.take ['\\', c] rfl rfl rfl
  | cut => exact h.cut
  | _ => exact h.take [_] rfl rfl rfl

theorem Reaches.keeps (h : Reaches sep whole w s) : Keeps sep whole w s := by
  induction h with
  | start => exact ⟨rfl, rfl, fun before segment after heq => by simp [initial] at heq⟩
  | step _ hstep ih => exact ih.step hstep

/-- The offset of the next character is that of what is left in the whole text. -/
theorem Keeps.offset_eq (h : Keeps sep whole w s) : Text.offset whole s = w.offset := by
  rw [← h.text, offset_append, Sweep.text, byteLength_append, Sweep.offset, h.start]

/-- At the end the segments, joined by the separator, are the text. -/
theorem Keeps.intercalate (h : Keeps sep whole w []) :
    sep.intercalate (w.segments.map Prod.snd) = whole := by
  have hjoin (cuts : List (Nat × List Char)) (last : List Char) :
      sep.intercalate (cuts.map Prod.snd ++ [last]) = cuts.flatMap (fun p => p.2 ++ sep) ++ last := by
    induction cuts with
    | nil => simp
    | cons p cuts ih =>
      have hne : cuts.map Prod.snd ++ [last] ≠ [] := List.append_ne_nil_of_right_ne_nil _ (by simp)
      obtain ⟨t, ts, hts⟩ := List.exists_cons_of_ne_nil hne
      rw [hts] at ih
      rw [List.map_cons, List.cons_append, hts, List.intercalate_cons_cons, ih]
      simp
  rw [← h.text, List.append_nil, Sweep.text, segments, List.map_append]
  exact hjoin w.cuts w.segment

theorem Keeps.laid_segments (h : Keeps sep whole w s) : Laid sep w.segments := by
  rw [segments, h.start]
  exact h.laid.concat w.segment

/-- A character stands in the text at a byte offset. -/
def Stands (whole : List Char) (c : Char) (place : Nat) : Prop :=
  ∃ front behind, whole = front ++ c :: behind ∧ place = byteLength front

theorem Keeps.stands {c : Char} (h : Keeps sep whole w (c :: s)) : Stands whole c w.offset := by
  refine ⟨w.text sep, s, h.text.symm, ?_⟩
  rw [Sweep.text, byteLength_append, Sweep.offset, h.start]

/-- What is open stands in the text where the scan has it. -/
def Opened (whole : List Char) (w : Sweep) : Prop :=
  ∀ c place, w.quote = some (c, place) ∨ (c, place) ∈ w.brackets → Stands whole c place

theorem Opened.step (h : Opened whole w) (hkeeps : Keeps sep whole w s)
    (hstep : Step sep w s w' s') : Opened whole w' := by
  intro d place hd
  cases hstep with
  | escape => exact h d place hd
  | cut => exact h d place hd
  | @quoted q c opening _ hc hquote =>
    refine h d place (hd.imp_left fun hd => ?_)
    by_cases hclosed : c = q
    · cases (if_pos hclosed).symm.trans hd
    · exact hquote.trans ((if_neg hclosed).symm.trans hd)
  | quote =>
    rcases hd with hd | hd
    · cases hd
      exact hkeeps.stands
    · exact h d place (Or.inr hd)
  | opening =>
    rcases hd with hd | hd
    · exact h d place (Or.inl hd)
    · rcases List.mem_cons.1 hd with hd | hd
      · cases hd
        exact hkeeps.stands
      · exact h d place (Or.inr hd)
  | closing s hc hquote hopen =>
    refine h d place (hd.imp_right fun hd => ?_)
    rw [hopen]
    exact List.mem_cons_of_mem _ hd
  | plain => exact h d place hd

theorem Reaches.opened (h : Reaches sep whole w s) : Opened whole w := by
  induction h with
  | start =>
    intro c place hc
    rcases hc with hc | hc <;> cases hc
  | step hreach hstep ih => exact ih.step hreach.keeps hstep

/-- An error names a quote or a bracket of the text, with its place there. -/
theorem Fails.stands {e : SyntaxError Nat} (h : Fails w s e) (hreach : Reaches sep whole w s) :
    ∃ c place, Stands whole c place ∧
      (e = .unbalancedBracket c place ∨ e = .unterminatedString place) := by
  cases h with
  | closing => exact ⟨_, _, hreach.keeps.stands, Or.inl rfl⟩
  | quote hquote => exact ⟨_, _, hreach.opened _ _ (Or.inl hquote), Or.inr rfl⟩
  | bracket hquote hopen =>
    refine ⟨_, _, hreach.opened _ _ (Or.inr ?_), Or.inl rfl⟩
    rw [hopen]
    exact List.mem_cons_self

end Kept

/-! ## Searches and the scan -/

/-- The segments of a text that stands at the end of `whole`, with their offsets there. -/
def cutsOf (sep whole s : List Char) : Except (SyntaxError Nat) (List (Nat × List Char)) :=
  ((splitTopLevel sep s).at 0 whole).map (List.map (Segment.placed whole))

/-- What comes of a scan where a search goes on. -/
def outcome (sep whole : List Char) (quote : Option Opening) (opened : List Opening) (w : Sweep)
    (s : List Char) : Except (SyntaxError Nat) (List (Nat × List Char)) :=
  ((findFrom sep quote opened s).at 0 whole) >>= fun
    | none => .ok (w.cuts ++ [(w.start, w.segment ++ s)])
    | some (before, after) => (cutsOf sep whole (after.drop sep.length)).map
        (w.cuts ++ (w.start, w.segment ++ before) :: ·)

section Search

variable {sep whole s s' : List Char} {w w' : Sweep} {quote quote' : Option Opening}
  {opened opened' : List Opening}

theorem outcome_take (taken : List Char) (hcuts : w'.cuts = w.cuts) (hstart : w'.start = w.start)
    (hsegment : w'.segment = w.segment ++ taken)
    (hfind : findFrom sep quote opened (taken ++ s) =
      Read.prepend taken (findFrom sep quote' opened' s)) :
    outcome sep whole quote' opened' w' s = outcome sep whole quote opened w (taken ++ s) := by
  rw [outcome, outcome, hfind, hcuts, hstart, hsegment]
  rcases findFrom sep quote' opened' s with e | _ | ⟨before, after⟩
  · rfl
  · simp [Read.prepend, Except.map, Read.at, Except.mapError, bind, Except.bind]
  · simp [Read.prepend, Except.map, Read.at, Except.mapError, bind, Except.bind]

/-- At the start of a segment a scan gives what the cut of the text gives that is left. -/
theorem outcome_fresh (hsep : sep ≠ []) (hstart : w.start = Text.offset whole s)
    (hsegment : w.segment = []) :
    outcome sep whole none [] w s = (cutsOf sep whole s).map (w.cuts ++ ·) := by
  have hplaced (text after : List Char) (h : text ++ after = s) :
      (w.start, w.segment ++ text) = Segment.placed whole ⟨text, after⟩ := by
    rw [Segment.placed_of_append h, hstart, hsegment, List.nil_append]
  cases hfind : findTopLevel sep s with
  | error e =>
    rw [findTopLevel] at hfind
    rw [outcome, hfind, cutsOf, splitTopLevel, findTopLevel, hfind]
    rfl
  | ok found =>
    cases found with
    | none =>
      have hsplit := splitTopLevel_of_none hfind
      rw [findTopLevel] at hfind
      rw [outcome, hfind, cutsOf, hsplit]
      simp only [Read.at, Except.mapError, bind, Except.bind, Except.map, List.map_cons,
        List.map_nil, hplaced s [] (List.append_nil s)]
    | some found =>
      obtain ⟨before, after⟩ := found
      have hsplit := splitTopLevel_of_found hsep hfind
      have hs := append_of_findFrom hfind
      rw [findTopLevel] at hfind
      simp only [outcome, hfind, cutsOf, hsplit, Read.at, Except.mapError, bind, Except.bind,
        hplaced before after hs]
      cases splitTopLevel sep (after.drop sep.length) <;> rfl

theorem outcome_cut (hsep : sep ≠ []) (hkeeps : Keeps sep whole w (sep ++ s))
    (h : Cuts sep w (sep ++ s)) :
    outcome sep whole none [] w (sep ++ s) = outcome sep whole none [] (w.cut sep) s := by
  have hfind : findFrom sep none [] (sep ++ s) = .ok (some ([], sep ++ s)) := by
    obtain ⟨c, sep, rfl⟩ := List.exists_cons_of_ne_nil hsep
    have hstops : Stops (c :: sep) .outside (c :: sep ++ s) :=
      .intro (h.mark c rfl) (List.prefix_append _ _)
    exact findTopLevel_eq_some.2 ⟨rfl, .nil, hstops⟩
  have hstart : (w.cut sep).start = Text.offset whole s := hkeeps.cut.offset_eq.symm
  rw [outcome_fresh hsep hstart rfl, outcome, hfind]
  simp only [Read.at, Except.mapError, bind, Except.bind, List.drop_left, List.append_nil, cut]
  cases cutsOf sep whole s <;> simp [Except.map]

theorem isPlain_or_of_not_isMark {c : Char} (hc : isMark c = false) :
    isPlain c = true ∨ c = '>' := by
  obtain ⟨h1, h2, h3, h4, h5, h6, h7⟩ := isMark_eq_false_iff.1 hc
  by_cases hsign : c = '>'
  · exact Or.inr hsign
  · exact Or.inl (isPlain_iff.2 ⟨h1, h2, h3, h4, h5, h6, h7, hsign⟩)

/-- A search fails at a closing bracket that does not close the innermost open one. -/
theorem findFrom_unbalanced {c : Char} (hc : c = ']' ∨ c = ')')
    (hopen : ∀ bracket place outer, opened = (bracket, place) :: outer → closes bracket c = false) :
    findFrom sep none opened (c :: s) = .error (.unbalancedBracket c (c :: s)) := by
  have hslash : c ≠ '\\' := by rcases hc with rfl | rfl <;> decide
  have hquote : ¬ (c = '"' || c = '\'') = true := by rcases hc with rfl | rfl <;> decide
  have hopening : ¬ (c = '[' || c = '(') = true := by rcases hc with rfl | rfl <;> decide
  rw [findFrom_cons hslash, if_neg hquote, if_neg hopening, if_pos (by simpa using hc)]
  cases opened with
  | nil => rfl
  | cons p outer => exact if_neg (Bool.eq_false_iff.1 (hopen p.1 p.2 outer rfl))

/-- The search that goes on where the scan is gives the answer. -/
def Expects (sep whole : List Char) (w : Sweep) (s : List Char)
    (answer : Except (SyntaxError Nat) (List (Nat × List Char))) : Prop :=
  ∃ quote opened, w.quote = quote.map (Opening.placed whole) ∧
    w.brackets = opened.map (Opening.placed whole) ∧
    outcome sep whole quote opened w s = answer

/-- A step of the scan keeps the answer. -/
theorem Expects.step {answer : Except (SyntaxError Nat) (List (Nat × List Char))} (hsep : sep ≠ [])
    (h : Expects sep whole w s answer) (hkeeps : Keeps sep whole w s)
    (hstep : Step sep w s w' s') : Expects sep whole w' s' answer := by
  obtain ⟨quote, opened, hquotes, hopened, rfl⟩ := h
  have hplace {c : Char} {t : List Char} (ht : s = c :: t) :
      (c, w.offset) = Opening.placed whole (c, c :: t) := by
    rw [Opening.placed, ← ht, hkeeps.offset_eq]
  have hunquoted (hquote : w.quote = none) : quote = none :=
    Option.map_eq_none_iff.1 (hquotes.symm.trans hquote)
  cases hstep with
  | escape c =>
    refine ⟨quote, opened, hquotes, hopened, ?_⟩
    exact outcome_take ['\\', c] rfl rfl rfl (findFrom_escape quote c s')
  | cut hcuts =>
    obtain rfl := hunquoted hcuts.quote
    obtain rfl := List.map_eq_nil_iff.1 (hopened.symm.trans hcuts.brackets)
    exact ⟨none, [], hcuts.quote, hcuts.brackets, (outcome_cut hsep hkeeps hcuts).symm⟩
  | @quoted q c place _ hc hquote =>
    obtain ⟨p, rfl, hp⟩ := Option.map_eq_some_iff.1 (hquotes.symm.trans hquote)
    have hq : p.1 = q := congrArg Prod.fst hp
    refine ⟨if c = q then none else some p, opened, ?_, hopened, ?_⟩
    · split
      · rfl
      · rw [Option.map_some, hp]
    · refine outcome_take [c] rfl rfl rfl ?_
      rw [List.singleton_append, findFrom]
      · rw [← hq]
      · rintro d t rfl rfl
        cases hc rfl
  | @quote c _ hc hquote =>
    obtain rfl := hunquoted hquote
    refine ⟨some (c, c :: s'), opened, congrArg some (hplace rfl), hopened, ?_⟩
    refine outcome_take [c] rfl rfl rfl ?_
    have hslash : c ≠ '\\' := by rcases hc with rfl | rfl <;> decide
    rw [List.singleton_append, findFrom_cons hslash, if_pos (by simpa using hc)]
  | @opening c _ hc hquote =>
    obtain rfl := hunquoted hquote
    refine ⟨none, (c, c :: s') :: opened, hquote, ?_, ?_⟩
    · rw [List.map_cons, ← hplace rfl, ← hopened]
    · exact outcome_take [c] rfl rfl rfl (findFrom_opening hc s')
  | @closing bracket c place outer _ hc hquote hopen =>
    obtain rfl := hunquoted hquote
    obtain ⟨⟨o, rest⟩, opened, rfl, ho, houter⟩ := List.map_eq_cons_iff.1 (hopened.symm.trans hopen)
    obtain rfl : o = bracket := congrArg Prod.fst ho
    refine ⟨none, opened, hquote, houter.symm, ?_⟩
    exact outcome_take [c] rfl rfl rfl (findFrom_closing hc rest s')
  | @plain c _ hc hquote hgo =>
    obtain rfl := hunquoted hquote
    refine ⟨none, opened, hquote, hopened, ?_⟩
    refine outcome_take [c] rfl rfl rfl ?_
    rcases hc with hc | ⟨rfl, rfl⟩
    · refine findFrom_skip (isPlain_or_of_not_isMark hc) ?_
      by_cases hnil : opened = []
      · subst hnil
        refine Or.inr (Bool.eq_false_iff.2 fun hprefix => hgo ?_)
        refine ⟨hquote, hopened, ?_, List.isPrefixOf_iff_prefix.1 hprefix⟩
        intro d hd
        cases hd
        exact hc
      · exact Or.inl hnil
    · rfl

theorem Expects.initial (hsep : sep ≠ []) : Expects sep whole initial whole (cutsOf sep whole whole) := by
  refine ⟨none, [], rfl, rfl, ?_⟩
  rw [outcome_fresh hsep (offset_self whole).symm rfl]
  cases cutsOf sep whole whole <;> rfl

theorem Reaches.expects (hsep : sep ≠ []) (h : Reaches sep whole w s) :
    Expects sep whole w s (cutsOf sep whole whole) := by
  induction h with
  | start => exact .initial hsep
  | step hreach hstep ih => exact ih.step hsep hreach.keeps hstep

theorem Fails.expects {answer : Except (SyntaxError Nat) (List (Nat × List Char))}
    {e : SyntaxError Nat} (h : Fails w s e) (hw : Expects sep whole w s answer)
    (hkeeps : Keeps sep whole w s) : answer = .error e := by
  obtain ⟨quote, opened, hquotes, hopened, rfl⟩ := hw
  have herror (found : SyntaxError (List Char)) (hfind : findFrom sep quote opened s = .error found)
      (hfound : found.map (fun rest => 0 + Text.offset whole rest) = e) :
      outcome sep whole quote opened w s = .error e := by
    rw [outcome, hfind, ← hfound]
    rfl
  cases h with
  | @closing c s hc hquote hopen =>
    obtain rfl := Option.map_eq_none_iff.1 (hquotes.symm.trans hquote)
    refine herror (.unbalancedBracket c (c :: s)) (findFrom_unbalanced hc ?_) ?_
    · rintro bracket rest outer rfl
      exact hopen _ _ _ hopened
    · rw [SyntaxError.map, Nat.zero_add, hkeeps.offset_eq]
  | quote hquote =>
    obtain ⟨⟨q, rest⟩, rfl, hplace⟩ := Option.map_eq_some_iff.1 (hquotes.symm.trans hquote)
    obtain ⟨-, rfl⟩ := Prod.mk.inj hplace
    exact herror (.unterminatedString rest) rfl (by rw [SyntaxError.map, Nat.zero_add])
  | bracket hquote hopen =>
    obtain rfl := Option.map_eq_none_iff.1 (hquotes.symm.trans hquote)
    obtain ⟨⟨o, rest⟩, opened, rfl, hplace, -⟩ :=
      List.map_eq_cons_iff.1 (hopened.symm.trans hopen)
    obtain ⟨rfl, rfl⟩ := Prod.mk.inj hplace
    exact herror (.unbalancedBracket o rest) rfl (by rw [SyntaxError.map, Nat.zero_add])

theorem Ends.expects (h : Ends w s)
    {answer : Except (SyntaxError Nat) (List (Nat × List Char))} (hw : Expects sep whole w s answer) :
    answer = .ok w.segments := by
  obtain ⟨quote, opened, hquotes, hopened, rfl⟩ := hw
  obtain ⟨rfl, hquote, hbrackets⟩ := h
  obtain rfl := Option.map_eq_none_iff.1 (hquotes.symm.trans hquote)
  obtain rfl := List.map_eq_nil_iff.1 (hopened.symm.trans hbrackets)
  simp [outcome, findFrom, Read.at, Except.mapError, bind, Except.bind, segments]

/-! ## The scan comes to an end -/

theorem Step.length_lt (hsep : sep ≠ []) (h : Step sep w s w' s') : s'.length < s.length := by
  cases h with
  | cut =>
    rw [List.length_append]
    exact Nat.lt_add_of_pos_left (List.length_pos_iff.2 hsep)
  | escape => exact Nat.lt_add_of_pos_right Nat.two_pos
  | _ => exact Nat.lt_succ_self _

/-- Outside quotes a scan fails or goes on at a character. -/
theorem progress_of_unquoted {c : Char} (hc : c = '\\' → s = []) (hquote : w.quote = none)
    (hgo : ¬ Cuts sep w (c :: s)) :
    (∃ e, Fails w (c :: s) e) ∨ ∃ w' s', Step sep w (c :: s) w' s' := by
  have hclosing (hend : c = ']' ∨ c = ')') :
      (∃ e, Fails w (c :: s) e) ∨ ∃ w' s', Step sep w (c :: s) w' s' := by
    by_cases hopen : ∃ bracket place outer, w.brackets = (bracket, place) :: outer ∧
        closes bracket c = true
    · obtain ⟨bracket, place, outer, hopen, hcloses⟩ := hopen
      exact Or.inr ⟨_, _, .closing s hcloses hquote hopen⟩
    · refine Or.inl ⟨_, .closing s hend hquote fun bracket place outer heq => ?_⟩
      exact Bool.eq_false_iff.2 fun hcloses => hopen ⟨bracket, place, outer, heq, hcloses⟩
  by_cases hmark : isMark c = true
  · have hkinds : c = '\\' ∨ c = '"' ∨ c = '\'' ∨ c = '[' ∨ c = ']' ∨ c = '(' ∨ c = ')' := by
      simpa [isMark] using hmark
    rcases hkinds with h | h | h | h | h | h | h
    · exact Or.inr ⟨_, _, .plain (Or.inr ⟨h, hc h⟩) hquote hgo⟩
    · exact Or.inr ⟨_, _, .quote s (Or.inl h) hquote⟩
    · exact Or.inr ⟨_, _, .quote s (Or.inr h) hquote⟩
    · exact Or.inr ⟨_, _, .opening s (Or.inl h) hquote⟩
    · exact hclosing (Or.inl h)
    · exact Or.inr ⟨_, _, .opening s (Or.inr h) hquote⟩
    · exact hclosing (Or.inr h)
  · exact Or.inr ⟨_, _, .plain (Or.inl (Bool.eq_false_iff.2 hmark)) hquote hgo⟩

/-- A scan is at its end, fails or goes on. -/
theorem progress (sep : List Char) (w : Sweep) (s : List Char) : Ends w s ∨ (∃ e, Fails w s e) ∨
    ∃ w' s', Step sep w s w' s' := by
  cases s using escaped_induction with
  | nil =>
    cases hquote : w.quote with
    | some p => exact Or.inr (Or.inl ⟨_, .quote hquote⟩)
    | none =>
      cases hbrackets : w.brackets with
      | nil => exact Or.inl ⟨rfl, hquote, hbrackets⟩
      | cons p outer => exact Or.inr (Or.inl ⟨_, .bracket hquote hbrackets⟩)
  | escape c s => exact Or.inr (Or.inr ⟨_, _, .escape w c s⟩)
  | char c s hc =>
    cases hquote : w.quote with
    | some p => exact Or.inr (Or.inr ⟨_, _, .quoted hc hquote⟩)
    | none =>
      by_cases hcuts : Cuts sep w (c :: s)
      · obtain ⟨t, ht⟩ := hcuts.separator
        rw [← ht] at hcuts ⊢
        exact Or.inr (Or.inr ⟨_, _, .cut hcuts⟩)
      · exact Or.inr (progress_of_unquoted hc hquote hcuts)

theorem exists_halt (hsep : sep ≠ []) (h : Reaches sep whole w s) :
    (∃ w', Reaches sep whole w' [] ∧ Ends w' []) ∨
      ∃ w' s' e, Reaches sep whole w' s' ∧ Fails w' s' e := by
  induction hn : s.length using Nat.strongRecOn generalizing w s with
  | _ n ih =>
    rcases progress sep w s with hends | ⟨e, hfails⟩ | ⟨w', s', hstep⟩
    · obtain rfl := hends.rest
      exact Or.inl ⟨w, h, hends⟩
    · exact Or.inr ⟨w, s, e, h, hfails⟩
    · exact ih s'.length (hn ▸ hstep.length_lt hsep) (.step h hstep) rfl

end Search

/-- A text is cut as one scan over it cuts it. The segments, joined by the separator, are the text,
and each comes with its place. An error is that of the scan, at its place in the whole text. -/
theorem splitTopLevel_sweep {sep : List Char} (hsep : sep ≠ []) (s : List Char) :
    (∀ segments, cutsOf sep s s = .ok segments ↔
      ∃ w, Reaches sep s w [] ∧ Ends w [] ∧ w.segments = segments) ∧
    (∀ segments, cutsOf sep s s = .ok segments →
      sep.intercalate (segments.map Prod.snd) = s ∧ Laid sep segments) ∧
    (∀ e, cutsOf sep s s = .error e ↔ ∃ w rest, Reaches sep s w rest ∧ Fails w rest e) ∧
    ∀ e, cutsOf sep s s = .error e → ∃ c place, Stands s c place ∧
      (e = .unbalancedBracket c place ∨ e = .unterminatedString place) := by
  have hends {w : Sweep} (hreach : Reaches sep s w []) (h : Ends w []) :
      cutsOf sep s s = .ok w.segments := h.expects (hreach.expects hsep)
  have hfails {w : Sweep} {rest : List Char} {e : SyntaxError Nat} (hreach : Reaches sep s w rest)
      (h : Fails w rest e) : cutsOf sep s s = .error e :=
    h.expects (hreach.expects hsep) hreach.keeps
  have hhalt := exists_halt hsep (.start : Reaches sep s initial s)
  have hok (segments : List (Nat × List Char)) : cutsOf sep s s = .ok segments ↔
      ∃ w, Reaches sep s w [] ∧ Ends w [] ∧ w.segments = segments := by
    constructor
    · intro h
      rcases hhalt with ⟨w, hreach, hw⟩ | ⟨w, rest, e, hreach, hw⟩
      · rw [hends hreach hw] at h
        exact ⟨w, hreach, hw, Except.ok.inj h⟩
      · rw [hfails hreach hw] at h
        cases h
    · rintro ⟨w, hreach, hw, rfl⟩
      exact hends hreach hw
  have herror (e : SyntaxError Nat) :
      cutsOf sep s s = .error e ↔ ∃ w rest, Reaches sep s w rest ∧ Fails w rest e := by
    constructor
    · intro h
      rcases hhalt with ⟨w, hreach, hw⟩ | ⟨w, rest, e', hreach, hw⟩
      · rw [hends hreach hw] at h
        cases h
      · rw [hfails hreach hw] at h
        exact ⟨w, rest, hreach, Except.error.inj h ▸ hw⟩
    · rintro ⟨w, rest, hreach, hw⟩
      exact hfails hreach hw
  refine ⟨hok, fun segments h => ?_, herror, fun e h => ?_⟩
  · obtain ⟨w, hreach, -, rfl⟩ := (hok segments).1 h
    exact ⟨hreach.keeps.intercalate, hreach.keeps.laid_segments⟩
  · obtain ⟨w, rest, hreach, hw⟩ := (herror e).1 h
    exact hw.stands hreach

theorem splitTopLevel_sweep_children : ['>', '>'] ≠ [] ∧
    cutsOf ['>', '>'] "é[>>]\\>'>>'>>>".toList "é[>>]\\>'>>'>>>".toList =
      .ok [(0, "é[>>]\\>'>>'".toList), (14, ['>'])] ∧
    ['>', '>'].intercalate ["é[>>]\\>'>>'".toList, ['>']] = "é[>>]\\>'>>'>>>".toList ∧
    cutsOf ['>', '>'] "a>>é(]".toList "a>>é(]".toList = .error (.unbalancedBracket ']' 6) ∧
    ∃ w rest, Reaches ['>', '>'] "a>>é(]".toList w rest ∧
      Fails w rest (.unbalancedBracket ']' 6) := by
  have hsplit : cutsOf ['>', '>'] "é[>>]\\>'>>'>>>".toList "é[>>]\\>'>>'>>>".toList =
      .ok [(0, "é[>>]\\>'>>'".toList), (14, ['>'])] := by decide +kernel
  have herror : cutsOf ['>', '>'] "a>>é(]".toList "a>>é(]".toList =
      .error (.unbalancedBracket ']' 6) := by decide +kernel
  exact ⟨by decide, hsplit, ((splitTopLevel_sweep (by decide) _).2.1 _ hsplit).1, herror,
    ((splitTopLevel_sweep (by decide) _).2.2.1 _).1 herror⟩

end Sweep

end Umbra.Selector
