import Umbra.Proofs.Selector.Openings
import Umbra.Proofs.Selector.Padding

/-!
# Selector lists joined by commas

A selector list that can be read leaves no quote, bracket or escape open. So it ends where a comma
comes behind it, and lists that are joined by commas are read as one list with the alternatives of
all of them in order.
-/

namespace Umbra.Selector

open Text

/-! ## The scan for a comma -/

theorem exists_of_stops {o : Open} {s : List Char} (h : Stops [','] o s) : ∃ t, s = ',' :: t := by
  cases h with
  | @intro c s _ hsep => exact ⟨s, by rw [(List.cons_prefix_cons.1 hsep).1]⟩

/-- Where a scan for a comma stops is decided by one character, so what follows a whole text has no
part in it. -/
theorem Scans.of_whole {s rest : List Char} {o o' : Open} (h : Scans [','] rest o s o')
    (hs : Whole s) (rest' : List Char) : Scans [','] rest' o s o' := by
  induction h with
  | nil => exact .nil
  | escape _ ih => exact .escape (ih hs.drop_escape)
  | @char o o₁ o' c s hc hgo hstep _ ih =>
    have hslash : c ≠ '\\' := by
      rintro rfl
      exact hs.ne_nil (List.append_eq_nil_iff.1 (hc rfl)).1
    refine .step hslash ?_ hstep (ih (hs.tail hslash))
    rintro ⟨hmark, hsep⟩
    refine hgo (.intro hmark ?_)
    rw [(List.cons_prefix_cons.1 hsep).1]
    exact List.cons_prefix_cons.2 ⟨rfl, List.nil_prefix⟩

section Taken

variable {sep rest s t : List Char} {o o₁ o' : Open} {c : Char}

theorem Scans.of_cons (hc : c ≠ '\\') (h : Scans sep rest o (c :: s) o') : ∃ o₁,
    ¬ Stops sep o (c :: (s ++ rest)) ∧ o.step? c = some o₁ ∧ Scans sep rest o₁ s o' := by
  cases h with
  | escape => exact absurd rfl hc
  | char _ hgo hstep hs => exact ⟨_, hgo, hstep, hs⟩

theorem Scans.of_escape (h : Scans sep rest o ('\\' :: c :: s) o') : Scans sep rest o s o' := by
  cases h with
  | escape hs => exact hs
  | char hc => cases hc rfl

theorem Scans.of_append (hs : Whole s) (h : Scans sep rest o (s ++ t) o') :
    ∃ o₁, Scans sep (t ++ rest) o s o₁ ∧ Scans sep rest o₁ t o' := by
  induction hs generalizing o with
  | nil => exact ⟨o, .nil, h⟩
  | plain hc _ ih =>
    rw [List.cons_append] at h
    obtain ⟨o₁, hgo, hstep, h⟩ := Scans.of_cons hc h
    obtain ⟨o₂, hs, ht⟩ := ih h
    rw [List.append_assoc] at hgo
    exact ⟨o₂, .step hc hgo hstep hs, ht⟩
  | escape _ ih =>
    obtain ⟨o₂, hs, ht⟩ := ih (Scans.of_escape h)
    exact ⟨o₂, .escape hs, ht⟩

/-- No escape is cut off where something stands behind a text. -/
theorem Scans.whole (h : Scans sep rest o s o') (hrest : rest ≠ []) : Whole s := by
  induction h with
  | nil => exact .nil
  | escape _ ih => exact .escape ih
  | char hc _ _ _ ih => exact .plain (fun h => hrest (List.append_eq_nil_iff.1 (hc h)).2) ih

/-- Characters that are no marks can go at the end, also one that belongs to an escape. -/
theorem Scans.of_unmarked (ht : ∀ c ∈ t, isMark c = false) (ho : o.Opened)
    (h : Scans sep rest o (s ++ t) o') : Scans sep [] o s o' := by
  induction s using escaped_induction generalizing o with
  | nil =>
    have hsame := (ho.behind?_unmarked ht).symm.trans h.behind?_eq
    cases hsame
    exact .nil
  | escape c s ih => exact .escape (ih ho (.of_escape h))
  | char c s hc ih =>
    by_cases hslash : c = '\\'
    · obtain rfl := hc hslash
      subst hslash
      obtain rfl : o = o' := by
        cases t with
        | nil =>
          have hsame := h.behind?_eq
          rw [List.append_nil, Open.behind?_cons fun _ => rfl, ho.step?_slash] at hsame
          exact Option.some.inj hsame
        | cons d t =>
          have hsame := (Scans.of_escape h).behind?_eq
          rw [ho.behind?_unmarked (List.forall_mem_cons.1 ht).2] at hsame
          exact Option.some.inj hsame
      exact .char (fun _ => rfl) (not_stops_of_isMark rfl) ho.step?_slash .nil
    · obtain ⟨o₁, hgo, hstep, hs⟩ := Scans.of_cons hslash h
      refine .step hslash (fun hstop => hgo ?_) hstep (ih (ho.step hstep) hs)
      rw [List.append_nil] at hstop
      have hlonger := hstop.append (t ++ rest)
      rwa [List.cons_append, ← List.append_assoc] at hlonger

end Taken

theorem stops_comma (s : List Char) : Stops [','] .outside (',' :: s) :=
  .intro rfl (List.cons_prefix_cons.2 ⟨rfl, List.nil_prefix⟩)

/-! ## Texts between commas -/

/-- The texts between the commas of `s` that stand outside quotes and brackets. -/
inductive Splits : List Char → List (List Char) → Prop
  | last {s : List Char} (h : findTopLevel [','] s = .ok none) : Splits s [s]
  | cons {s t rest : List Char} {texts : List (List Char)}
    (h : findTopLevel [','] s = .ok (some (t, ',' :: rest))) (hrest : Splits rest texts) :
    Splits s (t :: texts)

theorem length_lt_of_findTopLevel {s t rest : List Char}
    (h : findTopLevel [','] s = .ok (some (t, ',' :: rest))) : rest.length < s.length := by
  have hs := congrArg List.length (append_of_findFrom h)
  rw [List.length_append, List.length_cons] at hs
  omega

theorem splitTopLevel_of_none {sep s : List Char} (h : findTopLevel sep s = .ok none) :
    splitTopLevel sep s = .ok [⟨s, []⟩] := by
  rw [splitTopLevel, h]

theorem splitTopLevel_of_some {s t rest : List Char}
    (h : findTopLevel [','] s = .ok (some (t, ',' :: rest))) : splitTopLevel [','] s =
      (splitTopLevel [','] rest).map (⟨t, ',' :: rest⟩ :: ·) :=
  splitTopLevel_of_found (List.cons_ne_nil _ _) h

theorem splits_of_splitTopLevel {s : List Char} {segments : List Segment}
    (h : splitTopLevel [','] s = .ok segments) : Splits s (segments.map Segment.text) := by
  induction hn : s.length using Nat.strongRecOn generalizing s segments with
  | _ n ih =>
    cases hfind : findTopLevel [','] s with
    | error e =>
      rw [splitTopLevel, hfind] at h
      cases h
    | ok found =>
      cases found with
      | none =>
        rw [splitTopLevel_of_none hfind] at h
        cases h
        exact .last hfind
      | some p =>
        obtain ⟨t, after⟩ := p
        obtain ⟨rest, rfl⟩ := exists_of_stops (findTopLevel_eq_some.1 hfind).2.2
        rw [splitTopLevel_of_some hfind] at h
        cases hrest : splitTopLevel [','] rest with
        | error e =>
          rw [hrest] at h
          cases h
        | ok behind =>
          rw [hrest] at h
          cases h
          exact .cons hfind (ih _ (hn ▸ length_lt_of_findTopLevel hfind) hrest rfl)

theorem Splits.exists_splitTopLevel {s : List Char} {texts : List (List Char)}
    (h : Splits s texts) :
    ∃ segments, splitTopLevel [','] s = .ok segments ∧ segments.map Segment.text = texts := by
  induction h with
  | @last s h => exact ⟨_, splitTopLevel_of_none h, rfl⟩
  | @cons s t rest texts h _ ih =>
    obtain ⟨segments, hsegments, rfl⟩ := ih
    refine ⟨⟨t, ',' :: rest⟩ :: segments, ?_, rfl⟩
    rw [splitTopLevel_of_some h, hsegments]
    rfl

/-- A comma behind a text whose last stretch is whole cuts it off. -/
theorem Splits.append {s u : List Char} {texts texts' : List (List Char)} (h : Splits s texts)
    (hwhole : ∀ t ∈ texts, Whole t) (hu : Splits u texts') :
    Splits (s ++ ',' :: u) (texts ++ texts') := by
  induction h with
  | @last s h =>
    refine .cons ?_ hu
    have hscans := (findTopLevel_eq_none.1 h).of_whole (hwhole s (List.mem_singleton_self s))
    exact findTopLevel_eq_some.2 ⟨rfl, hscans _, stops_comma u⟩
  | cons h _ ih =>
    exact .cons (findTopLevel_append_of_some (List.cons_ne_nil _ _) h _)
      (ih (List.forall_mem_cons.1 hwhole).2)

theorem findTopLevel_spaces {left : List Char} (hleft : Spaces left) (s : List Char) :
    findTopLevel [','] (left ++ s) = Read.prepend left (findTopLevel [','] s) :=
  findFrom_balanced hleft.balanced (Or.inr (Or.inl ⟨rfl, rfl⟩)) s

section Alternatives

variable {allows : PseudoClassName → Bool} {inner inner' : List Char → Read SelectorList}

theorem readAlternatives_iff {s : List Char} {alternatives : SelectorList} :
    readAlternatives inner allows s = .ok alternatives ↔ ∃ texts, Splits s texts ∧
      List.Forall₂ (fun t c => readComplex inner allows t = .ok c) texts alternatives := by
  rw [readAlternatives, bind_eq_ok]
  constructor
  · rintro ⟨segments, hsegments, h⟩
    refine ⟨_, splits_of_splitTopLevel hsegments, List.forall₂_map_left_iff.2 ?_⟩
    exact (mapM_eq_ok.1 h).imp fun _ _ hread => Read.within_eq_ok.1 hread
  · rintro ⟨texts, htexts, h⟩
    obtain ⟨segments, hsegments, rfl⟩ := htexts.exists_splitTopLevel
    refine ⟨segments, hsegments, mapM_eq_ok.2 ?_⟩
    exact (List.forall₂_map_left_iff.1 h).imp fun _ _ hread => Read.within_eq_ok.2 hread

/-- Each of the texts is read as one of the alternatives. -/
def ReadsEach (inner : List Char → Read SelectorList) (allows : PseudoClassName → Bool) :
    List (List Char) → SelectorList → Prop :=
  List.Forall₂ fun t c => readComplex inner allows t = .ok c

theorem ReadsEach.whole {texts : List (List Char)} {alternatives : SelectorList}
    (h : ReadsEach inner allows texts alternatives) : ∀ t ∈ texts, Whole t := by
  induction h with
  | nil => exact nofun
  | cons hread _ ih =>
    exact List.forall_mem_cons.2 ⟨(readComplex_padded (fun _ _ h => h) hread).1, ih⟩

/-- Joined by a comma, two lists are read as one. -/
theorem readAlternatives_append {s u : List Char} {l k : SelectorList}
    (hs : readAlternatives inner allows s = .ok l) (hu : readAlternatives inner allows u = .ok k) :
    readAlternatives inner allows (s ++ ',' :: u) = .ok (l ++ k) := by
  obtain ⟨texts, hsplits, hread⟩ := readAlternatives_iff.1 hs
  obtain ⟨texts', hsplits', hread'⟩ := readAlternatives_iff.1 hu
  have hwhole := ReadsEach.whole hread
  exact readAlternatives_iff.2 ⟨_, hsplits.append hwhole hsplits', List.rel_append hread hread'⟩

section Inner

variable (hinner : ∀ argument alternatives, inner argument = .ok alternatives →
  inner' argument = .ok alternatives)

include hinner

theorem readComplex_left {left s : List Char} (hleft : Spaces left) {c : ComplexSelector}
    (h : readComplex inner allows s = .ok c) : readComplex inner' allows (left ++ s) = .ok c := by
  have hread := (readComplex_padded hinner h).2 left [] hleft nofun
  rwa [List.append_nil] at hread

theorem readAlternatives_left {left s : List Char} (hleft : Spaces left) {l : SelectorList}
    (h : readAlternatives inner allows s = .ok l) :
    readAlternatives inner' allows (left ++ s) = .ok l := by
  obtain ⟨texts, hsplits, hread⟩ := readAlternatives_iff.1 h
  have hmono : ∀ t c, readComplex inner allows t = .ok c → readComplex inner' allows t = .ok c :=
    fun t c hc => readComplex_left hinner (nofun : Spaces []) hc
  cases hsplits with
  | last hnone =>
    cases hread with
    | cons hc hnil =>
      refine readAlternatives_iff.2 ⟨_, .last ?_, .cons (readComplex_left hinner hleft hc) ?_⟩
      · rw [findTopLevel_spaces hleft, hnone]
        rfl
      · exact hnil.imp hmono
  | cons hsome hrest =>
    cases hread with
    | cons hc hread =>
      refine readAlternatives_iff.2 ⟨_, .cons ?_ hrest, .cons (readComplex_left hinner hleft hc) ?_⟩
      · rw [findTopLevel_spaces hleft, hsome]
        rfl
      · exact hread.imp hmono

omit hinner in
theorem readAlternatives_right {right s : List Char} (hright : Spaces right) {l : SelectorList}
    (h : readAlternatives inner allows s = .ok l) :
    readAlternatives inner allows (s ++ right) = .ok l := by
  obtain ⟨texts, hsplits, hread⟩ := readAlternatives_iff.1 h
  refine readAlternatives_iff.2 ?_
  induction hsplits generalizing l with
  | @last s hnone =>
    cases hread with
    | cons hc hnil =>
      obtain ⟨hwhole, hpadded⟩ := readComplex_padded (fun _ _ h => h) hc
      refine ⟨[s ++ right], .last ?_, .cons (hpadded [] right nofun hright) hnil⟩
      have hend := findTopLevel_spaces hright []
      rw [List.append_nil] at hend
      refine findTopLevel_eq_none.2 (.append ?_ (findTopLevel_eq_none.1 hend))
      exact (findTopLevel_eq_none.1 hnone).of_whole hwhole _
  | @cons s t rest texts hsome _ ih =>
    cases hread with
    | @cons _ c _ l hc hread =>
      obtain ⟨texts', hsplits', hread'⟩ := ih (readAlternatives_iff.2 ⟨_, ‹_›, hread⟩) hread
      have hfind := findTopLevel_append_of_some (List.cons_ne_nil _ _) hsome right
      exact ⟨_, .cons hfind hsplits', .cons hc hread'⟩

end Inner

end Alternatives

/-! ## Joined texts -/

/-- The texts stand in the last one between commas, with white space around them. -/
inductive Joined : List (List Char) → List Char → Prop
  | one {left text right : List Char} (hleft : Spaces left) (hright : Spaces right) :
    Joined [text] (left ++ text ++ right)
  | cons {left text right s : List Char} {texts : List (List Char)} (hleft : Spaces left)
    (hright : Spaces right) (hs : Joined texts s) :
    Joined (text :: texts) (left ++ text ++ right ++ ',' :: s)

/-- The reader of the arguments in a text of `n` characters. -/
def readBelow (allows : PseudoClassName → Bool) (n : Nat) (argument : List Char) :
    Read SelectorList :=
  if argument.length < n then readSelectorList allows argument else .error .emptySelector

section Joined

variable {allows : PseudoClassName → Bool}

theorem readSelectorList_eq (s : List Char) :
    readSelectorList allows s = readAlternatives (readBelow allows s.length) allows s := by
  rw [readSelectorList]
  rfl

theorem readBelow_mono {m n : Nat} (h : m ≤ n) (argument : List Char) (alternatives : SelectorList)
    (hread : readBelow allows m argument = .ok alternatives) :
    readBelow allows n argument = .ok alternatives := by
  rw [readBelow] at hread ⊢
  split at hread
  · rename_i hlt
    rwa [if_pos (Nat.lt_of_lt_of_le hlt h)]
  · cases hread

theorem Joined.readAlternatives {n : Nat} {texts : List (List Char)} {s : List Char}
    (h : Joined texts s) (hn : s.length ≤ n) {lists : List SelectorList}
    (hread : List.Forall₂ (fun t l => readSelectorList allows t = .ok l) texts lists) :
    Umbra.Selector.readAlternatives (readBelow allows n) allows s = .ok lists.flatten := by
  have hpadded {left text right : List Char} (hleft : Spaces left) (hright : Spaces right)
      (hle : (left ++ text ++ right).length ≤ n) {l : SelectorList}
      (hl : readSelectorList allows text = .ok l) : Umbra.Selector.readAlternatives
        (readBelow allows n) allows (left ++ text ++ right) = .ok l := by
    rw [List.length_append, List.length_append] at hle
    rw [readSelectorList_eq] at hl
    -- arguments were bounded by the length of the one text, now by that of the joined one
    exact readAlternatives_right hright (readAlternatives_left (readBelow_mono (by omega)) hleft hl)
  induction h generalizing lists with
  | one hleft hright =>
    cases hread with
    | cons hl hnil =>
      cases hnil
      rw [List.flatten_singleton]
      exact hpadded hleft hright hn hl
  | cons hleft hright _ ih =>
    cases hread with
    | cons hl hread =>
      rw [List.length_append, List.length_cons] at hn
      rw [List.flatten_cons]
      exact readAlternatives_append (hpadded hleft hright (by omega) hl) (ih (by omega) hread)

/-- Lists that are joined by commas are read as one list. -/
theorem Joined.readSelectorList {texts : List (List Char)} {s : List Char} (h : Joined texts s)
    {lists : List SelectorList}
    (hread : List.Forall₂ (fun t l => readSelectorList allows t = .ok l) texts lists) :
    Umbra.Selector.readSelectorList allows s = .ok lists.flatten := by
  rw [readSelectorList_eq]
  exact h.readAlternatives (Nat.le_refl _) hread

end Joined

end Umbra.Selector
