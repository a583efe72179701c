import Umbra.Proofs.Selector.Cursor
import Umbra.Proofs.Selector.Places

/-!
# Cutting at byte indices

The searches for a separator and for a closing parenthesis, with the index of each character as the
number of bytes before it. Texts are cut at these indices, and at sums of them.
-/

namespace Umbra.Selector

open Text

namespace Bytes

/-- Finds the first separator from the index `i` on, where `s` remains of the text. -/
def findFrom (text sep : List Char) (quote : Option (Char × Nat)) (opened : List (Char × Nat))
    (i : Nat) : List Char → Except Halt (Option Nat)
  | [] =>
    match quote, opened with
    | some (_, place), _ => .error (.refused (.unterminatedString place))
    | none, (bracket, place) :: _ => .error (.refused (.unbalancedBracket bracket place))
    | none, [] => .ok none
  | '\\' :: c :: s => findFrom text sep quote opened (i + '\\'.utf8Size + c.utf8Size) s
  | c :: s =>
    match quote with
    | some (q, place) =>
      findFrom text sep (if c = q then none else some (q, place)) opened (i + c.utf8Size) s
    | none =>
      if c = '\\' then findFrom text sep none opened (i + c.utf8Size) s
      else if c = '"' || c = '\'' then findFrom text sep (some (c, i)) opened (i + c.utf8Size) s
      else if c = '[' || c = '(' then
        findFrom text sep none ((c, i) :: opened) (i + c.utf8Size) s
      else if c = ']' || c = ')' then
        match opened with
        | (bracket, _) :: outer =>
          if closes bracket c then findFrom text sep none outer (i + c.utf8Size) s
          else .error (.refused (.unbalancedBracket c i))
        | [] => .error (.refused (.unbalancedBracket c i))
      else if opened.isEmpty then do
        let tail ← checked (sliceFrom? i text)
        if sep.isPrefixOf tail then .ok (some i)
        else findFrom text sep none opened (i + c.utf8Size) s
      else findFrom text sep none opened (i + c.utf8Size) s

def findTopLevel (sep text : List Char) : Except Halt (Option Nat) :=
  findFrom text sep none [] 0 text

/-- The slice between two byte places. -/
def slice (start stop : Nat) (text : List Char) : Except Halt (List Char) := do
  let front ← checked (sliceTo? stop text)
  checked (sliceFrom? start front)

/-- Cuts a text from the byte `start` on at every separator. A stretch comes with its place. -/
def splitFrom (text sep : List Char) : Nat → Nat → Except Halt (List (Nat × List Char))
  | 0, _ => .error .endless
  | n + 1, start => do
    let tail ← checked (sliceFrom? start text)
    match ← shifted start (findTopLevel sep tail) with
    | none => return [(start, tail)]
    | some i =>
      let stretch ← slice start (start + i) text
      let others ← splitFrom text sep n (start + (i + byteLength sep))
      return (start, stretch) :: others

def splitTopLevel (n : Nat) (sep text : List Char) : Except Halt (List (Nat × List Char)) :=
  splitFrom text sep n 0

/-- The index of the parenthesis that closes `depth` open ones and the one before the text. -/
def closing? (depth : Nat) (quote : Option Char) (i : Nat) : List Char → Option Nat
  | [] => none
  | '\\' :: c :: s => closing? depth quote (i + '\\'.utf8Size + c.utf8Size) s
  | c :: s =>
    match quote with
    | some q => closing? depth (if c = q then none else quote) (i + c.utf8Size) s
    | none =>
      if c = '"' || c = '\'' then closing? depth (some c) (i + c.utf8Size) s
      else if c = '(' then closing? (depth + 1) none (i + c.utf8Size) s
      else if c = ')' then
        match depth with
        | 0 => some i
        | outer + 1 => closing? outer none (i + c.utf8Size) s
      else closing? depth none (i + c.utf8Size) s

theorem findFrom_cons {text sep s : List Char} {opened : List (Char × Nat)} {i : Nat} {c : Char}
    (hc : c ≠ '\\') : findFrom text sep none opened i (c :: s) =
      if c = '"' || c = '\'' then findFrom text sep (some (c, i)) opened (i + c.utf8Size) s
      else if c = '[' || c = '(' then
        findFrom text sep none ((c, i) :: opened) (i + c.utf8Size) s
      else if c = ']' || c = ')' then
        match opened with
        | (bracket, _) :: outer =>
          if closes bracket c then findFrom text sep none outer (i + c.utf8Size) s
          else .error (.refused (.unbalancedBracket c i))
        | [] => .error (.refused (.unbalancedBracket c i))
      else if opened.isEmpty then do
        let tail ← checked (sliceFrom? i text)
        if sep.isPrefixOf tail then .ok (some i)
        else findFrom text sep none opened (i + c.utf8Size) s
      else findFrom text sep none opened (i + c.utf8Size) s := by
  cases opened with
  | nil =>
    rw [findFrom, if_neg hc]
    exact fun _ _ h => absurd h hc
  | cons _ _ =>
    rw [findFrom, if_neg hc]
    exact fun _ _ h => absurd h hc

theorem closing?_cons {c : Char} (hc : c ≠ '\\') (depth i : Nat) (s : List Char) :
    closing? depth none i (c :: s) =
      if c = '"' || c = '\'' then closing? depth (some c) (i + c.utf8Size) s
      else if c = '(' then closing? (depth + 1) none (i + c.utf8Size) s
      else if c = ')' then
        match depth with
        | 0 => some i
        | outer + 1 => closing? outer none (i + c.utf8Size) s
      else closing? depth none (i + c.utf8Size) s := by
  cases depth with
  | zero =>
    rw [closing?]
    exact fun _ _ h => absurd h hc
  | succ outer =>
    rw [closing?]
    exact fun _ _ h => absurd h hc

end Bytes

variable {text sep s : List Char} {n base : Nat}

theorem checked_sliceFrom? (h : s <:+ text) :
    checked (sliceFrom? (offset text s) text) = .ok s := by
  rw [sliceFrom?_offset h]
  rfl

/-! ## Separators -/

/-- The opening quotes and brackets by their places. -/
def Opening.placed (text : List Char) (o : Opening) : Char × Nat := (o.1, offset text o.2)

/-- Something open stands in the text. -/
def Opening.In (text : List Char) (o : Opening) : Prop := o.2 <:+ text

theorem Gives.prepend {x : Except Halt (Option Nat)} {place : List Char → Nat}
    {r : Read (Option (List Char × List Char))} (taken : List Char)
    (h : Gives x base text (r.map (Option.map fun q => place q.2))) :
    Gives x base text ((Read.prepend taken r).map (Option.map fun q => place q.2)) := by
  rcases r with e | _ | q <;> exact h

/-- A reader fails at a place of the text, and the computation at its index. -/
theorem Gives.refuse_at {α : Type} {e : SyntaxError (List Char)} {e' : SyntaxError Nat}
    {p : List Char} (hp : p <:+ text) (he : e.place? = some p)
    (heq : e.map (fun place => 0 + offset text place) = e') :
    Gives (.error (.refused e') : Except Halt α) 0 text (.error e) := by
  refine .refuse (fun place hplace => ?_) heq
  rw [he] at hplace
  cases hplace
  exact hp

theorem Opening.in_of_mem_none : ∀ o ∈ (none : Option Opening), o.In text := by
  intro o ho
  cases ho

/-- From `s` on, the search by indices comes to the index of what the search comes to, whatever is
open in front of it. -/
def Finds (text sep s : List Char) : Prop :=
  ∀ (quote : Option Opening) (opened : List Opening), (∀ o ∈ quote, o.In text) →
    (∀ o ∈ opened, o.In text) →
    Gives (Bytes.findFrom text sep (quote.map (Opening.placed text))
        (opened.map (Opening.placed text)) (offset text s) s) 0 text
      ((findFrom sep quote opened s).map (Option.map fun q => offset text q.2))

namespace Finds

variable {c : Char} {quote : Option Opening} {opened : List Opening}

theorem nil : Finds text sep [] := by
  intro quote opened hquote hopened
  cases quote with
  | some o => exact .refuse_at (hquote o rfl) rfl (by rw [SyntaxError.map, Nat.zero_add])
  | none =>
    cases opened with
    | nil => exact .ok none
    | cons o outer =>
      exact .refuse_at (hopened o (List.mem_cons_self ..)) rfl
        (by rw [SyntaxError.map, Nat.zero_add])

/-- The search goes on behind a character. -/
theorem next (h : Finds text sep s) (hs : c :: s <:+ text) (hquote : ∀ o ∈ quote, o.In text)
    (hopened : ∀ o ∈ opened, o.In text) :
    Gives (Bytes.findFrom text sep (quote.map (Opening.placed text))
        (opened.map (Opening.placed text)) (offset text (c :: s) + c.utf8Size) s) 0 text
      ((Read.prepend [c] (findFrom sep quote opened s)).map
        (Option.map fun q => offset text q.2)) := by
  rw [offset_cons hs]
  exact .prepend _ (h quote opened hquote hopened)

theorem escape (h : Finds text sep s) (hs : '\\' :: c :: s <:+ text) :
    Finds text sep ('\\' :: c :: s) := by
  intro quote opened hquote hopened
  have hnext := h quote opened hquote hopened
  rw [findFrom_escape]
  rw [← offset_cons ((List.suffix_cons ..).trans hs), ← offset_cons hs] at hnext
  exact .prepend _ hnext

/-- In a string the search goes on, and the quote ends it. -/
theorem quoted (h : Finds text sep s) (hs : c :: s <:+ text) (hc : c = '\\' → s = []) {o : Opening}
    (ho : o.In text) (hopened : ∀ o ∈ opened, o.In text) :
    Gives (Bytes.findFrom text sep (some (o.placed text)) (opened.map (Opening.placed text))
        (offset text (c :: s)) (c :: s)) 0 text
      ((findFrom sep (some o) opened (c :: s)).map (Option.map fun q => offset text q.2)) := by
  -- a backslash with a character behind it is an escape
  have hend : ∀ d t, c = '\\' → s = d :: t → False := fun d t hslash hs => by
    rw [hc hslash] at hs
    cases hs
  rw [findFrom, Opening.placed, Bytes.findFrom]
  · split
    · exact @next text sep s c none opened h hs Opening.in_of_mem_none hopened
    · exact @next text sep s c (some o) opened h hs (by rintro _ ⟨⟩; exact ho) hopened
  · exact hend
  · exact hend

/-- Outside strings the search goes on behind a character, unless it stops or fails there. -/
theorem unquoted (h : Finds text sep s) (hs : c :: s <:+ text) (hslash : c ≠ '\\')
    (hopened : ∀ o ∈ opened, o.In text) :
    Gives (Bytes.findFrom text sep none (opened.map (Opening.placed text)) (offset text (c :: s))
        (c :: s)) 0 text
      ((findFrom sep none opened (c :: s)).map (Option.map fun q => offset text q.2)) := by
  have hnext {opened : List Opening} (hopened : ∀ o ∈ opened, o.In text) :=
    @next text sep s c none opened h hs Opening.in_of_mem_none hopened
  have hhere : Gives (.error (.refused (.unbalancedBracket c (offset text (c :: s)))) :
      Except Halt (Option Nat)) 0 text (.error (.unbalancedBracket c (c :: s))) :=
    .refuse_at hs rfl (by rw [SyntaxError.map, Nat.zero_add])
  rw [findFrom_cons hslash, Bytes.findFrom_cons hslash]
  by_cases hstring : (c = '"' || c = '\'') = true
  · simp only [if_pos hstring]
    exact @next text sep s c (some (c, c :: s)) opened h hs (by rintro _ ⟨⟩; exact hs) hopened
  by_cases hopen : (c = '[' || c = '(') = true
  · simp only [if_neg hstring, if_pos hopen]
    exact @hnext ((c, c :: s) :: opened) (List.forall_mem_cons.2 ⟨hs, hopened⟩)
  by_cases hclose : (c = ']' || c = ')') = true
  · simp only [if_neg hstring, if_neg hopen, if_pos hclose]
    cases opened with
    | nil => exact hhere
    | cons o outer =>
      by_cases hcloses : closes o.1 c = true
      · simp only [List.map_cons, Opening.placed, if_pos hcloses]
        exact hnext (List.forall_mem_cons.1 hopened).2
      · simp only [List.map_cons, Opening.placed, if_neg hcloses]
        exact hhere
  simp only [if_neg hstring, if_neg hopen, if_neg hclose]
  cases opened with
  | nil =>
    simp only [List.map_nil, List.isEmpty_nil, if_true, Bool.true_and]
    rw [checked_sliceFrom? hs]
    change Gives (if sep.isPrefixOf (c :: s) = true then _ else _) 0 text _
    split
    · exact .ok _
    · exact hnext hopened
  | cons o outer => exact hnext hopened

theorem char (h : Finds text sep s) (hs : c :: s <:+ text) (hc : c = '\\' → s = []) :
    Finds text sep (c :: s) := by
  intro quote opened hquote hopened
  cases quote with
  | some o => exact h.quoted hs hc (hquote o rfl) hopened
  | none =>
    by_cases hslash : c = '\\'
    · have hread := h.next hs hquote hopened
      subst hslash
      cases hc rfl
      cases opened with
      | nil => exact hread
      | cons o outer => exact hread
    · exact h.unquoted hs hslash hopened

end Finds

theorem finds (hs : s <:+ text) : Finds text sep s := by
  induction s using escaped_induction with
  | nil => exact .nil
  | escape c s ih => exact (ih ((List.suffix_append ['\\', c] s).trans hs)).escape hs
  | char c s hc ih => exact (ih ((List.suffix_cons ..).trans hs)).char hs hc

theorem gives_findTopLevel (sep text : List Char) : Gives (Bytes.findTopLevel sep text) 0 text
    ((findTopLevel sep text).map (Option.map fun q => offset text q.2)) := by
  have hfind := @finds text sep text List.suffix_rfl none [] Opening.in_of_mem_none
    (List.forall_mem_nil _)
  rw [offset_self] at hfind
  exact hfind

/-- A stretch with its place. -/
def Segment.placed (whole : List Char) (segment : Segment) : Nat × List Char :=
  (segment.offset whole, segment.text)

/-- A segment is placed where it starts. -/
theorem Segment.placed_of_append {before after : List Char} (h : before ++ after = s) :
    Segment.placed text ⟨before, after⟩ = (Text.offset text s, before) := by
  rw [← h]
  rfl

/-- A stretch of the text is what lies between its place and the place behind it. -/
theorem slice_offset {before after : List Char} (h : before ++ after <:+ text) :
    Bytes.slice (offset text (before ++ after)) (offset text (before ++ after) + byteLength before)
      text = .ok before := by
  obtain ⟨front, rfl⟩ := h
  unfold Bytes.slice
  rw [offset_append, ← byteLength_append, ← List.append_assoc, sliceTo?_append]
  change checked (sliceFrom? (byteLength front) (front ++ before)) = _
  rw [sliceFrom?_append]
  rfl

/-- What is left of the text is cut as by the reader, whatever stands before it. -/
theorem gives_splitFrom (hsep : sep ≠ []) (hs : s <:+ text) (hn : s.length < n) :
    Gives (Bytes.splitFrom text sep n (offset text s)) 0 text
      ((splitTopLevel sep s).map (List.map (Segment.placed text))) := by
  induction n generalizing s with
  | zero => cases hn
  | succ n ih =>
    have hfind : Gives _ 0 text _ := .of_suffix hs (gives_findTopLevel sep s).shifted
    rw [Nat.zero_add] at hfind
    refine .next (checked_sliceFrom? hs) ?_
    cases hread : findTopLevel sep s with
    | error e =>
      rw [hread] at hfind
      rw [splitTopLevel, hread]
      exact hfind.error
    | ok found =>
      rw [hread] at hfind
      refine .next hfind ?_
      cases found with
      | none =>
        rw [splitTopLevel_of_none hread]
        change Gives _ 0 text (.ok [Segment.placed text ⟨s, []⟩])
        rw [Segment.placed_of_append (List.append_nil s)]
        exact .ok _
      | some found =>
        obtain ⟨before, after⟩ := found
        rw [splitTopLevel_of_found hsep hread]
        obtain ⟨rfl, tail, rfl⟩ := prefix_of_findTopLevel hread
        have hafter : sep ++ tail <:+ text := (List.suffix_append ..).trans hs
        have hlt : tail.length < n := by
          have hpos := List.length_pos_iff.2 hsep
          simp only [List.length_append] at hn
          omega
        have hrest := ih ((List.suffix_append ..).trans hafter) hlt
        rw [← offset_add hafter, ← offset_add hs, Nat.add_assoc] at hrest
        simp only [Option.map_some, offset_append, List.drop_left]
        refine .next (slice_offset hs) ?_
        cases hsplit : splitTopLevel sep tail with
        | error e =>
          rw [hsplit] at hrest
          exact hrest.error
        | ok segments =>
          rw [hsplit] at hrest
          refine .next hrest ?_
          change Gives _ 0 text (.ok (Segment.placed text ⟨before, sep ++ tail⟩ :: _))
          rw [Segment.placed_of_append rfl]
          exact .ok _

theorem gives_splitTopLevel (hsep : sep ≠ []) (hn : text.length < n) :
    Gives (Bytes.splitTopLevel n sep text) 0 text
      ((splitTopLevel sep text).map (List.map (Segment.placed text))) := by
  have hsplit := gives_splitFrom hsep (List.suffix_rfl : text <:+ text) hn
  rw [offset_self] at hsplit
  exact hsplit

/-! ## Closing parentheses -/

theorem map_pushArgument (taken : List Char) (r : Option (List Char × List Char)) (i : Nat) :
    (pushArgument taken r).map (fun q => i + byteLength q.1) =
      r.map fun q => i + byteLength taken + byteLength q.1 := by
  cases r with
  | none => rfl
  | some q =>
    simp only [pushArgument, Option.map_some, byteLength_append]
    congr 1
    omega

/-- The index of the parenthesis is the byte length of the argument. -/
theorem closing?_eq (s : List Char) (depth : Nat) (quote : Option Char) (i : Nat) :
    Bytes.closing? depth quote i s =
      (cutArgument? depth quote s).map fun q => i + byteLength q.1 := by
  induction s using escaped_induction generalizing depth quote i with
  | nil => rfl
  | escape c s ih =>
    rw [cutArgument?_escape, map_pushArgument, Bytes.closing?, ih]
    simp only [byteLength, Nat.add_assoc, Nat.add_zero]
  | char c s hc ih =>
    have hnext (depth : Nat) (quote : Option Char) :
        Bytes.closing? depth quote (i + c.utf8Size) s =
          (pushArgument [c] (cutArgument? depth quote s)).map fun q => i + byteLength q.1 := by
      rw [map_pushArgument, ih]
      rfl
    by_cases hslash : c = '\\'
    · subst hslash
      cases hc rfl
      cases quote <;> rfl
    have hplain : ∀ d t, c = '\\' → s = d :: t → False := fun _ _ h => absurd h hslash
    cases quote with
    | some q =>
      rw [Bytes.closing?, cutArgument?]
      · exact hnext depth _
      · exact hplain
      · exact hplain
    | none =>
      rw [cutArgument?_cons hslash, Bytes.closing?_cons hslash]
      by_cases hstring : (c = '"' || c = '\'') = true
      · simp only [if_pos hstring]
        exact hnext depth _
      by_cases hopen : c = '('
      · simp only [if_neg hstring, if_pos hopen]
        exact hnext (depth + 1) none
      by_cases hclose : c = ')'
      · simp only [if_neg hstring, if_neg hopen, if_pos hclose]
        cases depth with
        | zero => rfl
        | succ outer => exact hnext outer none
      · simp only [if_neg hstring, if_neg hopen, if_neg hclose]
        exact hnext depth none

end Umbra.Selector
