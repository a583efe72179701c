import Umbra.Chain.Basic
import Umbra.Proofs.Chain.Joined
import Umbra.Proofs.Selector.Places

/-!
# Places of errors in a chain

Where an error has a place, that is the byte offset of a character in the whole chain, and the error is
about this character. The places in a part are counted from where its clause starts.
-/

namespace Umbra

open Selector Text

/-- The error has no place, or its place is the end of the text from some character on. -/
def SyntaxError.PlacedIn (s : List Char) (e : SyntaxError (List Char)) : Prop :=
  ∀ place, e.place? = some place → ∃ c t, place = c :: t ∧ place <:+ s ∧ e.IsAbout c t

theorem SyntaxError.PlacedIn.of_suffix {s t : List Char} {e : SyntaxError (List Char)} (h : t <:+ s)
    (he : e.PlacedIn t) : e.PlacedIn s := by
  intro place hplace
  obtain ⟨c, u, rfl, hsuffix, habout⟩ := he place hplace
  exact ⟨c, u, rfl, hsuffix.trans h, habout⟩

theorem SyntaxError.LocatedIn.placedIn {s : List Char} {e : SyntaxError (List Char)}
    (h : e.LocatedIn s) : e.PlacedIn s := by
  intro place hplace
  obtain ⟨c, t, rfl, ⟨taken, -, hs⟩, habout⟩ := h place hplace
  exact ⟨c, t, rfl, ⟨taken, hs.symm⟩, habout⟩

/-- Towards the outside, the place is the byte offset of its character. -/
theorem Read.exists_place {α : Type} {x : Read α} {start : Nat} {s : List Char}
    (hx : ∀ e, x = .error e → e.PlacedIn s) {e : SyntaxError Nat} (he : x.at start s = .error e)
    {place : Nat} (hplace : e.place? = some place) : ∃ before c after, s = before ++ c :: after ∧
      place = start + byteLength before ∧ e.IsAbout c after := by
  cases x with
  | ok a => cases he
  | error e' =>
    cases he
    rw [SyntaxError.place?_map, Option.map_eq_some_iff] at hplace
    obtain ⟨_, hplace, rfl⟩ := hplace
    obtain ⟨c, after, rfl, ⟨before, rfl⟩, habout⟩ := hx e' rfl _ hplace
    exact ⟨before, c, after, rfl, by rw [offset_append], e'.isAbout_map.2 habout⟩

namespace Part

/-! ## Errors of the parts -/

theorem unclosed_of_skipLiteral? {delimiter : Char} {s : List Char}
    (h : skipLiteral? delimiter s = none) : Unclosed delimiter s := by
  fun_induction skipLiteral? delimiter s with
  | case1 => exact .nil
  | case2 c s ih => exact .escape (ih h)
  | case3 => cases h
  | case4 c s hslash hc ih =>
    by_cases h' : c = '\\'
    · subst h'
      cases s with
      | nil => exact .slash
      | cons d s => exact absurd rfl (hslash d s rfl)
    · exact .plain hc h' (ih h)

theorem skipStart_eq_error {clause : List Char} {e : SyntaxError (List Char)}
    (h : skipStart clause = .error e) : ∃ c s, clause = c :: s ∧ (c = '"' ∨ c = '\'') ∧
      skipLiteral? c s = none ∧ e = .unterminatedString clause := by
  cases clause with
  | nil => cases h
  | cons c s =>
    rw [skipStart] at h
    split at h
    · rename_i hquote
      rw [Bool.or_eq_true, decide_eq_true_eq, decide_eq_true_eq] at hquote
      split at h
      · cases h
      · rename_i hskip
        cases h
        exact ⟨c, s, rfl, hquote, hskip, rfl⟩
    · split at h <;> cases h

theorem placedIn_of_cutFirst {defaultEngine : Engine} {s : List Char} {e : SyntaxError (List Char)}
    (h : cutFirst defaultEngine s = .error e) : e.PlacedIn s := by
  by_cases htext : ReadAsText defaultEngine s
  · rw [cutFirst_of_text htext, cutText] at h
    cases hskip : skipStart (readHead s).clause with
    | ok searched =>
      rw [hskip] at h
      cases h
    | error e' =>
      rw [hskip] at h
      cases h
      obtain ⟨c, t, hclause, hquote, hnone, rfl⟩ := skipStart_eq_error hskip
      have hsuffix := suffix_of_readHead s []
      rw [List.append_nil, List.append_nil, hclause] at hsuffix
      rw [hclause]
      rintro _ ⟨⟩
      exact ⟨c, t, rfl, hsuffix, hquote, unclosed_of_skipLiteral? hnone⟩
  · rw [cutFirst_of_not_text htext] at h
    exact (locates_findTopLevel _ s e h).placedIn

theorem place?_of_ofSegment {defaultEngine : Engine} {whole : List Char} {segment : Segment}
    {e : SyntaxError (List Char)} (h : ofSegment defaultEngine whole segment = .error e) :
    e.place? = none := by
  rw [ofSegment] at h
  dsimp only at h
  split at h
  · cases h
    rfl
  · split at h
    · cases h
      rfl
    · cases h

theorem placedIn_of_readAll {defaultEngine : Engine} {whole s : List Char}
    {e : SyntaxError (List Char)} (h : readAll defaultEngine whole s = .error e) :
    e.PlacedIn s := by
  have of_ofSegment {segment : Segment} {e : SyntaxError (List Char)} {s : List Char}
      (h : ofSegment defaultEngine whole segment = .error e) : e.PlacedIn s := by
    intro place hplace
    rw [place?_of_ofSegment h] at hplace
    cases hplace
  fun_induction readAll defaultEngine whole s with
  | case1 s e' he =>
    cases h
    exact placedIn_of_cutFirst he
  | case2 s hcut =>
    rcases bind_eq_error.1 h with h | ⟨part, -, h⟩
    · exact of_ofSegment h
    · cases h
  | case3 s text after hcut ih =>
    obtain ⟨rest, rfl, rfl⟩ := exists_of_cutFirst hcut
    rcases bind_eq_error.1 h with h | ⟨part, -, h⟩
    · exact of_ofSegment h
    · rw [dif_pos (length_behind_lt text rest)] at h
      rcases bind_eq_error.1 h with h | ⟨parts, -, h⟩
      · refine .of_suffix ?_ (ih (length_behind_lt text rest) h)
        exact (List.drop_suffix _ _).trans (List.suffix_append _ _)
      · cases h

theorem placedIn_of_parts {defaultEngine : Engine} {chain : List Char}
    {e : SyntaxError (List Char)}
    (h : (if (trim chain).isEmpty then Except.error SyntaxError.emptySelector
      else do
        let parts ← readAll defaultEngine chain chain
        if 1 < parts.countP Part.captured then .error .duplicateCapture else return parts) =
      .error e) : e.PlacedIn chain := by
  split at h
  · cases h
    exact nofun
  · rcases bind_eq_error.1 h with h | ⟨parts, -, h⟩
    · exact placedIn_of_readAll h
    · split at h
      · cases h
        exact nofun
      · cases h

/-! ## Clauses -/

/-- A clause stands in the whole text, from its offset on. -/
theorem Cuts.exists_append {defaultEngine : Engine} {whole s : List Char} {parts : List Part}
    (h : Cuts defaultEngine whole s parts) (hs : s <:+ whole) {part : Part} (hpart : part ∈ parts) :
    ∃ front behind, whole = front ++ (part.clause.toList ++ behind) ∧
      part.offset = byteLength front := by
  have of_ofSegment {text after : List Char} {part : Part} (hsuffix : text ++ after <:+ whole)
      (h : ofSegment defaultEngine whole ⟨text, after⟩ = .ok part) :
      ∃ front behind, whole = front ++ (part.clause.toList ++ behind) ∧
        part.offset = byteLength front := by
    obtain ⟨-, -, hclause, hoffset, -⟩ := ofSegment_eq_ok.1 h
    obtain ⟨front, hfront⟩ := (suffix_of_readHead text after).trans hsuffix
    obtain ⟨behind, hbehind⟩ := trimEnd_isPrefix (readHead text).clause
    refine ⟨front, behind ++ after, ?_, ?_⟩
    · rw [hclause, String.toList_ofList, ← List.append_assoc (trimEnd _), hbehind, hfront]
    · rw [hoffset, ← hfront, offset_append]
  induction h with
  | @last s part' hcut hpart' =>
    obtain rfl := List.mem_singleton.1 hpart
    exact of_ofSegment (by rwa [List.append_nil]) hpart'
  | cons hcut hpart' _ ih =>
    obtain ⟨-, -, rfl⟩ := exists_of_cutFirst hcut
    rcases List.mem_cons.1 hpart with rfl | hpart
    · exact of_ofSegment hs hpart'
    · exact ih (((List.suffix_append ..).trans (List.suffix_append ..)).trans hs) hpart

theorem locates_readExact [RegexLibrary] {quote : Char} (hquote : quote = '"' ∨ quote = '\'')
    (s : List Char) : Locates (quote :: s) (TextPattern.readExact (quote :: s)) := by
  have hslash : '\\' ≠ quote := by rcases hquote with rfl | rfl <;> decide
  refine (locates_readQuoted hquote s).next
    (fun _ _ => (readQuoted_follows (nofun : Spaces []) hslash s).leaves) fun text rest _ => ?_
  dsimp only
  split
  · exact .ok
  · rename_i hrest
    exact .error (.of_leaves (hrest ▸ leaves_skipSpace rest) (locatedIn_head rfl rfl))

theorem locates_readRegex [RegexLibrary] (s source flags : List Char) :
    Locates s (TextPattern.readRegex source flags) := by
  rw [TextPattern.readRegex]
  split
  · exact .ok
  · exact .error fun place hplace => by cases hplace

/-- An error of a text pattern is located in it. -/
theorem locates_parse [RegexLibrary] (s : List Char) : Locates s (TextPattern.parse s) := by
  fun_cases TextPattern.parse s with
  | case1 => exact .ok
  | case2 c t hquote =>
    rw [Bool.or_eq_true, decide_eq_true_eq, decide_eq_true_eq] at hquote
    exact locates_readExact hquote t
  | case3 => exact locates_readRegex _ _ _
  | case4 => exact .ok
  | case5 => exact .ok

/-- Where an error in a text part has a place, that is the byte offset in the clause, not in the whole
chain, of a character that the error is about. With the offset of the clause added it is the place
in the chain, so it is right by itself only if nothing stands in front of the clause. -/
theorem text_error_places [RegexLibrary] (o : Options) (chain : List Char) (parts : List Part)
    (hsplit : split o.defaultEngine chain = .ok parts) (part : Part) (hpart : part ∈ parts)
    (htext : part.engine.isText = true) (e : SyntaxError Nat) (place : Nat)
    (he : Clause.parse part.engine o part.offset part.clause.toList = .error e)
    (hplace : e.place? = some place) :
    ∃ front before c after behind, chain = front ++ (before ++ c :: after) ++ behind ∧
      part.clause.toList = before ++ c :: after ∧ e.IsAbout c after ∧
      part.offset + place = byteLength (front ++ before) ∧
      (place = byteLength (front ++ before) ↔ front = []) := by
  obtain ⟨-, hread, -⟩ := split_eq_ok.1 hsplit
  obtain ⟨front, behind, hchain, hoffset⟩ :=
    (readAll_eq_ok.1 hread).exists_append List.suffix_rfl hpart
  rw [Clause.parse, if_pos htext] at he
  cases hpattern : (TextPattern.parse part.clause.toList).at 0 part.clause.toList with
  | ok pattern =>
    rw [hpattern] at he
    cases he
  | error e' =>
    rw [hpattern] at he
    cases he
    obtain ⟨before, c, after, hclause, hat, habout⟩ := Read.exists_place
      (fun e he => (locates_parse part.clause.toList e he).placedIn) hpattern hplace
    rw [Nat.zero_add] at hat
    refine ⟨front, before, c, after, behind, ?_, hclause, habout, ?_, ?_⟩
    · rw [← hclause, List.append_assoc]
      exact hchain
    · rw [hat, hoffset, byteLength_append]
    · rw [hat, byteLength_append, Nat.right_eq_add, byteLength_eq_zero]

theorem text_error_places_behind_mark :
    (∃ front before c after behind,
      "é >> *text = \"b\" c".toList = front ++ (before ++ c :: after) ++ behind ∧
      "\"b\" c".toList = before ++ c :: after ∧
      (SyntaxError.unexpectedCharacter 'c' 4).IsAbout c after ∧
      14 + 4 = byteLength (front ++ before) ∧ (4 = byteLength (front ++ before) ↔ front = [])) ∧
    ∃ front before c after behind,
      "text=\"b\nc\"".toList = front ++ (before ++ c :: after) ++ behind ∧
      "\"b\nc\"".toList = before ++ c :: after ∧
      (SyntaxError.unterminatedString 0).IsAbout c after ∧
      5 + 0 = byteLength (front ++ before) ∧ (0 = byteLength (front ++ before) ↔ front = []) := by
  constructor
  · have hchain : split Options.default.defaultEngine "é >> *text = \"b\" c".toList =
        .ok [⟨.css, "é", 0, false⟩, ⟨.text, "\"b\" c", 14, true⟩] := by decide +kernel
    have hparse : Clause.parse .text Options.default 14 "\"b\" c".toList =
        .error (.unexpectedCharacter 'c' 4) := by with_unfolding_all rfl
    have hmem : Part.mk .text "\"b\" c" 14 true ∈
        [Part.mk .css "é" 0 false, ⟨.text, "\"b\" c", 14, true⟩] :=
      List.mem_cons_of_mem _ (List.mem_singleton_self _)
    exact text_error_places Options.default _ _ hchain _ hmem rfl _ 4 hparse rfl
  · have hchain : split Options.default.defaultEngine "text=\"b\nc\"".toList =
        .ok [⟨.text, "\"b\nc\"", 5, false⟩] := by decide +kernel
    have hparse : Clause.parse .text Options.default 5 "\"b\nc\"".toList =
        .error (.unterminatedString 0) := by with_unfolding_all rfl
    exact text_error_places Options.default _ _ hchain _ (List.mem_singleton_self _) rfl _ 0
      hparse rfl

end Part

end Umbra
