import Umbra.Proofs.Chain.Clause
import Umbra.Proofs.Chain.Slices
import Umbra.Proofs.Selector.Separators

/-!
# Heads that are read twice

How a part ends is decided by the head of all the text that is left, and what the part is by the head of
the text that is cut off. Both say the same. So a part that is read as selectors was cut off by a search
for a separator outside quotes and brackets, and its clause closes what it opens, without its head and
without the white space around it.
-/

namespace Umbra.Part

open Selector Text

/-! ## The two heads -/

/-- The heads of two texts are written alike, and the clauses stand behind them. -/
structure SameHead (s t : List Char) : Prop where
  captured_eq : (readHead t).captured = (readHead s).captured
  engineName_eq : (readHead t).engineName = (readHead s).engineName
  exists_front : ∃ front, s = front ++ (readHead s).clause ∧ t = front ++ (readHead t).clause

section Clauses

variable {defaultEngine engine : Engine} {captured : Bool} {whole s text after mark : List Char}
  {part : Part}

theorem FirstPart.sameHead (h : FirstPart defaultEngine s text after) : SameHead s text := by
  obtain ⟨hs, -⟩ := h.append
  obtain ⟨u, hu, htext⟩ := h.readHead
  obtain ⟨front, hfront, -, -⟩ := exists_before s
  have hcut : text ++ after = (front ++ u) ++ after := by
    rw [hs, List.append_assoc, hu]
    exact hfront
  refine ⟨by rw [htext], by rw [htext], front, hfront, ?_⟩
  rw [htext]
  exact List.append_cancel_right hcut

/-! ## Clauses that are closed -/

theorem not_isBlank_of_isMark {c : Char} (h : isMark c = true) : isBlank c = false := by
  simp only [isMark, List.contains_cons, List.contains_nil, Bool.or_false, Bool.or_eq_true,
    beq_iff_eq] at h
  rcases h with rfl | rfl | rfl | rfl | rfl | rfl | rfl <;> rfl

theorem isMark_of_isBlank {c : Char} (h : isBlank c = true) : isMark c = false :=
  Bool.eq_false_iff.2 fun hmark => by simp [not_isBlank_of_isMark hmark] at h

theorem Marked.isMark_eq (h : Marked defaultEngine mark engine captured) :
    ∀ c ∈ mark, isMark c = false := by
  have hnamed (e : Engine) {left right : List Char} (hleft : Blank left) (hright : Blank right) :
      ∀ c ∈ e.name.toList ++ (left ++ '=' :: right), isMark c = false := by
    have hname : e.name.toList.all (fun c => !isMark c) = true := by cases e <;> rfl
    refine List.forall_mem_append.2 ⟨fun c hc => ?_, List.forall_mem_append.2 ⟨fun c hc => ?_,
      List.forall_mem_cons.2 ⟨rfl, fun c hc => ?_⟩⟩⟩
    · simpa using List.all_eq_true.1 hname c hc
    · exact isMark_of_isBlank (hleft c hc)
    · exact isMark_of_isBlank (hright c hc)
  cases h with
  | nothing => exact fun c hc => absurd hc List.not_mem_nil
  | name engine hleft hright => exact hnamed engine hleft hright
  | star engine hleft hright => exact List.forall_mem_cons.2 ⟨rfl, hnamed engine hleft hright⟩

/-- A part that is not read as text is searched from its start to its end. -/
theorem FirstPart.scans (h : FirstPart defaultEngine s text after)
    (htext : ¬ ReadAsText defaultEngine s) : Scans separator after .outside text .outside := by
  cases h with
  | last h =>
    rw [cutFirst_of_not_text htext] at h
    exact findTopLevel_eq_none.1 h
  | cut h =>
    rw [cutFirst_of_not_text htext] at h
    exact (findTopLevel_eq_some.1 h).2.1

/-- No separator is left in a clause of selectors. -/
theorem FirstPart.findTopLevel_clause (h : FirstPart defaultEngine s text after)
    (hpart : ofSegment defaultEngine whole ⟨text, after⟩ = .ok part)
    (hengine : part.engine.isText = false) :
    findTopLevel separator part.clause.toList = .ok none := by
  have htext : ¬ ReadAsText defaultEngine s := by
    obtain ⟨u, -, hread⟩ := h.readHead
    rw [← readAsText_iff hread, (clause_of_ofSegment hpart).2.1, hengine]
    exact Bool.false_ne_true
  obtain ⟨hsome, -, hclause, -, -⟩ := ofSegment_eq_ok.1 hpart
  dsimp only at hsome hclause
  obtain ⟨space, mark, hspace, hmark, hfront, -⟩ := exists_marked hsome
  obtain ⟨behind, hbehind, htrim⟩ := exists_trimEnd (Part.readHead text).clause
  have hplain : ∀ c ∈ space ++ mark, isMark c = false :=
    List.forall_mem_append.2 ⟨fun c hc => isMark_of_isBlank (hspace c hc), hmark.isMark_eq⟩
  have hwhole : Whole (space ++ mark) :=
    .of_forall fun c hc => (isMark_eq_false_iff.1 (hplain c hc)).1
  have hscans := h.scans htext
  rw [hfront, htrim] at hscans
  obtain ⟨o, hfirst, hscans⟩ := Scans.of_append hwhole hscans
  -- the head opens nothing, and neither does the white space behind the clause
  have ho := hfirst.behind?_eq
  rw [Open.opened_outside.behind?_unmarked hplain, Option.some.injEq] at ho
  subst ho
  rw [hclause, String.toList_ofList]
  exact findTopLevel_eq_none.2
    (hscans.of_unmarked (fun c hc => isMark_of_isBlank (hbehind c hc)) Open.opened_outside)

end Clauses

/-! ## Separators within clauses -/

/-- A separator that cuts every clause of selectors: it cuts all closed texts, or a separator of parts
stands in it, so that it stands in no clause. -/
def DividesClauses (sep : List Char) : Prop :=
  Divides sep ∨ ∃ p, findTopLevel separator sep = .ok (some p)

theorem DividesClauses.exists_splitTopLevel {sep clause : List Char} (h : DividesClauses sep)
    (hsep : sep ≠ []) (hclause : findTopLevel separator clause = .ok none) :
    ∃ segments, splitTopLevel sep clause = .ok segments := by
  rcases h with hdivides | ⟨p, hcontains⟩
  · exact hdivides.exists_splitTopLevel hsep (closed_of_findTopLevel hclause)
  · exact ⟨_, splitTopLevel_of_none (findTopLevel_of_contains hcontains hclause)⟩

theorem isMark_separator : ∀ c ∈ separator, isMark c = false :=
  List.forall_mem_cons.2 ⟨rfl, List.forall_mem_singleton.2 rfl⟩

/-- Any other separator leaves something open that marks behind it close. -/
theorem exists_error_of_not_dividesClauses (defaultEngine : Engine) {sep : List Char}
    (h : ¬ DividesClauses sep) : ∃ chain part, split defaultEngine chain = .ok [part] ∧
      part.engine = .css ∧ ∃ e, splitTopLevel sep part.clause.toList = .error e := by
  rw [DividesClauses, not_or, not_exists] at h
  obtain ⟨hdivides, hcontains⟩ := h
  obtain ⟨rest, hmarks, hclosed, hopen⟩ := exists_marks hdivides
  have hhead : sep.head?.any isMark = false := Bool.eq_false_iff.2 fun h => hdivides (Or.inl h)
  have hne : sep ≠ [] := by
    rintro rfl
    exact hopen hclosed
  -- a character in front keeps white space at the start of the separator from being trimmed
  obtain ⟨x, hx, hblank, hsign, hfront⟩ : ∃ x, isPlain x = true ∧ isBlank x = false ∧
      separator.head? ≠ some x ∧ sep.head? ≠ some x := by
    by_cases hx : sep.head? = some 'x'
    · exact ⟨'y', rfl, rfl, by decide, by rw [hx]; decide⟩
    · exact ⟨'x', rfl, rfl, by decide, hx⟩
  have hfind : findTopLevel separator (x :: (sep ++ rest)) = .ok none := by
    rw [findTopLevel_cons separator_ne_nil hx hsign, Read.prepend_eq_none]
    exact findTopLevel_append_marks isMark_separator separator_ne_nil hcontains hmarks hclosed
  have hlast : (x :: (sep ++ rest)).getLast?.any isBlank = false := by
    rcases List.eq_nil_or_concat rest with rfl | ⟨rest, c, rfl⟩
    · exact absurd rfl hopen
    · rw [List.concat_eq_append, ← List.append_assoc, ← List.cons_append, List.getLast?_concat]
      exact not_isBlank_of_isMark (hmarks c (by simp))
  have htrim := trim_of_ends (s := x :: (sep ++ rest)) hblank hlast
  refine ⟨_, _, split_css defaultEngine (by rw [htrim]; exact List.cons_ne_nil _ _) hfind, rfl, ?_⟩
  obtain ⟨e, he⟩ := exists_error_of_marks hmarks hopen
  rw [String.toList_ofList, htrim, splitTopLevel_cons hne hhead hx hfront, he]
  exact ⟨e, rfl⟩

/-! ## Parts of a chain -/

theorem Cuts.exists_firstPart {defaultEngine : Engine} {whole s : List Char} {parts : List Part}
    (h : Cuts defaultEngine whole s parts) : ∀ part ∈ parts, ∃ t text after, t <:+ s ∧
      FirstPart defaultEngine t text after ∧
        ofSegment defaultEngine whole ⟨text, after⟩ = .ok part := by
  induction h with
  | @last s part hcut hpart =>
    exact List.forall_mem_singleton.2 ⟨s, s, [], List.suffix_rfl, .last hcut, hpart⟩
  | @cons s text rest part parts hcut hpart _ ih =>
    refine List.forall_mem_cons.2 ⟨⟨s, text, _, List.suffix_rfl, .cut hcut, hpart⟩, ?_⟩
    intro part' hmem
    obtain ⟨t, text', after', ht, hfirst, hpart'⟩ := ih part' hmem
    obtain ⟨-, -, rfl⟩ := exists_of_cutFirst hcut
    exact ⟨t, text', after',
      ht.trans ((List.suffix_append ..).trans (List.suffix_append ..)), hfirst, hpart'⟩

/-- The head of what is left of a chain and that of the part cut off from it are the same. A clause of
selectors has no separator of parts in it, and it is cut by every separator that closes what it opens.
A separator that does not is refused in some clause. -/
theorem reread_alike (defaultEngine : Engine) :
    (∀ s text after, FirstPart defaultEngine s text after → SameHead s text ∧
      ∀ whole part, ofSegment defaultEngine whole ⟨text, after⟩ = .ok part →
        part.engine.isText = false → findTopLevel separator part.clause.toList = .ok none ∧
          ∀ sep, sep ≠ [] → DividesClauses sep →
            ∃ segments, splitTopLevel sep part.clause.toList = .ok segments) ∧
    (∀ chain parts, split defaultEngine chain = .ok parts → ∀ part ∈ parts, ∃ s text after,
      s <:+ chain ∧ FirstPart defaultEngine s text after ∧
        ofSegment defaultEngine chain ⟨text, after⟩ = .ok part) ∧
    ∀ sep, ¬ DividesClauses sep → ∃ chain part, split defaultEngine chain = .ok [part] ∧
      part.engine = .css ∧ ∃ e, splitTopLevel sep part.clause.toList = .error e := by
  refine ⟨fun s text after hfirst => ⟨hfirst.sameHead, fun whole part hpart hengine => ?_⟩,
    fun chain parts h => ?_, fun sep => exists_error_of_not_dividesClauses defaultEngine⟩
  · have hfind := hfirst.findTopLevel_clause hpart hengine
    exact ⟨hfind, fun sep hsep hdivides => hdivides.exists_splitTopLevel hsep hfind⟩
  · exact (readAll_eq_ok.1 (split_eq_ok.1 h).2.1).exists_firstPart

/-- The separator within quotes is passed over. White space that belongs to an escape is trimmed, and
the backslash stays at the end of the clause. -/
theorem reread_alike_escaped :
    cutFirst .css " *css= a[b='>>'],\\ >>text=x".toList =
        .ok (some (" *css= a[b='>>'],\\ ".toList, ">>text=x".toList)) ∧
      SameHead " *css= a[b='>>'],\\ >>text=x".toList " *css= a[b='>>'],\\ ".toList ∧
      findTopLevel separator "a[b='>>'],\\".toList = .ok none ∧
      ∃ segments, splitTopLevel [','] "a[b='>>'],\\".toList = .ok segments := by
  have hcut : cutFirst .css " *css= a[b='>>'],\\ >>text=x".toList =
      .ok (some (" *css= a[b='>>'],\\ ".toList, ">>text=x".toList)) := by
    decide +kernel
  have hpart : ofSegment .css " *css= a[b='>>'],\\ >>text=x".toList
      ⟨" *css= a[b='>>'],\\ ".toList, ">>text=x".toList⟩ =
        .ok ⟨.css, "a[b='>>'],\\", 7, true⟩ := by decide +kernel
  obtain ⟨hsame, hclauses⟩ := (reread_alike .css).1 _ _ _ (.cut hcut)
  obtain ⟨hnone, hsplit⟩ := hclauses _ _ hpart rfl
  have hcomma : DividesClauses [','] := Or.inl (divides_of_unmarked (List.forall_mem_singleton.2 rfl))
  exact ⟨hcut, hsame, hnone, hsplit _ (List.cons_ne_nil _ _) hcomma⟩

/-- A separator with an opening bracket leaves the closing one alone behind it. -/
theorem splitTopLevel_opening_bracket :
    split .css "a[b]".toList = .ok [⟨.css, "a[b]", 0, false⟩] ∧
      splitTopLevel "a[".toList "a[b]".toList = .error (.unbalancedBracket ']' "]".toList) := by
  refine ⟨by decide +kernel, ?_⟩
  have hfound : findTopLevel "a[".toList "a[b]".toList = .ok (some ([], "a[b]".toList)) := by
    decide +kernel
  have hbehind : ("a[b]".toList).drop "a[".toList.length = "b]".toList := by decide +kernel
  have hrest : findTopLevel "a[".toList "b]".toList =
      .error (.unbalancedBracket ']' "]".toList) := by decide +kernel
  have hsplit : splitTopLevel "a[".toList "b]".toList =
      .error (.unbalancedBracket ']' "]".toList) := by rw [splitTopLevel, hrest]
  rw [splitTopLevel_of_found (by decide +kernel) hfound, hbehind, hsplit]
  rfl

end Umbra.Part
