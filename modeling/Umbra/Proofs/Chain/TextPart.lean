import Umbra.Proofs.Chain.Head
import Umbra.Proofs.Chain.Literal
import Umbra.Regex.Library

/-!
# Text parts

A part that is read as text ends at the first separator behind the literal at its start. Quoted
texts come back whole. But a regular expression with a slash of its own may be cut behind that slash,
and a separator may be passed over between slashes that enclose no regular expression.
-/

namespace Umbra

open Selector Text

/-! ## The first occurrence -/

theorem cutBefore?_eq_none {needle s : List Char} :
    cutBefore? needle s = none ↔ ¬ needle <:+: s := by
  induction s with
  | nil => simp [cutBefore?]
  | cons c s ih =>
    rw [cutBefore?, List.infix_cons_iff, ← List.isPrefixOf_iff_prefix]
    split
    · simp_all
    · simp_all

theorem not_infix_of_cutBefore? {needle s before after : List Char} (hne : needle ≠ [])
    (h : cutBefore? needle s = some (before, after)) : ¬ needle <:+: before ∧ needle <+: after := by
  induction s generalizing before with
  | nil =>
    rw [cutBefore?, if_neg (by simpa using hne)] at h
    cases h
  | cons c s ih =>
    rw [cutBefore?] at h
    split at h
    · rename_i hstart
      cases h
      exact ⟨by simpa using hne, List.isPrefixOf_iff_prefix.1 hstart⟩
    · rename_i hstart
      obtain ⟨⟨b, rest⟩, hb, heq⟩ := Option.map_eq_some_iff.1 h
      cases heq
      obtain ⟨hnot, hafter⟩ := ih hb
      refine ⟨fun hoccurs => ?_, hafter⟩
      rcases List.infix_cons_iff.1 hoccurs with hstarts | hoccurs
      · have hs : c :: b ++ after = c :: s := congrArg (c :: ·) (append_of_cutBefore? hb)
        exact hstart (List.isPrefixOf_iff_prefix.2 (hs ▸ hstarts.trans (List.prefix_append ..)))
      · exact hnot hoccurs

namespace Part

/-! ## The first part -/

theorem separator_of_findFrom {sep s before after : List Char} {quote : Option Opening}
    {opened : List Opening} (h : findFrom sep quote opened s = .ok (some (before, after))) :
    sep <+: after := by
  fun_induction findFrom sep quote opened s generalizing before with
  | case1 | case2 | case3 => simp at h
  | case10 | case11 => simp at h
  | case12 => simp_all
  | _ =>
    obtain ⟨b, hb, rfl⟩ := Read.prepend_eq_some h
    simp_all

theorem cutText_eq_ok {s clause : List Char} {found : Option (List Char × List Char)} :
    cutText s clause = .ok found ↔ ∃ rest, Searched clause rest ∧
      (cutBefore? separator rest).map (fun (_, after) =>
        (s.take (s.length - after.length), after)) = found := by
  rw [cutText, bind_eq_ok]
  simp only [skipStart_iff, pure_eq_ok]

/-- A part is cut off where a separator stands. -/
theorem exists_of_cutFirst {defaultEngine : Engine} {s text after : List Char}
    (h : cutFirst defaultEngine s = .ok (some (text, after))) :
    ∃ rest, after = separator ++ rest ∧ text ++ after = s := by
  rw [cutFirst] at h
  split at h
  · obtain ⟨rest, hrest, hfound⟩ := cutText_eq_ok.1 h
    obtain ⟨⟨b, after'⟩, hcut, heq⟩ := Option.map_eq_some_iff.1 hfound
    cases heq
    obtain ⟨before, hs, -, -⟩ := exists_before s
    obtain ⟨literal, hclause, -, -⟩ := hrest.exists_literal
    have hsplit : s = before ++ (literal ++ b) ++ after := by
      rw [hs, hclause, ← append_of_cutBefore? hcut]
      simp
    obtain ⟨v, hv⟩ := (not_infix_of_cutBefore? (by decide) hcut).2
    refine ⟨v, hv.symm, ?_⟩
    rw [hsplit, List.length_append, Nat.add_sub_cancel, List.take_left]
  · obtain ⟨v, hv⟩ := separator_of_findFrom h
    exact ⟨v, hv.symm, append_of_findFrom h⟩

/-- The first part of `s`, and the text from the separator on. -/
inductive FirstPart (defaultEngine : Engine) (s : List Char) : List Char → List Char → Prop
  | last (h : cutFirst defaultEngine s = .ok none) : FirstPart defaultEngine s s []
  | cut {text after : List Char} (h : cutFirst defaultEngine s = .ok (some (text, after))) :
    FirstPart defaultEngine s text after

namespace FirstPart

variable {defaultEngine : Engine} {s text after : List Char}

theorem append (h : FirstPart defaultEngine s text after) :
    text ++ after = s ∧ (after = [] ∨ separator <+: after) := by
  cases h with
  | last => exact ⟨List.append_nil s, Or.inl rfl⟩
  | cut h =>
    obtain ⟨rest, rfl, hs⟩ := exists_of_cutFirst h
    exact ⟨hs, Or.inr (List.prefix_append ..)⟩

/-- What the first part says before its clause is what the text says. -/
theorem readHead (h : FirstPart defaultEngine s text after) :
    ∃ u, u ++ after = (Part.readHead s).clause ∧
      Part.readHead text = { Part.readHead s with clause := u } := by
  obtain ⟨hs, hafter⟩ := h.append
  obtain ⟨before, hbefore, hfree, hread⟩ := exists_before s
  obtain ⟨u, hu, htext⟩ : ∃ u, u ++ after = (Part.readHead s).clause ∧ text = before ++ u := by
    rcases List.append_eq_append_iff.1 (hs.trans hbefore) with ⟨v, hv, hclause⟩ | ⟨u, hu, hclause⟩
    · -- the separator does not start before the clause, where no greater-than sign stands
      cases v with
      | nil => exact ⟨[], hclause, by simpa using hv.symm⟩
      | cons d v =>
        rcases hafter with rfl | hafter
        · cases hclause
        · rw [hclause, separator, List.cons_append, List.cons_prefix_cons] at hafter
          obtain ⟨rfl, -⟩ := hafter
          exact absurd (by simp [hv]) hfree
    · exact ⟨u, hclause.symm, hu⟩
  exact ⟨u, hu, htext ▸ hread u ⟨after, hu⟩⟩

/-- A first part that is read as text ends before the first separator in what is searched. -/
theorem searched (h : FirstPart defaultEngine s text after)
    (htext : ((Part.readHead s).engine? defaultEngine).any Engine.isText = true) :
    ∃ rest b, Searched (Part.readHead s).clause rest ∧ rest = b ++ after ∧ ¬ separator <:+: b := by
  have hcut : cutFirst defaultEngine s = cutText s (Part.readHead s).clause := if_pos htext
  cases h with
  | last h =>
    rw [hcut] at h
    obtain ⟨rest, hrest, hfound⟩ := cutText_eq_ok.1 h
    have hnone := Option.map_eq_none_iff.1 hfound
    exact ⟨rest, rest, hrest, (List.append_nil rest).symm, cutBefore?_eq_none.1 hnone⟩
  | cut h =>
    rw [hcut] at h
    obtain ⟨rest, hrest, hfound⟩ := cutText_eq_ok.1 h
    obtain ⟨⟨b, after'⟩, hsome, heq⟩ := Option.map_eq_some_iff.1 hfound
    cases heq
    exact ⟨rest, b, hrest, (append_of_cutBefore? hsome).symm,
      (not_infix_of_cutBefore? (by decide) hsome).1⟩

end FirstPart

/-! ## Parts -/

/-- No separator stands behind the literal at the start of a clause. -/
def Unsplit (clause : List Char) : Prop := ∃ rest, Searched clause rest ∧ ¬ separator <:+: rest

theorem ofSegment_eq_ok {defaultEngine : Engine} {whole : List Char} {segment : Segment}
    {part : Part} : ofSegment defaultEngine whole segment = .ok part ↔
      (readHead segment.text).engine? defaultEngine = some part.engine ∧
      trimEnd (readHead segment.text).clause ≠ [] ∧
      part.clause = String.ofList (trimEnd (readHead segment.text).clause) ∧
      part.offset = Text.offset whole ((readHead segment.text).clause ++ segment.after) ∧
      part.captured = (readHead segment.text).captured := by
  obtain ⟨engine, clause, offset, captured⟩ := part
  rw [ofSegment]
  dsimp only
  cases hengine : (readHead segment.text).engine? defaultEngine with
  | none => simp
  | some e =>
    dsimp only
    by_cases hempty : (trimEnd (readHead segment.text).clause).isEmpty = true
    · rw [if_pos hempty]
      simp [List.isEmpty_iff.1 hempty]
    · rw [if_neg hempty, List.isEmpty_iff] at *
      simp [hempty, eq_comm]

/-- The clause of a text part is not split. -/
theorem FirstPart.unsplit {defaultEngine : Engine} {s text after : List Char}
    (h : FirstPart defaultEngine s text after) {whole : List Char} {part : Part}
    (hpart : ofSegment defaultEngine whole ⟨text, after⟩ = .ok part)
    (hengine : part.engine.isText = true) : Unsplit part.clause.toList := by
  obtain ⟨hread, hne, hclause, -, -⟩ := ofSegment_eq_ok.1 hpart
  obtain ⟨u, hu, hhead⟩ := h.readHead
  rw [hhead] at hread hne hclause
  have htext : ((Part.readHead s).engine? defaultEngine).any Engine.isText = true := by
    have hsame : (Part.readHead s).engine? defaultEngine = some part.engine := hread
    rw [hsame]
    exact hengine
  obtain ⟨rest, b, hrest, rfl, hnot⟩ := h.searched htext
  obtain ⟨literal, hliteral, hlast, hless⟩ := hrest.exists_literal
  have hu : u = literal ++ b := by
    rw [hliteral, ← List.append_assoc] at hu
    exact List.append_cancel_right hu
  dsimp only at hne hclause
  -- a literal does not end with white space, so only what is behind it gets shorter
  rw [hu, trimEnd_append_of_last hlast] at hne hclause
  have hb := trimEnd_isPrefix b
  rw [hclause, String.toList_ofList]
  exact ⟨trimEnd b, hless _ (hb.trans (List.prefix_append b after)) hne,
    fun hoccurs => hnot (hoccurs.trans hb.isInfix)⟩

theorem readAll_unsplit {defaultEngine : Engine} {whole s : List Char} {parts : List Part}
    (h : readAll defaultEngine whole s = .ok parts) :
    ∀ part ∈ parts, part.engine.isText = true → Unsplit part.clause.toList := by
  fun_induction readAll defaultEngine whole s generalizing parts with
  | case1 => cases h
  | case2 s hcut =>
    obtain ⟨part, hpart, h⟩ := bind_eq_ok.1 h
    cases h
    exact List.forall_mem_singleton.2 ((FirstPart.last hcut).unsplit hpart)
  | case3 s text after hcut ih =>
    obtain ⟨part, hpart, h⟩ := bind_eq_ok.1 h
    have hfirst := (FirstPart.cut hcut).unsplit hpart
    split at h
    · rename_i hlt
      obtain ⟨rest, hrest, h⟩ := bind_eq_ok.1 h
      cases h
      exact List.forall_mem_cons.2 ⟨hfirst, ih hlt hrest⟩
    · cases h
      exact List.forall_mem_singleton.2 hfirst

/-- A clause of text that is not split comes back as the only part. -/
theorem split_of_unsplit (defaultEngine : Engine) {t : List Char} (hne : t ≠ [])
    (htrim : trim t = t) (h : Unsplit t) : split defaultEngine ("text=".toList ++ t) =
      .ok [⟨.text, String.ofList t, 5, false⟩] := by
  obtain ⟨rest, hrest, hnot⟩ := h
  obtain ⟨hstart, hend⟩ := trim_eq_self htrim
  have hhead : readHead ("text=".toList ++ t) = ⟨false, some Engine.text.name.toList, t⟩ := by
    have hchain : trimStart ("text=".toList ++ t) = Engine.text.name.toList ++ '=' :: t := rfl
    rw [readHead_unmarked, hchain, readEngineName?_name .text t]
    · simp only [hstart]
    · rw [hchain]
      exact nofun
  have hengine : (readHead ("text=".toList ++ t)).engine? defaultEngine = some .text := by
    rw [hhead]
    rfl
  have hcut : cutFirst defaultEngine ("text=".toList ++ t) = .ok none := by
    rw [cutFirst, hengine, hhead]
    refine (if_pos rfl).trans (cutText_eq_ok.2 ⟨rest, hrest, ?_⟩)
    rw [cutBefore?_eq_none.2 hnot]
    rfl
  have hpart : ofSegment defaultEngine ("text=".toList ++ t) ⟨"text=".toList ++ t, []⟩ =
      .ok ⟨.text, String.ofList t, 5, false⟩ := by
    refine ofSegment_eq_ok.2 ?_
    rw [hengine, hhead]
    refine ⟨rfl, by rwa [hend], by rw [hend], ?_, rfl⟩
    rw [List.append_nil, offset_append]
    rfl
  refine split_eq_ok.2 ⟨trim_ne_nil (by decide), ?_, Nat.zero_le 1⟩
  rw [readAll, hcut]
  simp only [hpart]
  rfl

theorem Unsplit.of_exact {c : Char} {s value rest : List Char} (hquote : c = '"' ∨ c = '\'')
    (hread : readQuoted (c :: s) = .ok (value, rest)) (hrest : Spaces rest) : Unsplit (c :: s) := by
  have hc : Delimiter c := delimiter_iff.2 (Or.inl (by simpa using hquote))
  refine ⟨rest, .literal hc (skipLiteral?_of_readString _ hquote hread), fun hoccurs => ?_⟩
  cases hrest '>' (hoccurs.subset (List.mem_cons_self ..))

theorem unsplit_slash_iff {s : List Char} :
    Unsplit ('/' :: s) ↔ ¬ separator <:+: (skipLiteral? '/' s).getD ('/' :: s) := by
  have hstart : skipStart ('/' :: s) = .ok ((skipLiteral? '/' s).getD ('/' :: s)) := rfl
  constructor
  · rintro ⟨rest, hrest, hnot⟩
    have hsame := skipStart_iff.2 hrest
    rw [hstart, Except.ok.injEq] at hsame
    rwa [hsame]
  · intro hnot
    exact ⟨_, skipStart_iff.1 hstart, hnot⟩

/-- Where a clause that is not split has a separator, it starts with a literal that encloses it. -/
theorem Unsplit.exists_literal {t : List Char} (h : Unsplit t) (hsep : separator <:+: t) :
    ∃ c s rest, t = c :: s ∧ Delimiter c ∧ skipLiteral? c s = some rest ∧
      ¬ separator <:+: rest := by
  obtain ⟨rest, hrest, hnot⟩ := h
  cases hrest with
  | nil => exact absurd hsep hnot
  | literal hc hskip => exact ⟨_, _, rest, rfl, hc, hskip, hnot⟩
  | plain => exact absurd hsep hnot
  | slash => exact absurd hsep hnot

/-- A clause that is read as a quoted text or as a regular expression comes back as the only part,
unless a separator stands behind the first slash that could close the regular expression. A
separator in a clause stands within a literal at its start, but a literal between slashes is looked
for as plain text if the last slash in the clause has more than flags behind it. -/
theorem split_text [RegexLibrary] (defaultEngine : Engine) :
    (∀ (t : List Char) (p : TextPattern), trim t = t → TextPattern.parse t = .ok p →
      (∀ needle, p ≠ .substring needle) →
      (split defaultEngine ("text=".toList ++ t) = .ok [⟨.text, String.ofList t, 5, false⟩] ↔
        ∀ s, t = '/' :: s → ¬ separator <:+: (skipLiteral? '/' s).getD ('/' :: s))) ∧
    ∀ (chain : List Char) (parts : List Part), split defaultEngine chain = .ok parts →
      ∀ part ∈ parts, part.engine.isText = true → separator <:+: part.clause.toList →
        (∃ c s rest, part.clause.toList = c :: s ∧ Delimiter c ∧ skipLiteral? c s = some rest ∧
          ¬ separator <:+: rest) ∧
        ((∃ needle, TextPattern.parse part.clause.toList = .ok (.substring needle)) ↔
          ∃ s, part.clause.toList = '/' :: s ∧ TextPattern.splitFlags? s = none) := by
  refine ⟨fun t p htrim hparse hp => ⟨fun h => ?_, fun h => ?_⟩,
    fun chain parts hsplit part hpart hengine hsep => ?_⟩
  · rintro s rfl
    have hunsplit := readAll_unsplit (split_eq_ok.1 h).2.1 _ (List.mem_singleton_self _) rfl
    rw [String.toList_ofList] at hunsplit
    exact unsplit_slash_iff.1 hunsplit
  · cases readsAs_of_parse hparse with
    | exact hquote hread hrest =>
      exact split_of_unsplit _ (List.cons_ne_nil _ _) htrim (.of_exact hquote hread hrest)
    | regex =>
      exact split_of_unsplit _ (List.cons_ne_nil _ _) htrim (unsplit_slash_iff.2 (h _ rfl))
    | slash => exact absurd rfl (hp _)
    | plain => exact absurd rfl (hp _)
  · have hunsplit := readAll_unsplit (split_eq_ok.1 hsplit).2.1 part hpart hengine
    obtain ⟨c, s, rest, hclause, hc, hskip, hnot⟩ := hunsplit.exists_literal hsep
    refine ⟨⟨c, s, rest, hclause, hc, hskip, hnot⟩, ?_⟩
    rw [hclause]
    constructor
    · rintro ⟨needle, hneedle⟩
      obtain ⟨rfl, hflags⟩ := (readsAs_of_parse hneedle).of_substring hc
      exact ⟨s, rfl, hflags⟩
    · rintro ⟨u, hu, hflags⟩
      cases hu
      have hparse : TextPattern.parse ('/' :: s) = .ok (TextPattern.lowered ('/' :: s)) := by
        simp [TextPattern.parse, hflags]
      exact ⟨_, hparse⟩

theorem split_text_slashes :
    split .css "text=/a>>b/".toList = .ok [⟨.text, "/a>>b/", 5, false⟩] ∧
    split .css "text=/a/b>>c/".toList ≠ .ok [⟨.text, "/a/b>>c/", 5, false⟩] ∧
    ∃ part, split .css "text=/a>>b/x".toList = .ok [part] ∧
      part.clause.toList = "/a>>b/x".toList ∧
      ∃ needle, TextPattern.parse part.clause.toList = .ok (.substring needle) := by
  obtain ⟨hone, hparts⟩ := split_text .css
  have hregex (t source : List Char) (ht : TextPattern.parse t = TextPattern.readRegex source [])
      (hsource : (RegexLibrary.compile? source []).isSome = true) :
      ∃ p, TextPattern.parse t = .ok p ∧ ∀ needle, p ≠ .substring needle := by
    obtain ⟨program, hprogram⟩ := Option.isSome_iff_exists.1 hsource
    refine ⟨.regex (String.ofList source) (String.ofList []) program, ?_, nofun⟩
    rw [ht, TextPattern.readRegex, hprogram]
  have hpart : split .css "text=/a>>b/x".toList = .ok [⟨.text, "/a>>b/x", 5, false⟩] := by decide +kernel
  refine ⟨?_, fun h => ?_, _, hpart, rfl, ?_⟩
  · obtain ⟨p, hp, hne⟩ := hregex "/a>>b/".toList "a>>b".toList rfl (by decide +kernel)
    refine (hone _ p (by decide) hp hne).2 fun s hs => ?_
    cases hs
    decide +kernel
  · obtain ⟨p, hp, hne⟩ := hregex "/a/b>>c/".toList "a/b>>c".toList rfl (by decide +kernel)
    exact (hone _ p (by decide) hp hne).1 h _ rfl (by decide +kernel)
  · obtain ⟨-, hflags⟩ := hparts _ _ hpart _ (List.mem_singleton_self _) rfl (by decide +kernel)
    exact hflags.2 ⟨_, rfl, by decide⟩

end Part

end Umbra
