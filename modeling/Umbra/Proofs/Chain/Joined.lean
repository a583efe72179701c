import Umbra.Proofs.Chain.TextPart
import Umbra.Proofs.Selector.Openings

/-!
# Joined chains

Two chains with a separator between them are cut into the parts of both. What follows a part has no
say in where the part ends, in its head or in its clause. Only an open slash at the start of a text is
different: a slash behind it would make a literal of the two.
-/

namespace Umbra

open Selector Text

/-- The same part further to the right. -/
def Part.shift (n : Nat) (p : Part) : Part := { p with offset := p.offset + n }

/-! ## White space and occurrences -/

/-- White space, and behind it a greater-than sign or nothing. -/
inductive Behind : List Char → Prop
  | nil : Behind []
  | sign {s : List Char} : Behind ('>' :: s)
  | blank {c : Char} {s : List Char} (hc : isBlank c = true) (rest : Behind s) : Behind (c :: s)

theorem Behind.mem_of_isPrefix {s t : List Char} (ht : Behind t) (hs : s <+: t) {c : Char}
    (hc : c ∈ s) (hblank : isBlank c = false) : '>' ∈ s := by
  induction ht generalizing s with
  | nil =>
    rw [List.prefix_nil.1 hs] at hc
    cases hc
  | sign =>
    obtain ⟨d, s, rfl⟩ := List.exists_cons_of_ne_nil (List.ne_nil_of_mem hc)
    obtain ⟨rfl, -⟩ := List.cons_prefix_cons.1 hs
    exact List.mem_cons_self ..
  | blank hd _ ih =>
    obtain ⟨d, s, rfl⟩ := List.exists_cons_of_ne_nil (List.ne_nil_of_mem hc)
    obtain ⟨rfl, htail⟩ := List.cons_prefix_cons.1 hs
    rcases List.mem_cons.1 hc with rfl | hc
    · rw [hd] at hblank
      cases hblank
    · exact List.mem_cons_of_mem _ (ih htail hc)

/-- The first occurrence is one, and none starts before it. -/
theorem cutBefore?_eq_some {needle s before after : List Char} (hne : needle ≠ []) :
    cutBefore? needle s = some (before, after) ↔ s = before ++ after ∧ needle <+: after ∧
      ∀ v, v <:+ before → v ≠ [] → ¬ needle <+: v ++ after := by
  induction s generalizing before with
  | nil =>
    rw [cutBefore?, if_neg (by simpa using hne)]
    constructor
    · intro h
      cases h
    · rintro ⟨hs, hafter, -⟩
      obtain ⟨-, rfl⟩ := List.append_eq_nil_iff.1 hs.symm
      exact absurd (List.prefix_nil.1 hafter) hne
  | cons c s ih =>
    rw [cutBefore?]
    by_cases hstart : needle <+: c :: s
    · rw [if_pos (List.isPrefixOf_iff_prefix.2 hstart)]
      constructor
      · intro h
        cases h
        exact ⟨rfl, hstart, fun v hv hne => absurd (List.suffix_nil.1 hv) hne⟩
      · rintro ⟨hs, -, hfirst⟩
        cases before with
        | nil => rw [hs, List.nil_append]
        | cons d before =>
          exact absurd (hs ▸ hstart) (hfirst _ List.suffix_rfl (List.cons_ne_nil d before))
    · rw [if_neg (mt List.isPrefixOf_iff_prefix.1 hstart), Option.map_eq_some_iff]
      constructor
      · rintro ⟨⟨b, rest⟩, hb, heq⟩
        cases heq
        obtain ⟨rfl, hafter, hfirst⟩ := ih.1 hb
        refine ⟨rfl, hafter, fun v hv hv' => ?_⟩
        rcases List.suffix_cons_iff.1 hv with rfl | hv
        · exact hstart
        · exact hfirst v hv hv'
      · rintro ⟨hs, hafter, hfirst⟩
        cases before with
        | nil => exact absurd (hs ▸ hafter) hstart
        | cons d b =>
          obtain ⟨rfl, rfl⟩ := List.cons.inj hs
          have hb := ih.2 ⟨rfl, hafter, fun v hv => hfirst v (hv.trans (List.suffix_cons ..))⟩
          exact ⟨_, hb, rfl⟩

theorem cutBefore?_append_of_some {needle s before after : List Char} (hne : needle ≠ [])
    (h : cutBefore? needle s = some (before, after)) (t : List Char) :
    cutBefore? needle (s ++ t) = some (before, after ++ t) := by
  obtain ⟨rfl, hafter, hfirst⟩ := (cutBefore?_eq_some hne).1 h
  refine (cutBefore?_eq_some hne).2
    ⟨by simp, hafter.trans (List.prefix_append ..), fun v hv hv' hstart => hfirst v hv hv' ?_⟩
  rw [← List.append_assoc] at hstart
  refine List.prefix_of_prefix_length_le hstart (List.prefix_append ..) ?_
  rw [List.length_append]
  exact Nat.le_add_left_of_le hafter.length_le

theorem cutBefore?_space_append {needle s after : List Char} {c : Char} (hc : c ∉ needle)
    (hne : needle ≠ []) (h : cutBefore? needle s = none) (hafter : needle <+: after) :
    cutBefore? needle (s ++ c :: after) = some (s ++ [c], after) := by
  refine (cutBefore?_eq_some hne).2 ⟨by simp, hafter, fun v hv hv' hstart => ?_⟩
  obtain ⟨u, rfl, hu⟩ : ∃ u, v = u ++ [c] ∧ u <:+ s := by
    rcases List.suffix_concat_iff.1 hv with rfl | ⟨u, hu, hsuffix⟩
    · exact absurd rfl hv'
    · exact ⟨u, hu, hsuffix⟩
  rw [List.append_assoc, List.singleton_append] at hstart
  have hinfix := (prefix_of_prefix_append hc hstart).isInfix.trans hu.isInfix
  exact cutBefore?_eq_none.1 h hinfix

/-! ## Heads -/

namespace Part

theorem readEngineName?_append {t : List Char} (ht : Behind t) (s : List Char) :
    readEngineName? (s ++ t) = (readEngineName? s).map fun p => (p.1, p.2 ++ t) := by
  cases h : readEngineName? s with
  | some p =>
    obtain ⟨hchars, hletter, space, hspace, rfl⟩ := readEngineName?_iff.1 h
    exact readEngineName?_iff.2 ⟨hchars, hletter, space, hspace, by simp⟩
  | none =>
    rw [Option.map_none, Option.eq_none_iff_forall_ne_some]
    rintro ⟨name, rest⟩ hname
    obtain ⟨hchars, hletter, space, hspace, heq⟩ := readEngineName?_iff.1 hname
    have hfree : '>' ∉ name ++ (space ++ ['=']) := by
      have hmem : '>' ∉ name := fun hmem => (isEngineChar_spec (hchars '>' hmem)).2.2 rfl
      have hequals : '>' ≠ '=' := by decide
      simp [hmem, hequals, not_mem_of_isBlank hspace]
    have heq : (name ++ (space ++ ['='])) ++ rest = s ++ t := by simp [heq]
    have hnamed (u : List Char) : Named (name ++ (space ++ ['=']) ++ u) name u :=
      ⟨hchars, hletter, space, hspace, by simp⟩
    rcases List.append_eq_append_iff.1 heq with ⟨u, rfl, rfl⟩ | ⟨u, hu, rfl⟩
    · rw [readEngineName?_iff.2 (hnamed u)] at h
      cases h
    · rcases List.eq_nil_or_concat u with rfl | ⟨v, c, rfl⟩
      · have hs := hnamed []
        rw [List.append_nil, hu, List.append_nil] at hs
        rw [readEngineName?_iff.2 hs] at h
        cases h
      · -- the equals sign would stand behind the greater-than sign
        rw [List.concat_eq_append] at hu ht
        have hends : name ++ space ++ ['='] = s ++ v ++ [c] := by simpa using hu
        obtain ⟨-, rfl⟩ := append_singleton_inj hends
        have hmem := ht.mem_of_isPrefix (List.prefix_append _ _) (c := '=') (by simp) (by decide)
        exact absurd (hu ▸ List.mem_append_right s hmem) hfree

theorem trimStart_ne_nil_of_readHead {s : List Char} (hs : (readHead s).clause ≠ []) :
    trimStart s ≠ [] := by
  intro hnil
  rw [readHead, hnil] at hs
  exact hs rfl

/-- The clause gets longer by what stands behind it, and the rest of the head stays. -/
theorem readHead_append {s t : List Char} (ht : Behind t) (hs : (readHead s).clause ≠ []) :
    readHead (s ++ t) = { readHead s with clause := (readHead s).clause ++ t } := by
  have htext := trimStart_ne_nil_of_readHead hs
  have hstart := trimStart_append htext t
  by_cases hstar : ∀ v, trimStart s = '*' :: v → readEngineName? v = none
  · have hstar' : ∀ v, trimStart (s ++ t) = '*' :: v → readEngineName? v = none := by
      intro v hv
      obtain ⟨c, u, hu⟩ := List.exists_cons_of_ne_nil htext
      rw [hstart, hu, List.cons_append] at hv
      obtain ⟨rfl, rfl⟩ := List.cons.inj hv
      rw [readEngineName?_append ht, hstar u hu, Option.map_none]
    rw [readHead_unmarked hstar] at hs ⊢
    rw [readHead_unmarked hstar', hstart, readEngineName?_append ht]
    cases hname : readEngineName? (trimStart s) with
    | none => rfl
    | some p =>
      rw [hname] at hs
      dsimp only [Option.map_some]
      rw [trimStart_append hs]
  · simp only [not_forall] at hstar
    obtain ⟨v, hv, hname⟩ := hstar
    obtain ⟨⟨name, rest⟩, hname⟩ := Option.ne_none_iff_exists'.1 hname
    rw [readHead_starred hv hname] at hs ⊢
    have hv' : trimStart (s ++ t) = '*' :: (v ++ t) := hstart.trans (congrArg (· ++ t) hv)
    have hname' : readEngineName? (v ++ t) = some (name, rest ++ t) := by
      rw [readEngineName?_append ht, hname, Option.map_some]
    rw [readHead_starred hv' hname', trimStart_append hs]

/-! ## First parts -/

theorem separator_ne_nil : separator ≠ [] := List.cons_ne_nil _ _

theorem space_not_mem_separator : ' ' ∉ separator := by decide

theorem stops_separator {s : List Char} (h : separator <+: s) : Stops separator .outside s := by
  obtain ⟨t, rfl⟩ := h
  exact .intro (by decide) (List.prefix_append separator t)

/-- A text that starts with a slash may get a literal at its start by what stands behind it. Any other
is searched from the same place on. -/
theorem Searched.append {clause rest : List Char} (h : Searched clause rest)
    (hne : clause ≠ []) (hslash : clause.head? ≠ some '/') (t : List Char) :
    Searched (clause ++ t) (rest ++ t) := by
  cases h with
  | nil => exact absurd rfl hne
  | literal hc h => exact .literal hc (skipLiteral?_append hc.spec.1 h t)
  | plain hc s => exact .plain hc (s ++ t)
  | slash => exact absurd rfl hslash

theorem cutText_eq_none {s clause : List Char} : cutText s clause = .ok none ↔
    ∃ rest, Searched clause rest ∧ cutBefore? separator rest = none := by
  simp only [cutText_eq_ok, Option.map_eq_none_iff]

theorem cutText_eq_some {s clause text after : List Char} :
    cutText s clause = .ok (some (text, after)) ↔ ∃ rest before, Searched clause rest ∧
      cutBefore? separator rest = some (before, after) ∧
      s.take (s.length - after.length) = text := by
  rw [cutText_eq_ok]
  constructor
  · rintro ⟨rest, hrest, hfound⟩
    obtain ⟨⟨before, after'⟩, hcut, heq⟩ := Option.map_eq_some_iff.1 hfound
    cases heq
    exact ⟨rest, before, hrest, hcut, rfl⟩
  · rintro ⟨rest, before, hrest, hcut, rfl⟩
    exact ⟨rest, hrest, by rw [hcut]; rfl⟩

section First

variable {defaultEngine : Engine} {s t text after : List Char}

/-- Whether a part is read as text. -/
def ReadAsText (defaultEngine : Engine) (s : List Char) : Prop :=
  ((readHead s).engine? defaultEngine).any Engine.isText = true

theorem readAsText_iff {u : List Char} (h : readHead t = { readHead s with clause := u }) :
    ReadAsText defaultEngine t ↔ ReadAsText defaultEngine s := by
  rw [ReadAsText, h]
  exact Iff.rfl

theorem cutFirst_of_text (h : ReadAsText defaultEngine s) :
    cutFirst defaultEngine s = cutText s (readHead s).clause := if_pos h

theorem cutFirst_of_not_text (h : ¬ ReadAsText defaultEngine s) :
    cutFirst defaultEngine s = findTopLevel separator s := if_neg h

variable (hhead : readHead (s ++ t) = { readHead s with clause := (readHead s).clause ++ t })
  (hne : (readHead s).clause ≠ [])
  (hslash : ReadAsText defaultEngine s → (readHead s).clause.head? ≠ some '/')

include hhead hne hslash

theorem cutFirst_append (hcut : cutFirst defaultEngine s = .ok (some (text, after))) :
    cutFirst defaultEngine (s ++ t) = .ok (some (text, after ++ t)) := by
  have htext : ReadAsText defaultEngine (s ++ t) ↔ ReadAsText defaultEngine s := readAsText_iff hhead
  by_cases h : ReadAsText defaultEngine s
  · rw [cutFirst_of_text h] at hcut
    obtain ⟨rest, before, hrest, hfound, rfl⟩ := cutText_eq_some.1 hcut
    rw [cutFirst_of_text (htext.2 h), hhead]
    refine cutText_eq_some.2 ⟨_, _, hrest.append hne (hslash h) t,
      cutBefore?_append_of_some separator_ne_nil hfound t, ?_⟩
    rw [List.length_append, List.length_append, Nat.add_sub_add_right,
      List.take_append_of_le_length (Nat.sub_le ..)]
  · rw [cutFirst_of_not_text h] at hcut
    rw [cutFirst_of_not_text (mt htext.1 h)]
    exact findTopLevel_append_of_some separator_ne_nil hcut t

theorem cutFirst_space (hcut : cutFirst defaultEngine s = .ok none) (ht : t = ' ' :: after)
    (hafter : separator <+: after) :
    cutFirst defaultEngine (s ++ t) = .ok (some (s ++ [' '], after)) := by
  have htext : ReadAsText defaultEngine (s ++ t) ↔ ReadAsText defaultEngine s := readAsText_iff hhead
  by_cases h : ReadAsText defaultEngine s
  · rw [cutFirst_of_text h] at hcut
    obtain ⟨rest, hrest, hfound⟩ := cutText_eq_none.1 hcut
    rw [cutFirst_of_text (htext.2 h), hhead]
    refine cutText_eq_some.2 ⟨_, rest ++ [' '], hrest.append hne (hslash h) t, ?_, ?_⟩
    · rw [ht]
      exact cutBefore?_space_append space_not_mem_separator separator_ne_nil hfound hafter
    · have hlength : (s ++ [' '] ++ after).length - after.length = (s ++ [' ']).length := by
        rw [List.length_append, Nat.add_sub_cancel]
      rw [ht, List.append_cons, hlength, List.take_left]
  · rw [cutFirst_of_not_text h] at hcut
    rw [cutFirst_of_not_text (mt htext.1 h), ht]
    exact findTopLevel_space_append separator_ne_nil space_not_mem_separator hcut
      (stops_separator hafter)

end First

/-! ## Parts -/

theorem offset_append_append (whole rest t : List Char) :
    Text.offset (whole ++ t) (rest ++ t) = Text.offset whole rest := by
  rw [Text.offset, byteLength_append, byteLength_append, Nat.add_sub_add_right, Text.offset]

section Parts

variable {defaultEngine : Engine} {whole text after : List Char} {part : Part}

/-- The clause of a part starts where the part says so. -/
theorem clause_of_ofSegment (h : ofSegment defaultEngine whole ⟨text, after⟩ = .ok part) :
    (readHead text).clause ≠ [] ∧ (ReadAsText defaultEngine text ↔ part.engine.isText = true) ∧
      (readHead text).clause.head? = part.clause.toList.head? := by
  obtain ⟨hengine, hne, hclause, -, -⟩ := ofSegment_eq_ok.1 h
  dsimp only at hengine hne hclause
  obtain ⟨v, hv⟩ := trimEnd_isPrefix (readHead text).clause
  refine ⟨fun hnil => ?_, ?_, ?_⟩
  · rw [hnil] at hne
    exact hne rfl
  · rw [ReadAsText, hengine]
    exact Iff.rfl
  · rw [hclause, String.toList_ofList]
    nth_rewrite 1 [← hv]
    exact List.head?_append_of_ne_nil _ hne

/-- A part stays the same with more behind it, and with a space at its end. -/
theorem ofSegment_append (h : ofSegment defaultEngine whole ⟨text, after⟩ = .ok part)
    {space after' t : List Char} (hspace : space = [] ∨ space = [' '])
    (ht : space ++ after' = after ++ t) :
    ofSegment defaultEngine (whole ++ t) ⟨text ++ space, after'⟩ = .ok part := by
  obtain ⟨hengine, hne, hclause, hoffset, hcaptured⟩ := ofSegment_eq_ok.1 h
  dsimp only at hengine hne hclause hoffset hcaptured
  have hbehind : Behind space := by
    rcases hspace with rfl | rfl
    · exact .nil
    · exact .blank isBlank_space .nil
  have htrim : trimEnd ((readHead text).clause ++ space) = trimEnd (readHead text).clause := by
    rcases hspace with rfl | rfl
    · rw [List.append_nil]
    · exact trimEnd_concat_space _
  refine ofSegment_eq_ok.2 ?_
  dsimp only
  rw [readHead_append hbehind (clause_of_ofSegment h).1]
  refine ⟨hengine, by rwa [htrim], by rwa [htrim], ?_, hcaptured⟩
  dsimp only
  rw [List.append_assoc, ht, ← List.append_assoc, offset_append_append]
  exact hoffset

/-- The head of a text is that of its first part, and stays the same with more behind it. -/
theorem readHead_of_cutFirst {s : List Char}
    (hcut : cutFirst defaultEngine s = .ok (some (text, after)))
    (hne : (readHead text).clause ≠ []) :
    readHead s = { readHead text with clause := (readHead text).clause ++ after } ∧
      ∀ t, readHead (s ++ t) = { readHead s with clause := (readHead s).clause ++ t } := by
  obtain ⟨rest, rfl, rfl⟩ := exists_of_cutFirst hcut
  have hread (u : List Char) : readHead (text ++ (separator ++ u)) =
      { readHead text with clause := (readHead text).clause ++ (separator ++ u) } :=
    readHead_append .sign hne
  refine ⟨hread rest, fun t => ?_⟩
  rw [List.append_assoc, List.append_assoc, hread, hread]
  simp

theorem readHead_cons_space (s : List Char) : readHead (' ' :: s) = readHead s := by
  have hstart : trimStart (' ' :: s) = trimStart s := List.dropWhile_cons_of_pos isBlank_space
  rw [readHead, hstart, ← readHead]

theorem ofSegment_cons_space (text after : List Char) :
    ofSegment defaultEngine whole ⟨' ' :: text, after⟩ =
      ofSegment defaultEngine whole ⟨text, after⟩ := by
  rw [ofSegment, ofSegment]
  dsimp only
  rw [readHead_cons_space]

/-- A space in front of a text stands in front of its first part. -/
theorem cutFirst_cons_space {s : List Char} {found : Option (List Char × List Char)}
    (hcut : cutFirst defaultEngine s = .ok found) :
    cutFirst defaultEngine (' ' :: s) = .ok (found.map fun p => (' ' :: p.1, p.2)) := by
  have htext : ReadAsText defaultEngine (' ' :: s) ↔ ReadAsText defaultEngine s := by
    rw [ReadAsText, readHead_cons_space, ReadAsText]
  by_cases h : ReadAsText defaultEngine s
  · rw [cutFirst_of_text (htext.2 h), readHead_cons_space]
    cases found with
    | none =>
      rw [cutFirst_of_text h] at hcut
      exact cutText_eq_none.2 (cutText_eq_none.1 hcut)
    | some p =>
      obtain ⟨rest, hrest, hs⟩ := exists_of_cutFirst hcut
      rw [cutFirst_of_text h] at hcut
      obtain ⟨searched, before, hsearched, hfound, htake⟩ := cutText_eq_some.1 hcut
      refine cutText_eq_some.2 ⟨searched, before, hsearched, hfound, ?_⟩
      rw [← hs, List.length_append, Nat.add_sub_cancel] at htake
      rw [← hs, ← List.cons_append, List.length_append, Nat.add_sub_cancel, List.take_left]
  · rw [cutFirst_of_not_text h] at hcut
    have hspace : findTopLevel separator (' ' :: s) =
        Read.prepend [' '] (findTopLevel separator s) := findFrom_skip (Or.inl rfl) (Or.inr rfl)
    rw [cutFirst_of_not_text (mt htext.1 h), hspace, hcut]
    rfl

theorem suffix_of_readHead (text after : List Char) :
    (readHead text).clause ++ after <:+ text ++ after := by
  obtain ⟨before, hbefore, -, -⟩ := exists_before text
  refine ⟨before, ?_⟩
  rw [← List.append_assoc, ← hbefore]

/-- A part lies further to the right with something in front of the whole text. -/
theorem ofSegment_shift (h : ofSegment defaultEngine whole ⟨text, after⟩ = .ok part)
    (hsuffix : text ++ after <:+ whole) (t : List Char) :
    ofSegment defaultEngine (t ++ whole) ⟨text, after⟩ = .ok (part.shift (byteLength t)) := by
  obtain ⟨hengine, hne, hclause, hoffset, hcaptured⟩ := ofSegment_eq_ok.1 h
  dsimp only at hengine hne hclause hoffset hcaptured
  refine ofSegment_eq_ok.2 ⟨hengine, hne, hclause, ?_, hcaptured⟩
  obtain ⟨v, rfl⟩ := (suffix_of_readHead text after).trans hsuffix
  rw [← List.append_assoc, offset_append, byteLength_append, Nat.add_comm]
  rw [offset_append] at hoffset
  exact congrArg (· + byteLength t) hoffset

end Parts

/-- The parts that a text is cut into at the end of `whole`. -/
inductive Cuts (defaultEngine : Engine) (whole : List Char) : List Char → List Part → Prop
  | last {s : List Char} {part : Part} (hcut : cutFirst defaultEngine s = .ok none)
    (hpart : ofSegment defaultEngine whole ⟨s, []⟩ = .ok part) :
    Cuts defaultEngine whole s [part]
  | cons {s text rest : List Char} {part : Part} {parts : List Part}
    (hcut : cutFirst defaultEngine s = .ok (some (text, separator ++ rest)))
    (hpart : ofSegment defaultEngine whole ⟨text, separator ++ rest⟩ = .ok part)
    (hrest : Cuts defaultEngine whole rest parts) :
    Cuts defaultEngine whole s (part :: parts)

theorem length_behind_lt (text rest : List Char) :
    ((separator ++ rest).drop separator.length).length < (text ++ (separator ++ rest)).length := by
  have hlength : 0 < separator.length := Nat.zero_lt_two
  simp only [List.drop_left, List.length_append]
  omega

theorem readAll_eq_ok {defaultEngine : Engine} {whole s : List Char} {parts : List Part} :
    readAll defaultEngine whole s = .ok parts ↔ Cuts defaultEngine whole s parts := by
  constructor
  · intro h
    fun_induction readAll defaultEngine whole s generalizing parts with
    | case1 => cases h
    | case2 s hcut =>
      obtain ⟨part, hpart, h⟩ := bind_eq_ok.1 h
      cases h
      exact .last hcut hpart
    | case3 s text after hcut ih =>
      obtain ⟨rest, rfl, rfl⟩ := exists_of_cutFirst hcut
      obtain ⟨part, hpart, h⟩ := bind_eq_ok.1 h
      split at h
      · rename_i hlt
        obtain ⟨parts', hparts, h⟩ := bind_eq_ok.1 h
        cases h
        exact .cons hcut hpart (ih hlt hparts)
      · rename_i hlt
        exact absurd (length_behind_lt text rest) hlt
  · intro h
    induction h with
    | last hcut hpart =>
      rw [readAll, hcut]
      exact bind_eq_ok.2 ⟨_, hpart, rfl⟩
    | @cons s text rest part parts hcut hpart _ ih =>
      obtain ⟨rest', hrest, rfl⟩ := exists_of_cutFirst hcut
      rw [readAll, hcut]
      refine bind_eq_ok.2 ⟨part, hpart, ?_⟩
      rw [dif_pos (length_behind_lt text rest), List.drop_left]
      exact bind_eq_ok.2 ⟨parts, ih, rfl⟩

/-! ## Joined texts -/

namespace Cuts

variable {defaultEngine : Engine} {whole s : List Char} {parts : List Part}

/-- Behind a space and a separator the parts of another text follow. -/
theorem append (h : Cuts defaultEngine whole s parts)
    (hslash : ∀ part ∈ parts, part.engine.isText = true → part.clause.toList.head? ≠ some '/')
    {t rest : List Char} (ht : t = ' ' :: (separator ++ rest)) {parts' : List Part}
    (h' : Cuts defaultEngine (whole ++ t) rest parts') :
    Cuts defaultEngine (whole ++ t) (s ++ t) (parts ++ parts') := by
  have hbehind : Behind t := ht ▸ .blank isBlank_space .sign
  induction h with
  | @last s part hcut hpart =>
    obtain ⟨hne, htext, hhead⟩ := clause_of_ofSegment hpart
    have hslash' : ReadAsText defaultEngine s → (readHead s).clause.head? ≠ some '/' :=
      fun h => hhead ▸ hslash part (List.mem_cons_self ..) (htext.1 h)
    have hcut' := cutFirst_space (readHead_append hbehind hne) hne hslash' hcut ht
      (List.prefix_append ..)
    exact .cons hcut' (ofSegment_append hpart (Or.inr rfl) (by rw [ht]; rfl)) h'
  | @cons s text rest part parts hcut hpart _ ih =>
    obtain ⟨hne, htext, hhead⟩ := clause_of_ofSegment hpart
    obtain ⟨hread, hreads⟩ := readHead_of_cutFirst hcut hne
    have hclause : (readHead s).clause = (readHead text).clause ++ (separator ++ rest) := by
      rw [hread]
    have htext' : ReadAsText defaultEngine s ↔ ReadAsText defaultEngine text := readAsText_iff hread
    have hslash' : ReadAsText defaultEngine s → (readHead s).clause.head? ≠ some '/' := by
      intro h
      rw [hclause, List.head?_append_of_ne_nil _ hne, hhead]
      exact hslash part (List.mem_cons_self ..) (htext.1 (htext'.1 h))
    have hne' : (readHead s).clause ≠ [] := by
      rw [hclause]
      exact List.append_ne_nil_of_left_ne_nil hne _
    have hcut' := cutFirst_append (hreads t) hne' hslash' hcut
    have hpart' : ofSegment defaultEngine (whole ++ t) ⟨text ++ [], separator ++ (rest ++ t)⟩ =
        .ok part := ofSegment_append hpart (Or.inl rfl) (List.append_assoc separator rest t).symm
    rw [List.append_assoc] at hcut'
    rw [List.append_nil] at hpart'
    exact .cons hcut' hpart' (ih fun part hmem => hslash part (List.mem_cons_of_mem _ hmem))

/-- A space in front of a text belongs to no clause. -/
theorem cons_space (h : Cuts defaultEngine whole s parts) :
    Cuts defaultEngine whole (' ' :: s) parts := by
  cases h with
  | last hcut hpart =>
    exact .last (cutFirst_cons_space hcut) ((ofSegment_cons_space _ _).trans hpart)
  | cons hcut hpart hrest =>
    exact .cons (cutFirst_cons_space hcut) ((ofSegment_cons_space _ _).trans hpart) hrest

/-- Parts lie further to the right with something in front of them. -/
theorem shift (h : Cuts defaultEngine whole s parts) (hs : s <:+ whole) (t : List Char) :
    Cuts defaultEngine (t ++ whole) s (parts.map (Part.shift (byteLength t))) := by
  induction h with
  | last hcut hpart =>
    refine .last hcut (ofSegment_shift hpart ?_ t)
    rwa [List.append_nil]
  | cons hcut hpart _ ih =>
    obtain ⟨-, -, rfl⟩ := exists_of_cutFirst hcut
    have hrest := (List.suffix_append separator _).trans (List.suffix_append _ _) |>.trans hs
    exact .cons hcut (ofSegment_shift hpart hs t) (ih hrest)

end Cuts

theorem split_of_readAll {defaultEngine : Engine} {chain : List Char} {parts : List Part}
    (htrim : (trim chain).isEmpty = false)
    (h : readAll defaultEngine chain chain = .ok parts) : split defaultEngine chain =
      if 1 < parts.countP Part.captured then .error .duplicateCapture else .ok parts := by
  rw [split, htrim, if_neg Bool.false_ne_true, h]
  by_cases hcount : 1 < parts.countP Part.captured
  · rw [if_pos hcount]
    simp only [bind, Except.bind, if_pos hcount]
    rfl
  · rw [if_neg hcount]
    simp only [bind, Except.bind, if_neg hcount]
    rfl

/-- Two chains with a separator between them are cut into the parts of both, unless both of them have a
captured part. An open slash at the start of a text of the first one is ruled out. -/
theorem split_append (defaultEngine : Engine) (a b : List Char) {parts parts' : List Part}
    (ha : split defaultEngine a = .ok parts) (hb : split defaultEngine b = .ok parts')
    (hslash : ∀ part ∈ parts, part.engine.isText = true → part.clause.toList.head? ≠ some '/') :
    split defaultEngine (a ++ " >> ".toList ++ b) =
      if parts.any Part.captured && parts'.any Part.captured then .error .duplicateCapture
      else .ok (parts ++ parts'.map (Part.shift (byteLength a + 4))) := by
  obtain ⟨-, hreada, hcounta⟩ := split_eq_ok.1 ha
  obtain ⟨-, hreadb, hcountb⟩ := split_eq_ok.1 hb
  have htrim : (trim (a ++ " >> ".toList ++ b)).isEmpty = false :=
    not_isEmpty_trim (c := '>') (by decide) (by simp)
  have htail : " >> ".toList ++ b = ' ' :: (separator ++ ' ' :: b) := rfl
  have hlength : byteLength (a ++ " >> ".toList) = byteLength a + 4 := byteLength_append a _
  have hcuts := ((readAll_eq_ok.1 hreadb).shift List.suffix_rfl (a ++ " >> ".toList)).cons_space
  rw [hlength, List.append_assoc] at hcuts
  have hread := readAll_eq_ok.2 ((readAll_eq_ok.1 hreada).append hslash htail hcuts)
  rw [← List.append_assoc] at hread
  have hshift : (parts'.map (Part.shift (byteLength a + 4))).countP Part.captured =
      parts'.countP Part.captured := by
    rw [List.countP_map]
    rfl
  have hboth : 1 < parts.countP Part.captured + parts'.countP Part.captured ↔
      (parts.any Part.captured && parts'.any Part.captured) = true := by
    rw [Bool.and_eq_true, List.any_eq_true, List.any_eq_true, ← List.countP_pos_iff,
      ← List.countP_pos_iff]
    omega
  rw [split_of_readAll htrim hread, List.countP_append, hshift]
  exact if_congr hboth rfl rfl

theorem split_append_quoted :
    split .css ("*css=é[b='>>']".toList ++ " >> ".toList ++ "text=\">>\"".toList) =
      .ok [⟨.css, "é[b='>>']", 5, true⟩, ⟨.text, "\">>\"", 24, false⟩] ∧
    split .css ("*css=p".toList ++ " >> ".toList ++ "q >> *css=r".toList) =
      .error .duplicateCapture ∧
    split .css ("text=/p".toList ++ " >> ".toList ++ "text=q/".toList) =
      .ok [⟨.text, "/p >> text=q/", 5, false⟩] := by
  refine ⟨?_, ?_, by decide +kernel⟩
  · have ha : split .css "*css=é[b='>>']".toList = .ok [⟨.css, "é[b='>>']", 5, true⟩] := by decide +kernel
    have hb : split .css "text=\">>\"".toList = .ok [⟨.text, "\">>\"", 5, false⟩] := by decide +kernel
    refine (split_append .css _ _ ha hb ?_).trans (by decide +kernel)
    exact List.forall_mem_singleton.2 fun h => by cases h
  · have ha : split .css "*css=p".toList = .ok [⟨.css, "p", 5, true⟩] := by decide +kernel
    have hb : split .css "q >> *css=r".toList =
        .ok [⟨.css, "q", 0, false⟩, ⟨.css, "r", 10, true⟩] := by decide +kernel
    refine (split_append .css _ _ ha hb ?_).trans (by decide +kernel)
    exact List.forall_mem_singleton.2 fun h => by cases h

end Part

end Umbra
