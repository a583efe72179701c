import Umbra.Proofs.Chain.Places

/-!
# What a chain is made of

A chain that is cut into parts is their clauses, with a separator between two of them, the marks that
they start with, and white space around all of these. Nothing is lost and nothing read twice, although
the head of a part is read once before its end is known and once more afterwards.
-/

namespace Umbra

open Text

theorem Engine.name_of_ofName? {name : String} {engine : Engine}
    (h : Engine.ofName? name = some engine) : engine.name = name := by
  simpa using List.find?_some h

namespace Part

/-! ## Marks -/

/-- How a part says which engine is meant and whether it is captured: with nothing, or with the name
of the engine, an equals sign and white space around that, and a star in front if it is captured. -/
inductive Marked (defaultEngine : Engine) : List Char → Engine → Bool → Prop
  | nothing : Marked defaultEngine [] defaultEngine false
  | name (engine : Engine) {left right : List Char} (hleft : Blank left) (hright : Blank right) :
    Marked defaultEngine (engine.name.toList ++ (left ++ '=' :: right)) engine false
  | star (engine : Engine) {left right : List Char} (hleft : Blank left) (hright : Blank right) :
    Marked defaultEngine ('*' :: (engine.name.toList ++ (left ++ '=' :: right))) engine true

/-- The name of an engine is read with its equals sign and the white space around that. -/
theorem exists_mark {engine : Engine} {s name rest : List Char}
    (hname : readEngineName? s = some (name, rest))
    (hengine : Engine.ofName? (String.ofList name) = some engine) :
    ∃ left right, Blank left ∧ Blank right ∧
      s = engine.name.toList ++ (left ++ '=' :: right) ++ trimStart rest := by
  obtain ⟨-, -, left, hleft, rfl⟩ := readEngineName?_iff.1 hname
  have hspelled : engine.name.toList = name := by
    rw [Engine.name_of_ofName? hengine, String.toList_ofList]
  refine ⟨left, rest.takeWhile isBlank, hleft, mem_takeWhile_isBlank rest, ?_⟩
  simp [hspelled, takeWhile_append_trimStart]

/-- The head of a part is white space and a mark. -/
theorem exists_marked {defaultEngine engine : Engine} {s : List Char}
    (h : (readHead s).engine? defaultEngine = some engine) :
    ∃ space mark, Blank space ∧ Marked defaultEngine mark engine (readHead s).captured ∧
      s = space ++ mark ++ (readHead s).clause ∧
      trimStart (readHead s).clause = (readHead s).clause := by
  have hspace : Blank (s.takeWhile isBlank) := mem_takeWhile_isBlank s
  have hsplit := takeWhile_append_trimStart s
  -- a star is a mark only in front of a name with an equals sign, and else the start of the clause
  by_cases hstar : ∀ t, trimStart s = '*' :: t → readEngineName? t = none
  · rw [readHead_unmarked hstar] at h ⊢
    cases hname : readEngineName? (trimStart s) with
    | none =>
      rw [hname] at h
      cases h
      exact ⟨_, [], hspace, .nothing, by simp [hsplit], trimStart_trimStart s⟩
    | some p =>
      rw [hname] at h
      obtain ⟨left, right, hleft, hright, hs⟩ := exists_mark hname h
      refine ⟨_, _, hspace, .name engine hleft hright, ?_, trimStart_trimStart p.2⟩
      calc s = s.takeWhile isBlank ++ trimStart s := hsplit.symm
        _ = _ := by rw [hs, ← List.append_assoc]
  · simp only [not_forall] at hstar
    obtain ⟨t, ht, hname⟩ := hstar
    obtain ⟨p, hname⟩ := Option.ne_none_iff_exists'.1 hname
    rw [readHead_starred ht hname] at h ⊢
    obtain ⟨left, right, hleft, hright, rfl⟩ := exists_mark hname h
    refine ⟨_, _, hspace, .star engine hleft hright, ?_, trimStart_trimStart p.2⟩
    calc s = s.takeWhile isBlank ++ trimStart s := hsplit.symm
      _ = _ := by rw [ht, ← List.cons_append, ← List.append_assoc]

/-! ## Parts in their places -/

/-- The clause of a part stands behind `before`, where the byte offset `start` is. -/
structure Stands (defaultEngine : Engine) (start : Nat) (before : List Char) (part : Part) : Prop where
  before_eq : ∃ space mark, before = space ++ mark ∧ Blank space ∧
    Marked defaultEngine mark part.engine part.captured
  clause_ne : part.clause.toList ≠ []
  trim_clause : trim part.clause.toList = part.clause.toList
  offset_eq : part.offset = start + byteLength before

/-- A text from the byte offset `start` on is made of parts, separators and white space. -/
inductive Laid (defaultEngine : Engine) : Nat → List Char → List Part → Prop
  | last {start : Nat} {before behind : List Char} {part : Part}
    (hpart : Stands defaultEngine start before part) (hbehind : Blank behind) :
    Laid defaultEngine start (before ++ part.clause.toList ++ behind) [part]
  | cons {start : Nat} {before behind rest : List Char} {part : Part} {parts : List Part}
    (hpart : Stands defaultEngine start before part) (hbehind : Blank behind)
    (hrest : Laid defaultEngine
      (start + byteLength (before ++ part.clause.toList ++ behind ++ separator)) rest parts) :
    Laid defaultEngine start (before ++ part.clause.toList ++ behind ++ separator ++ rest)
      (part :: parts)

theorem stands_of_ofSegment {defaultEngine : Engine} {front text after : List Char} {part : Part}
    (h : ofSegment defaultEngine (front ++ (text ++ after)) ⟨text, after⟩ = .ok part) :
    ∃ before behind, text = before ++ part.clause.toList ++ behind ∧ Blank behind ∧
      Stands defaultEngine (byteLength front) before part := by
  obtain ⟨hengine, hne, hclause, hoffset, hcaptured⟩ := ofSegment_eq_ok.1 h
  dsimp only at hengine hne hclause hoffset hcaptured
  obtain ⟨space, mark, hspace, hmark, htext, hstart⟩ := exists_marked hengine
  obtain ⟨behind, hbehind, htrim⟩ := exists_trimEnd (readHead text).clause
  have htoList : part.clause.toList = trimEnd (readHead text).clause := by
    rw [hclause, String.toList_ofList]
  refine ⟨space ++ mark, behind, ?_, hbehind, ⟨space, mark, rfl, hspace, hcaptured ▸ hmark⟩, ?_, ?_, ?_⟩
  · rw [htoList, List.append_assoc, ← htrim]
    exact htext
  · rwa [htoList]
  · rw [htoList]
    exact trim_trimEnd hstart
  · have hwhole : front ++ (text ++ after) =
        (front ++ (space ++ mark)) ++ ((readHead text).clause ++ after) := by
      nth_rewrite 1 [htext]
      simp
    rw [hoffset, hwhole, offset_append, byteLength_append]

/-- What is cut into parts is made of them. -/
theorem Cuts.laid {defaultEngine : Engine} {front s : List Char} {parts : List Part}
    (h : Cuts defaultEngine (front ++ s) s parts) : Laid defaultEngine (byteLength front) s parts := by
  -- what was cut off already moves to the front, so the offset of the rest grows with it
  generalize hwhole : front ++ s = whole at h
  induction h generalizing front with
  | @last s part hcut hpart =>
    subst hwhole
    have hwhole : ofSegment defaultEngine (front ++ (s ++ [])) ⟨s, []⟩ = .ok part := by
      rwa [List.append_nil]
    obtain ⟨before, behind, rfl, hbehind, hstands⟩ := stands_of_ofSegment hwhole
    exact .last hstands hbehind
  | @cons s text rest part parts hcut hpart _ ih =>
    subst hwhole
    obtain ⟨-, -, rfl⟩ := exists_of_cutFirst hcut
    obtain ⟨before, behind, htext, hbehind, hstands⟩ := stands_of_ofSegment hpart
    have hfront :
        (front ++ (text ++ separator)) ++ rest = front ++ (text ++ (separator ++ rest)) := by
      simp
    have hrest := ih hfront
    rw [byteLength_append, htext] at hrest
    rw [htext, ← List.append_assoc]
    exact .cons hstands hbehind hrest

/-! ## Slices -/

theorem Laid.le_offset {defaultEngine : Engine} {start : Nat} {s : List Char} {parts : List Part}
    (h : Laid defaultEngine start s parts) : ∀ part ∈ parts, start ≤ part.offset := by
  induction h with
  | last hpart =>
    refine List.forall_mem_singleton.2 ?_
    rw [hpart.offset_eq]
    exact Nat.le_add_right ..
  | cons hpart _ _ ih =>
    refine List.forall_mem_cons.2 ⟨?_, fun part hmem => (Nat.le_add_right ..).trans (ih part hmem)⟩
    rw [hpart.offset_eq]
    exact Nat.le_add_right ..

/-- Each clause ends before the next one starts, with a separator between the two. -/
theorem Laid.pairwise {defaultEngine : Engine} {start : Nat} {s : List Char} {parts : List Part}
    (h : Laid defaultEngine start s parts) : parts.Pairwise fun p q =>
      p.offset + byteLength p.clause.toList + byteLength separator ≤ q.offset := by
  induction h with
  | last => exact List.pairwise_singleton ..
  | cons hpart _ hrest ih =>
    refine List.pairwise_cons.2 ⟨fun q hq => ?_, ih⟩
    have hle := hrest.le_offset q hq
    simp only [byteLength_append] at hle
    rw [hpart.offset_eq]
    omega

/-- The parts of a chain are its slices, in order, with marks, separators and white space between them
and nothing else. At most one of them is captured. -/
theorem split_laid (defaultEngine : Engine) (chain : List Char) (parts : List Part)
    (h : split defaultEngine chain = .ok parts) :
    Laid defaultEngine 0 chain parts ∧
    (∀ part ∈ parts, ∃ front behind, chain = front ++ (part.clause.toList ++ behind) ∧
      part.offset = byteLength front) ∧
    (parts.Pairwise fun p q =>
      p.offset + byteLength p.clause.toList + byteLength separator ≤ q.offset) ∧
    parts.countP Part.captured ≤ 1 := by
  obtain ⟨-, hread, hcount⟩ := split_eq_ok.1 h
  have hcuts := readAll_eq_ok.1 hread
  have hlaid : Laid defaultEngine (byteLength []) chain parts := hcuts.laid
  exact ⟨hlaid, fun part => hcuts.exists_append List.suffix_rfl, hlaid.pairwise, hcount⟩

theorem split_laid_starred :
    split .css " é >>*text = \">> b\"\u00A0>> css:light=c\t".toList =
        .ok [⟨.css, "é", 1, false⟩, ⟨.text, "\">> b\"", 14, true⟩, ⟨.cssLight, "c", 35, false⟩] ∧
      Laid .css 0 " é >>*text = \">> b\"\u00A0>> css:light=c\t".toList
        [⟨.css, "é", 1, false⟩, ⟨.text, "\">> b\"", 14, true⟩, ⟨.cssLight, "c", 35, false⟩] ∧
      [Part.mk .css "é" 1 false, ⟨.text, "\">> b\"", 14, true⟩, ⟨.cssLight, "c", 35, false⟩].Pairwise
        fun p q => p.offset + byteLength p.clause.toList + byteLength separator ≤ q.offset := by
  have hsplit : split .css " é >>*text = \">> b\"\u00A0>> css:light=c\t".toList =
      .ok [⟨.css, "é", 1, false⟩, ⟨.text, "\">> b\"", 14, true⟩, ⟨.cssLight, "c", 35, false⟩] := by
    decide +kernel
  obtain ⟨hlaid, -, hpairwise, -⟩ := split_laid .css _ _ hsplit
  exact ⟨hsplit, hlaid, hpairwise⟩

end Part

end Umbra
