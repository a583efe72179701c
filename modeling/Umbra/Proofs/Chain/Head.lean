import Umbra.Proofs.Chain.RoundTrip

/-!
# Heads of parts

What a part says before its clause, a star and the name of an engine, it says as well with less of
the clause behind it.
-/

namespace Umbra

open Text

theorem not_mem_of_isBlank {s : List Char} (h : ∀ c ∈ s, isBlank c = true) : '>' ∉ s := by
  intro hmem
  cases h '>' hmem

namespace Part

/-! ## Names of engines -/

theorem isEngineChar_spec {c : Char} (h : isEngineChar c = true) :
    isBlank c = false ∧ c ≠ '=' ∧ c ≠ '>' := by
  have hrange : 45 ≤ c.toNat ∧ c.toNat ≤ 122 := by
    simp only [isEngineChar, isAsciiLetter, isAsciiDigit, Bool.or_eq_true, Bool.and_eq_true,
      decide_eq_true_eq, beq_iff_eq] at h
    rcases h with ((((⟨hlo, hhi⟩ | ⟨hlo, hhi⟩) | ⟨hlo, hhi⟩) | rfl) | rfl) | rfl
    · have hlo : 97 ≤ c.toNat := hlo
      have hhi : c.toNat ≤ 122 := hhi
      omega
    · have hlo : 65 ≤ c.toNat := hlo
      have hhi : c.toNat ≤ 90 := hhi
      omega
    · have hlo : 48 ≤ c.toNat := hlo
      have hhi : c.toNat ≤ 57 := hhi
      omega
    · decide
    · decide
    · decide
  refine ⟨not_isBlank_of_toNat (by omega) (by omega), ?_, ?_⟩
  · rintro rfl
    cases h
  · rintro rfl
    cases h

/-- The name of an engine, white space and an equals sign stand in front of `rest`. -/
structure Named (s name rest : List Char) : Prop where
  chars : ∀ c ∈ name, isEngineChar c = true
  letter : name.head?.any isAsciiLetter = true
  space : ∃ space, (∀ c ∈ space, isBlank c = true) ∧ s = name ++ (space ++ '=' :: rest)

theorem readEngineName?_iff {s name rest : List Char} :
    readEngineName? s = some (name, rest) ↔ Named s name rest := by
  constructor
  · intro h
    simp only [readEngineName?] at h
    split at h
    · rename_i hletter
      split at h
      · rename_i after hafter
        cases h
        refine ⟨fun c hc => List.mem_takeWhile_imp hc, hletter,
          (s.drop (s.takeWhile isEngineChar).length).takeWhile isBlank,
          fun c hc => List.mem_takeWhile_imp hc, ?_⟩
        rw [← hafter, trimStart, List.takeWhile_append_dropWhile]
        exact (List.prefix_iff_eq_append.1 (List.takeWhile_prefix _)).symm
      · cases h
    · cases h
  · rintro ⟨hchars, hletter, space, hspace, rfl⟩
    have hstop : (space ++ '=' :: rest).takeWhile isEngineChar = [] := by
      cases space with
      | nil => exact List.takeWhile_cons_of_neg (by decide)
      | cons c t =>
        refine List.takeWhile_cons_of_neg fun hc => ?_
        have hblank := hspace c (List.mem_cons_self ..)
        rw [(isEngineChar_spec hc).1] at hblank
        cases hblank
    have hname : (name ++ (space ++ '=' :: rest)).takeWhile isEngineChar = name := by
      rw [List.takeWhile_append_of_pos hchars, hstop, List.append_nil]
    have htrim : trimStart (space ++ '=' :: rest) = '=' :: rest := by
      rw [trimStart, List.dropWhile_append_of_pos hspace]
      rfl
    simp only [readEngineName?, hname, if_pos hletter, List.drop_left, htrim]

theorem Named.exists_cons {s name rest : List Char} (h : Named s name rest) :
    ∃ c t, s = c :: t ∧ isEngineChar c = true := by
  obtain ⟨hchars, hletter, space, -, rfl⟩ := h
  cases name with
  | nil => cases hletter
  | cons c name => exact ⟨c, _, rfl, hchars c (List.mem_cons_self ..)⟩

/-- The name stays with any start of the clause behind it. -/
theorem Named.exists_clause {s name rest : List Char} (h : Named s name rest) :
    ∃ before, s = before ++ trimStart rest ∧ '>' ∉ before ∧ ∀ u, u <+: trimStart rest →
      ∃ r, readEngineName? (before ++ u) = some (name, r) ∧ trimStart r = u := by
  obtain ⟨hchars, hletter, space, hspace, rfl⟩ := h
  have hblank := mem_takeWhile_isBlank rest
  refine ⟨name ++ (space ++ '=' :: rest.takeWhile isBlank), ?_, ?_, fun u hu => ?_⟩
  · simp [takeWhile_append_trimStart]
  · have hname : '>' ∉ name := fun hmem => (isEngineChar_spec (hchars '>' hmem)).2.2 rfl
    have hequals : '>' ≠ '=' := by decide
    simp [hname, hequals, not_mem_of_isBlank hspace, not_mem_of_isBlank hblank]
  · have hnamed : Named (name ++ (space ++ '=' :: rest.takeWhile isBlank) ++ u) name
        (rest.takeWhile isBlank ++ u) := ⟨hchars, hletter, space, hspace, by simp⟩
    exact ⟨_, readEngineName?_iff.2 hnamed,
      trimStart_takeWhile_append rest (trimStart_of_isPrefix hu)⟩

theorem readEngineName?_of_append {s u v : List Char} (hs : u ++ v = s)
    (h : readEngineName? s = none) : readEngineName? u = none := by
  cases hu : readEngineName? u with
  | none => rfl
  | some p =>
    obtain ⟨hchars, hletter, space, hspace, rfl⟩ := readEngineName?_iff.1 hu
    have hnamed : Named s p.1 (p.2 ++ v) := ⟨hchars, hletter, space, hspace, by simp [← hs]⟩
    rw [readEngineName?_iff.2 hnamed] at h
    cases h

/-! ## Stars and names -/

theorem readHead_starred {s t name rest : List Char} (hs : trimStart s = '*' :: t)
    (h : readEngineName? t = some (name, rest)) :
    readHead s = ⟨true, some name, trimStart rest⟩ := by
  simp only [readHead, hs, h, Option.isSome_some, if_true]

/-- Without a mark, what is said before the clause is the name of an engine. -/
theorem readHead_unmarked {s : List Char}
    (hstar : ∀ t, trimStart s = '*' :: t → readEngineName? t = none) :
    readHead s = match readEngineName? (trimStart s) with
      | some (name, after) => ⟨false, some name, trimStart after⟩
      | none => ⟨false, none, trimStart s⟩ := by
  rw [readHead]
  generalize trimStart s = text at hstar ⊢
  split
  rename_i captured rest hmark
  split at hmark
  · rename_i t
    rw [hstar t rfl] at hmark
    cases hmark
    rfl
  · cases hmark
    rfl

/-- What stands before the clause of a part. It says the same with any start of the clause behind it,
and has no separator in it. -/
structure Before (before s : List Char) : Prop where
  eq_append : s = before ++ (readHead s).clause
  free : '>' ∉ before
  readHead_append : ∀ u, u <+: (readHead s).clause →
    readHead (before ++ u) = { readHead s with clause := u }

theorem before_of_unnamed {s : List Char}
    (hstar : ∀ t, trimStart s = '*' :: t → readEngineName? t = none)
    (hname : readEngineName? (trimStart s) = none) : Before (s.takeWhile isBlank) s := by
  have hhead : readHead s = ⟨false, none, trimStart s⟩ := by
    rw [readHead_unmarked hstar, hname]
  constructor
  · rw [hhead, takeWhile_append_trimStart]
  · exact not_mem_of_isBlank (mem_takeWhile_isBlank s)
  · intro u hu
    rw [hhead] at hu ⊢
    have htrim := trimStart_takeWhile_append s (trimStart_of_isPrefix hu)
    obtain ⟨v, hv⟩ := hu
    rw [readHead_unmarked, htrim, readEngineName?_of_append hv hname]
    intro t ht
    rw [htrim] at ht
    subst ht
    exact readEngineName?_of_append rfl (hstar _ hv.symm)

theorem exists_before_of_named {s name rest : List Char}
    (hstar : ∀ t, trimStart s = '*' :: t → readEngineName? t = none)
    (hname : readEngineName? (trimStart s) = some (name, rest)) : ∃ before, Before before s := by
  have hhead : readHead s = ⟨false, some name, trimStart rest⟩ := by
    rw [readHead_unmarked hstar, hname]
  obtain ⟨before, hbefore, hfree, hread⟩ := (readEngineName?_iff.1 hname).exists_clause
  refine ⟨s.takeWhile isBlank ++ before, ?_, ?_, fun u hu => ?_⟩
  · rw [hhead, List.append_assoc, ← hbefore, takeWhile_append_trimStart]
  · simp [not_mem_of_isBlank (mem_takeWhile_isBlank s), hfree]
  · rw [hhead] at hu ⊢
    obtain ⟨r, hr, rfl⟩ := hread u hu
    obtain ⟨c, t, hc, hchar⟩ := (readEngineName?_iff.1 hr).exists_cons
    have hstart : trimStart (before ++ trimStart r) = before ++ trimStart r := by
      refine trimStart_of_head ?_
      simpa [hc] using (isEngineChar_spec hchar).1
    have htrim := trimStart_takeWhile_append s hstart
    rw [List.append_assoc, readHead_unmarked, htrim, hr]
    -- the name does not start with a star
    intro v hv
    rw [htrim, hc] at hv
    obtain ⟨rfl, -⟩ := List.cons.inj hv
    cases hchar

theorem exists_before_of_starred {s t name rest : List Char} (hs : trimStart s = '*' :: t)
    (hname : readEngineName? t = some (name, rest)) : ∃ before, Before before s := by
  have hhead := readHead_starred hs hname
  obtain ⟨before, hbefore, hfree, hread⟩ := (readEngineName?_iff.1 hname).exists_clause
  refine ⟨s.takeWhile isBlank ++ '*' :: before, ?_, ?_, fun u hu => ?_⟩
  · rw [hhead, List.append_assoc, List.cons_append, ← hbefore, ← hs, takeWhile_append_trimStart]
  · simp [not_mem_of_isBlank (mem_takeWhile_isBlank s), hfree]
  · rw [hhead] at hu ⊢
    obtain ⟨r, hr, rfl⟩ := hread u hu
    have hstart : trimStart ('*' :: (before ++ trimStart r)) = '*' :: (before ++ trimStart r) :=
      rfl
    rw [List.append_assoc, List.cons_append]
    exact readHead_starred (trimStart_takeWhile_append s hstart) hr

theorem exists_before (s : List Char) : ∃ before, Before before s := by
  by_cases hstar : ∀ t, trimStart s = '*' :: t → readEngineName? t = none
  · cases hname : readEngineName? (trimStart s) with
    | none => exact ⟨_, before_of_unnamed hstar hname⟩
    | some p => exact exists_before_of_named hstar hname
  · simp only [not_forall] at hstar
    obtain ⟨t, ht, hname⟩ := hstar
    obtain ⟨p, hname⟩ := Option.ne_none_iff_exists'.1 hname
    exact exists_before_of_starred ht hname

end Part

end Umbra
