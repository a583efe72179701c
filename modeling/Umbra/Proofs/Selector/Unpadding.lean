import Umbra.Proofs.Selector.Places

/-!
# White space that can go

What the readers find in a text with white space behind it, they find without the white space as
well, if no escape is cut off: white space closes no quote and no bracket. With the converse, a
selector list is read alike with and without white space at its ends.
-/

namespace Umbra.Selector

open Text

/-- What can be read with white space behind `s` can be read from `s` alone. -/
def Unpads {α : Type} (s : List Char) (x x' : Read α) : Prop :=
  Whole s → ∀ p', x' = .ok p' → ∃ p, x = .ok p

namespace Unpads

variable {α β : Type} {sp s r : List Char}

theorem ok {p : α} {x' : Read α} : Unpads s (.ok p) x' := fun _ _ _ => ⟨p, rfl⟩

theorem error {x : Read α} {e : SyntaxError (List Char)} : Unpads s x (.error e) :=
  fun _ _ h => nomatch h

theorem after {x x' : Read α} (hleaves : Leaves s r) (h : Unpads r x x') : Unpads s x x' :=
  fun hs => h (hleaves.whole_rest hs)

theorem mapped (k : α → β) {x x' : Read α} (h : Unpads s x x') : Unpads s (x.map k) (x'.map k) := by
  intro hs p' hp'
  cases x' with
  | error e => cases hp'
  | ok q' =>
    obtain ⟨q, rfl⟩ := h hs q' rfl
    exact ⟨k q, rfl⟩

/-- Behind what was read from `s` the same is read on, unless nothing can be read on. -/
theorem bind_of {x x' : Read (α × List Char)} {f g : α × List Char → Read β}
    (h : Whole s → ∀ q', x' = .ok q' → (∃ e, g q' = .error e) ∨ ∃ a r t, x = .ok (a, r) ∧
      Leaves s r ∧ Spaces t ∧ q' = (a, r ++ t))
    (hf : ∀ a r t, x = .ok (a, r) → Leaves s r → Spaces t → Unpads r (f (a, r)) (g (a, r ++ t))) :
    Unpads s (x >>= f) (x' >>= g) := by
  intro hs p' hp'
  obtain ⟨q', hq', hg⟩ := bind_eq_ok.1 hp'
  rcases h hs q' hq' with ⟨e, he⟩ | ⟨a, r, t, hread, hleaves, ht, rfl⟩
  · rw [he] at hg
    cases hg
  · obtain ⟨p, hp⟩ := hf a r t hread hleaves ht (hleaves.whole_rest hs) p' hg
    exact ⟨p, bind_eq_ok.2 ⟨_, hread, hp⟩⟩

variable (hsp : Spaces sp)

include hsp

theorem bind {x x' : Read (α × List Char)} {f g : α × List Char → Read β} (h : Unpads s x x')
    (hx : Follows sp s x x') (hf : ∀ a r t, x = .ok (a, r) → Leaves s r → Spaces t →
      Unpads r (f (a, r)) (g (a, r ++ t))) : Unpads s (x >>= f) (x' >>= g) := by
  refine bind_of (fun hs q' hq' => Or.inr ?_) hf
  obtain ⟨⟨a, r⟩, hread⟩ := h hs q' hq'
  obtain ⟨hleaves, hw⟩ := hx a r hread
  obtain ⟨t, ht, hread'⟩ := hw hs
  rw [hq', Except.ok.injEq] at hread'
  exact ⟨a, r, t, hread, hleaves, hsp.of_suffix ht, hread'⟩

/-- What was read may be passed on, and what is left of the white space stands behind the rest. -/
theorem next {p p' : α × List Char} {f g : α × List Char → Read β}
    (hp : Follows sp s (.ok p) (.ok p'))
    (hf : ∀ t, Leaves s p.2 → Spaces t → Unpads p.2 (f p) (g (p.1, p.2 ++ t))) :
    Unpads s (f p) (g p') := by
  intro hs q hq
  obtain ⟨hleaves, hw⟩ := hp p.1 p.2 rfl
  obtain ⟨t, ht, heq⟩ := hw hs
  rw [Except.ok.inj heq] at hq
  exact hf t hleaves (hsp.of_suffix ht) (hleaves.whole_rest hs) q hq

theorem skip {x x' : Read α} (h : ∀ t, Spaces t → (skipSpace s = [] → t = []) →
    skipSpace (s ++ sp) = skipSpace s ++ t → Unpads (skipSpace s) x x') : Unpads s x x' := by
  obtain ⟨t, ht, hskip⟩ := hsp.exists_skipSpace_append s
  refine .after (leaves_skipSpace s) (h t (hsp.of_suffix ht) (fun hnil => ?_) hskip)
  rw [hnil, (spaces_of_skipSpace hnil).skipSpace_append, hsp.skipSpace_eq] at hskip
  exact hskip.symm

/-- A step that starts with a character of its own. -/
theorem behind {c : Char} (hc : c ≠ '\\') {x x' : Read (α × List Char)} (h : Unpads s x x')
    (hx : Follows sp s x x') (k : α → β) :
    Unpads (c :: s) (x >>= fun p => .ok (some (k p.1, p.2)))
      (x' >>= fun p => .ok (some (k p.1, p.2))) :=
  .after (.plain hc (.refl s)) (h.bind hsp hx fun _ _ _ _ _ _ => .ok)

end Unpads

section Trailing

variable {sp : List Char} (hsp : Spaces sp)

include hsp

/-! ## Names and strings -/

theorem expectName_unpads (expected : Expected) (s : List Char) :
    Unpads s (expectName expected s) (expectName expected (s ++ sp)) := by
  by_cases hc : continues s = true
  · rw [expectName, ← continues, if_pos hc]
    exact .ok
  · intro hs
    rw [← continues_append hsp (Or.inr hs)] at hc
    rw [expectName.eq_def _ (s ++ sp), ← continues, if_neg hc]
    intro p' hp'
    cases hp'

theorem readString_spaces (e : SyntaxError (List Char)) {quote : Char}
    (hquote : isSpace quote = false) : ∃ e', readString e quote sp = .error e' := by
  induction sp with
  | nil => exact ⟨e, by rw [readString]⟩
  | cons c t ih =>
    obtain ⟨hc, ht⟩ := List.forall_mem_cons.1 hsp
    have hne : c ≠ quote := by
      rintro rfl
      rw [hquote] at hc
      cases hc
    by_cases hnl : c = '\n'
    · rw [readString.eq_def]
      simp only [if_neg hne, if_pos hnl]
      exact ⟨e, rfl⟩
    · obtain ⟨e', he'⟩ := ih ht
      rw [readString_plain e hne hnl (isSpace_spec hc).1, he']
      exact ⟨e', rfl⟩

theorem readString_unpads (e e' : SyntaxError (List Char)) {quote : Char}
    (hquote : quote = '"' ∨ quote = '\'') (s : List Char) :
    Unpads s (readString e quote s) (readString e' quote (s ++ sp)) := by
  have hslash : '\\' ≠ quote := by rcases hquote with rfl | rfl <;> decide
  induction s using readString.induct quote generalizing sp with
  | case1 =>
    have hspace : isSpace quote = false := by rcases hquote with rfl | rfl <;> rfl
    obtain ⟨e'', he''⟩ := readString_spaces hsp e' hspace
    rw [List.nil_append, he'']
    exact .error
  | case2 t =>
    rw [readString_quote]
    exact .ok
  | case3 t hq =>
    rw [List.cons_append, readString.eq_def e']
    simp only [if_neg hq, if_pos]
    exact .error
  | case4 hq hnl => exact fun hs => absurd rfl hs.ne_nil
  | case5 u hq hnl ih =>
    rw [List.cons_append, List.cons_append, readString_newline e hslash,
      readString_newline e' hslash]
    exact .after (.escape (.refl u)) (ih hsp)
  | case6 d u hd hq hnl ih =>
    rw [List.cons_append, List.cons_append, readString_escape e hslash hd,
      readString_escape e' hslash hd, ← List.cons_append]
    exact .next hsp (readEscape_follows hsp (List.cons_ne_nil d u))
      (f := fun p => (readString e quote p.2).map fun q => (p.1 :: q.1, q.2))
      (g := fun p => (readString e' quote p.2).map fun q => (p.1 :: q.1, q.2))
      fun t _ ht => (ih ht).mapped _
  | case7 c t hq hnl hc ih =>
    rw [List.cons_append, readString_plain e hq hnl hc, readString_plain e' hq hnl hc]
    exact .after (.plain hc (.refl t)) ((ih hsp).mapped _)

/-! ## Attribute tests -/

theorem readOperator_unpads {s : List Char} (hne : s ≠ []) :
    Unpads s (readOperator s) (readOperator (s ++ sp)) := by
  fun_cases readOperator s with
  | case1 => exact absurd rfl hne
  | case2 => exact .ok
  | case3 => exact .ok
  | case4 c t hequals hmark =>
    rw [List.cons_append, readOperator]
    · exact .error
    · exact hequals
    · intro operator u hoperator
      exact hsp.append_ne_cons rfl (hmark operator · hoperator) u

theorem spaces_of_readBareValue {s : List Char} (hrest : (readBareValue s).2 = []) (hs : Whole s) :
    Spaces (readBareValue (s ++ sp)).2 := by
  induction s using readBareValue.induct generalizing sp with
  | case1 =>
    cases sp with
    | nil => rwa [List.append_nil, hrest]
    | cons c t =>
      rw [List.nil_append, readBareValue, if_pos (by simp [hsp c (List.mem_cons_self ..)])]
      exact hsp
  | case2 c t hc =>
    rw [readBareValue, if_pos hc] at hrest
    cases hrest
  | case3 c t hc hescape _ _ _ ih =>
    rw [Bool.and_eq_true, decide_eq_true_eq, Bool.not_eq_true',
      List.isEmpty_eq_false_iff] at hescape
    obtain ⟨rfl, ht⟩ := hescape
    obtain ⟨u, hu, hread⟩ := exists_readEscape_append hsp ht
    rw [readBareValue_escape ht] at hrest
    rw [List.cons_append, readBareValue_escape (List.append_ne_nil_of_left_ne_nil ht sp), hread]
    exact ih (hsp.of_suffix hu) hrest ((leaves_readEscape ht).whole_rest hs)
  | case4 c t hc hescape _ _ _ ih =>
    have hslash : c ≠ '\\' := by
      rintro rfl
      exact hescape (by simpa using hs.ne_nil)
    rw [readBareValue_plain hc hescape] at hrest
    rw [List.cons_append, readBareValue_plain hc (by simp [hslash])]
    exact ih hsp hrest (hs.tail hslash)

/-- A value that is read otherwise goes on to the end of `s`, and nothing is left behind it. -/
theorem readValue_unpads {unclosed unclosed' : SyntaxError (List Char)} {s : List Char}
    (hnil : s = [] → sp = []) (hs : Whole s) {p' : List Char × List Char}
    (h : readValue unclosed' (s ++ sp) = .ok p') : Spaces p'.2 ∨ ∃ value rest t,
      readValue unclosed s = .ok (value, rest) ∧ Leaves s rest ∧ Spaces t ∧
        p' = (value, rest ++ t) := by
  have follows {value rest : List Char} (hread : readValue unclosed s = .ok (value, rest))
      (hfollows : Follows sp s (readValue unclosed s) (readValue unclosed' (s ++ sp))) :
      ∃ value rest t, readValue unclosed s = .ok (value, rest) ∧ Leaves s rest ∧ Spaces t ∧
        p' = (value, rest ++ t) := by
    obtain ⟨hleaves, hw⟩ := hfollows value rest hread
    obtain ⟨t, ht, hread'⟩ := hw hs
    rw [h, Except.ok.injEq] at hread'
    exact ⟨value, rest, t, hread, hleaves, hsp.of_suffix ht, hread'⟩
  cases s with
  | nil =>
    rw [hnil rfl] at h
    cases h
  | cons c s =>
    by_cases hquote : (c = '"' || c = '\'') = true
    · have hread (unclosed : SyntaxError (List Char)) (t : List Char) :
          readValue unclosed (c :: t) = readQuoted (c :: t) := by rw [readValue, if_pos hquote]
      rw [List.cons_append, hread] at h
      have hc : c = '"' ∨ c = '\'' := by simpa using hquote
      have hslash : c ≠ '\\' := by rcases hc with rfl | rfl <;> decide
      obtain ⟨p, hp⟩ := readString_unpads hsp (.unterminatedString (c :: s)) _ hc s
        (hs.tail hslash) p' h
      refine Or.inr (follows ((hread _ s).trans hp) ?_)
      rw [List.cons_append, hread, hread]
      exact readQuoted_follows hsp hslash.symm s
    · by_cases hclose : c = ']'
      · rw [List.cons_append, readValue, if_neg hquote, if_pos hclose] at h
        cases h
      · have hread (unclosed : SyntaxError (List Char)) (t : List Char) :
            readValue unclosed (c :: t) = .ok (readBareValue (c :: t)) := by
          rw [readValue, if_neg hquote, if_neg hclose]
        by_cases hrest : (readBareValue (c :: s)).2 = []
        · rw [List.cons_append, hread, Except.ok.injEq] at h
          rw [← h]
          exact Or.inl (spaces_of_readBareValue hsp hrest hs)
        · refine Or.inr (follows (hread _ s) ?_)
          rw [List.cons_append, hread, hread]
          exact readBareValue_follows hsp hrest

theorem readModifier_unpads (unclosed unclosed' : SyntaxError (List Char)) {s : List Char}
    (hnil : s = [] → sp = []) :
    Unpads s (readModifier unclosed s) (readModifier unclosed' (s ++ sp)) := by
  cases s with
  | nil =>
    rw [hnil rfl]
    exact .error
  | cons c s =>
    by_cases hclose : c = ']'
    · rw [readModifier, if_pos hclose]
      exact .ok
    · by_cases hname : isNameChar c = true
      · rw [List.cons_append, readModifier_of_isNameChar unclosed hclose hname,
          readModifier_of_isNameChar unclosed' hclose hname]
        refine .next hsp (readName_follows hsp (c :: s))
          (f := fun p => (CaseMode.ofModifier? p.1).elim
            (.error (.invalidAttributeModifier (String.ofList p.1) (c :: s)))
            fun mode => .ok (mode, p.2))
          (g := fun p => (CaseMode.ofModifier? p.1).elim
            (.error (.invalidAttributeModifier (String.ofList p.1) (c :: (s ++ sp))))
            fun mode => .ok (mode, p.2)) fun t _ _ => ?_
        dsimp only
        cases CaseMode.ofModifier? (readName (c :: s)).1 with
        | none => exact .error
        | some mode => exact .ok
      · rw [List.cons_append, readModifier, readModifier, if_neg hclose, if_neg hclose,
          if_neg hname, if_neg hname]
        cases hmode : CaseMode.ofModifier? [c] with
        | none =>
          simp only [hmode]
          exact .error
        | some mode =>
          simp only [hmode]
          exact .ok

theorem behindName_unpads (unclosed unclosed' : SyntaxError (List Char)) (name : List Char)
    {s : List Char} (hnil : s = [] → sp = []) :
    Unpads s (behindName unclosed name s) (behindName unclosed' name (s ++ sp)) := by
  fun_cases behindName unclosed name s with
  | case1 =>
    rw [hnil rfl]
    exact .error
  | case2 => exact .ok
  | case3 c t hclose =>
    rw [List.cons_append, behindName]
    · refine (readOperator_unpads hsp (List.cons_ne_nil c t)).bind hsp
        (readOperator_follows (c :: t)) fun operator r t _ _ ht => .skip ht fun t ht hnil hskip => ?_
      simp only [hskip]
      refine .bind_of (fun hs q' hq' => ?_) fun value r t _ _ ht => .skip ht fun t ht hnil hskip => ?_
      · refine (readValue_unpads ht hnil hs hq').imp_left fun hspaces => ?_
        rw [hspaces.skipSpace_eq]
        exact ⟨unclosed', rfl⟩
      · simp only [hskip]
        refine (readModifier_unpads ht unclosed unclosed' hnil).bind ht
          (readModifier_follows ht unclosed unclosed' (skipSpace r))
          fun mode r t _ _ ht => .skip ht fun t _ hnil hskip => ?_
        simp only [hskip]
        generalize skipSpace r = rest at hnil ⊢
        split
        · rw [hnil rfl]
          exact .error
        · exact .ok
        · rename_i d u hend
          rw [List.cons_append]
          split
          · exact .error
          · rename_i heq
            exact absurd (List.cons.inj heq).1 hend
          · exact .error
    · exact hclose

theorem readAttribute_unpads (s : List Char) :
    Unpads s (readAttribute ('[' :: s)) (readAttribute ('[' :: s ++ sp)) := by
  refine .skip hsp fun t ht hnil hskip => ?_
  by_cases h : atName (skipSpace s) = true
  · have h' : atName (skipSpace (s ++ sp)) = true := by
      rw [hskip, atName_append ht (Or.inl h), h]
    rw [List.cons_append, readAttribute_eq h, readAttribute_eq h', hskip]
    refine Unpads.next ht (readName_follows ht (skipSpace s))
      (f := fun p => behindName (.unbalancedBracket '[' ('[' :: s)) p.1 (skipSpace p.2))
      (g := fun p => behindName (.unbalancedBracket '[' ('[' :: (s ++ sp))) p.1 (skipSpace p.2))
      fun u _ hu => .skip hu fun v hv hnil hskip => ?_
    rw [hskip]
    exact behindName_unpads hv _ _ _ hnil
  · intro hs
    have hstart : (!atName (skipSpace (s ++ sp))) = true := by
      rw [hskip, atName_append ht (Or.inr hs)]
      simpa using h
    rw [List.cons_append, readAttribute.eq_def ('[' :: (s ++ sp)), List.drop_one, List.tail_cons,
      if_pos hstart]
    exact nofun

/-! ## Arguments -/

omit hsp in
theorem cutArgument?_spaces (hsp : Spaces sp) (depth : Nat) (quote : Option Char) :
    cutArgument? depth quote sp = none := by
  induction sp generalizing depth quote with
  | nil => rw [cutArgument?]
  | cons c t ih =>
    obtain ⟨hc, ht⟩ := List.forall_mem_cons.1 hsp
    rcases cutArgument?_step (isSpace_spec hc).1 depth quote with ⟨-, -, rfl⟩ | ⟨_, _, hstep⟩
    · cases hc
    · rw [hstep, ih ht]
      rfl

/-- The parenthesis that closes an argument is no white space. -/
theorem exists_cutArgument? {s : List Char} (hs : Whole s) {depth : Nat} {quote : Option Char}
    {p' : List Char × List Char} (h : cutArgument? depth quote (s ++ sp) = some p') :
    ∃ p, cutArgument? depth quote s = some p := by
  induction hs generalizing depth quote p' with
  | nil =>
    rw [List.nil_append, cutArgument?_spaces hsp] at h
    cases h
  | @plain c t hc _ ih =>
    rcases cutArgument?_step hc depth quote with ⟨rfl, rfl, rfl⟩ | ⟨depth', quote', hstep⟩
    · exact ⟨_, cutArgument?_end t⟩
    · rw [List.cons_append, hstep] at h
      obtain ⟨a, ha, -⟩ := pushArgument_eq_some.1 h
      obtain ⟨p, hp⟩ := ih ha
      exact ⟨_, (hstep t).trans (pushArgument_eq_some.2 ⟨p.1, hp, rfl⟩)⟩
  | @escape c t _ ih =>
    rw [List.cons_append, List.cons_append, cutArgument?_escape] at h
    obtain ⟨a, ha, -⟩ := pushArgument_eq_some.1 h
    obtain ⟨p, hp⟩ := ih ha
    exact ⟨_, (cutArgument?_escape quote c t).trans (pushArgument_eq_some.2 ⟨p.1, hp, rfl⟩)⟩

theorem readArgument_unpads (s : List Char) :
    Unpads ('(' :: s) (readArgument ('(' :: s)) (readArgument ('(' :: s ++ sp)) := by
  intro hs p' hp'
  rw [List.cons_append] at hp'
  obtain ⟨p, hp⟩ := exists_cutArgument? hsp (hs.tail (by decide)) (readArgument_eq_ok.1 hp')
  exact ⟨p, readArgument_eq_ok.2 hp⟩

theorem readNthArgument_unpads (s : List Char) :
    Unpads ('(' :: s) (readNthArgument ('(' :: s)) (readNthArgument ('(' :: s ++ sp)) := by
  refine (readArgument_unpads hsp s).bind hsp (readArgument_follows s) fun argument r t _ _ _ => ?_
  cases hparse : Nth.parse? argument with
  | none =>
    simp only [hparse]
    exact .error
  | some positions =>
    simp only [hparse]
    exact .ok

end Trailing

/-! ## Steps of a sequence -/

section Many

variable {α : Type} {step step' : List Char → Read (Option (α × List Char))} {s r : List Char}

theorem exists_step_of_readMany {p : List α × List Char} (h : readMany step s = .ok p) :
    ∃ found, step s = .ok found := by
  rw [readMany] at h
  cases hstep : step s with
  | error e =>
    rw [hstep] at h
    cases h
  | ok found => exact ⟨found, rfl⟩

theorem exists_readMany_behind {p : List α × List Char} {a : α} (h : readMany step s = .ok p)
    (hstep : step s = .ok (some (a, r))) (hlt : r.length < s.length) :
    ∃ q, readMany step r = .ok q := by
  rw [readMany, hstep] at h
  simp only [if_pos hlt] at h
  cases hr : readMany step r with
  | error e =>
    rw [hr] at h
    cases h
  | ok q => exact ⟨q, rfl⟩

theorem readMany_unpads {n : Nat}
    (hfollows : ∀ s t, Spaces t → StepFollows t s (step s) (step' (s ++ t)))
    (h : ∀ s t, Spaces t → s.length ≤ n → Unpads s (step s) (step' (s ++ t)))
    {sp : List Char} (hsp : Spaces sp) (hn : s.length ≤ n) :
    Unpads s (readMany step s) (readMany step' (s ++ sp)) := by
  fun_induction readMany step s generalizing sp with
  | case1 s e he =>
    intro hs p' hp'
    obtain ⟨found', hfound'⟩ := exists_step_of_readMany hp'
    obtain ⟨found, hfound⟩ := h s sp hsp hn hs found' hfound'
    rw [he] at hfound
    cases hfound
  | case2 => exact .ok
  | case3 s a r hstep hlt e he ih =>
    intro hs p' hp'
    obtain ⟨-, hleaves, hw⟩ := (hfollows s sp hsp).step a r hstep
    obtain ⟨t, ht, hstep'⟩ := hw hs
    have hlt' : (r ++ t).length < (s ++ sp).length := by
      have hle := ht.length_le
      rw [List.length_append, List.length_append]
      omega
    obtain ⟨q', hq'⟩ := exists_readMany_behind hp' hstep' hlt'
    obtain ⟨q, hq⟩ := ih (hsp.of_suffix ht) (by omega) (hleaves.whole_rest hs) q' hq'
    rw [he] at hq
    cases hq
  | case4 => exact .ok
  | case5 => exact .ok

end Many

/-! ## Pseudo-classes -/

section Below

variable {allows : PseudoClassName → Bool} {n m : Nat} (hnm : n ≤ m) {sp : List Char}
  (hsp : Spaces sp)

include hsp

theorem readFunctionalPseudo_unpads (name : PseudoClassName) {t : List Char} (hn : t.length < n) :
    Unpads ('(' :: t) (readFunctionalPseudo (readBelow allows n) name ('(' :: t))
      (readFunctionalPseudo (readBelow allows m) name ('(' :: t ++ sp)) := by
  cases name with
  | nth among =>
    have hread := readNthArgument_unpads hsp t
    exact hread.bind hsp (readNthArgument_follows hsp t) fun _ _ _ _ _ _ => .ok
  | nthLast among =>
    have hread := readNthArgument_unpads hsp t
    exact hread.bind hsp (readNthArgument_follows hsp t) fun _ _ _ _ _ _ => .ok
  | not =>
    refine (readArgument_unpads hsp t).bind hsp (readArgument_follows t)
      fun argument r u hargument _ _ => ?_
    -- an argument is shorter than the text it stands in
    have hlt : argument.length < n := by
      have ht := congrArg List.length (append_of_cutArgument? (readArgument_eq_ok.1 hargument)).1
      rw [List.length_append] at ht
      omega
    simp only [readBelow, if_pos hlt]
    by_cases hlt' : argument.length < m
    · rw [if_pos hlt']
      cases readSelectorList allows argument with
      | error e => exact .error
      | ok alternatives => exact .ok
    · rw [if_neg hlt']
      exact .error
  | _ => exact .error

theorem readPseudoClass_unpads {s : List Char} (hn : s.length ≤ n) :
    Unpads s (readPseudoClass (readBelow allows n) allows s)
      (readPseudoClass (readBelow allows m) allows (s ++ sp)) := by
  by_cases h : ∃ t, s = ':' :: t
  · obtain ⟨t, rfl⟩ := h
    exact .error
  · rw [not_exists] at h
    rw [readPseudoClass_eq h, readPseudoClass_eq (hsp.append_ne_cons rfl h)]
    refine (expectName_unpads hsp _ s).bind hsp (expectName_follows hsp _ s)
      fun written t u _ hleaves hu => ?_
    cases hname : (PseudoClassName.ofWritten? written).filter allows with
    | none =>
      simp only [hname]
      exact .error
    | some name =>
      simp only [hname]
      have hlength := hleaves.length_le
      fun_cases behindPseudo (readBelow allows n) name t with
      | case1 t =>
        rw [List.length_cons] at hlength
        exact readFunctionalPseudo_unpads hu name (by omega)
      | case2 t hbare =>
        rw [behindPseudo]
        · cases name with
          | nth | nthLast | not => exact .error
          | _ => exact .ok
        · exact hu.append_ne_cons rfl hbare

/-! ## Compounds -/

include hnm

theorem readCondition_unpads {s : List Char} (hn : s.length ≤ n) :
    Unpads s (readCondition (readBelow allows n) allows s)
      (readCondition (readBelow allows m) allows (s ++ sp)) := by
  fun_cases readCondition (readBelow allows n) allows s with
  | case1 s =>
    have hread := expectName_unpads hsp .id s
    have hfollows := expectName_follows hsp .id s
    exact hread.behind hsp (c := '#') (by decide) hfollows SimpleSelector.id
  | case2 s =>
    have hread := expectName_unpads hsp .className s
    have hfollows := expectName_follows hsp .className s
    exact hread.behind hsp (c := '.') (by decide) hfollows SimpleSelector.className
  | case3 s =>
    have hread := readAttribute_unpads hsp s
    have hfollows := readAttribute_follows hsp s
    exact hread.behind hsp (c := '[') (by decide) hfollows SimpleSelector.attribute
  | case4 s =>
    rw [List.length_cons] at hn
    have hread : Unpads s (readPseudoClass (readBelow allows n) allows s)
        (readPseudoClass (readBelow allows m) allows (s ++ sp)) :=
      readPseudoClass_unpads hsp (Nat.le_of_succ_le hn)
    have hfollows := readPseudoClass_follows (@readBelow_mono allows n m hnm) hsp allows s
    exact hread.behind hsp (c := ':') (by decide) hfollows SimpleSelector.pseudo
  | case5 => exact .error
  | case6 => exact .ok

theorem readCompound_unpads {s : List Char} (hn : s.length ≤ n) :
    Unpads s (readCompound (readBelow allows n) allows s)
      (readCompound (readBelow allows m) allows (s ++ sp)) := by
  refine .next hsp (readHead_follows hsp s)
    (f := fun p => readMany (readCondition (readBelow allows n) allows) p.2 >>= fun q =>
      .ok (p.1 ++ q.1, q.2))
    (g := fun p => readMany (readCondition (readBelow allows m) allows) p.2 >>= fun q =>
      .ok (p.1 ++ q.1, q.2))
    fun t hleaves ht => ?_
  have hfollows (s t : List Char) (ht : Spaces t) :
      StepFollows t s (readCondition (readBelow allows n) allows s)
        (readCondition (readBelow allows m) allows (s ++ t)) :=
    readCondition_follows (@readBelow_mono allows n m hnm) ht allows s
  refine (readMany_unpads hfollows (fun s t ht hn => readCondition_unpads hnm ht hn) ht
    (hleaves.length_le.trans hn)).bind ht (readMany_follows ht hfollows _) fun _ _ _ _ _ _ => .ok

/-! ## Complex selectors -/

omit hnm in
theorem readCombinator_unpads (s : List Char) :
    Unpads s (readCombinator s) (readCombinator (s ++ sp)) := by
  rintro - found hfound
  obtain ⟨u, -, hskip⟩ := hsp.exists_skipSpace_append s
  cases hs : skipSpace s with
  | nil => exact ⟨none, readCombinator_eq_none.2 hs⟩
  | cons c t =>
    rw [hs, List.cons_append] at hskip
    cases found with
    | none =>
      rw [readCombinator_eq_none, hskip] at hfound
      cases hfound
    | some p =>
      obtain ⟨k, r⟩ := p
      cases readCombinator_iff.1 hfound with
      | sign hc hs' =>
        rw [hskip, List.cons.injEq] at hs'
        obtain ⟨rfl, -⟩ := hs'
        exact ⟨_, readCombinator_iff.2 (.sign hc hs)⟩
      | space hc hs' hspace =>
        rw [hskip, List.cons.injEq] at hs'
        obtain ⟨rfl, -⟩ := hs'
        cases s with
        | nil => cases hs
        | cons d s => exact ⟨_, readCombinator_iff.2 (.space hc hs hspace)⟩

theorem readStep_unpads {s : List Char} (hn : s.length ≤ n) :
    Unpads s (readStep (readBelow allows n) allows s)
      (readStep (readBelow allows m) allows (s ++ sp)) := by
  intro hs found hfound
  obtain ⟨next', hnext', -⟩ := bind_eq_ok.1 hfound
  obtain ⟨next, hnext⟩ := readCombinator_unpads hsp s hs next' hnext'
  obtain ⟨hstop, hstep⟩ := readCombinator_follows hsp s
  cases next with
  | none => exact ⟨none, readStep_eq_none.2 hnext⟩
  | some p =>
    obtain ⟨k, t⟩ := p
    obtain ⟨hlt, hleaves, hw⟩ := hstep k t hnext
    obtain ⟨u, hu, hcombinator'⟩ := hw hs
    have hu := hsp.of_suffix hu
    have ht := hleaves.whole_rest hs
    cases found with
    | none =>
      rw [readStep_eq_none, hcombinator'] at hfound
      cases hfound
    | some p =>
      obtain ⟨⟨k', compound'⟩, r'⟩ := p
      obtain ⟨t', hk', hread', hne⟩ := readStep_eq_some.1 hfound
      rw [hcombinator', Except.ok.injEq, Option.some.injEq, Prod.mk.injEq] at hk'
      obtain ⟨rfl, rfl⟩ := hk'
      obtain ⟨⟨compound, r⟩, hread⟩ := readCompound_unpads hnm hu (by omega) ht _ hread'
      obtain ⟨-, hfollows⟩ :=
        readCompound_follows (@readBelow_mono allows n m hnm) hu allows t compound r hread
      obtain ⟨v, -, heq⟩ := hfollows ht
      rw [hread', Except.ok.injEq, Prod.mk.injEq] at heq
      obtain ⟨rfl, -⟩ := heq
      exact ⟨_, readStep_eq_some.2 ⟨t, hnext, hread, hne⟩⟩

theorem readComplex_unpads {s : List Char} (hn : s.length ≤ n) :
    Unpads s (readComplex (readBelow allows n) allows s)
      (readComplex (readBelow allows m) allows (s ++ sp)) := by
  refine .skip hsp fun t ht _ hskip => ?_
  have hlength := (leaves_skipSpace s).length_le
  rw [readComplex, readComplex, hskip]
  have hfirst := readCompound_follows (@readBelow_mono allows n m hnm) ht allows (skipSpace s)
  refine (readCompound_unpads hnm ht (hlength.trans hn)).bind ht hfirst
    fun compound r u _ hleaves hu => ?_
  dsimp only
  split
  · exact .error
  · have hfollows (s t : List Char) (ht : Spaces t) :=
      readStep_follows (@readBelow_mono allows n m hnm) ht allows s
    have hr := hleaves.length_le
    exact (readMany_unpads hfollows (fun s t ht hn => readStep_unpads hnm ht hn) hu
      (by omega)).bind hu (readMany_follows hu hfollows _) fun _ _ _ _ _ _ => .ok

end Below

/-! ## Selector lists -/

section Lists

variable {sp : List Char}

theorem findTopLevel_unpadded (hsp : Spaces sp) {s : List Char}
    (h : findTopLevel [','] (s ++ sp) = .ok none) : findTopLevel [','] s = .ok none := by
  have hplain (c : Char) (hc : c ∈ sp) : isMark c = false :=
    isMark_of_isPlain (isSpace_spec (hsp c hc)).2.2.2.1
  exact findTopLevel_eq_none.2 ((findTopLevel_eq_none.1 h).of_unmarked hplain Open.opened_outside)

/-- White space at the end of the text is at the end of the last text between commas. -/
theorem Splits.unpadded (hsp : Spaces sp) {s s' : List Char} {texts' : List (List Char)}
    (h : Splits s' texts') (hs : Whole s) (hs' : s' = s ++ sp) : ∃ texts, Splits s texts ∧
      List.Forall₂ (fun t t' => Whole t ∧ t.length ≤ s.length ∧ ∃ u, Spaces u ∧ t' = t ++ u)
        texts texts' := by
  induction h generalizing s with
  | last h =>
    subst hs'
    exact ⟨[s], .last (findTopLevel_unpadded hsp h),
      .cons ⟨hs, Nat.le_refl _, sp, hsp, rfl⟩ .nil⟩
  | @cons s' t rest texts' h _ ih =>
    obtain ⟨rfl, hscans, -⟩ := findTopLevel_eq_some.1 h
    have ht : Whole t := hscans.whole (List.cons_ne_nil _ _)
    have hcomma {u : List Char} (hu : Spaces u) : ',' ∉ u := fun hmem => by cases hu ',' hmem
    obtain ⟨rest', rfl, rfl⟩ : ∃ rest', s = t ++ ',' :: rest' ∧ rest = rest' ++ sp := by
      rcases List.append_eq_append_iff.1 hs' with ⟨u, rfl, hu⟩ | ⟨u, rfl, hu⟩
      · cases u with
        | nil =>
          rw [List.nil_append] at hu
          exact absurd (by simp [← hu]) (hcomma hsp)
        | cons c u =>
          obtain ⟨rfl, rfl⟩ := List.cons.inj hu
          exact ⟨u, rfl, rfl⟩
      · exact absurd (by simp [hu]) (hcomma hsp)
    have hfind : findTopLevel [','] (t ++ ',' :: rest') = .ok (some (t, ',' :: rest')) :=
      findTopLevel_eq_some.2 ⟨rfl, hscans.of_whole ht _, stops_comma rest'⟩
    obtain ⟨texts, hsplits, hpadded⟩ := ih ((ht.of_append hs).tail (by decide)) rfl
    refine ⟨t :: texts, .cons hfind hsplits,
      .cons ⟨ht, by simp, [], nofun, by simp⟩ (hpadded.imp ?_)⟩
    rintro t t' ⟨hw, hle, hu⟩
    refine ⟨hw, hle.trans ?_, hu⟩
    rw [List.length_append, List.length_cons]
    omega

variable {allows : PseudoClassName → Bool} {inner : List Char → Read SelectorList} {n m : Nat}

theorem readAlternatives_unpads (hnm : n ≤ m) (hsp : Spaces sp) {s : List Char}
    (hn : s.length ≤ n) : Unpads s (readAlternatives (readBelow allows n) allows s)
      (readAlternatives (readBelow allows m) allows (s ++ sp)) := by
  intro hs l' hl'
  obtain ⟨texts', hsplits', hread'⟩ := readAlternatives_iff.1 hl'
  obtain ⟨texts, hsplits, hpadded⟩ := hsplits'.unpadded hsp hs rfl
  suffices ∃ l, ReadsEach (readBelow allows n) allows texts l by
    obtain ⟨l, hread⟩ := this
    exact ⟨l, readAlternatives_iff.2 ⟨texts, hsplits, hread⟩⟩
  clear hsplits hsplits' hl'
  induction hpadded generalizing l' with
  | nil => exact ⟨[], .nil⟩
  | cons ht _ ih =>
    obtain ⟨hw, hle, u, hu, rfl⟩ := ht
    cases hread' with
    | cons hc' hread' =>
      obtain ⟨c, hc⟩ := readComplex_unpads hnm hu (hle.trans hn) hw _ hc'
      obtain ⟨l, hread⟩ := ih _ hread'
      exact ⟨c :: l, .cons hc hread⟩

theorem readComplex_spaces {left : List Char} (hleft : Spaces left) (s : List Char) :
    readComplex inner allows (left ++ s) = readComplex inner allows s := by
  rw [readComplex, readComplex, hleft.skipSpace_append]

theorem readAlternatives_of_left {left s : List Char} (hleft : Spaces left) {l : SelectorList}
    (h : readAlternatives inner allows (left ++ s) = .ok l) :
    readAlternatives inner allows s = .ok l := by
  obtain ⟨texts, hsplits, hread⟩ := readAlternatives_iff.1 h
  generalize hpadded : left ++ s = padded at hsplits
  cases hsplits with
  | last hnone =>
    subst hpadded
    rw [findTopLevel_spaces hleft] at hnone
    cases hread with
    | cons hc hread =>
      rw [readComplex_spaces hleft] at hc
      exact readAlternatives_iff.2 ⟨_, .last (Read.prepend_eq_none.1 hnone), .cons hc hread⟩
  | cons hsome hrest =>
    subst hpadded
    rw [findTopLevel_spaces hleft] at hsome
    obtain ⟨t, ht, rfl⟩ := Read.prepend_eq_some hsome
    cases hread with
    | cons hc hread =>
      rw [readComplex_spaces hleft] at hc
      exact readAlternatives_iff.2 ⟨_, .cons ht hrest, .cons hc hread⟩

/-- A list that is read with white space around it is read alike without. -/
theorem readSelectorList_unpadded {left s right : List Char} (hleft : Spaces left)
    (hright : Spaces right) (hs : Whole s) {l : SelectorList}
    (h : readSelectorList allows (left ++ s ++ right) = .ok l) :
    readSelectorList allows s = .ok l := by
  have hle : s.length ≤ (left ++ s ++ right).length := by
    rw [List.length_append, List.length_append]
    omega
  have hpadded := h
  rw [readSelectorList_eq, List.append_assoc] at hpadded
  rw [List.append_assoc] at hle
  obtain ⟨k, hk⟩ := readAlternatives_unpads hle hright (Nat.le_refl _) hs l
    (readAlternatives_of_left hleft hpadded)
  rw [← readSelectorList_eq] at hk
  have hread := (Joined.one hleft hright).readSelectorList (.cons hk .nil)
  rw [h, List.flatten_singleton, Except.ok.injEq] at hread
  rwa [hread]

end Lists

end Umbra.Selector
