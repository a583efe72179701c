import Umbra.Proofs.Selector.Commas

/-!
# Places of errors

An error that has a place is reported where the reader has come to, and the character that it is about
stands there. Readers of the smaller pieces work on the text up to its end, or up to the end of an
alternative or of an argument. `Locates` says of one reader that its errors lie in the text it was
given, and holds of a sequence of readers when it holds of each of them.
-/

namespace Umbra

open Selector Text

/-- A string that a quote opens is not closed where the text ends, or the line, or an alternative or
an argument around it. -/
inductive Unclosed (quote : Char) : List Char → Prop
  | nil : Unclosed quote []
  | slash : Unclosed quote ['\\']
  | stop {c : Char} {s : List Char} (hc : c ∈ ['\n', ',', ')']) : Unclosed quote (c :: s)
  | plain {c : Char} {s : List Char} (hquote : c ≠ quote) (hslash : c ≠ '\\')
    (rest : Unclosed quote s) : Unclosed quote (c :: s)
  | escape {c : Char} {s : List Char} (rest : Unclosed quote s) : Unclosed quote ('\\' :: c :: s)

namespace SyntaxError

variable {ρ σ : Type}

/-- What an error says of the place where it is reported: which character stands there, and for an
opening quote, what follows. -/
def IsAbout (c : Char) (s : List Char) : SyntaxError ρ → Prop
  | unterminatedString _ => (c = '"' ∨ c = '\'') ∧ Unclosed c s
  | unbalancedBracket bracket _ => c = bracket
  | invalidAttributeOperator operator _ => operator.toList.head? = some c
  | invalidAttributeModifier modifier _ => modifier.toList.head? = some c
  | unexpectedCharacter found _ => c = found
  | _ => True

theorem isAbout_map {f : ρ → σ} {c : Char} {s : List Char} (e : SyntaxError ρ) :
    (e.map f).IsAbout c s ↔ e.IsAbout c s := by cases e <;> exact Iff.rfl

/-- The error has no place, or its place is in the text. -/
def LocatedIn (s : List Char) (e : SyntaxError (List Char)) : Prop :=
  ∀ place, e.place? = some place → ∃ c t, place = c :: t ∧ Leaves s place ∧ e.IsAbout c t

theorem LocatedIn.of_leaves {s t : List Char} {e : SyntaxError (List Char)} (h : Leaves s t)
    (he : e.LocatedIn t) : e.LocatedIn s := by
  intro place hplace
  obtain ⟨c, u, rfl, hleaves, habout⟩ := he place hplace
  exact ⟨c, u, rfl, h.trans hleaves, habout⟩

end SyntaxError

theorem Unclosed.append {quote : Char} {s t : List Char} (h : Unclosed quote s) (hs : Whole s)
    (ht : ∀ c, t.head? = some c → c ∈ ['\n', ',', ')']) : Unclosed quote (s ++ t) := by
  induction h with
  | nil =>
    cases t with
    | nil => exact .nil
    | cons c t => exact .stop (ht c rfl)
  | slash => exact absurd rfl hs.ne_nil
  | stop hc => exact .stop hc
  | plain hquote hslash _ ih => exact .plain hquote hslash (ih (hs.tail hslash))
  | escape _ ih => exact .escape (ih hs.drop_escape)

theorem Unclosed.skip {quote : Char} {s t : List Char} (h : Unclosed quote t)
    (hs : ∀ c ∈ s, c ≠ quote ∧ c ≠ '\\') : Unclosed quote (s ++ t) := by
  induction s with
  | nil => exact h
  | cons c s ih =>
    obtain ⟨hc, hs⟩ := List.forall_mem_cons.1 hs
    exact .plain hc.1 hc.2 (ih hs)

namespace Selector

/-- An error of the reader is located in the text. -/
def Locates {α : Type} (s : List Char) (x : Read α) : Prop := ∀ e, x = .error e → e.LocatedIn s

namespace Locates

variable {α β : Type} {s t : List Char}

theorem ok {a : α} : Locates s (.ok a) := nofun

theorem error {e : SyntaxError (List Char)} (he : e.LocatedIn s) :
    Locates s (.error e : Read α) := by
  intro e' h
  cases h
  exact he

theorem of_leaves {x : Read α} (h : Leaves s t) (hx : Locates t x) : Locates s x :=
  fun e he => (hx e he).of_leaves h

theorem bind {x : Read α} {f : α → Read β} (hx : Locates s x)
    (hf : ∀ a, x = .ok a → Locates s (f a)) : Locates s (x >>= f) := by
  cases x with
  | error e => exact .error (hx e rfl)
  | ok a => exact hf a rfl

/-- What is read next is read from what the first reader leaves. -/
theorem next {x : Read (α × List Char)} {f : α × List Char → Read β} (hx : Locates s x)
    (hleaves : ∀ a r, x = .ok (a, r) → Leaves s r)
    (hf : ∀ a r, x = .ok (a, r) → Locates r (f (a, r))) : Locates s (x >>= f) :=
  hx.bind fun p hp => .of_leaves (hleaves p.1 p.2 hp) (hf p.1 p.2 hp)

/-- The place of an error in a stretch of a text is one in the text. A string that is open there is
not closed behind the stretch, if the line or what is around the stretch ends there. -/
theorem within {x : Read α} (hx : Locates s x) {after : List Char}
    (hafter : ∀ c, after.head? = some c → c ∈ ['\n', ',', ')'] ∧ Whole s) :
    Locates (s ++ after) (x.within after) := by
  cases x with
  | ok a => exact .ok
  | error e =>
    refine .error fun place hplace => ?_
    rw [SyntaxError.place?_map, Option.map_eq_some_iff] at hplace
    obtain ⟨place, hplace, rfl⟩ := hplace
    obtain ⟨c, t, rfl, hleaves, habout⟩ := hx e rfl place hplace
    have hplace : Leaves (s ++ after) (c :: t ++ after) := by
      obtain ⟨taken, hw, rfl⟩ := hleaves
      exact ⟨taken, hw, List.append_assoc ..⟩
    refine ⟨c, t ++ after, rfl, hplace, e.isAbout_map.2 ?_⟩
    cases e with
    | unterminatedString quote =>
      obtain ⟨hquote, hunclosed⟩ := habout
      have hslash : c ≠ '\\' := by rcases hquote with rfl | rfl <;> decide
      refine ⟨hquote, ?_⟩
      cases after with
      | nil =>
        rw [List.append_nil]
        exact hunclosed
      | cons d after =>
        obtain ⟨hd, hs⟩ := hafter d rfl
        refine hunclosed.append ((hleaves.whole_rest hs).tail hslash) ?_
        rintro _ ⟨⟩
        exact hd
    | _ => exact habout

theorem readMany {step : List Char → Read (Option (α × List Char))}
    (hstep : ∀ s, Locates s (step s))
    (hleaves : ∀ s a r, step s = .ok (some (a, r)) → Leaves s r) (s : List Char) :
    Locates s (Umbra.readMany step s) := by
  fun_induction Umbra.readMany step s with
  | case1 s e he => exact .error (hstep s e he)
  | case2 => exact .ok
  | case3 s a r hread hlt e he ih => exact .error (ih e he |>.of_leaves (hleaves s a r hread))
  | case4 => exact .ok
  | case5 => exact .ok

end Locates

theorem Follows.leaves {α : Type} {sp s r : List Char} {x x' : Read (α × List Char)} {a : α}
    (h : Follows sp s x x') (hx : x = .ok (a, r)) : Leaves s r := (h a r hx).1

/-! ## Strings and attributes -/

theorem locatedIn_head {c : Char} {s : List Char} {e : SyntaxError (List Char)}
    (hplace : e.place? = some (c :: s)) (habout : e.IsAbout c s) : e.LocatedIn (c :: s) := by
  intro place h
  rw [hplace] at h
  cases h
  exact ⟨c, s, rfl, .refl _, habout⟩

theorem unclosed_of_readEscape {quote : Char} (hquote : quote = '"' ∨ quote = '\'') {d : Char}
    {u : List Char} (h : Unclosed quote (readEscape (d :: u)).2) :
    Unclosed quote ('\\' :: d :: u) := by
  obtain ⟨skipped, hu, hskipped⟩ := exists_readEscape d u
  refine .escape ?_
  rw [hu]
  refine h.skip fun c hc => ?_
  obtain ⟨hslash, hdouble, hsingle⟩ := hexDigit_or_space_spec (hskipped c hc)
  rcases hquote with rfl | rfl
  · exact ⟨hdouble, hslash⟩
  · exact ⟨hsingle, hslash⟩

/-- A string that cannot be read is not closed. -/
theorem unclosed_of_readString {e e' : SyntaxError (List Char)} {quote : Char}
    (hquote : quote = '"' ∨ quote = '\'') {s : List Char}
    (h : readString e quote s = .error e') : e' = e ∧ Unclosed quote s := by
  have hslash : '\\' ≠ quote := by rcases hquote with rfl | rfl <;> decide
  have of_map {x : Read (List Char × List Char)} {k : List Char × List Char → List Char × List Char}
      (hx : x.map k = .error e') : x = .error e' := by
    cases x with
    | error e => exact hx
    | ok p => cases hx
  induction s using readString.induct quote with
  | case1 =>
    rw [readString] at h
    cases h
    exact ⟨rfl, .nil⟩
  | case2 t =>
    rw [readString_quote] at h
    cases h
  | case3 t hq =>
    rw [readString.eq_def] at h
    simp only [if_neg hq, if_pos] at h
    cases h
    exact ⟨rfl, .stop (by decide)⟩
  | case4 hq hnl =>
    rw [readString.eq_def] at h
    simp only [if_neg hq, if_neg hnl, if_pos] at h
    cases h
    exact ⟨rfl, .slash⟩
  | case5 u hq hnl ih =>
    rw [readString_newline e hslash] at h
    obtain ⟨rfl, hu⟩ := ih h
    exact ⟨rfl, .escape hu⟩
  | case6 d u hd hq hnl ih =>
    rw [readString_escape e hslash hd] at h
    obtain ⟨rfl, hu⟩ := ih (of_map h)
    exact ⟨rfl, unclosed_of_readEscape hquote hu⟩
  | case7 c t hq hnl hc ih =>
    rw [readString_plain e hq hnl hc] at h
    obtain ⟨rfl, hu⟩ := ih (of_map h)
    exact ⟨rfl, .plain hq hc hu⟩

theorem locates_readQuoted {quote : Char} (hquote : quote = '"' ∨ quote = '\'') (s : List Char) :
    Locates (quote :: s) (readQuoted (quote :: s)) := by
  intro e he
  obtain ⟨rfl, hunclosed⟩ := unclosed_of_readString hquote he
  exact locatedIn_head rfl ⟨hquote, hunclosed⟩

theorem locates_readOperator {s : List Char} (hs : s ≠ []) : Locates s (readOperator s) := by
  fun_cases readOperator s with
  | case1 => exact absurd rfl hs
  | case2 => exact .ok
  | case3 => exact .ok
  | case4 => exact .error (locatedIn_head rfl (by simp [SyntaxError.IsAbout]))

section Unclosed

variable {whole s : List Char} {unclosed : SyntaxError (List Char)}
  (hunclosed : unclosed.LocatedIn whole) (hs : Leaves whole s)

include hunclosed hs

theorem locates_readValue : Locates whole (readValue unclosed s) := by
  fun_cases readValue unclosed s with
  | case1 => exact .error hunclosed
  | case2 c t hquote =>
    rw [Bool.or_eq_true, decide_eq_true_eq, decide_eq_true_eq] at hquote
    exact .of_leaves hs (locates_readQuoted hquote t)
  | case3 => exact .of_leaves hs (.error (locatedIn_head rfl rfl))
  | case4 => exact .ok

omit hunclosed hs in
theorem head?_readName {c : Char} (hc : isNameChar c = true) (t : List Char) :
    (readName (c :: t)).1.head? = some c := by
  rw [readName_of_isNameChar hc]
  rfl

theorem locates_readModifier : Locates whole (readModifier unclosed s) := by
  cases s with
  | nil => exact .error hunclosed
  | cons c t =>
    refine .of_leaves hs ?_
    by_cases hclose : c = ']'
    · rw [readModifier, if_pos hclose]
      exact .ok
    · by_cases hname : isNameChar c = true
      · rw [readModifier_of_isNameChar unclosed hclose hname]
        cases CaseMode.ofModifier? (readName (c :: t)).1 with
        | none =>
          refine .error (locatedIn_head rfl ?_)
          rw [SyntaxError.IsAbout, String.toList_ofList, head?_readName hname]
        | some mode => exact .ok
      · rw [readModifier, if_neg hclose, if_neg hname]
        dsimp only
        cases CaseMode.ofModifier? [c] with
        | none =>
          refine .error (locatedIn_head rfl ?_)
          rw [SyntaxError.IsAbout, String.toList_ofList, List.head?_cons]
        | some mode => exact .ok

theorem locates_behindName (name : List Char) : Locates whole (behindName unclosed name s) := by
  fun_cases behindName unclosed name s with
  | case1 => exact .error hunclosed
  | case2 => exact .ok
  | case3 c t hclose =>
    have hnil : Spaces [] := List.forall_mem_nil _
    refine (Locates.of_leaves hs (locates_readOperator (List.cons_ne_nil c t))).bind fun p hp => ?_
    obtain ⟨operator, r⟩ := p
    have hoperator := (@readOperator_follows [] (c :: t)).leaves hp
    have hr := hs.trans (hoperator.trans (leaves_skipSpace r))
    refine (locates_readValue hunclosed hr).bind fun p hp => ?_
    obtain ⟨value, u⟩ := p
    by_cases hend : u = []
    · -- the text ends in the value
      subst hend
      exact .error hunclosed
    · have hvalue := (@readValue_follows [] hnil unclosed unclosed _ _ _ hp hend).1
      have hu := hr.trans (hvalue.trans (leaves_skipSpace u))
      refine (locates_readModifier hunclosed hu).bind fun p hp => ?_
      obtain ⟨mode, v⟩ := p
      have hmode := (readModifier_follows hnil unclosed unclosed _).leaves hp
      have hv := hu.trans (hmode.trans (leaves_skipSpace v))
      dsimp only
      split
      · exact .error hunclosed
      · exact .ok
      · rename_i d w _ hrest
        exact .error (.of_leaves (hrest ▸ hv) (locatedIn_head rfl rfl))

end Unclosed

theorem locates_readAttribute (s : List Char) : Locates ('[' :: s) (readAttribute ('[' :: s)) := by
  have hunclosed : (SyntaxError.unbalancedBracket '[' ('[' :: s)).LocatedIn ('[' :: s) :=
    locatedIn_head rfl rfl
  have hstart : Leaves ('[' :: s) (skipSpace s) := .plain (by decide) (leaves_skipSpace s)
  by_cases h : atName (skipSpace s) = true
  · rw [readAttribute_eq h]
    have hname := (readName_follows (nofun : Spaces []) (skipSpace s)).leaves rfl
    exact locates_behindName hunclosed (hstart.trans (hname.trans (leaves_skipSpace _))) _
  · have hnot : (!atName (skipSpace s)) = true := by simpa using h
    rw [readAttribute, List.drop_one, List.tail_cons, if_pos hnot]
    refine .error ?_
    cases hs : skipSpace s with
    | nil => exact hunclosed
    | cons c t => exact .of_leaves (hs ▸ hstart) (locatedIn_head rfl rfl)

/-! ## Arguments and pseudo-classes -/

/-- An argument is a whole text in front of its closing parenthesis. -/
theorem append_of_cutArgument? {depth : Nat} {quote : Option Char} {s argument rest : List Char}
    (h : cutArgument? depth quote s = some (argument, rest)) :
    s = argument ++ ')' :: rest ∧ Whole argument := by
  induction s using escaped_induction generalizing depth quote argument with
  | nil => cases h
  | escape c s ih =>
    rw [cutArgument?_escape] at h
    obtain ⟨a, ha, rfl⟩ := pushArgument_eq_some.1 h
    obtain ⟨rfl, hwhole⟩ := ih ha
    exact ⟨rfl, .escape hwhole⟩
  | char c s hc ih =>
    by_cases hslash : c = '\\'
    · subst hslash
      rw [hc rfl] at h
      cases quote <;> cases h
    · rcases cutArgument?_step hslash depth quote with ⟨rfl, rfl, rfl⟩ | ⟨depth', quote', hstep⟩
      · rw [cutArgument?_end] at h
        cases h
        exact ⟨rfl, .nil⟩
      · rw [hstep] at h
        obtain ⟨a, ha, rfl⟩ := pushArgument_eq_some.1 h
        obtain ⟨rfl, hwhole⟩ := ih ha
        exact ⟨rfl, .plain hslash hwhole⟩

theorem readArgument_eq_ok {s argument rest : List Char} :
    readArgument ('(' :: s) = .ok (argument, rest) ↔
      cutArgument? 0 none s = some (argument, rest) := by
  rw [readArgument, List.drop_one, List.tail_cons]
  cases cutArgument? 0 none s with
  | none =>
    constructor
    · intro h
      cases h
    · intro h
      cases h
  | some p =>
    rw [Except.ok.injEq, Option.some.injEq]

theorem locates_readArgument (s : List Char) : Locates ('(' :: s) (readArgument ('(' :: s)) := by
  rw [readArgument]
  split
  · exact .ok
  · exact .error (locatedIn_head rfl rfl)

theorem locates_readNthArgument (s : List Char) :
    Locates ('(' :: s) (readNthArgument ('(' :: s)) := by
  refine (locates_readArgument s).bind fun (argument, rest) _ => ?_
  dsimp only
  split
  · exact .ok
  · exact .error nofun

theorem locates_unexpected (expected : Expected) (s : List Char) :
    (unexpected expected s).LocatedIn s := by
  cases s with
  | nil => exact nofun
  | cons c s => exact locatedIn_head rfl rfl

theorem locates_expectName (expected : Expected) (s : List Char) :
    Locates s (expectName expected s) := by
  rw [expectName]
  split
  · exact .ok
  · exact .error (locates_unexpected expected s)

section Inner

variable {inner : List Char → Read SelectorList} {allows : PseudoClassName → Bool}
  {s r : List Char}

theorem leaves_readCondition {c : SimpleSelector}
    (h : readCondition inner allows s = .ok (some (c, r))) : Leaves s r :=
  ((readCondition_follows (fun _ _ h => h) (nofun : Spaces []) allows s).step c r h).2.1

theorem leaves_readCompound {c : CompoundSelector}
    (h : readCompound inner allows s = .ok (c, r)) : Leaves s r :=
  (readCompound_follows (fun _ _ h => h) (nofun : Spaces []) allows s).leaves h

theorem leaves_readStep {step : Combinator × CompoundSelector}
    (h : readStep inner allows s = .ok (some (step, r))) : Leaves s r :=
  ((readStep_follows (fun _ _ h => h) (nofun : Spaces []) allows s).step step r h).2.1

theorem locates_readBarePseudo (name : PseudoClassName) (t : List Char) :
    Locates t (readBarePseudo name t) := by
  cases name with
  | nth | nthLast | not => exact .error nofun
  | _ => exact .ok

variable (hinner : ∀ argument, Locates argument (inner argument))

include hinner

theorem locates_readFunctionalPseudo (name : PseudoClassName) (t : List Char) :
    Locates ('(' :: t) (readFunctionalPseudo inner name ('(' :: t)) := by
  cases name with
  | nth among => exact (locates_readNthArgument t).bind fun _ _ => .ok
  | nthLast among => exact (locates_readNthArgument t).bind fun _ _ => .ok
  | not =>
    refine (locates_readArgument t).bind fun (argument, rest) hargument => ?_
    obtain ⟨ht, hwhole⟩ := append_of_cutArgument? (readArgument_eq_ok.1 hargument)
    have hlocates : Locates (argument ++ ')' :: rest) ((inner argument).within (')' :: rest)) := by
      refine (hinner argument).within fun c hc => ?_
      cases hc
      exact ⟨by decide, hwhole⟩
    refine Locates.bind (.of_leaves ?_ hlocates) fun _ _ => .ok
    rw [ht]
    exact .plain (by decide) (.refl _)
  | _ => exact .error (locatedIn_head rfl rfl)

theorem locates_readPseudoClass (allows : PseudoClassName → Bool) (s : List Char) :
    Locates s (readPseudoClass inner allows s) := by
  by_cases h : ∃ t, s = ':' :: t
  · obtain ⟨t, rfl⟩ := h
    exact .error nofun
  · rw [not_exists] at h
    rw [readPseudoClass_eq h]
    refine (locates_expectName _ s).next
      (fun _ _ => (expectName_follows (nofun : Spaces []) _ s).leaves) fun written t _ => ?_
    dsimp only
    split
    · exact .error nofun
    · fun_cases behindPseudo inner _ t with
      | case1 t => exact locates_readFunctionalPseudo hinner _ t
      | case2 t => exact locates_readBarePseudo _ t

theorem locates_readCondition (allows : PseudoClassName → Bool) (s : List Char) :
    Locates s (readCondition inner allows s) := by
  -- a condition is read from behind the character that it starts with
  have behind {c : Char} {t : List Char} (hc : c ≠ '\\') : Leaves (c :: t) t := .plain hc (.refl t)
  fun_cases readCondition inner allows s with
  | case1 s => exact .of_leaves (behind (by decide)) ((locates_expectName _ s).bind fun _ _ => .ok)
  | case2 s => exact .of_leaves (behind (by decide)) ((locates_expectName _ s).bind fun _ _ => .ok)
  | case3 s => exact (locates_readAttribute s).bind fun _ _ => .ok
  | case4 s =>
    have hpseudo := locates_readPseudoClass hinner allows s
    exact .of_leaves (behind (by decide)) (hpseudo.bind fun _ _ => .ok)
  | case5 s => exact .error (locatedIn_head rfl rfl)
  | case6 => exact .ok

theorem locates_readCompound (allows : PseudoClassName → Bool) (s : List Char) :
    Locates s (readCompound inner allows s) := by
  have hhead := (readHead_follows (nofun : Spaces []) s).leaves rfl
  have hmany := Locates.readMany (locates_readCondition hinner allows)
    (fun _ _ _ => leaves_readCondition) (readHead s).2
  exact .of_leaves hhead (hmany.bind fun _ _ => .ok)

omit hinner in
theorem locates_readCombinator (s : List Char) : Locates s (readCombinator s) := by
  rw [readCombinator]
  split
  · exact .ok
  · exact .ok
  · exact .ok
  · exact .ok
  · rename_i hs
    split
    · exact .ok
    · exact .error (.of_leaves (hs ▸ leaves_skipSpace s) (locatedIn_head rfl rfl))

theorem locates_readStep (allows : PseudoClassName → Bool) (s : List Char) :
    Locates s (readStep inner allows s) := by
  refine (locates_readCombinator s).bind fun found hfound => ?_
  cases found with
  | none => exact .ok
  | some p =>
    obtain ⟨-, hleaves, -⟩ := (readCombinator_follows (nofun : Spaces []) s).step p.1 p.2 hfound
    refine .of_leaves hleaves ((locates_readCompound hinner allows p.2).next
      (fun _ _ => leaves_readCompound) fun compound rest _ => ?_)
    dsimp only
    split
    · exact .error (locates_unexpected _ rest)
    · exact .ok

theorem locates_readComplex (allows : PseudoClassName → Bool) (s : List Char) :
    Locates s (readComplex inner allows s) := by
  refine .of_leaves (leaves_skipSpace s) ((locates_readCompound hinner allows _).next
    (fun _ _ => leaves_readCompound) fun compound rest _ => ?_)
  dsimp only
  split
  · exact .error (locates_unexpected _ rest)
  · have hmany := Locates.readMany (locates_readStep hinner allows)
      (fun _ _ _ => leaves_readStep) rest
    exact hmany.bind fun _ _ => .ok

end Inner

/-! ## Scans -/

/-- What is open in front of `s` was opened in the text before. A string that is not closed in `s` has
not been closed since. -/
structure OpenedIn (whole s : List Char) (quote : Option Opening) (opened : List Opening) : Prop where
  leaves : s ≠ [] → Leaves whole s
  quote : ∀ p, quote = some p → (p.1 = '"' ∨ p.1 = '\'') ∧ ∃ t, p.2 = p.1 :: t ∧
    Leaves whole p.2 ∧ (Unclosed p.1 s → Unclosed p.1 t)
  brackets : ∀ p ∈ opened, ∃ t, p.2 = p.1 :: t ∧ Leaves whole p.2

namespace OpenedIn

variable {whole s : List Char} {c : Char} {quote : Option Opening} {opened : List Opening}

theorem unterminated {p : Opening} (h : OpenedIn whole [] (some p) opened) :
    (SyntaxError.unterminatedString p.2).LocatedIn whole := by
  obtain ⟨hquote, t, ht, hleaves, hunclosed⟩ := h.quote p rfl
  rintro _ ⟨⟩
  exact ⟨p.1, t, ht, hleaves, hquote, hunclosed .nil⟩

theorem unbalanced {p : Opening} (h : OpenedIn whole s quote opened) (hp : p ∈ opened) :
    (SyntaxError.unbalancedBracket p.1 p.2).LocatedIn whole := by
  obtain ⟨t, ht, hleaves⟩ := h.brackets p hp
  rintro _ ⟨⟩
  exact ⟨p.1, t, ht, hleaves, rfl⟩

theorem here (h : OpenedIn whole (c :: s) quote opened) :
    (SyntaxError.unbalancedBracket c (c :: s)).LocatedIn whole :=
  .of_leaves (h.leaves (List.cons_ne_nil c s)) (locatedIn_head rfl rfl)

theorem escape (h : OpenedIn whole ('\\' :: c :: s) quote opened) :
    OpenedIn whole s quote opened := by
  refine ⟨fun _ => (h.leaves nofun).trans (.escape (.refl s)), fun p hp => ?_, h.brackets⟩
  obtain ⟨hquote, t, ht, hleaves, hunclosed⟩ := h.quote p hp
  exact ⟨hquote, t, ht, hleaves, fun hs => hunclosed (.escape hs)⟩

variable (hc : c = '\\' → s = [])

include hc

theorem leaves_tail (h : OpenedIn whole (c :: s) quote opened) (hs : s ≠ []) : Leaves whole s :=
  (h.leaves nofun).trans (.plain (fun hslash => hs (hc hslash)) (.refl s))

/-- Outside of quotes. -/
theorem outside {opened' : List Opening} (h : OpenedIn whole (c :: s) quote opened)
    (hbrackets : ∀ p ∈ opened', p ∈ opened ∨ p = (c, c :: s)) : OpenedIn whole s none opened' := by
  refine ⟨h.leaves_tail hc, nofun, fun p hp => ?_⟩
  rcases hbrackets p hp with hp | rfl
  · exact h.brackets p hp
  · exact ⟨s, rfl, h.leaves nofun⟩

/-- Behind an opening quote. -/
theorem quoted (h : OpenedIn whole (c :: s) quote opened) (hquote : c = '"' ∨ c = '\'') :
    OpenedIn whole s (some (c, c :: s)) opened := by
  refine ⟨h.leaves_tail hc, ?_, h.brackets⟩
  rintro _ ⟨⟩
  exact ⟨hquote, s, rfl, h.leaves nofun, fun hs => hs⟩

/-- Within quotes, which the character may close. -/
theorem within {q : Char} {place : List Char} (h : OpenedIn whole (c :: s) (some (q, place)) opened) :
    OpenedIn whole s (if c = q then none else some (q, place)) opened := by
  refine ⟨h.leaves_tail hc, fun p hp => ?_, h.brackets⟩
  split at hp
  · cases hp
  · rename_i hq
    cases hp
    obtain ⟨hquote, t, ht, hleaves, hunclosed⟩ := h.quote _ rfl
    refine ⟨hquote, t, ht, hleaves, fun hs => hunclosed ?_⟩
    by_cases hslash : c = '\\'
    · rw [hslash, hc hslash]
      exact .slash
    · exact .plain hq hslash hs

end OpenedIn

theorem Locates.prepend {α : Type} {s t : List Char} {r : Read (Option (List Char × α))}
    (h : Locates s r) : Locates s (Read.prepend t r) := by
  cases r with
  | error e => exact .error (h e rfl)
  | ok found => exact .ok

theorem locates_findFrom {sep whole s : List Char} {quote : Option Opening} {opened : List Opening}
    (h : OpenedIn whole s quote opened) : Locates whole (findFrom sep quote opened s) := by
  have hend {c : Char} {s : List Char} (hc : ∀ d t, c = '\\' → s = d :: t → False) :
      c = '\\' → s = [] := by
    intro hslash
    cases s with
    | nil => rfl
    | cons d t => exact absurd rfl (hc d t hslash)
  fun_induction findFrom sep quote opened s with
  | case1 => exact .error h.unterminated
  | case2 => exact .error (h.unbalanced (List.mem_cons_self ..))
  | case3 => exact .ok
  | case4 quote opened c s ih => exact .prepend (ih h.escape)
  | case5 opened c s hc q place ih => exact .prepend (ih (h.within (hend hc)))
  | case6 opened s hc ih => exact .prepend (ih (h.outside (hend hc) fun p hp => Or.inl hp))
  | case7 opened c s hc hslash hquote ih =>
    rw [Bool.or_eq_true, decide_eq_true_eq, decide_eq_true_eq] at hquote
    exact .prepend (ih (h.quoted (hend hc) hquote))
  | case8 opened c s hc hslash hquote hopen ih =>
    exact .prepend (ih (h.outside (hend hc) fun p hp => (List.mem_cons.1 hp).symm))
  | case9 c s hc _ _ _ _ bracket place outer _ ih =>
    exact .prepend (ih (h.outside (hend hc) fun p hp => Or.inl (List.mem_cons_of_mem _ hp)))
  | case10 => exact .error h.here
  | case11 => exact .error h.here
  | case12 => exact .ok
  | case13 opened c s hc _ _ _ _ _ ih =>
    exact .prepend (ih (h.outside (hend hc) fun p hp => Or.inl hp))

theorem locates_findTopLevel (sep s : List Char) : Locates s (findTopLevel sep s) :=
  locates_findFrom ⟨fun _ => .refl s, nofun, nofun⟩

/-! ## Selector lists -/

/-- A text between commas, with the text that follows it, is the end of the whole text. -/
def InPlace (s : List Char) (segment : Segment) : Prop :=
  Leaves s (segment.text ++ segment.after) ∧
    ∀ c, segment.after.head? = some c → c ∈ ['\n', ',', ')'] ∧ Whole segment.text

theorem inPlace_of_findTopLevel {s text after : List Char}
    (h : findTopLevel [','] s = .ok (some (text, after))) :
    InPlace s ⟨text, after⟩ ∧ Leaves s (after.drop [','].length) := by
  obtain ⟨rfl, hscans, hstop⟩ := findTopLevel_eq_some.1 h
  obtain ⟨rest, rfl⟩ := exists_of_stops hstop
  have hwhole : Whole text := hscans.whole (List.cons_ne_nil _ _)
  refine ⟨⟨.refl _, ?_⟩, text ++ [','], hwhole.append (.plain (by decide) .nil), by simp⟩
  rintro _ ⟨⟩
  exact ⟨by decide, hwhole⟩

theorem locates_splitTopLevel (s : List Char) : Locates s (splitTopLevel [','] s) ∧
    ∀ segments, splitTopLevel [','] s = .ok segments → ∀ segment ∈ segments, InPlace s segment := by
  fun_induction splitTopLevel [','] s with
  | case1 s e he =>
    have hlocated := locates_findTopLevel [','] s e he
    exact ⟨.error hlocated, nofun⟩
  | case2 s hnone =>
    refine ⟨.ok, fun segments h => ?_⟩
    cases h
    refine List.forall_mem_singleton.2 ⟨?_, nofun⟩
    rw [List.append_nil]
    exact .refl s
  | case3 s text after hsome hlt e he ih =>
    obtain ⟨-, hleaves⟩ := inPlace_of_findTopLevel hsome
    exact ⟨.of_leaves hleaves (he ▸ ih.1), nofun⟩
  | case4 s text after hsome hlt segments hsegments ih =>
    obtain ⟨hplace, hleaves⟩ := inPlace_of_findTopLevel hsome
    refine ⟨.ok, fun segments' h => ?_⟩
    cases h
    refine List.forall_mem_cons.2 ⟨hplace, fun segment hsegment => ?_⟩
    obtain ⟨hl, hafter⟩ := ih.2 segments hsegments segment hsegment
    exact ⟨hleaves.trans hl, hafter⟩
  | case5 s text after hsome hlt =>
    obtain ⟨hplace, -⟩ := inPlace_of_findTopLevel hsome
    refine ⟨.ok, fun segments h => ?_⟩
    cases h
    exact List.forall_mem_singleton.2 hplace

theorem Locates.mapM {α β : Type} {s : List Char} {f : α → Read β} {as : List α}
    (h : ∀ a ∈ as, Locates s (f a)) : Locates s (as.mapM f) := by
  induction as with
  | nil => exact .ok
  | cons a as ih =>
    obtain ⟨ha, has⟩ := List.forall_mem_cons.1 h
    rw [List.mapM_cons]
    exact ha.bind fun _ _ => (ih has).bind fun _ _ => .ok

theorem locates_readAlternatives {inner : List Char → Read SelectorList}
    (hinner : ∀ argument, Locates argument (inner argument)) (allows : PseudoClassName → Bool)
    (s : List Char) : Locates s (readAlternatives inner allows s) := by
  obtain ⟨hsplit, hplaces⟩ := locates_splitTopLevel s
  refine hsplit.bind fun segments hsegments => .mapM fun segment hsegment => ?_
  obtain ⟨hleaves, hafter⟩ := hplaces segments hsegments segment hsegment
  exact .of_leaves hleaves ((locates_readComplex hinner allows _).within hafter)

/-- An error of a selector list is located in it, wherever in the arguments and alternatives it is. -/
theorem locates_readSelectorList (allows : PseudoClassName → Bool) (s : List Char) :
    Locates s (readSelectorList allows s) := by
  induction hn : s.length using Nat.strongRecOn generalizing s with
  | _ n ih =>
    rw [readSelectorList]
    refine locates_readAlternatives (fun argument => ?_) allows s
    split
    · rename_i hlt
      exact ih _ (hn ▸ hlt) argument rfl
    · exact .error fun place hplace => by cases hplace

end Selector

end Umbra
