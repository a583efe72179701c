import Umbra.Proofs.Selector.Commas
import Umbra.Proofs.Selector.ReadBack

/-!
# Selectors spelled with any white space

Names, values and positions are spelled as they are written. White space may stand around the sign of
a combinator, around commas, at both ends of a list and in every gap of an attribute test, and some of
it has to stand for the descendant combinator. However a selector is spelled, it is read back.
-/

namespace Umbra.Selector

open Text

/-! ## Spellings -/

/-- The letter of a case mode, without the space that is written in front of it. -/
def CaseMode.letter : CaseMode → List Char
  | plain => []
  | insensitive => ['i']
  | sensitive => ['s']

inductive AttributePredicate.Spelled : AttributePredicate → List Char → Prop
  | present {name : String} {left right : List Char} (hleft : Spaces left) (hright : Spaces right) :
    Spelled ⟨name, .present⟩ ('[' :: (left ++ (writeName name.toList ++ (right ++ [']']))))
  | compare {name expected : String} {operator : AttributeOperator} {mode : CaseMode}
    {left afterName afterOperator afterValue right : List Char} (hleft : Spaces left)
    (hname : Spaces afterName) (hoperator : Spaces afterOperator) (hvalue : Spaces afterValue)
    (hright : Spaces right) : Spelled ⟨name, .compare operator expected mode⟩
      ('[' :: (left ++ (writeName name.toList ++ (afterName ++ (operator.write ++ (afterOperator ++
        (writeString expected.toList ++ (afterValue ++ (mode.letter ++ (right ++ [']']))))))))))

inductive Combinator.Spelled : Combinator → List Char → Prop
  | descendant {space : List Char} (hspace : Spaces space) (hne : space ≠ []) :
    Spelled .descendant space
  | sign {c : Char} {k : Combinator} {left right : List Char} (hc : Sign c k) (hleft : Spaces left)
    (hright : Spaces right) : Spelled k (left ++ c :: right)

mutual

inductive SimpleSelector.Spelled : SimpleSelector → List Char → Prop
  | type (name : String) : SimpleSelector.Spelled (.type name) (writeName name.toList)
  | universal : SimpleSelector.Spelled .universal ['*']
  | id (name : String) : SimpleSelector.Spelled (.id name) ('#' :: writeName name.toList)
  | className (name : String) :
    SimpleSelector.Spelled (.className name) ('.' :: writeName name.toList)
  | attribute {predicate : AttributePredicate} {t : List Char} (h : predicate.Spelled t) :
    SimpleSelector.Spelled (.attribute predicate) t
  | pseudo {p : PseudoClass} {t : List Char} (h : p.Spelled t) :
    SimpleSelector.Spelled (.pseudo p) (':' :: t)

inductive PseudoClass.Spelled : PseudoClass → List Char → Prop
  | written {p : PseudoClass} (h : p.name ≠ .not) : PseudoClass.Spelled p p.write
  | not {alternatives : List ComplexSelector} {t : List Char} (h : SpelledList alternatives t) :
    PseudoClass.Spelled (.not alternatives) (PseudoClassName.not.text.toList ++ '(' :: (t ++ [')']))

inductive SpelledCompound : List SimpleSelector → List Char → Prop
  | nil : SpelledCompound [] []
  | cons {s : SimpleSelector} {rest : List SimpleSelector} {t u : List Char} (hs : s.Spelled t)
    (hrest : SpelledCompound rest u) : SpelledCompound (s :: rest) (t ++ u)

inductive ComplexSelector.Spelled : ComplexSelector → List Char → Prop
  | compound {subject : List SimpleSelector} {t : List Char} (h : SpelledCompound subject t) :
    ComplexSelector.Spelled (.compound subject) t
  | link {subject : List SimpleSelector} {k : Combinator} {left : ComplexSelector}
    {t gap u : List Char} (hleft : left.Spelled t) (hk : k.Spelled gap)
    (h : SpelledCompound subject u) :
    ComplexSelector.Spelled (.link subject k left) (t ++ (gap ++ u))

inductive SpelledList : List ComplexSelector → List Char → Prop
  | one {c : ComplexSelector} {left t right : List Char} (hleft : Spaces left)
    (hright : Spaces right) (h : c.Spelled t) : SpelledList [c] (left ++ t ++ right)
  | cons {c : ComplexSelector} {rest : List ComplexSelector} {left t right u : List Char}
    (hleft : Spaces left) (hright : Spaces right) (h : c.Spelled t) (hrest : SpelledList rest u) :
    SpelledList (c :: rest) (left ++ t ++ right ++ ',' :: u)

end

/-! ## Spellings are balanced -/

/-- A sign has a character behind it that is not a greater-than sign. -/
theorem Balanced.child_append {comma : Bool} {s t : List Char} (hs : Spaces s) (ht : Balanced comma t)
    (hstarts : Starts t) : Balanced comma ('>' :: (s ++ t)) := by
  cases s with
  | nil =>
    obtain ⟨c, u, rfl, -, hc, -⟩ := hstarts
    exact .child hc ht
  | cons c s =>
    refine .child ?_ (hs.balanced.append ht)
    rintro rfl
    cases hs '>' (List.mem_cons_self ..)

theorem Combinator.Spelled.balanced_append {k : Combinator} {gap t : List Char} (h : k.Spelled gap)
    (ht : Balanced false t) (hstarts : Starts t) : Balanced false (gap ++ t) := by
  cases h with
  | descendant hspace => exact hspace.balanced.append ht
  | sign hc hleft hright =>
    rw [List.append_assoc, List.cons_append]
    refine hleft.balanced.append ?_
    cases hc with
    | child => exact .child_append hright ht hstarts
    | _ => exact .plain rfl (by decide) (hright.balanced.append ht)

theorem AttributePredicate.Spelled.balanced {p : AttributePredicate} {t : List Char}
    (h : p.Spelled t) : Balanced false t := by
  have hname (name : String) : Balanced true (writeName name.toList) := (balanced_writeName _).mono
  have henclosed {v : List Char} (hv : Balanced true v) : Balanced false ('[' :: (v ++ [']'])) :=
    .enclosed rfl hv .nil
  cases h with
  | @present name _ _ hleft hright =>
    have hinner := hleft.balanced.append ((hname name).append hright.balanced)
    simpa only [List.append_assoc] using henclosed hinner
  | @compare name expected operator mode _ _ _ _ _ hleft hafter hoperator hvalue hright =>
    have hwrite : Balanced true operator.write := by cases operator <;> exact .of_all rfl
    have hletter : Balanced true mode.letter := by cases mode <;> exact .of_all rfl
    have htest := hafter.balanced.append (hwrite.append (hoperator.balanced.append
      ((balanced_writeString expected.toList).append (hvalue.balanced.append
        (hletter.append hright.balanced)))))
    have hinner := hleft.balanced.append ((hname name).append htest)
    simpa only [List.append_assoc] using henclosed hinner

section Shaped

variable {allows : PseudoClassName → Bool}

theorem SimpleSelector.Spelled.exists_cons {s : SimpleSelector} {t : List Char} (h : s.Spelled t)
    (hhead : s.isHead = false) : ∃ c u, t = c :: u ∧ c ∈ ['#', '.', '[', ':'] := by
  cases h with
  | type | universal => cases hhead
  | id | className | pseudo => exact ⟨_, _, rfl, by decide⟩
  | «attribute» h => cases h <;> exact ⟨_, _, rfl, by decide⟩

theorem SpelledCompound.starts {c : List SimpleSelector} {t : List Char} (h : SpelledCompound c t)
    (hshaped : shapedCompound allows c) : Starts t := by
  cases h with
  | nil => cases hshaped
  | @cons s _ t _ hs =>
    refine Starts.append ?_ _
    by_cases hhead : s.isHead = true
    · cases hs with
      | type name =>
        have hstarts := continues_writeName (toList_ne_nil hshaped.1.1) []
        rw [List.append_nil] at hstarts
        exact starts_of_continues hstarts
      | universal => exact ⟨'*', [], rfl, by decide⟩
      | _ => cases hhead
    · obtain ⟨c, u, rfl, hc⟩ := hs.exists_cons (Bool.not_eq_true _ ▸ hhead)
      refine ⟨c, u, rfl, ?_⟩
      simp only [List.mem_cons, List.not_mem_nil, or_false] at hc
      rcases hc with rfl | rfl | rfl | rfl <;> decide

theorem ComplexSelector.Spelled.starts : {c : ComplexSelector} → {t : List Char} → c.Spelled t →
    c.Shaped allows → Starts t
  | _, _, .compound h, hshaped => h.starts hshaped
  | _, _, .link hleft _ _, hshaped => (hleft.starts hshaped.2).append _

mutual

theorem SimpleSelector.Spelled.balanced {s : SimpleSelector} {t : List Char} (h : s.Spelled t)
    (hshaped : s.Shaped allows) : Balanced false t := by
  match h with
  | .type name => exact balanced_writeName _
  | .universal => exact .of_all rfl
  | .id name => exact .plain rfl (by decide) (balanced_writeName _)
  | .className name => exact .plain rfl (by decide) (balanced_writeName _)
  | .attribute h => exact h.balanced
  | .pseudo h => exact .plain rfl (by decide) (PseudoClass.Spelled.balanced h hshaped.2)

theorem PseudoClass.Spelled.balanced {p : PseudoClass} {t : List Char} (h : p.Spelled t)
    (hshaped : p.Shaped allows) : Balanced false t := by
  match h with
  | .written _ => exact balanced_writePseudo p
  | .not h =>
    exact .append (balanced_text _)
      (.enclosed rfl (SpelledList.balanced h hshaped.2) .nil)

theorem SpelledCompound.balanced {c : List SimpleSelector} {t : List Char} (h : SpelledCompound c t)
    (hshaped : ∀ s ∈ c, s.Shaped allows) : Balanced false t := by
  match h with
  | .nil => exact .nil
  | .cons hs hrest =>
    obtain ⟨hhead, htail⟩ := List.forall_mem_cons.1 hshaped
    exact .append (SimpleSelector.Spelled.balanced hs hhead) (SpelledCompound.balanced hrest htail)

theorem ComplexSelector.Spelled.balanced {c : ComplexSelector} {t : List Char} (h : c.Spelled t)
    (hshaped : c.Shaped allows) : Balanced false t := by
  match h with
  | .compound h => exact SpelledCompound.balanced h fun s hs => (of_mem_compound hshaped hs).1
  | .link hleft hk h =>
    have hsubject := SpelledCompound.balanced h fun s hs => (of_mem_compound hshaped.1 hs).1
    exact .append (ComplexSelector.Spelled.balanced hleft hshaped.2)
      (hk.balanced_append hsubject (h.starts hshaped.1))

theorem SpelledList.balanced {alternatives : List ComplexSelector} {t : List Char}
    (h : SpelledList alternatives t) (hshaped : shapedList allows alternatives) :
    Balanced true t := by
  match h with
  | .one hleft hright h =>
    have hbalanced : Balanced true _ := (ComplexSelector.Spelled.balanced h hshaped.1).mono
    exact (hleft.balanced.append hbalanced).append hright.balanced
  | .cons hleft hright h hrest =>
    have hbalanced : Balanced true _ := (ComplexSelector.Spelled.balanced h hshaped.1).mono
    have hbehind := SpelledList.balanced hrest hshaped.2
    exact ((hleft.balanced.append hbalanced).append hright.balanced).append
      (.plain rfl (fun _ => rfl) hbehind)

end

end Shaped

/-! ## Attribute tests -/

theorem readAttribute_name {name : String} (hne : name ≠ "") (hhyphen : name ≠ "-")
    {left u : List Char} (hleft : Spaces left) (hu : continues u = false) :
    ∃ unclosed, readAttribute ('[' :: (left ++ (writeName name.toList ++ u))) =
      behindName unclosed (scrubbed name.toList) (skipSpace u) := by
  have hat := atName_writeName (toList_ne_nil hne) (toList_ne_hyphen hhyphen) u
  have hskip : skipSpace (left ++ (writeName name.toList ++ u)) = writeName name.toList ++ u := by
    rw [hleft.skipSpace_append, (starts_of_continues (continues_of_atName hat)).skipSpace]
  have hread := readAttribute_eq (hskip ▸ hat)
  rw [hskip, readName_written (.whole u) hu] at hread
  exact ⟨_, hread⟩

/-- The case mode is read, and the closing bracket is next behind white space. -/
theorem readModifier_letter (unclosed : SyntaxError (List Char)) (mode : CaseMode)
    {left right : List Char} (hleft : Spaces left) (hright : Spaces right) (rest : List Char) :
    ∃ r, readModifier unclosed (skipSpace (left ++ (mode.letter ++ (right ++ ']' :: rest)))) =
      .ok (mode, r) ∧ skipSpace r = ']' :: rest := by
  have hclose : skipSpace (right ++ ']' :: rest) = ']' :: rest := hright.skipSpace_append _
  have hletter {c : Char} (hc : isNameChar c = true) (hmode : CaseMode.ofModifier? [c] = some mode) :
      readModifier unclosed (c :: (right ++ ']' :: rest)) = .ok (mode, right ++ ']' :: rest) := by
    have hne : ¬ c = ']' := by
      rintro rfl
      cases hc
    rw [readModifier_of_isNameChar unclosed hne hc, readName_of_isNameChar hc,
      readName_of_not_continues (hright.continues_append rfl), hmode]
    rfl
  rw [hleft.skipSpace_append]
  cases mode with
  | plain =>
    refine ⟨']' :: rest, ?_, rfl⟩
    have hskip : skipSpace (CaseMode.plain.letter ++ (right ++ ']' :: rest)) = ']' :: rest := hclose
    rw [hskip]
    rfl
  | insensitive => exact ⟨_, hletter (c := 'i') rfl rfl, hclose⟩
  | sensitive => exact ⟨_, hletter (c := 's') rfl rfl, hclose⟩

theorem readAttribute_spelled {p : AttributePredicate} {t : List Char} (h : p.Spelled t)
    (hname : IsLowered p.name) (hhyphen : p.name ≠ "-") (rest : List Char) :
    readAttribute (t ++ rest) = .ok (p.scrubbed, rest) := by
  have hmake {name : String} (hlower : IsLowered name) (test : AttributeTest) :
      AttributePredicate.make (String.ofList (scrubbed name.toList)) test =
        ⟨scrubbedText name, test⟩ := by
    rw [← hlower.scrubbed]
    rfl
  cases h with
  | @present name left right hleft hright =>
    obtain ⟨unclosed, hread⟩ := readAttribute_name hname.1 hhyphen hleft
      (hright.continues_append (t := ']' :: rest) rfl)
    have hskip : skipSpace (right ++ ']' :: rest) = ']' :: rest := hright.skipSpace_append _
    simp only [List.cons_append, List.append_assoc, List.nil_append]
    rw [hread, hskip, behindName, hmake hname]
    rfl
  | @compare name expected operator mode left afterName afterOperator afterValue right hleft hafter
      hoperator hvalue hright =>
    simp only [List.cons_append, List.append_assoc, List.nil_append]
    generalize htest : writeString expected.toList ++
      (afterValue ++ (mode.letter ++ (right ++ ']' :: rest))) = test
    obtain ⟨c, s, hc, hspace, hclose, hstop⟩ :=
      exists_write_append operator (afterOperator ++ test)
    have hskip : skipSpace (afterName ++ c :: s) = c :: s := by
      rw [hafter.skipSpace_append, skipSpace_cons hspace]
    have hread := readOperator_write operator (afterOperator ++ test)
    rw [hc] at hread ⊢
    obtain ⟨unclosed, hname'⟩ := readAttribute_name hname.1 hhyphen hleft
      (hafter.continues_append hstop)
    obtain ⟨r, hmodifier, hend⟩ := readModifier_letter unclosed mode hvalue hright rest
    rw [hname', hskip, behindName, hread]
    · simp only [bind, Except.bind, hoperator.skipSpace_append, ← htest, readValue_write, hmodifier,
        hend, hmake hname]
      rfl
    · exact hclose

/-! ## Conditions -/

theorem readPseudoClass_not {allows : PseudoClassName → Bool} {inner : List Char → Read SelectorList}
    {alternatives : SelectorList} (hallowed : allows .not = true) {t : List Char}
    (ht : Balanced true t) (hinner : inner t = .ok alternatives) (rest : List Char) :
    readPseudoClass inner allows (PseudoClassName.not.text.toList ++ '(' :: (t ++ ')' :: rest)) =
      .ok (.not alternatives, rest) := by
  have hread : expectName .pseudoClassName (PseudoClassName.not.text.toList ++ '(' ::
      (t ++ ')' :: rest)) = .ok (PseudoClassName.not.text, '(' :: (t ++ ')' :: rest)) :=
    expectName_text .not rfl
  rw [readPseudoClass_eq]
  · simp only [bind, Except.bind, hread, PseudoClassName.ofWritten?_text, Option.filter_some,
      hallowed, if_true, behindPseudo, readFunctionalPseudo, readArgument_balanced ht, hinner]
    rfl
  · exact fun u hu => absurd (List.cons.inj hu).1 (by decide)

/-- Lists that are spelled in fewer than `n` characters are read back. -/
def ReadsSpelled (allows : PseudoClassName → Bool) (n : Nat) : Prop :=
  ∀ alternatives t, SpelledList alternatives t → shapedList allows alternatives →
    "-" ∉ listNames alternatives → t.length < n →
    readSelectorList allows t = .ok (scrubbedList alternatives)

section Below

variable {allows : PseudoClassName → Bool} {n : Nat} (hbelow : ReadsSpelled allows n)

include hbelow

theorem readCondition_spelled {s : SimpleSelector} {t : List Char} (h : s.Spelled t)
    (hhead : s.isHead = false) (hshaped : s.Shaped allows) (hnames : "-" ∉ s.names)
    (hn : t.length ≤ n) {rest : List Char} (hrest : Breaks rest) :
    readCondition (readBelow allows n) allows (t ++ rest) = .ok (some (s.scrubbed, rest)) := by
  cases h with
  | type | universal => cases hhead
  | id name =>
    exact readCondition_written rfl hshaped hnames (by simp [ReadsBack]) (.whole rest) hrest
  | className name =>
    exact readCondition_written rfl hshaped hnames (by simp [ReadsBack]) (.whole rest) hrest
  | @«attribute» predicate _ h =>
    have hhyphen : predicate.name ≠ "-" := by simpa [SimpleSelector.names, eq_comm] using hnames
    have hread := readAttribute_spelled h hshaped hhyphen rest
    obtain ⟨tail, htail⟩ : ∃ tail, t ++ rest = '[' :: tail := by cases h <;> exact ⟨_, rfl⟩
    rw [htail, readCondition, ← htail, hread]
    rfl
  | pseudo h =>
    cases h with
    | @written p hname =>
      refine readCondition_written rfl hshaped hnames (fun alternatives hmem => ?_) (.whole rest) hrest
      rw [List.mem_singleton, SimpleSelector.pseudo.injEq] at hmem
      rw [← hmem] at hname
      exact absurd rfl hname
    | @not alternatives t h =>
      obtain ⟨hallowed, -, hlist⟩ := hshaped
      have hlt : t.length < n := by
        simp only [List.length_cons, List.length_append] at hn
        omega
      have hinner : readBelow allows n t = .ok (scrubbedList alternatives) := by
        rw [readBelow, if_pos hlt]
        exact hbelow alternatives t h hlist hnames hlt
      have hread := readPseudoClass_not hallowed (h.balanced hlist) hinner rest
      simp only [List.cons_append, List.append_assoc, List.nil_append]
      rw [readCondition, hread]
      rfl

omit hbelow in
theorem SpelledCompound.breaks {cs : List SimpleSelector} {t : List Char} (h : SpelledCompound cs t)
    (hshaped : shapedConditions allows cs) {rest : List Char} (hrest : Breaks rest) :
    Breaks (t ++ rest) := by
  cases h with
  | nil => exact hrest
  | cons hs =>
    obtain ⟨c, u, rfl, hc⟩ := hs.exists_cons hshaped.1
    intro d hd
    obtain rfl := Option.some.inj hd
    exact Or.inr (List.mem_append_right ['>', '+', '~'] hc)

theorem readMany_spelledConditions {cs : List SimpleSelector} {t : List Char}
    (h : SpelledCompound cs t) (hshaped : shapedConditions allows cs)
    (hnames : "-" ∉ compoundNames cs) (hn : t.length ≤ n) {rest : List Char} (hrest : Ends rest) :
    readMany (readCondition (readBelow allows n) allows) (t ++ rest) =
      .ok (scrubbedCompound cs, rest) := by
  induction cs generalizing t with
  | nil =>
    cases h
    exact readMany_of_none hrest.readCondition
  | cons s cs ih =>
    cases h with
    | @cons _ _ t u hs hcs =>
      obtain ⟨hhead, hshape, hshaped⟩ := hshaped
      rw [compoundNames, List.mem_append, not_or] at hnames
      rw [List.length_append] at hn
      have hread := readCondition_spelled hbelow hs hhead hshape hnames.1 (by omega)
        (hcs.breaks hshaped hrest.breaks)
      have hlt : (u ++ rest).length < (t ++ (u ++ rest)).length := by
        obtain ⟨c, v, rfl, -⟩ := hs.exists_cons hhead
        simp only [List.length_append, List.length_cons]
        omega
      rw [List.append_assoc, scrubbedCompound]
      exact readMany_of_some hread hlt (ih hcs hshaped hnames.2 (by omega))

theorem readCompound_spelled {c : List SimpleSelector} {t : List Char} (h : SpelledCompound c t)
    (hshaped : shapedCompound allows c) (hnames : "-" ∉ compoundNames c) (hn : t.length ≤ n)
    {rest : List Char} (hrest : Ends rest) :
    readCompound (readBelow allows n) allows (t ++ rest) = .ok (scrubbedCompound c, rest) := by
  cases h with
  | nil => cases hshaped
  | @cons s cs t u hs hcs =>
    by_cases hhead : s.isHead = true
    · rw [compoundNames, List.mem_append, not_or] at hnames
      rw [List.length_append] at hn
      have hread := readMany_spelledConditions hbelow hcs hshaped.2 hnames.2 (by omega) hrest
      have hwrite : t = s.write := by
        cases hs with
        | type | universal => rfl
        | _ => cases hhead
      rw [List.append_assoc, hwrite, readCompound, readHead_written hhead hshaped.1 hnames.1
        (.whole _) (hcs.breaks hshaped.2 hrest.breaks)]
      simp only [hread, bind, Except.bind]
      rfl
    · rw [Bool.not_eq_true] at hhead
      have hread := readMany_spelledConditions hbelow (.cons hs hcs) ⟨hhead, hshaped⟩ hnames hn hrest
      have hnone : readHead (t ++ u ++ rest) = ([], t ++ u ++ rest) := by
        obtain ⟨c, v, rfl, hc⟩ := hs.exists_cons hhead
        simp only [List.mem_cons, List.not_mem_nil, or_false] at hc
        rcases hc with rfl | rfl | rfl | rfl <;> rfl
      rw [readCompound, hnone]
      simp only [hread, bind, Except.bind]
      rfl

/-! ## Complex selectors -/

omit hbelow in
theorem Combinator.Spelled.joint {k : Combinator} {gap t : List Char} (h : k.Spelled gap)
    (ht : Starts t) : Joint (gap ++ t) k t := by
  have hskip := ht.skipSpace
  obtain ⟨c, u, rfl, -, hchild, hnext, hsubsequent⟩ := ht
  cases h with
  | @descendant space hspace hne =>
    obtain ⟨d, s, rfl⟩ := List.exists_cons_of_ne_nil hne
    refine .space (fun k hk => ?_) ((hspace.skipSpace_append _).trans hskip) ?_
    · cases hk with
      | child => exact hchild rfl
      | nextSibling => exact hnext rfl
      | subsequentSibling => exact hsubsequent rfl
    · simp [hspace d (List.mem_cons_self ..)]
  | @sign d k left right hd hleft hright =>
    have hsign : skipSpace (d :: (right ++ c :: u)) = d :: (right ++ c :: u) := by
      cases hd <;> rfl
    have hjoint := Joint.sign hd ((hleft.skipSpace_append _).trans hsign)
    rw [hright.skipSpace_append, hskip] at hjoint
    rwa [List.append_assoc, List.cons_append]

omit hbelow in
theorem Combinator.Spelled.ends {k : Combinator} {gap : List Char} (h : k.Spelled gap)
    (t : List Char) : Ends (gap ++ t) := by
  have hspaces {space : List Char} (hspace : Spaces space) (hne : space ≠ []) (u : List Char) :
      Ends (space ++ u) := by
    obtain ⟨d, s, rfl⟩ := List.exists_cons_of_ne_nil hne
    intro c hc
    obtain rfl := Option.some.inj hc
    exact Or.inl (hspace d (List.mem_cons_self ..))
  cases h with
  | descendant hspace hne => exact hspaces hspace hne t
  | @sign d k left right hd hleft hright =>
    rw [List.append_assoc]
    by_cases hne : left = []
    · subst hne
      intro c hc
      obtain rfl := Option.some.inj hc
      refine Or.inr ?_
      cases hd <;> decide
    · exact hspaces hleft hne _

/-- A combinator and the compound behind it are read as the first of the steps. -/
theorem readMany_spelledStep {k : Combinator} {c : List SimpleSelector} {gap t : List Char}
    (hk : k.Spelled gap) (h : SpelledCompound c t) (hshaped : shapedCompound allows c)
    (hnames : "-" ∉ compoundNames c) (hn : t.length ≤ n) {rest : List Char} (hrest : Ends rest)
    {steps : List (Combinator × CompoundSelector)} {r : List Char}
    (hsteps : readMany (readStep (readBelow allows n) allows) rest = .ok (steps, r)) :
    readMany (readStep (readBelow allows n) allows) (gap ++ (t ++ rest)) =
      .ok ((k, scrubbedCompound c) :: steps, r) := by
  have hjoint := hk.joint ((h.starts hshaped).append rest)
  have hread := readCompound_spelled hbelow h hshaped hnames hn hrest
  have hlt : rest.length < (gap ++ (t ++ rest)).length := by
    obtain ⟨d, u, rfl, -⟩ := h.starts hshaped
    simp only [List.length_append, List.length_cons]
    omega
  refine readMany_of_some (readStep_eq_some.2 ⟨_, readCombinator_iff.2 hjoint, hread, ?_⟩) hlt hsteps
  cases c with
  | nil => cases hshaped
  | cons s cs => exact Bool.false_ne_true

/-- Behind a spelled complex selector the reading goes on with the steps that stand there. -/
theorem readMany_spelledComplex {c : ComplexSelector} {t : List Char} (h : c.Spelled t)
    (hshaped : c.Shaped allows) (hnames : "-" ∉ c.names) (hn : t.length ≤ n) {rest : List Char}
    (hrest : Ends rest) {steps : List (Combinator × CompoundSelector)} {r : List Char}
    (hsteps : readMany (readStep (readBelow allows n) allows) rest = .ok (steps, r)) :
    ∃ base behind all, readCompound (readBelow allows n) allows (t ++ rest) = .ok (base, behind) ∧
      ¬ base.isEmpty = true ∧
      readMany (readStep (readBelow allows n) allows) behind = .ok (all, r) ∧
      all.foldl .extend (.compound base) = steps.foldl .extend c.scrubbed := by
  cases h with
  | @compound subject t h =>
    refine ⟨_, rest, steps, readCompound_spelled hbelow h hshaped hnames hn hrest, ?_, hsteps, rfl⟩
    cases subject with
    | nil => cases hshaped
    | cons s cs => exact Bool.false_ne_true
  | link hleft hk h =>
    rw [ComplexSelector.names, List.mem_append, not_or] at hnames
    rw [List.length_append, List.length_append] at hn
    have hsteps' := readMany_spelledStep hbelow hk h hshaped.1 hnames.2 (by omega) hrest hsteps
    simp only [List.append_assoc]
    exact readMany_spelledComplex hleft hshaped.2 hnames.1 (by omega) (hk.ends _) hsteps'

theorem readComplex_spelled {c : ComplexSelector} {t : List Char} (h : c.Spelled t)
    (hshaped : c.Shaped allows) (hnames : "-" ∉ c.names) (hn : t.length ≤ n) :
    readComplex (readBelow allows n) allows t = .ok c.scrubbed := by
  have hend : Ends [] := nofun
  have hstop : readStep (readBelow allows n) allows [] = .ok none :=
    readStep_eq_none.2 (readCombinator_eq_none.2 rfl)
  obtain ⟨base, behind, all, hread, hbase, hall, hfold⟩ :=
    readMany_spelledComplex hbelow h hshaped hnames hn hend (readMany_of_none hstop)
  rw [List.append_nil] at hread
  refine readComplex_eq_ok.2 ⟨base, behind, all, [], ?_, hbase, hall, hfold⟩
  rwa [(h.starts hshaped).skipSpace]

end Below

/-! ## Selector lists -/

section Lists

variable {allows : PseudoClassName → Bool}

theorem ReadsSpelled.mono {m n : Nat} (h : ReadsSpelled allows n) (hle : m ≤ n) :
    ReadsSpelled allows m :=
  fun alternatives t ht hshaped hnames hlt =>
    h alternatives t ht hshaped hnames (Nat.lt_of_lt_of_le hlt hle)

theorem readSelectorList_spelledComplex {c : ComplexSelector} {t : List Char} (h : c.Spelled t)
    (hshaped : c.Shaped allows) (hnames : "-" ∉ c.names) (hbelow : ReadsSpelled allows t.length) :
    readSelectorList allows t = .ok [c.scrubbed] := by
  rw [readSelectorList_eq]
  exact readAlternatives_one (h.balanced hshaped)
    (readComplex_spelled hbelow h hshaped hnames (Nat.le_refl _))

/-- The alternatives of a spelled list stand between commas, and each of them is read back. -/
theorem SpelledList.exists_joined {n : Nat} (hbelow : ReadsSpelled allows n)
    {alternatives : List ComplexSelector} {t : List Char} (h : SpelledList alternatives t)
    (hshaped : shapedList allows alternatives) (hnames : "-" ∉ listNames alternatives)
    (hn : t.length ≤ n) : ∃ texts lists, Joined texts t ∧
      List.Forall₂ (fun text l => readSelectorList allows text = .ok l) texts lists ∧
      lists.flatten = scrubbedList alternatives := by
  induction alternatives generalizing t with
  | nil => cases h
  | cons c rest ih =>
    rw [listNames, List.mem_append, not_or] at hnames
    cases h with
    | @one _ left text right hleft hright h =>
      simp only [List.length_append] at hn
      have hread := readSelectorList_spelledComplex h hshaped.1 hnames.1 (hbelow.mono (by omega))
      exact ⟨[text], _, .one hleft hright, .cons hread .nil, rfl⟩
    | @cons _ _ left text right u hleft hright h hrest =>
      simp only [List.length_append, List.length_cons] at hn
      have hread := readSelectorList_spelledComplex h hshaped.1 hnames.1 (hbelow.mono (by omega))
      obtain ⟨texts, lists, hjoined, hlists, hflatten⟩ := ih hrest hshaped.2 hnames.2 (by omega)
      refine ⟨text :: texts, _, .cons hleft hright hjoined, .cons hread hlists, ?_⟩
      rw [List.flatten_cons, hflatten]
      rfl

/-- The argument of a pseudo-class is spelled in fewer characters than the list it stands in. -/
theorem readsSpelled (n : Nat) : ReadsSpelled allows n := by
  induction n with
  | zero => exact fun _ _ _ _ _ hlt => absurd hlt (Nat.not_lt_zero _)
  | succ n ih =>
    intro alternatives t h hshaped hnames hlt
    obtain ⟨texts, lists, hjoined, hlists, hflatten⟩ :=
      h.exists_joined ih hshaped hnames (Nat.le_of_lt_succ hlt)
    rw [← hflatten]
    exact hjoined.readSelectorList hlists

/-- A selector list is read back however it is spelled. -/
theorem readSelectorList_spelled {alternatives : List ComplexSelector} {t : List Char}
    (h : SpelledList alternatives t) (hshaped : shapedList allows alternatives)
    (hnames : "-" ∉ listNames alternatives)
    (hnull : NullFree (listTexts alternatives)) :
    readSelectorList allows t = .ok alternatives := by
  rw [readsSpelled (t.length + 1) alternatives t h hshaped hnames (Nat.lt_succ_self _),
    scrubbedList_eq alternatives hnull]

/-- The space behind an escaped digit belongs to the name, and a second one is the combinator. -/
theorem readSelectorList_spelled_escape :
    readSelectorList (fun _ => true) ".\\31  a:not( [ x ^= \"é\"i\t],#b>* )".toList =
      .ok [.link [.type "a", .pseudo (.not
        [.compound [.attribute ⟨"x", .compare .startsWith "é" .insensitive⟩],
          .link [.universal] .child (.compound [.id "b"])])] .descendant
        (.compound [.className "1"])] := by
  have hnone : Spaces [] := nofun
  have hspace : Spaces [' '] := by simp [Spaces, isSpace]
  have htab : Spaces ['\t'] := by simp [Spaces, isSpace]
  have htest : AttributePredicate.Spelled ⟨"x", .compare .startsWith "é" .insensitive⟩ _ :=
    .compare hspace hspace hspace hnone htab
  have hnested := SpelledList.cons hspace hnone (.compound (.cons (.attribute htest) .nil))
    (.one hnone hspace (.link (.compound (.cons (.id "b") .nil)) (.sign .child hnone hnone)
      (.cons .universal .nil)))
  have hlist := SpelledList.one hnone hnone (.link (.compound (.cons (.className "1") .nil))
    (.descendant hspace (List.cons_ne_nil _ _))
    (.cons (.type "a") (.cons (.pseudo (.not hnested)) .nil)))
  have hlower : IsLowered "a" ∧ IsLowered "x" := by simp [IsLowered, asciiLowered, asciiLower]
  refine (congrArg (readSelectorList _) ?_).trans (readSelectorList_spelled hlist ?_ ?_ ?_)
  · cbv
  · simp [shapedList, ComplexSelector.Shaped, shapedCompound, shapedConditions,
      SimpleSelector.Shaped, PseudoClass.Shaped, SimpleSelector.isHead, hlower]
  · simp [listNames, ComplexSelector.names, compoundNames, SimpleSelector.names, PseudoClass.names]
  · simp [NullFree, listTexts, ComplexSelector.texts, compoundTexts, SimpleSelector.texts,
      PseudoClass.texts, AttributePredicate.texts]

end Lists

end Umbra.Selector
