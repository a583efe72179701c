import Umbra.Proofs.Outcome
import Umbra.Proofs.Selector.Balanced
import Umbra.Proofs.Selector.Scrubbed
import Umbra.Proofs.Selector.Shape

/-!
# Conditions read back

An attribute test, a pseudo-class and a list of conditions are read back, scrubbed, from what is
written for them. What follows must not go on where they stop. The argument of `:not()` is left to the
reader of arguments: `ReadsBack` says that it reads back what it is given.
-/

namespace Umbra.Selector

open Text

/-! ## Where the readers stop -/

/-- What ends a compound: the end of the text, white space or the sign of a combinator. -/
def Ends (s : List Char) : Prop :=
  ∀ c, s.head? = some c → isSpace c = true ∨ c ∈ ['>', '+', '~']

/-- What ends a name or a pseudo-class: what ends the whole compound, or the mark of a further
condition. -/
def Breaks (s : List Char) : Prop :=
  ∀ c, s.head? = some c → isSpace c = true ∨ c ∈ ['>', '+', '~', '#', '.', '[', ':']

theorem Ends.breaks {s : List Char} (h : Ends s) : Breaks s :=
  fun c hc => (h c hc).imp_right fun hsign => List.mem_append_left ['#', '.', '[', ':'] hsign

theorem Breaks.not_continues {s : List Char} (h : Breaks s) : continues s = false := by
  cases s with
  | nil => rfl
  | cons c s =>
    rw [continues, atEscape_cons]
    rcases h c rfl with hspace | hc
    · simp only [isSpace, Bool.or_eq_true, beq_iff_eq] at hspace
      rcases hspace with (((rfl | rfl) | rfl) | rfl) | rfl <;> rfl
    · simp only [List.mem_cons, List.not_mem_nil, or_false] at hc
      rcases hc with rfl | rfl | rfl | rfl | rfl | rfl | rfl <;> rfl

theorem exists_of_continues {s : List Char} (h : continues s = true) :
    ∃ c t, s = c :: t ∧ (isNameChar c = true ∨ c = '\\') := by
  cases s with
  | nil => cases h
  | cons c t =>
    rw [continues, List.head?_cons, Option.any_some, Bool.or_eq_true, atEscape_cons,
      Bool.and_eq_true, beq_iff_eq] at h
    exact ⟨c, t, rfl, h.imp id And.left⟩

theorem not_isSpace_of_isNameChar {c : Char} (h : isNameChar c = true) : isSpace c = false := by
  rw [Bool.eq_false_iff]
  intro hspace
  simp only [isSpace, Bool.or_eq_true, beq_iff_eq] at hspace
  rcases hspace with (((rfl | rfl) | rfl) | rfl) | rfl <;> cases h

theorem skipSpace_cons {c : Char} (h : isSpace c = false) (s : List Char) :
    skipSpace (c :: s) = c :: s :=
  List.dropWhile_cons_of_neg (by simp [h])

/-- How a name or a compound starts: with nothing that a combinator could be taken for. -/
def Starts (s : List Char) : Prop :=
  ∃ c t, s = c :: t ∧ isSpace c = false ∧ c ≠ '>' ∧ c ≠ '+' ∧ c ≠ '~'

theorem starts_of_continues {s : List Char} (h : continues s = true) : Starts s := by
  obtain ⟨c, t, rfl, hc⟩ := exists_of_continues h
  refine ⟨c, t, rfl, ?_⟩
  rcases hc with hc | rfl
  · refine ⟨not_isSpace_of_isNameChar hc, ?_, ?_, ?_⟩ <;> rintro rfl <;> cases hc
  · decide

namespace Starts

variable {s : List Char} (h : Starts s)

include h

theorem ne : s ≠ [] ∧ s ≠ [' '] := by
  obtain ⟨c, t, rfl, hspace, -⟩ := h
  refine ⟨List.cons_ne_nil _ _, fun h => ?_⟩
  rw [(List.cons.inj h).1] at hspace
  cases hspace

theorem append (t : List Char) : Starts (s ++ t) := by
  obtain ⟨c, u, rfl, hc⟩ := h
  exact ⟨c, u ++ t, rfl, hc⟩

theorem of_written {rest t : List Char} (ht : Written s rest t) : Starts t := by
  have hhead := ht.head?_eq h.ne.1
  obtain ⟨c, u, rfl, hc⟩ := h
  obtain ⟨v, rfl⟩ := List.head?_eq_some_iff.1 hhead
  exact ⟨c, v, rfl, hc⟩

theorem skipSpace : skipSpace s = s := by
  obtain ⟨c, t, rfl, hc, -⟩ := h
  exact skipSpace_cons hc t

end Starts

/-! ## Attribute tests -/

theorem IsLowered.scrubbed {name : String} (h : IsLowered name) :
    asciiLowered (scrubbedText name) = scrubbedText name := by
  rw [asciiLowered_scrubbedText, h.2]

theorem toList_ne_nil {name : String} (h : name ≠ "") : name.toList ≠ [] := by
  intro hnil
  exact h (String.toList_eq_nil_iff.1 hnil)

theorem toList_ne_hyphen {name : String} (h : name ≠ "-") : name.toList ≠ ['-'] := by
  intro hhyphen
  exact h (String.toList_inj.1 hhyphen)

theorem readOperator_write (operator : AttributeOperator) (rest : List Char) :
    readOperator (operator.write ++ rest) = .ok (operator, rest) := by
  cases operator <;> rfl

/-- No name goes on with an operator, and nothing in front of it is skipped. -/
theorem exists_write_append (operator : AttributeOperator) (rest : List Char) :
    ∃ c s, operator.write ++ rest = c :: s ∧ isSpace c = false ∧ c ≠ ']' ∧
      continues (c :: s) = false := by
  cases operator <;> exact ⟨_, _, rfl, rfl, by decide, rfl⟩

theorem readValue_write (unclosed : SyntaxError (List Char)) (value rest : List Char) :
    readValue unclosed (skipSpace (writeString value ++ rest)) = .ok (scrubbed value, rest) := by
  rw [← readQuoted_writeString value rest]
  rfl

theorem readModifier_write (unclosed : SyntaxError (List Char)) (mode : CaseMode)
    (rest : List Char) :
    readModifier unclosed (skipSpace (mode.write ++ ']' :: rest)) = .ok (mode, ']' :: rest) := by
  have hend : readName (']' :: rest) = ([], ']' :: rest) := readName_of_not_continues rfl
  have hname {c : Char} (hc : isNameChar c = true) :
      readName (c :: ']' :: rest) = ([c], ']' :: rest) := by
    rw [readName_of_isNameChar hc, hend]
  cases mode with
  | plain => rfl
  | insensitive =>
    have hskip : skipSpace (CaseMode.insensitive.write ++ ']' :: rest) = 'i' :: ']' :: rest := rfl
    rw [hskip, readModifier, if_neg (by decide), if_pos (by decide), hname (by decide)]
    rfl
  | sensitive =>
    have hskip : skipSpace (CaseMode.sensitive.write ++ ']' :: rest) = 's' :: ']' :: rest := rfl
    rw [hskip, readModifier, if_neg (by decide), if_pos (by decide), hname (by decide)]
    rfl

theorem readAttribute_write {p : AttributePredicate} (hname : IsLowered p.name)
    (hhyphen : p.name ≠ "-") (rest : List Char) :
    readAttribute (p.write ++ rest) = .ok (p.scrubbed, rest) := by
  obtain ⟨name, test⟩ := p
  have hat (s : List Char) : atName (writeName name.toList ++ s) = true :=
    atName_writeName (toList_ne_nil hname.1) (toList_ne_hyphen hhyphen) s
  have hread {s : List Char} (hs : continues s = false) :
      readName (writeName name.toList ++ s) = (scrubbed name.toList, s) :=
    readName_written (.whole s) hs
  have hmake (test : AttributeTest) :
      AttributePredicate.make (String.ofList (scrubbed name.toList)) test =
        ⟨scrubbedText name, test⟩ := by
    rw [← hname.scrubbed]
    rfl
  cases test with
  | present =>
    have hstop : continues (']' :: rest) = false := rfl
    have hskip : skipSpace (']' :: rest) = ']' :: rest := rfl
    simp only [AttributePredicate.write, List.append_nil, List.cons_append, List.append_assoc,
      List.nil_append]
    rw [readAttribute, List.drop_one, List.tail_cons,
      (starts_of_continues (continues_of_atName (hat _))).skipSpace, hat, if_neg (by decide)]
    simp only [hread hstop, hskip, hmake]
    rfl
  | compare operator expected mode =>
    obtain ⟨c, s, hc, hspace, hend, hstop⟩ :=
      exists_write_append operator (writeString expected.toList ++ (mode.write ++ ']' :: rest))
    have hskip : skipSpace (c :: s) = c :: s := skipSpace_cons hspace s
    simp only [AttributePredicate.write, List.cons_append, List.append_assoc, List.nil_append]
    rw [hc, readAttribute, List.drop_one, List.tail_cons,
      (starts_of_continues (continues_of_atName (hat _))).skipSpace, hat, if_neg (by decide)]
    simp only [hread hstop, hskip, hmake]
    have hoperator := readOperator_write operator
      (writeString expected.toList ++ (mode.write ++ ']' :: rest))
    rw [hc] at hoperator
    rw [hoperator]
    simp only [bind, Except.bind, readValue_write, readModifier_write]
    rfl

/-! ## Pseudo-classes -/

theorem readName_of_all {w rest : List Char} (hw : w.all isNameChar = true)
    (hrest : continues rest = false) : readName (w ++ rest) = (w, rest) := by
  induction w with
  | nil => exact readName_of_not_continues hrest
  | cons c w ih =>
    rw [List.all_cons, Bool.and_eq_true] at hw
    rw [List.cons_append, readName_of_isNameChar hw.1, ih hw.2]

theorem PseudoClassName.ofWritten?_text (name : PseudoClassName) :
    ofWritten? name.text = some name := by
  cases name with
  | first among => cases among <;> decide
  | last among => cases among <;> decide
  | only among => cases among <;> decide
  | nth among => cases among <;> decide
  | nthLast among => cases among <;> decide
  | _ => decide

theorem exists_text (name : PseudoClassName) :
    ∃ c s, name.text.toList = c :: s ∧ isNameChar c = true := by
  have hall := all_isNameChar_text name
  cases hs : name.text.toList with
  | nil =>
    have hname := PseudoClassName.ofWritten?_text name
    rw [String.toList_eq_nil_iff.1 hs] at hname
    have hnone : PseudoClassName.ofWritten? "" = none := by decide
    rw [hnone] at hname
    cases hname
  | cons c s =>
    rw [hs, List.all_cons, Bool.and_eq_true] at hall
    exact ⟨c, s, rfl, hall.1⟩

theorem expectName_text (name : PseudoClassName) {rest : List Char} (hrest : continues rest = false) :
    expectName .pseudoClassName (name.text.toList ++ rest) = .ok (name.text, rest) := by
  obtain ⟨c, s, hs, hc⟩ := exists_text name
  rw [expectName, readName_of_all (all_isNameChar_text name) hrest, if_pos]
  · simp only [String.ofList_toList]
  · rw [hs, List.cons_append, List.head?_cons, Option.any_some, hc, Bool.true_or]

section Inner

variable {allows : PseudoClassName → Bool} {inner : List Char → Read SelectorList}

/-- What is written behind the name of a pseudo-class. -/
def PseudoClass.argument : PseudoClass → List Char
  | .nth _ positions => '(' :: (positions.write ++ [')'])
  | .nthLast _ positions => '(' :: (positions.write ++ [')'])
  | .not alternatives => '(' :: (writeList alternatives ++ [')'])
  | _ => []

theorem PseudoClass.write_eq (p : PseudoClass) : p.write = p.name.text.toList ++ p.argument := by
  cases p <;> simp [write, argument, name]

theorem readNthArgument_write (positions : Nth) (rest : List Char) :
    readNthArgument ('(' :: (positions.write ++ ')' :: rest)) = .ok (positions, rest) := by
  have hbalanced : Balanced false positions.write := balanced_writeNth positions
  rw [readNthArgument, readArgument_balanced hbalanced]
  simp only [bind, Except.bind, Nth.parse?_write]

/-- A pseudo-class is read back where the reader of arguments reads its argument back. -/
theorem readPseudoClass_write {p : PseudoClass} (hallowed : allows p.name = true) {rest : List Char}
    (hrest : Breaks rest) (hinner : ∀ alternatives, p = .not alternatives →
      inner (writeList alternatives) = .ok (scrubbedList alternatives)) :
    readPseudoClass inner allows (p.write ++ rest) = .ok (p.scrubbed, rest) := by
  have hstop : continues (p.argument ++ rest) = false := by
    cases p with
    | nth | nthLast | not => rfl
    | _ => exact hrest.not_continues
  have hread := expectName_text p.name hstop
  obtain ⟨c, s, hs, hc⟩ := exists_text p.name
  have hcolon : c ≠ ':' := by
    rintro rfl
    cases hc
  rw [p.write_eq, List.append_assoc]
  rw [hs, List.cons_append] at hread ⊢
  rw [readPseudoClass]
  · rw [hread]
    simp only [bind, Except.bind, PseudoClassName.ofWritten?_text, Option.filter_some, hallowed,
      if_true]
    cases p with
    | nth among positions =>
      simp only [PseudoClass.name, PseudoClass.argument, List.cons_append, List.append_assoc,
        List.nil_append, readNthArgument_write]
      rfl
    | nthLast among positions =>
      simp only [PseudoClass.name, PseudoClass.argument, List.cons_append, List.append_assoc,
        List.nil_append, readNthArgument_write]
      rfl
    | not alternatives =>
      simp only [PseudoClass.name, PseudoClass.argument, List.cons_append, List.append_assoc,
        List.nil_append, readArgument_balanced (balanced_writeList alternatives),
        hinner alternatives rfl]
      rfl
    | _ =>
      simp only [PseudoClass.name, PseudoClass.argument, List.nil_append]
      split
      · exact absurd (hrest '(' rfl) (by decide)
      · rfl
  · exact fun t h => hcolon (List.cons.inj h).1

/-- A pseudo-class ends with its name or with a parenthesis. -/
theorem PseudoClass.getLast?_write (p : PseudoClass) : (':' :: p.write).getLast? ≠ some ' ' := by
  have htext : (':' :: p.name.text.toList).getLast? ≠ some ' ' := by
    intro h
    rcases List.mem_cons.1 (List.mem_of_getLast? h) with hc | hc
    · cases hc
    · cases List.all_eq_true.1 (all_isNameChar_text p.name) ' ' hc
  have hclosed (w : List Char) :
      (':' :: (p.name.text.toList ++ '(' :: (w ++ [')']))).getLast? ≠ some ' ' := by
    rw [← List.cons_append, ← List.cons_append, ← List.append_assoc, List.getLast?_concat]
    decide
  rw [p.write_eq]
  cases p with
  | nth | nthLast | not => exact hclosed _
  | _ => exact (List.append_nil _).symm ▸ htext

/-! ## Conditions -/

/-- The reader of arguments reads back the arguments that stand in a list of conditions. -/
def ReadsBack (inner : List Char → Read SelectorList) (conditions : List SimpleSelector) : Prop :=
  ∀ alternatives, .pseudo (.not alternatives) ∈ conditions →
    inner (writeList alternatives) = .ok (scrubbedList alternatives)

theorem ReadsBack.mono {c d : List SimpleSelector} (h : ReadsBack inner d) (hsub : c ⊆ d) :
    ReadsBack inner c :=
  fun alternatives halternatives => h alternatives (hsub halternatives)

theorem readCondition_written {s : SimpleSelector} (hhead : s.isHead = false)
    (hshaped : s.Shaped allows) (hnames : "-" ∉ s.names) (hinner : ReadsBack inner [s])
    {rest t : List Char} (h : Written s.write rest t) (hrest : Breaks rest) :
    readCondition inner allows t = .ok (some (s.scrubbed, rest)) := by
  cases s with
  | type | universal => cases hhead
  | id name =>
    have hne := toList_ne_nil hshaped
    obtain ⟨hw, hspace⟩ := writeName_ne hne
    obtain ⟨u, rfl, hu⟩ := Written.of_append (v := ['#']) h hw hspace
    rw [List.singleton_append, readCondition, expectName_written hu hne hrest.not_continues]
    rfl
  | className name =>
    have hne := toList_ne_nil hshaped
    obtain ⟨hw, hspace⟩ := writeName_ne hne
    obtain ⟨u, rfl, hu⟩ := Written.of_append (v := ['.']) h hw hspace
    rw [List.singleton_append, readCondition, expectName_written hu hne hrest.not_continues]
    rfl
  | «attribute» predicate =>
    have hlast : predicate.write.getLast? ≠ some ' ' := by
      rw [AttributePredicate.write, List.getLast?_concat]
      decide
    obtain rfl := h.eq_append hlast
    have hhyphen : predicate.name ≠ "-" := by simpa [SimpleSelector.names, eq_comm] using hnames
    have hread := readAttribute_write hshaped hhyphen rest
    obtain ⟨tail, htail⟩ : ∃ tail, predicate.write ++ rest = '[' :: tail := ⟨_, rfl⟩
    rw [SimpleSelector.write, htail, readCondition, ← htail, hread]
    rfl
  | pseudo p =>
    obtain rfl := h.eq_append p.getLast?_write
    have hread : readPseudoClass inner allows (p.write ++ rest) = .ok (p.scrubbed, rest) := by
      refine readPseudoClass_write hshaped.1 hrest fun alternatives hp => hinner alternatives ?_
      rw [hp, List.mem_singleton]
    rw [SimpleSelector.write, List.cons_append, readCondition, hread]
    rfl

theorem exists_written_condition {s : SimpleSelector} (hhead : s.isHead = false) :
    ∃ c w, s.write = c :: w ∧ c ∈ ['#', '.', '[', ':'] := by
  cases s with
  | type | universal => cases hhead
  | _ => exact ⟨_, _, rfl, by decide⟩

theorem exists_writeConditions {s : SimpleSelector} {cs : List SimpleSelector}
    (hshaped : shapedConditions allows (s :: cs)) :
    ∃ c w, writeCompound (s :: cs) = c :: w ∧ c ∈ ['#', '.', '[', ':'] := by
  obtain ⟨c, w, hw, hc⟩ := exists_written_condition hshaped.1
  exact ⟨c, w ++ writeCompound cs, by rw [writeCompound, hw, List.cons_append], hc⟩

theorem exists_writtenConditions {s : SimpleSelector} {cs : List SimpleSelector}
    (hshaped : shapedConditions allows (s :: cs)) {rest t : List Char}
    (h : Written (writeCompound (s :: cs)) rest t) :
    ∃ c u, t = c :: u ∧ c ∈ ['#', '.', '[', ':'] := by
  obtain ⟨c, w, hw, hc⟩ := exists_writeConditions hshaped
  have hhead := h.head?_eq (by simp [hw])
  rw [hw, List.head?_cons] at hhead
  obtain ⟨u, rfl⟩ := List.head?_eq_some_iff.1 hhead
  exact ⟨c, u, rfl, hc⟩

theorem writeConditions_ne_space {cs : List SimpleSelector} (hshaped : shapedConditions allows cs) :
    writeCompound cs ≠ [' '] := by
  cases cs with
  | nil => exact (List.cons_ne_nil _ _).symm
  | cons s cs =>
    obtain ⟨c, w, hw, hc⟩ := exists_writeConditions hshaped
    rw [hw]
    intro h
    rw [(List.cons.inj h).1] at hc
    exact absurd hc (by decide)

theorem breaks_writtenConditions {cs : List SimpleSelector} (hshaped : shapedConditions allows cs)
    {rest t : List Char} (h : Written (writeCompound cs) rest t) (hrest : Breaks rest) : Breaks t := by
  cases cs with
  | nil =>
    rw [h.eq_append (by simp [writeCompound])]
    exact hrest
  | cons s cs =>
    obtain ⟨c, u, rfl, hc⟩ := exists_writtenConditions hshaped h
    intro d hd
    obtain rfl := Option.some.inj hd
    exact Or.inr (List.mem_append_right ['>', '+', '~'] hc)

omit inner in
theorem Ends.readCondition {inner : List Char → Read SelectorList} {s : List Char} (h : Ends s) :
    readCondition inner allows s = .ok none := by
  cases s with
  | nil => rfl
  | cons c s =>
    rcases h c rfl with hspace | hc
    · simp only [isSpace, Bool.or_eq_true, beq_iff_eq] at hspace
      rcases hspace with (((rfl | rfl) | rfl) | rfl) | rfl <;> rfl
    · simp only [List.mem_cons, List.not_mem_nil, or_false] at hc
      rcases hc with rfl | rfl | rfl <;> rfl

theorem readMany_writtenConditions {cs : List SimpleSelector}
    (hshaped : shapedConditions allows cs) (hnames : "-" ∉ compoundNames cs)
    (hinner : ReadsBack inner cs) {rest t : List Char} (h : Written (writeCompound cs) rest t)
    (hrest : Ends rest) :
    readMany (readCondition inner allows) t = .ok (scrubbedCompound cs, rest) := by
  induction cs generalizing t with
  | nil =>
    obtain rfl := h.eq_append (by simp [writeCompound])
    rw [readMany, hrest.readCondition]
    rfl
  | cons s cs ih =>
    obtain ⟨hhead, hs, hcs⟩ := hshaped
    rw [compoundNames, List.mem_append, not_or] at hnames
    obtain ⟨u, hwritten, hu⟩ := h.split (writeConditions_ne_space hcs)
    have hbreaks := breaks_writtenConditions hcs hu hrest.breaks
    have hread := readCondition_written hhead hs hnames.1 (hinner.mono (by simp)) hwritten hbreaks
    have hlt : u.length < t.length := by
      obtain ⟨c, w, hw, -⟩ := exists_written_condition hhead
      exact hwritten.length_lt (by simp [hw])
    rw [readMany, hread]
    simp only [if_pos hlt, ih hcs hnames.2 (hinner.mono (List.subset_cons_self ..)) hu,
      scrubbedCompound]

end Inner

end Umbra.Selector
