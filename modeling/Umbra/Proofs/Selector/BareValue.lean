import Umbra.Proofs.Selector.Commas
import Umbra.Proofs.Selector.Conditions

/-!
# Values without quotes

An attribute test reads a value without quotes up to white space or a closing bracket, whatever else
stands in it. The cut at commas comes first and takes a quote or a bracket in the value for an opening
one. So a list of one test with such a value is read just if the value closes what it opens, and then
as with the value in quotes.
-/

namespace Umbra.Selector

open Text

/-! ## Values under the bracket of their test -/

/-- The brackets in `below` stand around what is open. -/
def Open.under (o : Open) (below : List Char) : Open := ⟨o.quote, o.brackets ++ below⟩

/-- A value that closes every quote and bracket that it opens. -/
def ClosesAll (value : List Char) : Prop := value.foldlM Open.step? .outside = some .outside

section Under

variable {o : Open} {c : Char}

theorem Open.step?_under (hc : c ≠ ']') :
    (o.under ['[']).step? c = (o.step? c).map (Open.under · ['[']) := by
  obtain ⟨quote, brackets⟩ := o
  cases quote with
  | some q => rfl
  | none =>
    simp only [under, step?]
    split
    · rfl
    · split
      · rfl
      · split
        · rename_i hend
          obtain rfl : c = ')' := by simpa [hc] using hend
          cases brackets with
          | nil => rfl
          | cons bracket outer =>
            simp only [List.cons_append]
            split <;> rfl
        · rfl

/-- The bracket of the test is the last that is closed. -/
theorem Open.step?_under_close : (o.under ['[']).step? ']' = some .outside ↔ o = .outside := by
  obtain ⟨quote, brackets⟩ := o
  cases quote with
  | some q => simp [under, step?, outside]
  | none =>
    cases brackets with
    | nil => exact ⟨fun _ => rfl, fun _ => rfl⟩
    | cons bracket outer =>
      have hne : outer ++ ['['] ≠ [] := List.append_ne_nil_of_right_ne_nil _ (List.cons_ne_nil _ _)
      cases hcloses : closes bracket ']' <;> simp [under, step?, outside, hcloses, hne]

theorem not_stops_under (s : List Char) : ¬ Stops [','] (o.under ['[']) s :=
  not_stops_of_brackets (by simp [Open.under])

/-- The search for a comma comes to the end of the test just if only the bracket of the test is
open. -/
theorem findFrom_bracket {quote : Option Opening} {opened : List Opening}
    (ho : Open.ofScan quote opened = o.under ['[']) :
    (o = .outside ∧ findFrom [','] quote opened [']'] = .ok none) ∨
      (o ≠ .outside ∧ ∃ e, findFrom [','] quote opened [']'] = .error e) := by
  rcases @findFrom_cons_cases [','] ']' [] (fun _ => rfl) quote opened with
    ⟨hstep, hread⟩ | ⟨hstop, -⟩ | ⟨quote', opened', -, hstep, hread⟩
  · refine Or.inr ⟨?_, _, hread⟩
    rintro rfl
    rw [ho, Open.step?_under_close.2 rfl] at hstep
    cases hstep
  · exact absurd (ho ▸ hstop) (not_stops_under _)
  · rw [ho] at hstep
    rw [hread]
    cases hend : findFrom [','] quote' opened' [] with
    | error e =>
      refine Or.inr ⟨?_, e, rfl⟩
      rintro rfl
      rw [Open.step?_under_close.2 rfl, Option.some.injEq] at hstep
      rw [findFrom_nil_eq_none.2 hstep.symm] at hend
      cases hend
    | ok found =>
      cases found with
      | none =>
        rw [findFrom_nil_eq_none.1 hend] at hstep
        exact Or.inl ⟨Open.step?_under_close.1 hstep, rfl⟩
      | some p => exact absurd hend findFrom_nil_ne_some

end Under

/-- The search for a comma comes to the end of the test just if the value closes what it opens. -/
theorem findFrom_value {value : List Char} (hvalue : ∀ c ∈ value, c ≠ '\\' ∧ c ≠ ']') {o : Open}
    {quote : Option Opening} {opened : List Opening}
    (ho : Open.ofScan quote opened = o.under ['[']) :
    (value.foldlM Open.step? o = some .outside ∧
        findFrom [','] quote opened (value ++ [']']) = .ok none) ∨
      (value.foldlM Open.step? o ≠ some .outside ∧
        ∃ e, findFrom [','] quote opened (value ++ [']']) = .error e) := by
  induction value generalizing o quote opened with
  | nil =>
    have houtside : [].foldlM Open.step? o = some .outside ↔ o = .outside := Option.some_inj
    rw [List.nil_append, Ne, houtside]
    exact findFrom_bracket ho
  | cons c value ih =>
    obtain ⟨⟨hslash, hclose⟩, hvalue⟩ := List.forall_mem_cons.1 hvalue
    rw [List.cons_append, List.foldlM_cons]
    rcases @findFrom_cons_cases [','] c (value ++ [']']) (fun h => absurd h hslash) quote opened with
      ⟨hstep, hread⟩ | ⟨hstop, -⟩ | ⟨quote', opened', -, hstep, hread⟩
    · rw [ho, Open.step?_under hclose, Option.map_eq_none_iff] at hstep
      rw [hstep]
      exact Or.inr ⟨nofun, _, hread⟩
    · exact absurd (ho ▸ hstop) (not_stops_under _)
    · rw [ho, Open.step?_under hclose, Option.map_eq_some_iff] at hstep
      obtain ⟨o', hstep, ho'⟩ := hstep
      rw [hread, hstep]
      rcases ih hvalue ho'.symm with ⟨hfold, hnone⟩ | ⟨hfold, e, herror⟩
      · exact Or.inl ⟨hfold, by rw [hnone]; rfl⟩
      · exact Or.inr ⟨hfold, e, by rw [herror]; rfl⟩

/-! ## Names in front of an operator -/

/-- The reader of names takes the whole text for a name. -/
structure SpellsName (text : List Char) : Prop where
  starts : atName text = true
  whole : (readName text).2 = []

section Names

variable {s t : List Char} {c : Char}

theorem atEscape_append_of (h : atEscape s = true) (t : List Char) : atEscape (s ++ t) = true := by
  cases s with
  | nil => cases h
  | cons c s =>
    have hs := (slash_of_atEscape h).2
    rw [atEscape_cons] at h
    rwa [List.cons_append, atEscape_cons, List.head?_append_of_ne_nil _ hs]

theorem atName_append_of (h : atName s = true) (t : List Char) : atName (s ++ t) = true := by
  cases s with
  | nil => cases h
  | cons c s =>
    by_cases hc : c = '-'
    · subst hc
      cases s with
      | nil => cases h
      | cons d s =>
        rw [atName_hyphen_cons, Bool.or_eq_true] at h
        rw [List.cons_append, List.cons_append, atName_hyphen_cons, Bool.or_eq_true]
        exact h.imp_right fun h => atEscape_append_of h t
    · rw [atName_cons hc, Bool.or_eq_true] at h
      rw [List.cons_append, atName_cons hc, Bool.or_eq_true]
      exact h.imp_right fun h => atEscape_append_of h t

/-- Neither a name nor the white space behind an escape goes on with the character. -/
theorem readEscape_append (hc : isHexDigit c = false) (hspace : isSpace c = false) (hs : s ≠ []) :
    readEscape (s ++ c :: t) = ((readEscape s).1, (readEscape s).2 ++ c :: t) := by
  obtain ⟨d, u, rfl⟩ := List.exists_cons_of_ne_nil hs
  rw [List.cons_append]
  by_cases hd : isHexDigit d = true
  · have hrun : hexRun (u ++ c :: t) = hexRun u := hexRun_append_of_head (by simpa using hc) u
    have hskip (v : List Char) : skipOneSpace (v ++ c :: t) = skipOneSpace v ++ c :: t := by
      cases v with
      | nil => simp [skipOneSpace, hspace]
      | cons e v =>
        rw [List.cons_append, skipOneSpace_cons, skipOneSpace_cons]
        split <;> rfl
    rw [readEscape_hex hd, readEscape_hex hd, hrun,
      List.drop_append_of_le_length (hexRun_isPrefix u).length_le, hskip]
  · rw [readEscape_other hd, readEscape_other hd]

theorem readName_append (hs : (readName s).2 = []) (hstop : continues (c :: t) = false)
    (hspace : isSpace c = false) : readName (s ++ c :: t) = ((readName s).1, c :: t) := by
  have hhex : isHexDigit c = false := by
    rw [← Bool.not_eq_true]
    intro hc
    simp [continues, isNameChar_of_isHexDigit hc] at hstop
  fun_induction readName s with
  | case1 => exact readName_of_not_continues hstop
  | case2 d u hd name rest hread ih =>
    rw [hread] at ih
    rw [List.cons_append, readName_of_isNameChar hd, ih hs]
  | case3 d u hd hescape name rest hread ih =>
    obtain ⟨rfl, hu⟩ := slash_of_atEscape hescape
    have hescape' : atEscape ('\\' :: (u ++ c :: t)) = true := atEscape_append_of hescape (c :: t)
    rw [hread] at ih
    rw [List.cons_append, readName_escape hescape', readEscape_append hhex hspace hu, ih hs]
  | case4 => cases hs

theorem balanced_of_readName (hs : (readName s).2 = []) : Balanced false s := by
  fun_induction readName s with
  | case1 => exact .nil
  | case2 d u hd name rest hread ih =>
    rw [hread] at ih
    obtain ⟨hplain, hcomma⟩ := isPlain_of_isNameChar hd
    exact .plain hplain (fun h => absurd h hcomma) (ih hs)
  | case3 d u hd hescape name rest hread ih =>
    obtain ⟨rfl, hu⟩ := slash_of_atEscape hescape
    obtain ⟨e, w, rfl⟩ := List.exists_cons_of_ne_nil hu
    obtain ⟨skipped, hw, hskipped⟩ := exists_readEscape e w
    rw [hread] at ih
    refine .escape ?_
    rw [hw]
    refine .append (.of_forall fun c hc => ?_) (ih hs)
    rcases hskipped c hc with hhex | hspace
    · exact isPlain_of_isNameChar (isNameChar_of_isHexDigit hhex)
    · exact (isSpace_spec hspace).2.2.2
  | case4 => cases hs

end Names

/-! ## Tests that compare a value -/

/-- Neither white space nor a closing bracket, and not read as another character. -/
def isBareChar (c : Char) : Bool := c != '\x00' && c != '\\' && !isSpace c && c != ']'

theorem isBareChar_iff {c : Char} :
    isBareChar c = true ↔ c ≠ '\x00' ∧ c ≠ '\\' ∧ isSpace c = false ∧ c ≠ ']' := by
  simp [isBareChar, and_assoc]

/-- What may stand without quotes: a value that does not begin with a quote. -/
structure IsBare (value : List Char) : Prop where
  nonempty : value ≠ []
  double : value.head? ≠ some '"'
  single : value.head? ≠ some '\''
  chars : value.all isBareChar = true

theorem IsBare.spec {value : List Char} (h : IsBare value) {c : Char} (hc : c ∈ value) :
    c ≠ '\x00' ∧ c ≠ '\\' ∧ isSpace c = false ∧ c ≠ ']' :=
  isBareChar_iff.1 (List.all_eq_true.1 h.chars c hc)

/-- An attribute test; the value is spelled with quotes or without. -/
def attributeText (name : List Char) (op : AttributeOperator) (value : List Char) : List Char :=
  '[' :: (name ++ (op.write ++ (value ++ [']'])))

/-- The predicate that the test stands for. -/
def comparing (name : List Char) (op : AttributeOperator) (value : List Char) :
    AttributePredicate :=
  .make (String.ofList (readName name).1) (.compare op (String.ofList value) .plain)

section Tests

variable {name value spelled : List Char} {op : AttributeOperator}

theorem readBareValue_append (hvalue : value.all isBareChar = true) (rest : List Char) :
    readBareValue (value ++ ']' :: rest) = (value, ']' :: rest) := by
  induction value with
  | nil => rw [List.nil_append, readBareValue, if_pos (by decide)]
  | cons c value ih =>
    rw [List.all_cons, Bool.and_eq_true] at hvalue
    obtain ⟨-, hslash, hspace, hclose⟩ := isBareChar_iff.1 hvalue.1
    rw [List.cons_append, readBareValue_plain (by simp [hspace, hclose]) (by simp [hslash]),
      ih hvalue.2]

theorem readValue_bare (unclosed : SyntaxError (List Char)) (hvalue : IsBare value)
    (rest : List Char) : readValue unclosed (skipSpace (value ++ ']' :: rest)) =
      .ok (value, ']' :: rest) := by
  have hread := readBareValue_append hvalue.chars rest
  obtain ⟨c, value, rfl⟩ := List.exists_cons_of_ne_nil hvalue.nonempty
  have hdouble : c ≠ '"' := fun h => hvalue.double (congrArg some h)
  have hsingle : c ≠ '\'' := fun h => hvalue.single (congrArg some h)
  obtain ⟨-, -, hspace, hclose⟩ := hvalue.spec List.mem_cons_self
  rw [List.cons_append] at hread ⊢
  rw [skipSpace_cons hspace, readValue, if_neg (by simp [hdouble, hsingle]), if_neg hclose, hread]

theorem readValue_quoted (unclosed : SyntaxError (List Char)) (hvalue : IsBare value)
    (rest : List Char) : readValue unclosed (skipSpace (writeString value ++ ']' :: rest)) =
      .ok (value, ']' :: rest) := by
  have hscrubbed : scrubbed value = value :=
    (List.map_congr_left fun c hc => if_neg (hvalue.spec hc).1).trans (List.map_id value)
  rw [readValue_write, hscrubbed]

theorem readAttribute_compare (hname : SpellsName name)
    (hvalue : ∀ unclosed, readValue unclosed (skipSpace (spelled ++ [']'])) = .ok (value, [']'])) :
    readAttribute (attributeText name op spelled) = .ok (comparing name op value, []) := by
  obtain ⟨c, t, ht, hspace, hclose, hstop⟩ := exists_write_append op (spelled ++ [']'])
  have hat := atName_append_of hname.starts (c :: t)
  have hstart : skipSpace (name ++ c :: t) = name ++ c :: t :=
    (starts_of_continues (continues_of_atName hat)).skipSpace
  have hoperator := readOperator_write op (spelled ++ [']'])
  rw [ht] at hoperator
  rw [attributeText, ht, readAttribute_eq (hstart.symm ▸ hat), hstart,
    readName_append hname.whole hstop hspace, skipSpace_cons hspace, behindName, hoperator]
  · simp only [bind, Except.bind, hvalue]
    rfl
  · exact hclose

theorem balanced_front (hname : SpellsName name) (op : AttributeOperator) :
    Balanced true (name ++ op.write) := by
  have hwrite : Balanced true op.write := by cases op <;> exact .of_all rfl
  exact (balanced_of_readName hname.whole).mono.append hwrite

/-- The search comes to the value with the bracket of the test open. -/
theorem findTopLevel_attributeText (hname : SpellsName name) :
    findTopLevel [','] (attributeText name op spelled) =
      Read.prepend ('[' :: (name ++ op.write)) (findFrom [','] none
        [('[', attributeText name op spelled)] (spelled ++ [']'])) := by
  have hopen : findTopLevel [','] (attributeText name op spelled) = Read.prepend ['[']
      (findFrom [','] none [('[', attributeText name op spelled)]
        (name ++ (op.write ++ (spelled ++ [']'])))) := findFrom_opening (Or.inl rfl) _
  rw [hopen, ← List.append_assoc,
    findFrom_balanced (balanced_front hname op) (Or.inl (List.cons_ne_nil _ _)),
    Read.prepend_prepend]
  rfl

theorem findTopLevel_quoted (hname : SpellsName name) (op : AttributeOperator)
    (value : List Char) :
    findTopLevel [','] (attributeText name op (writeString value)) = .ok none := by
  have hinner : Balanced true (name ++ op.write ++ writeString value) :=
    (balanced_front hname op).append (balanced_writeString value)
  have htest : Balanced false ('[' :: (name ++ op.write ++ writeString value ++ [']'])) :=
    .enclosed rfl hinner .nil
  have htext : attributeText name op (writeString value) =
      '[' :: (name ++ op.write ++ writeString value ++ [']']) := by simp [attributeText]
  rw [htext]
  exact findTopLevel_balanced htest (Or.inr (Or.inl ⟨rfl, rfl⟩))

theorem findTopLevel_bare (hname : SpellsName name) (op : AttributeOperator)
    (hvalue : IsBare value) :
    (ClosesAll value ∧ findTopLevel [','] (attributeText name op value) = .ok none) ∨
      (¬ ClosesAll value ∧ ∃ e, findTopLevel [','] (attributeText name op value) = .error e) := by
  have hchars (c : Char) (hc : c ∈ value) : c ≠ '\\' ∧ c ≠ ']' :=
    ⟨(hvalue.spec hc).2.1, (hvalue.spec hc).2.2.2⟩
  have ho : Open.ofScan none [('[', attributeText name op value)] = Open.outside.under ['['] := rfl
  rw [findTopLevel_attributeText hname]
  rcases findFrom_value hchars ho with ⟨hcloses, hread⟩ | ⟨hcloses, e, hread⟩
  · exact Or.inl ⟨hcloses, by rw [hread]; rfl⟩
  · exact Or.inr ⟨hcloses, e, by rw [hread]; rfl⟩

/-! ## Lists of one test -/

variable {allows : PseudoClassName → Bool}

theorem readSelectorList_attribute {s : List Char} {p : AttributePredicate}
    (hfind : findTopLevel [','] ('[' :: s) = .ok none)
    (hread : readAttribute ('[' :: s) = .ok (p, [])) :
    readSelectorList allows ('[' :: s) = .ok [.compound [.attribute p]] := by
  rw [readSelectorList_eq]
  generalize readBelow allows ('[' :: s).length = inner
  have hcondition : readCondition inner allows ('[' :: s) = .ok (some (.attribute p, [])) := by
    rw [readCondition, hread]
    rfl
  have hconditions : readMany (readCondition inner allows) ('[' :: s) =
      .ok ([.attribute p], []) :=
    readMany_of_some hcondition (Nat.succ_pos _) (readMany_of_none rfl)
  have hhead : readHead ('[' :: s) = ([], '[' :: s) := rfl
  have hcompound : readCompound inner allows ('[' :: s) = .ok ([.attribute p], []) := by
    rw [readCompound, hhead]
    simp only [hconditions, bind, Except.bind]
    rfl
  have hsteps : readMany (readStep inner allows) [] = .ok ([], []) := readMany_of_none rfl
  have hcomplex : readComplex inner allows ('[' :: s) = .ok (.compound [.attribute p]) := by
    have hskip : skipSpace ('[' :: s) = '[' :: s := rfl
    rw [readComplex, hskip, hcompound]
    simp only [bind, Except.bind, hsteps]
    rfl
  exact readAlternatives_iff.2 ⟨_, .last hfind, .cons hcomplex .nil⟩

theorem readSelectorList_error {s : List Char} {e : SyntaxError (List Char)}
    (hfind : findTopLevel [','] s = .error e) : readSelectorList allows s = .error e := by
  rw [readSelectorList_eq, readAlternatives, splitTopLevel, hfind]
  rfl

/-- With a value without quotes a test is read as with the value in quotes. A list of it is read so
just if the value closes what it opens; else the cut at commas fails. -/
theorem readSelectorList_bare (hname : SpellsName name) (op : AttributeOperator)
    (hvalue : IsBare value) :
    readAttribute (attributeText name op value) = .ok (comparing name op value, []) ∧
    readSelectorList allows (attributeText name op (writeString value)) =
      .ok [.compound [.attribute (comparing name op value)]] ∧
    (ClosesAll value → readSelectorList allows (attributeText name op value) =
      readSelectorList allows (attributeText name op (writeString value))) ∧
    (¬ ClosesAll value → ∃ e, findTopLevel [','] (attributeText name op value) = .error e ∧
      readSelectorList allows (attributeText name op value) = .error e) := by
  have hbare : readAttribute (attributeText name op value) = .ok (comparing name op value, []) :=
    readAttribute_compare hname fun unclosed => readValue_bare unclosed hvalue []
  have hquoted : readAttribute (attributeText name op (writeString value)) =
      .ok (comparing name op value, []) :=
    readAttribute_compare hname fun unclosed => readValue_quoted unclosed hvalue []
  have hlist : readSelectorList allows (attributeText name op (writeString value)) =
      .ok [.compound [.attribute (comparing name op value)]] :=
    readSelectorList_attribute (findTopLevel_quoted hname op value) hquoted
  refine ⟨hbare, hlist, ?_, ?_⟩
  · intro hcloses
    rcases findTopLevel_bare hname op hvalue with ⟨-, hfind⟩ | ⟨hopen, -⟩
    · rw [hlist]
      exact readSelectorList_attribute hfind hbare
    · exact absurd hcloses hopen
  · intro hopen
    rcases findTopLevel_bare hname op hvalue with ⟨hcloses, -⟩ | ⟨-, e, hfind⟩
    · exact absurd hcloses hopen
    · exact ⟨e, hfind, readSelectorList_error hfind⟩

/-- A bracket in the name that is escaped, and a value with two apostrophes or with one. -/
theorem readSelectorList_bare_apostrophe :
    readSelectorList (fun _ => true) "[a\\]=x(',')]".toList =
      readSelectorList (fun _ => true) "[a\\]=\"x(',')\"]".toList ∧
    ∃ e, readSelectorList (fun _ => true) "[a\\]=x'y]".toList = .error e := by
  have hname : SpellsName "a\\]".toList := ⟨by decide, by decide +kernel⟩
  have hclosed : IsBare "x(',')".toList := ⟨by decide, by decide, by decide, rfl⟩
  have hopen : IsBare "x'y".toList := ⟨by decide, by decide, by decide, rfl⟩
  have hnot : ¬ ClosesAll "x'y".toList := by
    intro h
    have hquote : some (some '\'') = some none := congrArg (Option.map Open.quote) h
    cases hquote
  obtain ⟨e, -, herror⟩ := (readSelectorList_bare hname .equals hopen).2.2.2 hnot
  exact ⟨(readSelectorList_bare hname .equals hclosed).2.2.1 rfl, e, herror⟩

end Tests

end Umbra.Selector
