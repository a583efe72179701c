import Umbra.Proofs.Selector.Name
import Umbra.Proofs.Selector.Nth
import Umbra.Proofs.Selector.Scan
import Umbra.Selector.Writer

/-!
# Written selectors are balanced

What has a meaning of its own in a selector is escaped in names, and strings are quoted. So everything
that is written is balanced, and only a list of alternatives has commas outside brackets.
-/

namespace Umbra.Selector

open Text

/-! ## Names, strings and positions -/

theorem isPlain_of_isNameChar {c : Char} (h : isNameChar c = true) : isPlain c = true ∧ c ≠ ',' := by
  have hne {d : Char} (hd : isNameChar d = false) : c ≠ d := by
    rintro rfl
    rw [h] at hd
    cases hd
  exact ⟨isPlain_iff.2 ⟨hne rfl, hne rfl, hne rfl, hne rfl, hne rfl, hne rfl, hne rfl, hne rfl⟩,
    hne rfl⟩

/-- Behind its backslash an escape by code point has a character and then a stretch of others that
could stand in a name. -/
theorem hexDigits_eq_cons {n : Nat} (hn : n < 0xA0) :
    ∃ d ds, hexDigits n = d :: ds ∧ ∀ e ∈ ds, isNameChar e = true := by
  obtain ⟨hall, -, hne, -⟩ := hexDigits_spec n hn
  cases hd : hexDigits n with
  | nil => exact absurd hd hne
  | cons d ds =>
    rw [hd, List.all_cons, Bool.and_eq_true] at hall
    exact ⟨d, ds, rfl, fun e he => isNameChar_of_isHexDigit (List.all_eq_true.1 hall.2 e he)⟩

theorem balanced_writeNameChar (leading : Bool) (c : Char) :
    Balanced false (writeNameChar leading c) := by
  rcases writeNameChar_cases leading c with ⟨-, hlt, hw⟩ | ⟨hname, -, hw⟩ | ⟨-, -, -, hw⟩
  · obtain ⟨d, ds, hd, hds⟩ := hexDigits_eq_cons hlt
    rw [hw, hd]
    refine .escape (.append (.of_forall fun e he => ?_) (.plain rfl (by decide) .nil))
    exact isPlain_of_isNameChar (hds e he)
  · rw [hw]
    obtain ⟨hplain, hcomma⟩ := isPlain_of_isNameChar hname
    exact .plain hplain (fun h => absurd h hcomma) .nil
  · rw [hw]
    exact .escape .nil

theorem balanced_writeName (name : List Char) : Balanced false (writeName name) := by
  rw [writeName_eq]
  induction marked name with
  | nil => exact .nil
  | cons x cs ih =>
    obtain ⟨b, c⟩ := x
    rw [writeMarked_cons]
    exact (balanced_writeNameChar b c).append ih

theorem quotable_writeStringChar (c : Char) {s : List Char} (hs : Quotable s) :
    Quotable (writeStringChar c ++ s) := by
  rw [writeStringChar]
  split
  · exact .plain (by decide) (by decide) hs
  · split
    · exact .escape hs
    · rename_i hc
      split
      · rename_i hcontrol
        obtain ⟨d, ds, hd, hds⟩ := hexDigits_eq_cons (lt_of_isControl hcontrol)
        rw [hd]
        simp only [List.cons_append, List.append_assoc, List.nil_append]
        refine .escape ?_
        clear hd
        induction ds with
        | nil => exact .plain (by decide) (by decide) hs
        | cons e ds ih =>
          obtain ⟨he, hds⟩ := List.forall_mem_cons.1 hds
          obtain ⟨hslash, hquote, -⟩ := isPlain_iff.1 (isPlain_of_isNameChar he).1
          exact .plain hquote hslash (ih hds)
      · rw [Bool.or_eq_true, decide_eq_true_eq, decide_eq_true_eq, not_or] at hc
        exact .plain hc.1 hc.2 hs

theorem balanced_writeString {comma : Bool} (value : List Char) :
    Balanced comma (writeString value) := by
  have hvalue : Quotable (value.flatMap writeStringChar) := by
    induction value with
    | nil => exact .nil
    | cons c value ih => exact quotable_writeStringChar c ih
  exact .quoted hvalue .nil

theorem balanced_writeNth {comma : Bool} (n : Nth) : Balanced comma n.write := by
  have hnumber {s : List Char} (h : s.all isNumberChar = true) : Balanced comma s := by
    refine .of_forall fun c hc => ?_
    have hc := mem_of_isNumberChar (List.all_eq_true.1 h c hc)
    simp only [List.mem_cons, List.not_mem_nil, or_false] at hc
    rcases hc with rfl | rfl | rfl | rfl | rfl | rfl | rfl | rfl | rfl | rfl | rfl | rfl <;> decide
  rw [Nth.write]
  split
  · exact hnumber (all_writeInt _)
  · exact .append (hnumber (Nth.all_writeStep _))
      (.plain rfl (fun h => absurd h (by decide)) (hnumber (Nth.all_writeFirst _)))

theorem all_isNameChar_text (p : PseudoClassName) : p.text.toList.all isNameChar = true := by
  cases p with
  | first s => cases s <;> decide
  | last s => cases s <;> decide
  | only s => cases s <;> decide
  | nth s => cases s <;> decide
  | nthLast s => cases s <;> decide
  | _ => decide

theorem balanced_text {comma : Bool} (p : PseudoClassName) : Balanced comma p.text.toList :=
  .of_forall fun c hc => isPlain_of_isNameChar (List.all_eq_true.1 (all_isNameChar_text p) c hc)

theorem balanced_writePredicate (p : AttributePredicate) : Balanced false p.write := by
  obtain ⟨name, test⟩ := p
  refine .enclosed (v := writeName name.toList ++ _) (s := []) rfl (.append ?_ ?_) .nil
  · exact (balanced_writeName _).mono
  · cases test with
    | present => exact .nil
    | compare operator expected mode =>
      refine .append (.append ?_ (balanced_writeString _)) ?_
      · cases operator <;> exact .of_all rfl
      · cases mode <;> exact .of_all rfl

/-! ## Selectors -/

theorem writeList_cons_cons (c d : ComplexSelector) (rest : List ComplexSelector) :
    writeList (c :: d :: rest) = c.write ++ [',', ' '] ++ writeList (d :: rest) := by
  rw [writeList]
  exact List.cons_ne_nil _ _

theorem balanced_writeCombinator (k : Combinator) : Balanced false k.write := by
  cases k with
  | child => exact .plain rfl (by decide) (.child (by decide) (.of_all rfl))
  | _ => exact .of_all rfl

mutual

theorem balanced_writeSimple : (s : SimpleSelector) → Balanced false s.write
  | .type name => balanced_writeName _
  | .universal => .of_all rfl
  | .id name => .plain rfl (by decide) (balanced_writeName _)
  | .className name => .plain rfl (by decide) (balanced_writeName _)
  | .attribute predicate => balanced_writePredicate predicate
  | .pseudo pseudoClass => .plain rfl (by decide) (balanced_writePseudo pseudoClass)

theorem balanced_writePseudo : (p : PseudoClass) → Balanced false p.write
  | .nth among positions => by
    rw [PseudoClass.write, List.append_assoc]
    exact .append (balanced_text _) (.enclosed rfl (balanced_writeNth positions) .nil)
  | .nthLast among positions => by
    rw [PseudoClass.write, List.append_assoc]
    exact .append (balanced_text _) (.enclosed rfl (balanced_writeNth positions) .nil)
  | .not alternatives => by
    rw [PseudoClass.write, List.append_assoc]
    exact .append (balanced_text _) (.enclosed rfl (balanced_writeList alternatives) .nil)
  | .root => balanced_text _
  | .scope => balanced_text _
  | .empty => balanced_text _
  | .first _ => balanced_text _
  | .last _ => balanced_text _
  | .only _ => balanced_text _

theorem balanced_writeCompound : (c : List SimpleSelector) → Balanced false (writeCompound c)
  | [] => .nil
  | s :: rest => by
    rw [writeCompound]
    exact (balanced_writeSimple s).append (balanced_writeCompound rest)

theorem balanced_writeComplex : (c : ComplexSelector) → Balanced false c.write
  | .compound subject => by
    rw [ComplexSelector.write]
    exact balanced_writeCompound subject
  | .link subject combinator left => by
    rw [ComplexSelector.write]
    exact ((balanced_writeComplex left).append (balanced_writeCombinator combinator)).append
      (balanced_writeCompound subject)

theorem balanced_writeList : (alternatives : List ComplexSelector) →
    Balanced true (writeList alternatives)
  | [] => .nil
  | [c] => by
    rw [writeList]
    exact (balanced_writeComplex c).mono
  | c :: d :: rest => by
    rw [writeList_cons_cons]
    exact ((balanced_writeComplex c).mono.append (.plain rfl (fun _ => rfl) (.plain rfl
      (by decide) .nil))).append (balanced_writeList (d :: rest))

end

end Umbra.Selector
