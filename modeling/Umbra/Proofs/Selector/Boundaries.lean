import Umbra.Proofs.Selector.Scanner

/-!
# Scans of selectors on character boundaries

Every scan of a piece of a selector comes to the result of the reader of that piece and stops where
the reader stops. So none of them cuts a text inside a character, and none uses up its steps.
-/

namespace Umbra.Selector

open Text

/-- The end of an attribute test. -/
def readClosing {α : Type} (unclosed : SyntaxError (List Char)) (result : α) :
    List Char → Read (α × List Char)
  | [] => .error unclosed
  | ']' :: rest => .ok (result, rest)
  | c :: s => .error (.unexpectedCharacter c (c :: s))

/-- A step that there may not be, with what remains of `s` behind it. -/
def stepped {α : Type} (s : List Char) : Option (α × List Char) → Option α × List Char
  | none => (none, s)
  | some (a, r) => (some a, r)

namespace Scan

theorem Reads.stepped {α β : Type} {p : Scan α} {input s : List Char} {base : Nat}
    {x : Read (α × List Char)} (hp : Reads p input base s x) (k : α → β) (whole : List Char) :
    Reads (do return some (k (← p))) input base s
      ((x >>= fun q => .ok (some (k q.1, q.2))).map (Selector.stepped whole)) := by
  cases x with
  | error e => exact hp.error
  | ok q => exact hp.next fun _ => .pure _

/-- A loop over the steps of a reader. Where there is none, the scan goes on to `stop`. -/
theorem reads_many {α : Type} {step : Bool → Scan (Option α)} {input s : List Char} {base n : Nat}
    {reader : List Char → Read (Option (α × List Char))} {stop : List Char → List Char}
    (hstep : ∀ t, t <:+ input →
      Reads (step false) input base t ((reader t).map (stepped (stop t))))
    (hless : ∀ t a r, reader t = .ok (some (a, r)) → r.length < t.length)
    (h : s <:+ input) (hn : s.length < n) {first : Bool}
    (hfirst : Reads (step first) input base s ((reader s).map (stepped (stop s)))) :
    Reads (many step n first) input base s
      ((readMany reader s).map fun q => (q.1, stop q.2)) := by
  induction n generalizing s first with
  | zero => cases hn
  | succ n ih =>
    rw [readMany]
    cases hread : reader s with
    | error e =>
      rw [hread] at hfirst
      exact hfirst.error
    | ok o =>
      rw [hread] at hfirst
      cases o with
      | none => exact hfirst.next fun _ => .pure _
      | some q =>
        have hlt : q.2.length < s.length := hless s q.1 q.2 hread
        refine hfirst.next fun hq => ?_
        have hrest := ih (hq.trans h) (by omega) (hstep q.2 (hq.trans h))
        simp only [if_pos hlt]
        cases hmany : readMany reader q.2 with
        | error e =>
          rw [hmany] at hrest
          exact hrest.error
        | ok p =>
          rw [hmany] at hrest
          exact hrest.next fun _ => .pure _

section Pieces

variable {α : Type} {s t input : List Char} {base n : Nat}

theorem reads_startsIdentifier (h : s <:+ input) :
    Reads startsIdentifier input base s (.ok (atName s, s)) := by
  refine (reads_peek h).next fun _ => ?_
  cases s with
  | nil => exact .pure _
  | cons c s =>
    simp only [List.head?_cons]
    split
    · rename_i hc
      subst hc
      refine (reads_peekAt h 1).next fun _ => ?_
      cases s with
      | nil => exact .pure _
      | cons d s =>
        simp only [List.getElem?_cons_succ, List.getElem?_cons_zero]
        split
        · rename_i hd
          subst hd
          refine (reads_peekAt h 2).next fun _ => ?_
          cases s with
          | nil => exact .pure _
          | cons e s => exact .pure _
        · rename_i hd
          rw [atName_hyphen_cons, atEscape_cons, beq_eq_false_iff_ne.2 hd, Bool.false_and,
            Bool.or_false]
          exact .pure _
    · rename_i hc
      rw [atName_cons hc]
      split
      · rename_i hstart
        rw [hstart]
        exact .pure _
      · rename_i hstart
        rw [Bool.eq_false_iff.2 hstart, Bool.false_or]
        split
        · exact reads_atValidEscape h
        · rename_i hd
          rw [atEscape_cons, beq_eq_false_iff_ne.2 hd]
          exact .pure _

theorem reads_expectName (h : s <:+ input) (hn : input.length < n) (expected : Expected) :
    Reads (expectName n expected) input base s (Umbra.Selector.expectName expected s) := by
  refine (reads_peek h).next fun _ => (reads_atValidEscape h).next fun _ => ?_
  unfold Umbra.Selector.expectName
  split
  · exact (reads_name h (Nat.lt_of_le_of_lt h.length_le hn)).next fun _ => .pure _
  · exact reads_unexpected h expected

/-! ### Attributes -/

theorem reads_invalidOperator (h : s <:+ input) {place : List Char} {c : Char}
    (hplace : place <:+ input) :
    Reads (invalidOperator (base + Text.offset input place) c : Scan α) input base s
      (.error (.invalidAttributeOperator
        (String.ofList (c :: (s.head?.filter fun n => n != ']' && n != ' ').toList)) place)) := by
  refine (reads_peek h).next fun _ => .refuse (fun p hp => ?_) rfl
  cases hp
  exact hplace

theorem reads_operator (h : s <:+ input) : Reads operator input base s (readOperator s) := by
  refine reads_offset.next fun _ => ?_
  fun_cases readOperator s with
  | case1 =>
    refine reads_consume_nil.next fun _ => .refuse (fun p hp => ?_) rfl
    cases hp
    exact h
  | case2 t => exact (reads_consume h).next fun _ => .pure _
  | case3 c hequals operator t hmark =>
    refine (reads_consume h).next fun ht => ?_
    simp only [if_neg hequals, hmark]
    exact (reads_eat (ht.trans h)).next fun _ => .pure _
  | case4 c s hequals hmark =>
    refine (reads_consume h).next fun ht => ?_
    simp only [if_neg hequals]
    split
    · rename_i operator hoperator
      have hhead : s.head? ≠ some '=' :=
        mt List.head?_eq_some_iff.1 (not_exists.2 fun t => hmark operator t hoperator)
      refine (reads_eat_none (ht.trans h) hhead).next fun _ => ?_
      exact reads_invalidOperator (ht.trans h) h
    · exact reads_invalidOperator (ht.trans h) h

theorem reads_unbalanced {place : List Char} (hplace : place <:+ input) (bracket : Char) :
    Reads (refuse (.unbalancedBracket bracket (base + Text.offset input place)) : Scan α) input base
      s (.error (.unbalancedBracket bracket place)) := by
  refine .refuse (fun p hp => ?_) rfl
  cases hp
  exact hplace

section Unclosed

variable (h : s <:+ input) (hn : input.length < n) {place : List Char} (hplace : place <:+ input)

include h hn hplace

theorem reads_value :
    Reads (value n (.unbalancedBracket '[' (base + Text.offset input place))) input base s
      (readValue (.unbalancedBracket '[' place) s) := by
  have hlt := Nat.lt_of_le_of_lt h.length_le hn
  refine (reads_peek h).next fun _ => ?_
  fun_cases readValue (.unbalancedBracket '[' place) s with
  | case1 => exact reads_unbalanced hplace '['
  | case2 c t hquote =>
    simp only [List.head?_cons, if_pos hquote]
    exact reads_string h (Nat.lt_of_succ_lt hlt)
  | case3 t hquote =>
    simp only [List.head?_cons]
    exact reads_unexpected h .argument
  | case4 c t hquote hclose =>
    simp only [List.head?_cons, if_neg hquote, if_neg hclose]
    exact reads_unquotedValue h hlt

theorem reads_modifier :
    Reads (modifier n (.unbalancedBracket '[' (base + Text.offset input place))) input base s
      (readModifier (.unbalancedBracket '[' place) s) := by
  have hlt := Nat.lt_of_le_of_lt h.length_le hn
  refine reads_offset.next fun _ => (reads_peek h).next fun _ => ?_
  cases s with
  | nil => exact reads_unbalanced hplace '['
  | cons c s =>
    unfold readModifier
    simp only [List.head?_cons]
    split
    · exact .pure _
    · have hread : Reads (modifierText n c) input base (c :: s)
          (.ok ((if isNameChar c then readName (c :: s) else ([c], s)).1,
            (if isNameChar c then readName (c :: s) else ([c], s)).2)) := by
        unfold modifierText
        split
        · exact reads_name h hlt
        · exact (reads_consume h).next fun _ => .pure _
      generalize (if isNameChar c then readName (c :: s) else ([c], s)) = written at hread ⊢
      refine hread.next fun _ => ?_
      cases CaseMode.ofModifier? written.1 with
      | some mode => exact .pure _
      | none =>
        refine .refuse (fun p hp => ?_) rfl
        cases hp
        exact h

theorem reads_closing (result : α) :
    Reads (closing n (.unbalancedBracket '[' (base + Text.offset input place)) result) input base s
      (readClosing (.unbalancedBracket '[' place) result (skipSpace s)) := by
  refine (reads_skipWhitespace h (Nat.lt_of_le_of_lt h.length_le hn)).next fun hskip => ?_
  have hrest := hskip.trans h
  generalize skipSpace s = t at hrest
  fun_cases readClosing (.unbalancedBracket '[' place) result t with
  | case1 =>
    refine (reads_eat_none hrest (by simp)).next fun _ => (reads_isEof hrest).next fun _ => ?_
    exact reads_unbalanced hplace '['
  | case2 rest => exact (reads_eat hrest).next fun _ => .pure _
  | case3 c t hclose =>
    have hhead : (c :: t).head? ≠ some ']' := by
      rintro ⟨⟩
      exact hclose rfl
    refine (reads_eat_none hrest hhead).next fun _ => (reads_isEof hrest).next fun _ => ?_
    exact reads_unexpected hrest .argument

theorem reads_behindName (name : List Char) :
    Reads (do
      match ← peek with
      | none => refuse (.unbalancedBracket '[' (base + Text.offset input place))
      | some c =>
        if c = ']' then
          let _ ← consume
          return .make (String.ofList name) .present
        else comparison n (.unbalancedBracket '[' (base + Text.offset input place)) name)
      input base s (behindName (.unbalancedBracket '[' place) name s) := by
  have hskip {t : List Char} (ht : t <:+ input) : Reads (skipWhitespace n) input base t _ :=
    reads_skipWhitespace ht (Nat.lt_of_le_of_lt ht.length_le hn)
  refine (reads_peek h).next fun _ => ?_
  fun_cases behindName (.unbalancedBracket '[' place) name s with
  | case1 => exact reads_unbalanced hplace '['
  | case2 rest => exact (reads_consume h).next fun _ => .pure _
  | case3 c t hclose =>
    have hc : c ≠ ']' := by
      rintro rfl
      exact hclose rfl
    simp only [List.head?_cons, if_neg hc]
    refine (reads_operator h).bind fun p _ hp => ?_
    have hp := hp.trans h
    refine (hskip hp).next fun hvalue => ?_
    have hvalue := hvalue.trans hp
    refine (reads_value hvalue hn hplace).bind fun q _ hq => ?_
    have hq := hq.trans hvalue
    refine (hskip hq).next fun hmode => ?_
    have hmode := hmode.trans hq
    refine (reads_modifier hmode hn hplace).bind fun r _ hr => ?_
    exact reads_closing (hr.trans hmode) hn hplace _

end Unclosed

theorem reads_attributeTest (h : '[' :: s <:+ input) (hn : input.length < n) :
    Reads (attributeTest n) input base ('[' :: s) (readAttribute ('[' :: s)) := by
  have hskip {t : List Char} (ht : t <:+ input) : Reads (skipWhitespace n) input base t _ :=
    reads_skipWhitespace ht (Nat.lt_of_le_of_lt ht.length_le hn)
  refine reads_offset.next fun _ => (reads_consume h).next fun hs => ?_
  have hs := hs.trans h
  refine (hskip hs).next fun hstart => ?_
  have hstart := hstart.trans hs
  refine (reads_startsIdentifier hstart).next fun _ => ?_
  cases hname : atName (skipSpace s) with
  | true =>
    rw [readAttribute_eq hname]
    refine (reads_name hstart (Nat.lt_of_le_of_lt hstart.length_le hn)).next fun hafter => ?_
    have hafter := hafter.trans hstart
    refine (hskip hafter).next fun hbehind => ?_
    exact reads_behindName (hbehind.trans hafter) hn h _
  | false =>
    refine (reads_isEof hstart).next fun _ => ?_
    cases hrest : skipSpace s with
    | nil =>
      have hread : readAttribute ('[' :: s) = .error (.unbalancedBracket '[' ('[' :: s)) := by
        simp [readAttribute, hrest, atName]
      rw [hread]
      exact reads_unbalanced h '['
    | cons c t =>
      rw [hrest] at hstart hname
      have hread : readAttribute ('[' :: s) = .error (.unexpectedCharacter c (c :: t)) := by
        simp [readAttribute, hrest, hname]
      rw [hread]
      exact reads_unexpected hstart .argument

/-! ### Arguments and pseudo-classes -/

theorem reads_advance {before : List Char} (h : before ++ t <:+ input) {bytes : Nat}
    (hbytes : byteLength before = bytes) :
    Reads (advance bytes) input base (before ++ t) (.ok ((), t)) := by
  have hmove : Reads (moveTo _) input base (before ++ t) _ :=
    reads_moveTo h (List.suffix_append before t)
  have hle : Text.offset input t ≤ byteLength input := Nat.sub_le ..
  rw [← Nat.min_eq_left hle, ← offset_add h, hbytes] at hmove
  exact hmove

/-- Whatever character the argument stands behind, its place is taken to be one byte further on. -/
theorem reads_arguments (h : s <:+ input) : Reads arguments input base s
    ((readArgument s).map fun q => ((base + Text.offset input s + 1, q.1), q.2)) := by
  have hconsume : ∃ c, Reads consume input base s (.ok (c, s.drop 1)) := by
    cases s with
    | nil => exact ⟨none, reads_consume_nil⟩
    | cons c s => exact ⟨some c, reads_consume h⟩
  obtain ⟨c, hconsume⟩ := hconsume
  have hs := (List.drop_suffix 1 s).trans h
  refine reads_offset.next fun _ => hconsume.next fun _ => (reads_rest hs).next fun _ => ?_
  unfold readArgument
  rw [closing?_eq]
  cases hcut : cutArgument? 0 none (s.drop 1) with
  | none => exact reads_unbalanced h '('
  | some q =>
    obtain ⟨argument, rest⟩ := q
    obtain ⟨hsplit, -⟩ := append_of_cutArgument? hcut
    rw [hsplit] at hs ⊢
    simp only [Option.map_some, Nat.zero_add, sliceTo?_append]
    have hclose : byteLength (argument ++ [')']) = byteLength argument + 1 :=
      byteLength_append argument [')']
    have hadvance : Reads (advance (byteLength argument + 1)) input base (argument ++ ')' :: rest)
        (.ok ((), rest)) := by
      rw [List.append_cons] at hs ⊢
      exact reads_advance hs hclose
    exact (Reads.ofExcept (.ok argument)).next fun _ => hadvance.next fun _ => .pure _

theorem reads_nthArgument (h : '(' :: s <:+ input) :
    Reads nthArgument input base ('(' :: s) (readNthArgument ('(' :: s)) := by
  refine (reads_arguments h).bind_map fun q _ _ => ?_
  dsimp only
  cases Nth.parse? q.1 with
  | none => exact .unplaced rfl rfl
  | some positions => exact .pure _

variable {inner : Nat → List Char → Except Halt SelectorList} {r : List Char → Read SelectorList}

theorem reads_functionalPseudo (hinner : ∀ place argument, argument.length < input.length →
      Gives (inner place argument) place argument (r argument))
    (h : '(' :: s <:+ input) (name : PseudoClassName) :
    Reads (functionalPseudo inner name) input base ('(' :: s)
      (readFunctionalPseudo r name ('(' :: s)) := by
  cases name with
  | nth among => exact (reads_nthArgument h).bind fun _ _ _ => .pure _
  | nthLast among => exact (reads_nthArgument h).bind fun _ _ _ => .pure _
  | not =>
    refine (reads_arguments h).bind_map fun (argument, rest) hargument hrest => ?_
    obtain ⟨hs, -⟩ := append_of_cutArgument? (readArgument_eq_ok.1 hargument)
    have hsuffix := (List.suffix_cons '(' s).trans h
    have hlt : argument.length < input.length := by
      have hle := h.length_le
      rw [hs, List.length_cons, List.length_append] at hle
      omega
    have hplace : base + Text.offset input ('(' :: s) + 1 = base + Text.offset input s :=
      congrArg (base + ·) (offset_cons h)
    have hwithin := (hinner (base + Text.offset input s) argument hlt).within (')' :: rest)
    rw [← hs] at hwithin
    dsimp only
    rw [hplace]
    exact (Reads.ofExcept (.of_suffix hsuffix hwithin)).bind_map fun _ _ _ => .pure _
  | _ => exact reads_unexpected h .argument

theorem reads_barePseudo (name : PseudoClassName) :
    Reads (barePseudo name) input base s (readBarePseudo name s) := by
  cases name with
  | nth | nthLast | not => exact .unplaced rfl rfl
  | _ => exact .pure _

theorem reads_unknownPseudoClass (written : String) :
    Reads (refuse (.unknownPseudoClass written) : Scan α) input base s
      (.error (.unknownPseudoClass written)) :=
  .unplaced rfl rfl

/-! ### Heads and combinators -/

theorem reads_head (h : s <:+ input) (hn : input.length < n) :
    Reads (head n) input base s (.ok ((readHead s).1, (readHead s).2)) := by
  by_cases hstar : ∃ t, s = '*' :: t
  · obtain ⟨t, rfl⟩ := hstar
    exact (reads_eat h).next fun _ => .pure _
  · refine (reads_eat_none h (mt List.head?_eq_some_iff.1 hstar)).next fun _ => ?_
    refine (reads_startsIdentifier h).next fun _ => ?_
    rw [readHead_eq (not_exists.1 hstar)]
    split
    · exact (reads_name h (Nat.lt_of_le_of_lt h.length_le hn)).next fun _ => .pure _
    · exact .pure _

/-- A compound without a head does not go on with a star. -/
theorem head?_of_readHead (hnil : (readHead s).1.isEmpty = true) :
    (readHead s).2.head? ≠ some '*' := by
  by_cases hstar : ∃ t, s = '*' :: t
  · obtain ⟨t, rfl⟩ := hstar
    cases hnil
  · rw [readHead_eq (not_exists.1 hstar)] at hnil ⊢
    split at hnil
    · cases hnil
    · rename_i hname
      rw [if_neg hname]
      exact mt List.head?_eq_some_iff.1 hstar

theorem reads_signed {c : Char} (h : c :: s <:+ input) (hn : input.length < n) (k : Combinator) :
    Reads (signed n k) input base (c :: s) (.ok (some k, skipSpace s)) := by
  refine (reads_consume h).next fun hs => ?_
  have hs := hs.trans h
  exact (reads_skipWhitespace hs (Nat.lt_of_le_of_lt hs.length_le hn)).next fun _ => .pure _

theorem reads_combinator (h : s <:+ input) (hn : input.length < n) :
    Reads (combinator n) input base s ((readCombinator s).map (stepped (skipSpace s))) := by
  refine (reads_skipWhitespace h (Nat.lt_of_le_of_lt h.length_le hn)).next fun hs => ?_
  have hs := hs.trans h
  refine (reads_peek hs).next fun _ => ?_
  unfold readCombinator
  generalize skipSpace s = t at hs ⊢
  cases t with
  | nil => exact .pure _
  | cons c t =>
    by_cases hchild : c = '>'
    · subst hchild
      exact reads_signed hs hn .child
    by_cases hnext : c = '+'
    · subst hnext
      exact reads_signed hs hn .nextSibling
    by_cases hsubsequent : c = '~'
    · subst hsubsequent
      exact reads_signed hs hn .subsequentSibling
    simp only [List.head?_cons, if_neg hchild, if_neg hnext, if_neg hsubsequent]
    split
    · exact .pure _
    · exact reads_unexpected hs .selector

/-! ### Compounds and what they are joined to -/

theorem length_of_readCondition {allows : PseudoClassName → Bool} {c : SimpleSelector}
    {t u : List Char} (h : readCondition r allows t = .ok (some (c, u))) : u.length < t.length :=
  have hnil : Spaces [] := List.forall_mem_nil _
  ((readCondition_follows (fun _ _ h => h) hnil allows t).step c u h).1

theorem length_of_readStep {allows : PseudoClassName → Bool} {a : Combinator × CompoundSelector}
    {t v : List Char} (h : readStep r allows t = .ok (some (a, v))) : v.length < t.length :=
  have hnil : Spaces [] := List.forall_mem_nil _
  ((readStep_follows (fun _ _ h => h) hnil allows t).step a v h).1

section Inner

variable (hinner : ∀ place argument, argument.length < input.length →
    Gives (inner place argument) place argument (r argument))
  (hn : input.length < n) (allows : PseudoClassName → Bool)

include hinner hn

theorem reads_pseudoClass (h : ':' :: s <:+ input) :
    Reads (pseudoClass inner allows n) input base (':' :: s) (readPseudoClass r allows s) := by
  refine (reads_consume h).next fun hs => ?_
  have hs := hs.trans h
  refine (reads_peek hs).next fun _ => ?_
  by_cases hcolon : ∃ t, s = ':' :: t
  · obtain ⟨t, rfl⟩ := hcolon
    refine (reads_consume hs).next fun ht => ?_
    have ht := ht.trans hs
    refine (reads_name ht (Nat.lt_of_le_of_lt ht.length_le hn)).next fun _ => ?_
    exact reads_unknownPseudoClass _
  · rw [if_neg (mt List.head?_eq_some_iff.1 hcolon), readPseudoClass_eq (not_exists.1 hcolon)]
    refine (reads_expectName hs hn .pseudoClassName).bind fun (written, t) _ ht => ?_
    have ht := ht.trans hs
    dsimp only at ht ⊢
    cases (PseudoClassName.ofWritten? written).filter allows with
    | none => exact reads_unknownPseudoClass _
    | some name =>
      refine (reads_peek ht).next fun _ => ?_
      dsimp only
      fun_cases behindPseudo r name t with
      | case1 t => exact reads_functionalPseudo hinner ht name
      | case2 t hbare =>
        rw [if_neg (mt List.head?_eq_some_iff.1 (not_exists.2 hbare))]
        exact reads_barePseudo name

theorem reads_condition (h : s <:+ input) {first : Bool}
    (hfirst : first = true → s.head? ≠ some '*') :
    Reads (condition inner allows n first) input base s
      ((readCondition r allows s).map (stepped s)) := by
  refine (reads_peek h).next fun _ => ?_
  fun_cases readCondition r allows s with
  | case1 s =>
    refine (reads_consume h).next fun hs => ?_
    exact (reads_expectName (hs.trans h) hn .id).stepped SimpleSelector.id _
  | case2 s =>
    refine (reads_consume h).next fun hs => ?_
    exact (reads_expectName (hs.trans h) hn .className).stepped SimpleSelector.className _
  | case3 s => exact (reads_attributeTest h hn).stepped SimpleSelector.attribute _
  | case4 s =>
    exact (reads_pseudoClass hinner hn allows h).stepped SimpleSelector.pseudo _
  | case5 s =>
    cases first with
    | true => exact absurd rfl (hfirst rfl)
    | false => exact reads_unexpected h .selector
  | case6 s hid hclass hattribute hpseudo huniversal =>
    cases s with
    | nil => exact .pure _
    | cons c s =>
      have hne {d : Char} (hd : ∀ t, c :: s = d :: t → False) : c ≠ d :=
        fun hc => hd s (by rw [hc])
      have hstar : ¬ (c = '*' && !first) = true := by simp [hne huniversal]
      simp only [List.head?_cons, if_neg (hne hid), if_neg (hne hclass), if_neg (hne hattribute),
        if_neg (hne hpseudo), if_neg hstar]
      exact .pure _

theorem reads_compound (h : s <:+ input) :
    Reads (compound inner allows n) input base s (readCompound r allows s) := by
  have hnext (t : List Char) (ht : t <:+ input) : Reads (condition inner allows n false) input base
      t ((readCondition r allows t).map (stepped t)) :=
    reads_condition hinner hn allows ht fun hfirst => absurd hfirst Bool.false_ne_true
  refine (reads_head h hn).next fun hs => ?_
  have hs := hs.trans h
  have hfirst : Reads _ input base _ _ := reads_condition hinner hn allows hs head?_of_readHead
  have hmany := reads_many hnext (fun _ _ _ => length_of_readCondition) hs
    (Nat.lt_of_le_of_lt hs.length_le hn) hfirst
  exact hmany.bind_map fun _ _ _ => .pure _

theorem reads_step (h : s <:+ input) :
    Reads (step inner allows n) input base s
      ((readStep r allows s).map (stepped (skipSpace s))) := by
  unfold readStep
  rw [Reads.map_of_bind]
  refine (reads_combinator h hn).bind_map fun o _ hsuffix => ?_
  cases o with
  | none => exact .pure _
  | some q =>
    have hq : q.2 <:+ input := hsuffix.trans h
    change Reads _ input base q.2 (Except.map _ (readCompound r allows q.2 >>= _))
    rw [Reads.map_of_bind]
    refine (reads_compound hinner hn allows hq).bind fun p _ hp => ?_
    dsimp only
    split
    · exact reads_unexpected (hp.trans hq) .selectorAfterCombinator
    · exact .pure _

/-- Where no combinator and compound follow, the rest is white space. -/
theorem reads_steps {u : List Char} (hu : u <:+ input) :
    Reads (many (fun _ => step inner allows n) n true) input base u
      ((readMany (readStep r allows) u).map fun q => (q.1, [])) := by
  have hmany : Reads (many (fun _ => step inner allows n) n true) input base u
      ((readMany (readStep r allows) u).map fun q => (q.1, skipSpace q.2)) :=
    reads_many (fun t ht => reads_step hinner hn allows ht) (fun _ _ _ => length_of_readStep)
      hu (Nat.lt_of_le_of_lt hu.length_le hn) (reads_step hinner hn allows hu)
  cases hread : readMany (readStep r allows) u with
  | error e =>
    rw [hread] at hmany
    exact hmany
  | ok q =>
    have hstop := step_eq_none_of_readMany (fun _ _ _ => length_of_readStep) hread
    rw [readStep_eq_none, readCombinator_eq_none] at hstop
    rw [hread] at hmany
    simp only [Except.map, hstop] at hmany ⊢
    exact hmany

theorem reads_complex (hs : skipSpace s <:+ input) :
    Reads (complex inner allows n) input base (skipSpace s)
      ((readComplex r allows s).map fun c => (c, [])) := by
  unfold readComplex
  rw [Reads.map_of_bind]
  refine (reads_compound hinner hn allows hs).bind fun p _ hp => ?_
  have hp := hp.trans hs
  dsimp only
  split
  · exact reads_unexpected hp .selector
  · rw [Reads.map_of_bind]
    exact (reads_steps hinner hn allows hp).bind_map fun _ _ _ => .pure _

theorem reads_alternative (h : s <:+ input) :
    Reads (alternative inner allows n) input base s
      ((readComplex r allows s).map fun c => (c, [])) := by
  refine (reads_skipWhitespace h (Nat.lt_of_le_of_lt h.length_le hn)).next fun hs => ?_
  have hs := hs.trans h
  refine (reads_isEof hs).next fun _ => ?_
  have hcomplex : Reads _ input base (skipSpace s) _ := reads_complex hinner hn allows hs
  by_cases hend : skipSpace s = []
  · have hread : readComplex r allows s = .error (.unexpectedEnd .selector) := by
      have hnone : readMany (readCondition r allows) (readHead []).2 = .ok ([], []) :=
        readMany_of_none rfl
      rw [readComplex, hend, readCompound]
      change (readMany (readCondition r allows) (readHead []).2 >>= _) >>= _ = _
      rw [hnone]
      rfl
    rw [hread, hend]
    exact .unplaced rfl rfl
  · rw [List.isEmpty_eq_false_iff.2 hend]
    cases hread : readComplex r allows s with
    | error e =>
      rw [hread] at hcomplex
      exact hcomplex.error
    | ok c =>
      rw [hread] at hcomplex
      refine hcomplex.next fun _ => ?_
      have hlast : Reads (skipWhitespace n) input base [] _ :=
        reads_skipWhitespace List.nil_suffix (Nat.zero_lt_of_lt hn)
      refine hlast.next fun _ => (reads_isEof List.nil_suffix).next fun _ => ?_
      exact .pure _

end Inner
end Pieces
end Scan

/-! ## Selector lists -/

variable {base n : Nat} {s : List Char}

theorem Leaves.suffix {s t : List Char} (h : Leaves s t) : t <:+ s := by
  obtain ⟨taken, -, rfl⟩ := h
  exact List.suffix_append taken t

/-- A reader of a text, run on a stretch of a longer one. -/
theorem gives_alternative {inner : Nat → List Char → Except Halt SelectorList}
    {r : List Char → Read SelectorList} {allows : PseudoClassName → Bool} {segment : Segment}
    (hinner : ∀ place argument, argument.length < segment.text.length →
      Gives (inner place argument) place argument (r argument))
    (hs : segment.text ++ segment.after <:+ s) (hn : segment.text.length < n) :
    Gives ((Scan.alternative inner allows n).run ⟨segment.text, 0, base + segment.offset s⟩) base s
      ((readComplex r allows segment.text).within segment.after) := by
  have hread : Gives _ (base + segment.offset s) segment.text _ :=
    (Scan.reads_alternative hinner hn allows List.suffix_rfl).run
  exact .of_suffix hs (hread.within segment.after)

theorem gives_selectorList (allows : PseudoClassName → Bool) (hn : s.length < n) :
    Gives (Bytes.selectorList allows n base s) base s (readSelectorList allows s) := by
  induction n generalizing base s with
  | zero => cases hn
  | succ n ih =>
    have hsplit : Gives _ 0 s _ := gives_splitTopLevel (List.cons_ne_nil ',' []) hn
    rw [readSelectorList_eq]
    refine hsplit.shifted.bind_map fun segments hsegments => .mapM fun segment hsegment => ?_
    have hplace := (locates_splitTopLevel s).2 segments hsegments segment hsegment
    have hsuffix := hplace.1.suffix
    have hle := hsuffix.length_le
    rw [List.length_append] at hle
    refine gives_alternative (fun place argument hargument => ?_) hsuffix (by omega)
    have hread : readBelow allows s.length argument = readSelectorList allows argument :=
      if_pos (by omega)
    rw [hread]
    exact ih (by omega)

/-! ## Operations of a cursor -/

/-- What is done with a cursor to read a selector or a text pattern. -/
inductive Operation where
  | offset
  | isEof
  | rest
  | peek
  | peekAt (k : Nat)
  | consume
  | eat (expected : Char)
  | unexpected (expected : Expected)
  | skipWhitespace
  | atValidEscape
  | escapedCodePoint
  | name
  | string
  | unquotedValue
  | arguments

/-- The operation, with at most `n` steps of every loop and without its result. -/
def Operation.scan (n : Nat) : Operation → Scan Unit
  | offset => do let _ ← Scan.offset; return
  | isEof => do let _ ← Scan.isEof; return
  | rest => do let _ ← Scan.rest; return
  | peek => do let _ ← Scan.peek; return
  | peekAt k => do let _ ← Scan.peekAt k; return
  | consume => do let _ ← Scan.consume; return
  | eat expected => do let _ ← Scan.eat expected; return
  | unexpected expected => Scan.unexpected expected
  | skipWhitespace => do let _ ← Scan.skipWhitespace n; return
  | atValidEscape => do let _ ← Scan.atValidEscape; return
  | escapedCodePoint => do let _ ← Scan.escapedCodePoint; return
  | name => do let _ ← Scan.name n; return
  | string => do let _ ← Scan.string n; return
  | unquotedValue => do let _ ← Scan.unquotedValue n; return
  | arguments => do let _ ← Scan.arguments; return

/-- The scan refuses the text, or leaves the cursor in it on a character boundary. -/
def Scan.Keeps {α : Type} (p : Scan α) (c : Cursor) : Prop :=
  match p c with
  | .ok (_, c') => c'.OnBoundary ∧ c'.position ≤ byteLength c'.input ∧
    c'.input = c.input ∧ c'.base = c.base
  | .error e => ∃ r, e = .refused r

theorem Scan.Keeps.of_reads {α : Type} {p : Scan α} {input : List Char}
    {r : Read (α × List Char)} (h : s <:+ input) (hp : p.Reads input base s r) :
    p.Keeps (.before input base s) := by
  unfold Scan.Keeps
  cases r with
  | error e =>
    rw [hp.2]
    exact ⟨_, rfl⟩
  | ok q =>
    rw [hp.2]
    exact ⟨Cursor.onBoundary_iff.2 ⟨q.2, hp.1.trans h, rfl⟩, Nat.sub_le .., rfl, rfl⟩

theorem Operation.exists_reads {input : List Char} (h : s <:+ input) (hn : s.length < n)
    (op : Operation) : ∃ r, (op.scan n).Reads input base s r := by
  cases op with
  | offset => exact ⟨_, Scan.reads_offset.next fun _ => .pure _⟩
  | isEof => exact ⟨_, (Scan.reads_isEof h).next fun _ => .pure _⟩
  | rest => exact ⟨_, (Scan.reads_rest h).next fun _ => .pure _⟩
  | peek => exact ⟨_, (Scan.reads_peek h).next fun _ => .pure _⟩
  | peekAt k => exact ⟨_, (Scan.reads_peekAt h k).next fun _ => .pure _⟩
  | consume =>
    cases s with
    | nil => exact ⟨_, Scan.reads_consume_nil.next fun _ => .pure _⟩
    | cons c s => exact ⟨_, (Scan.reads_consume h).next fun _ => .pure _⟩
  | eat expected =>
    by_cases hhead : s.head? = some expected
    · obtain ⟨t, rfl⟩ := List.head?_eq_some_iff.1 hhead
      exact ⟨_, (Scan.reads_eat h).next fun _ => .pure _⟩
    · exact ⟨_, (Scan.reads_eat_none h hhead).next fun _ => .pure _⟩
  | unexpected expected => exact ⟨_, Scan.reads_unexpected h expected⟩
  | skipWhitespace => exact ⟨_, (Scan.reads_skipWhitespace h hn).next fun _ => .pure _⟩
  | atValidEscape => exact ⟨_, (Scan.reads_atValidEscape h).next fun _ => .pure _⟩
  | escapedCodePoint => exact ⟨_, (Scan.reads_escapedCodePoint h).next fun _ => .pure _⟩
  | name => exact ⟨_, (Scan.reads_name h hn).next fun _ => .pure _⟩
  | string =>
    cases s with
    | nil =>
      have hread : (Scan.string n).Reads input base [] (.error (.unexpectedEnd .argument)) :=
        Scan.reads_offset.next fun _ => Scan.reads_consume_nil.next fun _ =>
          Scan.reads_unexpected h .argument
      exact ⟨_, hread.error⟩
    | cons c s =>
      exact ⟨_, (Scan.reads_string h (Nat.lt_of_succ_lt hn)).map fun _ => ()⟩
  | unquotedValue => exact ⟨_, (Scan.reads_unquotedValue h hn).next fun _ => .pure _⟩
  | arguments => exact ⟨_, (Scan.reads_arguments h).map fun _ => ()⟩

/-- Every operation comes to an end and keeps the position on a character boundary. -/
theorem Operation.keeps (op : Operation) {c : Cursor} (hc : c.OnBoundary)
    (hn : c.input.length < n) : (op.scan n).Keeps c := by
  obtain ⟨s, h, heq⟩ := Cursor.onBoundary_iff.1 hc
  obtain ⟨r, hr⟩ := op.exists_reads h (Nat.lt_of_le_of_lt h.length_le hn)
  rw [heq]
  exact .of_reads h hr

end Umbra.Selector
