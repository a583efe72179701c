import Umbra.Selector.Reader
import Umbra.Proofs.Selector.Name

/-!
# Balanced texts

A scan that looks for a separator or for a closing parenthesis passes over a balanced text as a
whole: every quote and bracket in it is closed, and outside of these there is nothing to stop at.
-/

namespace Umbra.Selector

open Text

/-- A character that a scan passes over wherever it stands. -/
def isPlain (c : Char) : Bool :=
  !(['\\', '"', '\'', '[', ']', '(', ')', '>'].contains c)

/-- What can stand between double quotes. -/
inductive Quotable : List Char → Prop
  | nil : Quotable []
  | plain {c : Char} {s : List Char} (quote : c ≠ '"') (slash : c ≠ '\\') (rest : Quotable s) :
    Quotable (c :: s)
  | escape {c : Char} {s : List Char} (rest : Quotable s) : Quotable ('\\' :: c :: s)

/-- A text in which quotes and brackets are closed. A greater-than sign has another character behind
it; commas stand within brackets or, with `comma`, anywhere. -/
inductive Balanced : Bool → List Char → Prop
  | nil {comma : Bool} : Balanced comma []
  | plain {comma : Bool} {c : Char} {s : List Char} (hc : isPlain c = true)
    (hcomma : c = ',' → comma = true) (rest : Balanced comma s) : Balanced comma (c :: s)
  | child {comma : Bool} {c : Char} {s : List Char} (hc : c ≠ '>') (rest : Balanced comma (c :: s)) :
    Balanced comma ('>' :: c :: s)
  | escape {comma : Bool} {c : Char} {s : List Char} (rest : Balanced comma s) :
    Balanced comma ('\\' :: c :: s)
  | quoted {comma : Bool} {v s : List Char} (inner : Quotable v) (rest : Balanced comma s) :
    Balanced comma ('"' :: (v ++ '"' :: s))
  | enclosed {comma : Bool} {opening closing : Char} {v s : List Char}
    (hc : closes opening closing = true) (inner : Balanced true v) (rest : Balanced comma s) :
    Balanced comma (opening :: (v ++ closing :: s))

theorem closes_iff {opening closing : Char} : closes opening closing = true ↔
    (opening = '[' ∧ closing = ']') ∨ (opening = '(' ∧ closing = ')') := by
  simp [closes]

theorem isPlain_iff {c : Char} : isPlain c = true ↔ c ≠ '\\' ∧ c ≠ '"' ∧ c ≠ '\'' ∧ c ≠ '[' ∧
    c ≠ ']' ∧ c ≠ '(' ∧ c ≠ ')' ∧ c ≠ '>' := by
  simp [isPlain]

theorem append_eq_append_space {v s t : List Char} (h : v ++ s = t ++ [' ']) :
    (s = [] ∧ v = t ++ [' ']) ∨
      ∃ u, s = u ++ [' '] ∧ t = v ++ u ∧ ∀ c, u.getLast? = some c → t.getLast? = some c := by
  rcases List.eq_nil_or_concat s with rfl | ⟨u, c, rfl⟩
  · exact Or.inl ⟨rfl, by simpa using h⟩
  · rw [List.concat_eq_append, ← List.append_assoc] at h
    obtain ⟨rfl, rfl⟩ := append_singleton_inj h
    refine Or.inr ⟨u, List.concat_eq_append .., rfl, fun d hd => ?_⟩
    rw [List.getLast?_append, hd]
    rfl

namespace Balanced

theorem append {comma : Bool} {v w : List Char} (hv : Balanced comma v) (hw : Balanced comma w) :
    Balanced comma (v ++ w) := by
  induction hv with
  | nil => exact hw
  | plain hc hcomma _ ih => exact .plain hc hcomma (ih hw)
  | child hc _ ih => exact .child hc (ih hw)
  | escape _ ih => exact .escape (ih hw)
  | quoted inner _ ih =>
    rw [List.cons_append, List.append_assoc]
    exact .quoted inner (ih hw)
  | enclosed hc inner _ _ ih =>
    rw [List.cons_append, List.append_assoc]
    exact .enclosed hc inner (ih hw)

theorem mono {w : List Char} {comma : Bool} (h : Balanced false w) : Balanced comma w := by
  generalize hfalse : false = old at h
  induction h with
  | nil => exact .nil
  | plain hc hcomma _ ih =>
    subst hfalse
    exact .plain hc (fun h => absurd (hcomma h) (by decide)) (ih rfl)
  | child hc _ ih => exact .child hc (ih hfalse)
  | escape _ ih => exact .escape (ih hfalse)
  | quoted inner _ ih => exact .quoted inner (ih hfalse)
  | enclosed hc inner _ _ ih => exact .enclosed hc inner (ih hfalse)

/-- A space at the end goes, unless a backslash or a greater-than sign stands before it. -/
theorem of_append_space {w t : List Char} {comma : Bool} (h : Balanced comma w) (ht : w = t ++ [' '])
    (hend : ∀ c, t.getLast? = some c → c ≠ '\\' ∧ c ≠ '>') : Balanced comma t := by
  induction h generalizing t with
  | nil => simp at ht
  | @plain comma c s hc hcomma rest ih =>
    rcases append_eq_append_space (v := [c]) ht with ⟨-, hv⟩ | ⟨u, hs, rfl, hu⟩
    · obtain ⟨rfl, -⟩ := append_singleton_inj (u := []) hv
      exact .nil
    · exact .plain hc hcomma (ih hs fun d hd => hend d (hu d hd))
  | @child comma c s hc rest ih =>
    rcases append_eq_append_space (v := ['>']) ht with ⟨hnil, -⟩ | ⟨u, hs, rfl, hu⟩
    · cases hnil
    · cases u with
      | nil => exact absurd rfl (hend '>' rfl).2
      | cons d u =>
        obtain ⟨rfl, -⟩ := List.cons.inj hs
        exact .child hc (ih hs fun d hd => hend d (hu d hd))
  | @escape comma c s rest ih =>
    rcases append_eq_append_space (v := ['\\', c]) ht with ⟨-, hv⟩ | ⟨u, hs, rfl, hu⟩
    · obtain ⟨rfl, -⟩ := append_singleton_inj (u := ['\\']) hv
      exact absurd rfl (hend '\\' rfl).1
    · exact .escape (ih hs fun d hd => hend d (hu d hd))
  | @quoted comma v s inner rest ih =>
    have ht' : ('"' :: (v ++ ['"'])) ++ s = t ++ [' '] := by simpa using ht
    rcases append_eq_append_space ht' with ⟨-, hv⟩ | ⟨u, hs, rfl, hu⟩
    · cases (append_singleton_inj (u := '"' :: v) hv).2
    · have hinner := Balanced.quoted inner (ih hs fun d hd => hend d (hu d hd))
      simpa using hinner
  | @enclosed comma o c v s hc inner rest _ ih =>
    have ht' : (o :: (v ++ [c])) ++ s = t ++ [' '] := by simpa using ht
    rcases append_eq_append_space ht' with ⟨-, hv⟩ | ⟨u, hs, rfl, hu⟩
    · obtain ⟨-, rfl⟩ := append_singleton_inj (u := o :: v) hv
      simp [closes] at hc
    · have hinner := Balanced.enclosed hc inner (ih hs fun d hd => hend d (hu d hd))
      simpa using hinner

theorem of_written {w t : List Char} {comma : Bool} (h : Balanced comma w) (ht : Written w [] t) :
    Balanced comma t := by
  cases ht with
  | whole =>
    rw [List.append_nil]
    exact h
  | bare last hex =>
    refine h.of_append_space last fun c hc => ?_
    rw [hc] at hex
    constructor <;> rintro rfl <;> cases hex

theorem of_forall {s : List Char} {comma : Bool} (h : ∀ c ∈ s, isPlain c = true ∧ c ≠ ',') :
    Balanced comma s := by
  induction s with
  | nil => exact .nil
  | cons c s ih =>
    obtain ⟨hc, hs⟩ := List.forall_mem_cons.1 h
    exact .plain hc.1 (fun he => absurd he hc.2) (ih hs)

theorem of_all {s : List Char} {comma : Bool} (h : s.all (fun c => isPlain c && c != ',') = true) :
    Balanced comma s :=
  .of_forall fun c hc => by simpa using List.all_eq_true.1 h c hc

end Balanced

/-- The space behind a separator, which the first of several pieces does not have. -/
def Spacing (space : List Char) : Prop := space = [] ∨ space = [' ']

theorem Spacing.balanced {comma : Bool} {space : List Char} (h : Spacing space) :
    Balanced comma space := by
  rcases h with rfl | rfl
  · exact .nil
  · exact .of_all rfl

/-! ## Scans -/

@[simp]
theorem Read.prepend_nil {α : Type} (r : Read (Option (List Char × α))) : Read.prepend [] r = r := by
  rcases r with e | _ | x <;> rfl

@[simp]
theorem Read.prepend_prepend {α : Type} (s t : List Char) (r : Read (Option (List Char × α))) :
    Read.prepend s (Read.prepend t r) = Read.prepend (s ++ t) r := by
  rcases r with e | _ | x
  · rfl
  · rfl
  · simp [Read.prepend, Except.map]

section Find

variable {sep : List Char} {opened : List Opening}

theorem findFrom_escape (quote : Option Opening) (c : Char) (s : List Char) :
    findFrom sep quote opened ('\\' :: c :: s) =
      Read.prepend ['\\', c] (findFrom sep quote opened s) := by
  cases quote <;> rw [findFrom]

theorem findFrom_quotable {v : List Char} (h : Quotable v) (place rest : List Char) :
    findFrom sep (some ('"', place)) opened (v ++ '"' :: rest) =
      Read.prepend (v ++ ['"']) (findFrom sep none opened rest) := by
  induction h with
  | nil =>
    rw [List.nil_append, findFrom, if_pos rfl, List.nil_append]
    exact fun _ _ h => absurd h (by decide)
  | @plain c s quote slash _ ih =>
    rw [List.cons_append, findFrom, if_neg quote, ih, Read.prepend_prepend]
    · rfl
    · exact fun _ _ h => absurd h slash
  | escape _ ih =>
    rw [List.cons_append, List.cons_append, findFrom_escape, ih, Read.prepend_prepend]
    rfl

theorem findFrom_cons {c : Char} (hc : c ≠ '\\') (s : List Char) :
    findFrom sep none opened (c :: s) =
      if c = '"' || c = '\'' then
        Read.prepend [c] (findFrom sep (some (c, c :: s)) opened s)
      else if c = '[' || c = '(' then
        Read.prepend [c] (findFrom sep none ((c, c :: s) :: opened) s)
      else if c = ']' || c = ')' then
        match opened with
        | (bracket, _) :: outer =>
          if closes bracket c then Read.prepend [c] (findFrom sep none outer s)
          else .error (.unbalancedBracket c (c :: s))
        | [] => .error (.unbalancedBracket c (c :: s))
      else if opened.isEmpty && sep.isPrefixOf (c :: s) then .ok (some ([], c :: s))
      else Read.prepend [c] (findFrom sep none opened s) := by
  cases opened with
  | nil =>
    rw [findFrom, if_neg hc]
    exact fun _ _ h => absurd h hc
  | cons _ _ =>
    rw [findFrom, if_neg hc]
    exact fun _ _ h => absurd h hc

/-- A character that no scan stops at, where the separator does not start. -/
theorem findFrom_skip {c : Char} {s : List Char} (hc : isPlain c = true ∨ c = '>')
    (hsep : opened ≠ [] ∨ sep.isPrefixOf (c :: s) = false) :
    findFrom sep none opened (c :: s) = Read.prepend [c] (findFrom sep none opened s) := by
  have hne : c ≠ '\\' ∧ c ≠ '"' ∧ c ≠ '\'' ∧ c ≠ '[' ∧ c ≠ ']' ∧ c ≠ '(' ∧ c ≠ ')' := by
    rcases hc with hc | rfl
    · obtain ⟨h1, h2, h3, h4, h5, h6, h7, -⟩ := isPlain_iff.1 hc
      exact ⟨h1, h2, h3, h4, h5, h6, h7⟩
    · decide
  obtain ⟨hslash, hdouble, hsingle, hsquare, hclose, hround, hend⟩ := hne
  have hstop : ¬ (opened.isEmpty && sep.isPrefixOf (c :: s)) = true := by
    rcases hsep with h | h
    · cases opened with
      | nil => exact absurd rfl h
      | cons _ _ => simp
    · simp [h]
  rw [findFrom_cons hslash, if_neg (by simp [hdouble, hsingle]), if_neg (by simp [hsquare, hround]),
    if_neg (by simp [hclose, hend]), if_neg hstop]

theorem findFrom_quote (s : List Char) : findFrom sep none opened ('"' :: s) =
    Read.prepend ['"'] (findFrom sep (some ('"', '"' :: s)) opened s) := by
  rw [findFrom_cons (by decide), if_pos (by decide)]

theorem findFrom_opening {c : Char} (hc : c = '[' ∨ c = '(') (s : List Char) :
    findFrom sep none opened (c :: s) =
      Read.prepend [c] (findFrom sep none ((c, c :: s) :: opened) s) := by
  rcases hc with rfl | rfl
  · rw [findFrom_cons (by decide), if_neg (by decide), if_pos (by decide)]
  · rw [findFrom_cons (by decide), if_neg (by decide), if_pos (by decide)]

theorem findFrom_closing {o c : Char} (hc : closes o c = true) (place s : List Char) :
    findFrom sep none ((o, place) :: opened) (c :: s) =
      Read.prepend [c] (findFrom sep none opened s) := by
  have hend : c = ']' ∨ c = ')' := by
    rcases closes_iff.1 hc with ⟨-, h⟩ | ⟨-, h⟩
    · exact Or.inl h
    · exact Or.inr h
  have hslash : c ≠ '\\' := by rcases hend with rfl | rfl <;> decide
  have hquote : ¬ (c = '"' || c = '\'') = true := by rcases hend with rfl | rfl <;> decide
  have hopen : ¬ (c = '[' || c = '(') = true := by rcases hend with rfl | rfl <;> decide
  rw [findFrom_cons hslash, if_neg hquote, if_neg hopen, if_pos (by simpa using hend)]
  exact if_pos hc

/-- Where a scan for a separator passes over commas and over greater-than signs. -/
def Passes (sep : List Char) (opened : List Opening) (comma : Bool) : Prop :=
  opened ≠ [] ∨ (sep = [','] ∧ comma = false) ∨ sep = ['>', '>']

theorem findFrom_balanced {comma : Bool} {w : List Char} (h : Balanced comma w)
    (hsep : Passes sep opened comma) (rest : List Char) :
    findFrom sep none opened (w ++ rest) = Read.prepend w (findFrom sep none opened rest) := by
  induction h generalizing opened rest with
  | nil => exact (Read.prepend_nil _).symm
  | @plain comma c s hc hcomma _ ih =>
    rw [List.cons_append, findFrom_skip (Or.inl hc), ih hsep, Read.prepend_prepend]
    · rfl
    · rcases hsep with h | ⟨rfl, rfl⟩ | rfl
      · exact Or.inl h
      · have hne : ',' ≠ c := fun h => absurd (hcomma h.symm) (by decide)
        exact Or.inr (by simp [List.isPrefixOf, hne])
      · have hne : '>' ≠ c := fun h => absurd h.symm (isPlain_iff.1 hc).2.2.2.2.2.2.2
        exact Or.inr (by simp [List.isPrefixOf, hne])
  | @child comma c s hc _ ih =>
    have hstart : opened ≠ [] ∨ sep.isPrefixOf ('>' :: c :: (s ++ rest)) = false := by
      rcases hsep with h | ⟨rfl, -⟩ | rfl
      · exact Or.inl h
      · exact Or.inr rfl
      · exact Or.inr (by simp [List.isPrefixOf, hc.symm])
    rw [List.cons_append, List.cons_append, findFrom_skip (Or.inr rfl) hstart, ← List.cons_append,
      ih hsep, Read.prepend_prepend]
    rfl
  | escape _ ih =>
    rw [List.cons_append, List.cons_append, findFrom_escape, ih hsep, Read.prepend_prepend]
    rfl
  | @quoted comma v s inner _ ih =>
    simp only [List.cons_append, List.append_assoc]
    rw [findFrom_quote, findFrom_quotable inner, ih hsep, Read.prepend_prepend, Read.prepend_prepend]
    simp
  | @enclosed comma o c v s hc _ _ ihv ih =>
    have ho : o = '[' ∨ o = '(' := by
      rcases closes_iff.1 hc with ⟨h, -⟩ | ⟨h, -⟩
      · exact Or.inl h
      · exact Or.inr h
    simp only [List.cons_append, List.append_assoc]
    rw [findFrom_opening ho, ihv (Or.inl (List.cons_ne_nil _ _)), findFrom_closing hc, ih hsep]
    simp

end Find

theorem findTopLevel_balanced {sep w : List Char} {comma : Bool} (h : Balanced comma w)
    (hsep : Passes sep [] comma) : findTopLevel sep w = .ok none := by
  have hfind := findFrom_balanced h hsep []
  rw [List.append_nil] at hfind
  rw [findTopLevel, hfind, findFrom]
  rfl

theorem findTopLevel_append {sep w : List Char} {comma : Bool} (h : Balanced comma w)
    (hsep : Passes sep [] comma) (rest : List Char) :
    findTopLevel sep (w ++ sep ++ rest) = .ok (some (w, sep ++ rest)) := by
  have hstop : findFrom sep none [] (sep ++ rest) = .ok (some ([], sep ++ rest)) := by
    rcases hsep with h | ⟨rfl, -⟩ | rfl
    · exact absurd rfl h
    · rw [List.singleton_append, findFrom_cons (by decide)]
      rfl
    · rw [List.cons_append, findFrom_cons (by decide)]
      rfl
  rw [findTopLevel, List.append_assoc, findFrom_balanced h hsep, hstop]
  simp [Read.prepend, Except.map]

/-! ## Arguments -/

/-- Puts a text in front of an argument. -/
def pushArgument (s : List Char) (r : Option (List Char × List Char)) :
    Option (List Char × List Char) :=
  r.map fun (argument, rest) => (s ++ argument, rest)

theorem pushArgument_nil (r : Option (List Char × List Char)) : pushArgument [] r = r := by
  cases r <;> rfl

theorem pushArgument_pushArgument (s t : List Char) (r : Option (List Char × List Char)) :
    pushArgument s (pushArgument t r) = pushArgument (s ++ t) r := by
  cases r <;> simp [pushArgument]

section Cut

variable {depth : Nat}

theorem cutArgument?_escape (quote : Option Char) (c : Char) (s : List Char) :
    cutArgument? depth quote ('\\' :: c :: s) =
      pushArgument ['\\', c] (cutArgument? depth quote s) := by
  rw [cutArgument?]
  rfl

theorem cutArgument?_quotable {v : List Char} (h : Quotable v) (rest : List Char) :
    cutArgument? depth (some '"') (v ++ '"' :: rest) =
      pushArgument (v ++ ['"']) (cutArgument? depth none rest) := by
  induction h with
  | nil =>
    rw [List.nil_append, cutArgument?, if_pos rfl]
    · rfl
    · exact fun _ _ h => absurd h (by decide)
  | @plain c s quote slash _ ih =>
    rw [List.cons_append, cutArgument?, if_neg quote, ih]
    · exact pushArgument_pushArgument [c] _ _
    · exact fun _ _ h => absurd h slash
  | escape _ ih =>
    rw [List.cons_append, List.cons_append, cutArgument?_escape, ih, pushArgument_pushArgument]
    rfl

theorem cutArgument?_cons {c : Char} (hc : c ≠ '\\') (s : List Char) :
    cutArgument? depth none (c :: s) =
      if c = '"' || c = '\'' then pushArgument [c] (cutArgument? depth (some c) s)
      else if c = '(' then pushArgument [c] (cutArgument? (depth + 1) none s)
      else if c = ')' then
        match depth with
        | 0 => some ([], s)
        | outer + 1 => pushArgument [c] (cutArgument? outer none s)
      else pushArgument [c] (cutArgument? depth none s) := by
  cases depth with
  | zero =>
    rw [cutArgument?]
    · rfl
    · exact fun _ _ h => absurd h hc
  | succ outer =>
    rw [cutArgument?]
    · rfl
    · exact fun _ _ h => absurd h hc

/-- Any other character than a backslash, a quote or a parenthesis. -/
theorem cutArgument?_skip {c : Char} (hc : isPlain c = true ∨ c = '>' ∨ c = '[' ∨ c = ']')
    (s : List Char) :
    cutArgument? depth none (c :: s) = pushArgument [c] (cutArgument? depth none s) := by
  have hne : c ≠ '\\' ∧ c ≠ '"' ∧ c ≠ '\'' ∧ c ≠ '(' ∧ c ≠ ')' := by
    rcases hc with hc | rfl | rfl | rfl
    · obtain ⟨h1, h2, h3, -, -, h6, h7, -⟩ := isPlain_iff.1 hc
      exact ⟨h1, h2, h3, h6, h7⟩
    · decide
    · decide
    · decide
  obtain ⟨hslash, hdouble, hsingle, hround, hend⟩ := hne
  rw [cutArgument?_cons hslash, if_neg (by simp [hdouble, hsingle]), if_neg hround, if_neg hend]

theorem cutArgument?_quote (s : List Char) : cutArgument? depth none ('"' :: s) =
    pushArgument ['"'] (cutArgument? depth (some '"') s) := by
  rw [cutArgument?_cons (by decide), if_pos (by decide)]

theorem cutArgument?_opening (s : List Char) : cutArgument? depth none ('(' :: s) =
    pushArgument ['('] (cutArgument? (depth + 1) none s) := by
  rw [cutArgument?_cons (by decide), if_neg (by decide), if_pos rfl]

theorem cutArgument?_closing (s : List Char) : cutArgument? (depth + 1) none (')' :: s) =
    pushArgument [')'] (cutArgument? depth none s) := by
  rw [cutArgument?_cons (by decide), if_neg (by decide), if_neg (by decide), if_pos rfl]

theorem cutArgument?_end (s : List Char) : cutArgument? 0 none (')' :: s) = some ([], s) := by
  rw [cutArgument?_cons (by decide), if_neg (by decide), if_neg (by decide), if_pos rfl]

theorem cutArgument?_balanced {comma : Bool} {w : List Char} (h : Balanced comma w)
    (rest : List Char) :
    cutArgument? depth none (w ++ rest) = pushArgument w (cutArgument? depth none rest) := by
  induction h generalizing depth rest with
  | nil => exact (pushArgument_nil _).symm
  | plain hc _ _ ih =>
    rw [List.cons_append, cutArgument?_skip (Or.inl hc), ih, pushArgument_pushArgument]
    rfl
  | child _ _ ih =>
    rw [List.cons_append, cutArgument?_skip (Or.inr (Or.inl rfl)), ih, pushArgument_pushArgument]
    rfl
  | escape _ ih =>
    rw [List.cons_append, List.cons_append, cutArgument?_escape, ih, pushArgument_pushArgument]
    rfl
  | quoted inner _ ih =>
    simp only [List.cons_append, List.append_assoc]
    rw [cutArgument?_quote, cutArgument?_quotable inner, ih, pushArgument_pushArgument,
      pushArgument_pushArgument]
    simp
  | enclosed hc _ _ ihv ih =>
    simp only [List.cons_append, List.append_assoc]
    rcases closes_iff.1 hc with ⟨rfl, rfl⟩ | ⟨rfl, rfl⟩
    · rw [cutArgument?_skip (Or.inr (Or.inr (Or.inl rfl))), ihv,
        cutArgument?_skip (Or.inr (Or.inr (Or.inr rfl))), ih]
      simp only [pushArgument_pushArgument]
      simp
    · rw [cutArgument?_opening, ihv, cutArgument?_closing, ih]
      simp only [pushArgument_pushArgument]
      simp

/-- An argument ends at the parenthesis behind a balanced text. -/
theorem readArgument_balanced {comma : Bool} {w : List Char} (h : Balanced comma w)
    (rest : List Char) : readArgument ('(' :: (w ++ ')' :: rest)) = .ok (w, rest) := by
  rw [readArgument, List.drop_one, List.tail_cons, cutArgument?_balanced h, cutArgument?_end]
  simp [pushArgument]

end Cut

end Umbra.Selector
