import Umbra.Proofs.Text.Slice
import Umbra.Proofs.Selector.Trailing

/-!
# Reading by byte positions

A cursor knows its place in a text as a number of bytes. A scan is a program that moves a cursor.
It halts where it would cut the text inside a character or beyond the end, or where one of its loops
has used up its steps.

`Reads` compares a scan with a reader, which knows its place as the text that remains: the scan
comes to the same result and stops where the reader stops, so it never halts in either of these ways.
-/

namespace Umbra.Selector

open Text

/-- Why a computation on byte positions has no result. -/
inductive Halt where
  /-- A slice that does not start and end on character boundaries of the text. -/
  | offBoundary
  /-- A loop that has used up its steps. -/
  | endless
  | refused (e : SyntaxError Nat)

/-- A slice that has to be there. -/
def checked {α : Type} : Option α → Except Halt α
  | some a => .ok a
  | none => .error .offBoundary

/-- A place in a text, as the number of bytes before it. `base` is the place of the text itself in a
longer one. -/
structure Cursor where
  input : List Char
  position : Nat
  base : Nat

/-- The position lies on a character boundary, at most at the end of the input. -/
def Cursor.OnBoundary (c : Cursor) : Prop :=
  String.Pos.Raw.IsValid (String.ofList c.input) ⟨c.position⟩

abbrev Scan := StateT Cursor (Except Halt)

namespace Scan

/-! ## Single steps -/

def halt {α : Type} (h : Halt) : Scan α := fun _ => .error h

def refuse {α : Type} (e : SyntaxError Nat) : Scan α := halt (.refused e)

/-- The place of the cursor in the longer text. -/
def offset : Scan Nat := fun c => .ok (c.base + c.position, c)

def isEof : Scan Bool := fun c => .ok (decide (byteLength c.input ≤ c.position), c)

/-- The slice from the position on. -/
def rest : Scan (List Char) := fun c => do
  let s ← checked (sliceFrom? c.position c.input)
  return (s, c)

/-- Sets the position, which has to be a boundary again. -/
def moveTo (position : Nat) : Scan Unit := fun c => do
  let _ ← checked (sliceFrom? position c.input)
  return ((), { c with position })

def move (bytes : Nat) : Scan Unit := fun c => moveTo (c.position + bytes) c

/-- Moves on, but not beyond the end. -/
def advance (bytes : Nat) : Scan Unit := fun c =>
  moveTo (min (c.position + bytes) (byteLength c.input)) c

def peek : Scan (Option Char) := do
  let s ← rest
  return s.head?

def peekAt (n : Nat) : Scan (Option Char) := do
  let s ← rest
  return s[n]?

def consume : Scan (Option Char) := do
  match ← peek with
  | none => return none
  | some c =>
    move c.utf8Size
    return some c

def eat (expected : Char) : Scan Bool := do
  if (← peek) = some expected then
    move expected.utf8Size
    return true
  else return false

/-- The error for the next character or for the end. What was expected is told at the end alone. -/
def unexpected {α : Type} (expected : Expected) : Scan α := do
  match ← peek with
  | some found => refuse (.unexpectedCharacter found (← offset))
  | none => refuse (.unexpectedEnd expected)

def skipSpaces : Nat → Scan Unit
  | 0 => halt .endless
  | n + 1 => do
    match ← peek with
    | some c =>
      if isSpace c then
        move 1
        skipSpaces n
      else return ()
    | none => return ()

/-- Skips white space and says whether there was any. -/
def skipWhitespace (n : Nat) : Scan Bool := do
  let start ← offset
  skipSpaces n
  return start < (← offset)

def atValidEscape : Scan Bool := do
  let c ← peek
  let d ← peekAt 1
  return c == some '\\' && d.any (· != '\n')

/-! ## Escapes, names and strings -/

def hexDigits : Nat → Scan (List Char)
  | 0 => return []
  | k + 1 => do
    match ← peek with
    | some d =>
      if isHexDigit d then
        let _ ← consume
        let digits ← hexDigits k
        return d :: digits
      else return []
    | none => return []

def skipOneWhitespace : Scan Unit := do
  if (← peek).any isSpace then move 1 else return ()

/-- An escape, from behind its backslash. -/
def escapedCodePoint : Scan Char := do
  match ← consume with
  | none => return '\uFFFD'
  | some c =>
    if isHexDigit c then
      let digits ← hexDigits 5
      skipOneWhitespace
      return escapedChar (hexValue (c :: digits))
    else return c

def name : Nat → Scan (List Char)
  | 0 => halt .endless
  | n + 1 => do
    let escape ← atValidEscape
    match ← peek with
    | some c =>
      if isNameChar c then
        move c.utf8Size
        let following ← name n
        return c :: following
      else if escape then
        move 1
        let d ← escapedCodePoint
        let following ← name n
        return d :: following
      else return []
    | none => return []

/-- What is left of a string that starts at `start` and ends with `ending`. -/
def stringBody (start : Nat) (ending : Char) : Nat → Scan (List Char)
  | 0 => halt .endless
  | n + 1 => do
    match ← consume with
    | none => refuse (.unterminatedString start)
    | some c =>
      if c = ending then return []
      else if c = '\n' then refuse (.unterminatedString start)
      else if c = '\\' then
        match ← peek with
        | none => stringBody start ending n
        | some d =>
          if d = '\n' then
            move 1
            stringBody start ending n
          else
            let e ← escapedCodePoint
            let following ← stringBody start ending n
            return e :: following
      else
        let following ← stringBody start ending n
        return c :: following

/-- A string; its opening quote comes next. -/
def string (n : Nat) : Scan (List Char) := do
  let start ← offset
  match ← consume with
  | none => unexpected .argument
  | some ending => stringBody start ending n

def unquotedValue : Nat → Scan (List Char)
  | 0 => halt .endless
  | n + 1 => do
    match ← peek with
    | none => return []
    | some c =>
      if isSpace c || c = ']' then return []
      else
        move c.utf8Size
        let eof ← isEof
        if c = '\\' && !eof then
          let d ← escapedCodePoint
          let following ← unquotedValue n
          return d :: following
        else
          let following ← unquotedValue n
          return c :: following

end Scan

/-! ## Scans and readers -/

/-- The cursor in front of what remains of the input. -/
def Cursor.before (input : List Char) (base : Nat) (s : List Char) : Cursor :=
  ⟨input, Text.offset input s, base⟩

/-- From the place where `s` remains of the input, a scan comes to the given result of a reader. -/
def Scan.Reads {α : Type} (p : Scan α) (input : List Char) (base : Nat) (s : List Char) :
    Read (α × List Char) → Prop
  | .ok q => q.2 <:+ s ∧ p (.before input base s) = .ok (q.1, .before input base q.2)
  | .error e => (∀ place ∈ e.place?, place <:+ input) ∧
    p (.before input base s) = .error (.refused (e.map fun place => base + Text.offset input place))

variable {α β : Type} {input s t : List Char} {base n : Nat}

theorem Cursor.onBoundary_iff {c : Cursor} :
    c.OnBoundary ↔ ∃ s, s <:+ c.input ∧ c = .before c.input c.base s := by
  unfold Cursor.OnBoundary
  rw [← isSome_sliceFrom?_iff, Option.isSome_iff_exists]
  constructor
  · rintro ⟨s, h⟩
    obtain ⟨before, hs, hn⟩ := exists_of_sliceFrom? h
    refine ⟨s, ⟨before, hs.symm⟩, ?_⟩
    rw [Cursor.before, hs, offset_append, hn, ← hs]
  · rintro ⟨s, hs, hc⟩
    rw [hc]
    exact ⟨s, sliceFrom?_offset hs⟩

namespace Scan

/-! ### Composition -/

theorem bind_eq {p : Scan α} {f : α → Scan β} {c c' : Cursor} {a : α} (h : p c = .ok (a, c')) :
    (p >>= f) c = f a c' := by
  change (p c >>= fun q => f q.1 q.2) = _
  rw [h]
  rfl

theorem bind_eq_error {p : Scan α} {f : α → Scan β} {c : Cursor} {e : Halt} (h : p c = .error e) :
    (p >>= f) c = .error e := by
  change (p c >>= fun q => f q.1 q.2) = _
  rw [h]
  rfl

namespace Reads

theorem pure (a : α) : Reads (Pure.pure a) input base s (.ok (a, s)) := ⟨List.suffix_rfl, rfl⟩

/-- A scan that comes to a result, and what follows it. -/
theorem next {p : Scan α} {f : α → Scan β} {a : α} {x : Read (β × List Char)}
    (hp : Reads p input base s (.ok (a, t))) (hf : t <:+ s → Reads (f a) input base t x) :
    Reads (p >>= f) input base s x := by
  have hx := hf hp.1
  cases x with
  | ok r => exact ⟨hx.1.trans hp.1, (bind_eq hp.2).trans hx.2⟩
  | error e => exact ⟨hx.1, (bind_eq hp.2).trans hx.2⟩

/-- Nothing follows an error. -/
theorem error {p : Scan α} {f : α → Scan β} {e : SyntaxError (List Char)}
    (hp : Reads p input base s (.error e)) : Reads (p >>= f) input base s (.error e) :=
  ⟨hp.1, bind_eq_error hp.2⟩

theorem bind {p : Scan α} {f : α → Scan β} {x : Read (α × List Char)}
    {g : α × List Char → Read (β × List Char)} (hp : Reads p input base s x)
    (hf : ∀ q, x = .ok q → q.2 <:+ s → Reads (f q.1) input base q.2 (g q)) :
    Reads (p >>= f) input base s (x >>= g) := by
  cases x with
  | ok q => exact next hp (hf q rfl)
  | error e => exact hp.error

theorem map_of_bind {α β γ : Type} (x : Read α) (g : α → Read β) (k : β → γ) :
    (x >>= g).map k = x >>= fun a => (g a).map k := map_bind k x g

/-- A reader whose results the scan has in another form. -/
theorem bind_map {γ : Type} {p : Scan α} {f : α → Scan β} {x : Read γ} {k : γ → α × List Char}
    {g : γ → Read (β × List Char)} (hp : Reads p input base s (x.map k))
    (hf : ∀ q, x = .ok q → (k q).2 <:+ s → Reads (f (k q).1) input base (k q).2 (g q)) :
    Reads (p >>= f) input base s (x >>= g) := by
  cases x with
  | ok q => exact next hp (hf q rfl)
  | error e => exact hp.error

/-- A result that is put in another form. -/
theorem map {p : Scan α} {x : Read (α × List Char)} (hp : Reads p input base s x) (f : α → β) :
    Reads (do return f (← p)) input base s (x >>= fun q => .ok (f q.1, q.2)) :=
  hp.bind fun _ _ _ => .pure _

theorem refuse {e : SyntaxError (List Char)} {e' : SyntaxError Nat}
    (he : ∀ place ∈ e.place?, place <:+ input)
    (heq : e.map (fun place => base + Text.offset input place) = e') :
    Reads (refuse e' : Scan α) input base s (.error e) := ⟨he, by rw [heq]; rfl⟩

theorem unplaced {e : SyntaxError (List Char)} {e' : SyntaxError Nat} (he : e.place? = none)
    (heq : e.map (fun place => base + Text.offset input place) = e') :
    Reads (Scan.refuse e' : Scan α) input base s (.error e) := by
  refine .refuse (fun place hplace => ?_) heq
  rw [he] at hplace
  cases hplace

end Reads

/-! ### Single steps -/

theorem reads_offset : Reads offset input base s (.ok (base + Text.offset input s, s)) :=
  ⟨List.suffix_rfl, rfl⟩

section Steps

variable (h : s <:+ input)

include h

theorem reads_isEof : Reads isEof input base s (.ok (s.isEmpty, s)) := by
  refine ⟨List.suffix_rfl, ?_⟩
  have hle := byteLength_le_of_suffix h
  have heof : decide (byteLength input ≤ Text.offset input s) = s.isEmpty := by
    rw [Bool.eq_iff_iff, decide_eq_true_iff, List.isEmpty_iff, ← byteLength_eq_zero, Text.offset]
    omega
  unfold isEof Cursor.before
  rw [heof]

theorem reads_rest : Reads rest input base s (.ok (s, s)) := by
  refine ⟨List.suffix_rfl, ?_⟩
  unfold rest Cursor.before
  rw [sliceFrom?_offset h]
  rfl

theorem reads_peek : Reads peek input base s (.ok (s.head?, s)) :=
  (reads_rest h).next fun _ => .pure _

theorem reads_peekAt (k : Nat) : Reads (peekAt k) input base s (.ok (s[k]?, s)) :=
  (reads_rest h).next fun _ => .pure _

theorem reads_moveTo (ht : t <:+ s) :
    Reads (moveTo (Text.offset input t)) input base s (.ok ((), t)) := by
  refine ⟨ht, ?_⟩
  unfold moveTo Cursor.before
  rw [sliceFrom?_offset (ht.trans h)]
  rfl

theorem reads_unexpected (expected : Expected) :
    Reads (unexpected expected : Scan α) input base s (.error (Umbra.unexpected expected s)) := by
  refine (reads_peek h).next fun _ => ?_
  cases s with
  | nil => exact .unplaced rfl rfl
  | cons c s =>
    refine reads_offset.next fun _ => .refuse ?_ rfl
    intro place hplace
    cases hplace
    exact h

theorem reads_atValidEscape : Reads atValidEscape input base s (.ok (atEscape s, s)) := by
  refine (reads_peek h).next fun _ => (reads_peekAt h 1).next fun _ => ?_
  have hescape : (s.head? == some '\\' && s[1]?.any (· != '\n')) = atEscape s := by
    cases s with
    | nil => rfl
    | cons c s =>
      rw [atEscape_cons, List.getElem?_cons_succ, ← List.head?_eq_getElem?]
      rfl
  rw [hescape]
  exact .pure _

end Steps

theorem reads_move {c : Char} (h : c :: t <:+ input) {bytes : Nat} (hc : c.utf8Size = bytes) :
    Reads (move bytes) input base (c :: t) (.ok ((), t)) := by
  have hmove : Reads (moveTo _) input base (c :: t) _ := reads_moveTo h (List.suffix_cons c t)
  rw [← offset_cons h, hc] at hmove
  exact hmove

theorem reads_consume {c : Char} (h : c :: t <:+ input) :
    Reads consume input base (c :: t) (.ok (some c, t)) :=
  (reads_peek h).next fun _ => (reads_move h rfl).next fun _ => .pure _

theorem reads_consume_nil : Reads consume input base [] (.ok (none, [])) :=
  (reads_peek (List.nil_suffix)).next fun _ => .pure _

theorem reads_eat {expected : Char} (h : expected :: t <:+ input) :
    Reads (eat expected) input base (expected :: t) (.ok (true, t)) := by
  refine (reads_peek h).next fun _ => ?_
  rw [List.head?_cons, if_pos rfl]
  exact (reads_move h rfl).next fun _ => .pure _

theorem reads_eat_none {expected : Char} (h : s <:+ input) (hne : s.head? ≠ some expected) :
    Reads (eat expected) input base s (.ok (false, s)) := by
  refine (reads_peek h).next fun _ => ?_
  rw [if_neg hne]
  exact .pure _

/-! ### White space -/

theorem utf8Size_of_isSpace {c : Char} (hc : isSpace c = true) : c.utf8Size = 1 := by
  simp only [isSpace, Bool.or_eq_true, beq_iff_eq] at hc
  rcases hc with (((rfl | rfl) | rfl) | rfl) | rfl <;> decide

theorem reads_skipSpaces (h : s <:+ input) (hn : s.length < n) :
    Reads (skipSpaces n) input base s (.ok ((), skipSpace s)) := by
  induction s generalizing n with
  | nil =>
    cases n with
    | zero => cases hn
    | succ n => exact (reads_peek h).next fun _ => .pure _
  | cons c s ih =>
    cases n with
    | zero => cases hn
    | succ n =>
      refine (reads_peek h).next fun _ => ?_
      unfold skipSpace
      cases hc : isSpace c with
      | true =>
        rw [List.dropWhile_cons_of_pos hc]
        simp only [List.head?_cons, hc, if_true]
        exact (reads_move h (utf8Size_of_isSpace hc)).next fun hs =>
          ih (hs.trans h) (Nat.lt_of_succ_lt_succ hn)
      | false =>
        rw [List.dropWhile_cons_of_neg (by simp [hc])]
        simp only [List.head?_cons, hc, Bool.false_eq_true, if_false]
        exact .pure _

theorem reads_skipWhitespace (h : s <:+ input) (hn : s.length < n) :
    Reads (skipWhitespace n) input base s (.ok (s.head?.any isSpace, skipSpace s)) := by
  have hsuffix : skipSpace s <:+ s := List.dropWhile_suffix _
  have hskipped : decide (base + Text.offset input s < base + Text.offset input (skipSpace s)) =
      s.head?.any isSpace := by
    have hle := byteLength_le_of_suffix h
    rw [Bool.eq_iff_iff, decide_eq_true_iff, Text.offset, Text.offset]
    cases s with
    | nil => simp [skipSpace]
    | cons c s =>
      unfold skipSpace
      cases hc : isSpace c with
      | true =>
        have hrest : byteLength (s.dropWhile isSpace) ≤ byteLength s :=
          byteLength_le_of_suffix (List.dropWhile_suffix _)
        have hpos := c.utf8Size_pos
        rw [List.dropWhile_cons_of_pos hc, List.head?_cons, Option.any_some, hc]
        simp only [byteLength] at hle ⊢
        simp only [iff_true]
        omega
      | false =>
        rw [List.dropWhile_cons_of_neg (by simp [hc]), List.head?_cons, Option.any_some, hc]
        simp
  refine reads_offset.next fun _ => (reads_skipSpaces h hn).next fun _ => ?_
  refine reads_offset.next fun _ => ?_
  rw [hskipped]
  exact .pure _

/-! ### Escapes, names and strings -/

theorem reads_hexDigits (h : s <:+ input) (k : Nat) :
    Reads (hexDigits k) input base s (.ok ((s.take k).takeWhile isHexDigit,
      s.drop ((s.take k).takeWhile isHexDigit).length)) := by
  induction k generalizing s with
  | zero => exact .pure _
  | succ k ih =>
    refine (reads_peek h).next fun _ => ?_
    cases s with
    | nil => exact .pure _
    | cons c s =>
      rw [List.take_succ_cons]
      cases hc : isHexDigit c with
      | true =>
        rw [List.takeWhile_cons_of_pos hc]
        simp only [List.head?_cons, hc, if_true, List.length_cons, List.drop_succ_cons]
        exact (reads_consume h).next fun hs => (ih (hs.trans h)).next fun _ => .pure _
      | false =>
        rw [List.takeWhile_cons_of_neg (by simp [hc])]
        simp only [List.head?_cons, hc, Bool.false_eq_true, if_false]
        exact .pure _

theorem reads_skipOneWhitespace (h : s <:+ input) :
    Reads skipOneWhitespace input base s (.ok ((), skipOneSpace s)) := by
  refine (reads_peek h).next fun _ => ?_
  cases s with
  | nil => exact .pure _
  | cons c s =>
    rw [List.head?_cons, Option.any_some, skipOneSpace]
    cases hc : isSpace c with
    | true => exact reads_move h (utf8Size_of_isSpace hc)
    | false => exact .pure _

theorem reads_escapedCodePoint (h : s <:+ input) :
    Reads escapedCodePoint input base s (.ok ((readEscape s).1, (readEscape s).2)) := by
  cases s with
  | nil => exact reads_consume_nil.next fun _ => .pure _
  | cons c s =>
    refine (reads_consume h).next fun hs => ?_
    cases hc : isHexDigit c with
    | true =>
      simp only [readEscape, hc, if_true]
      exact (reads_hexDigits (hs.trans h) 5).next fun ht =>
        (reads_skipOneWhitespace (ht.trans (hs.trans h))).next fun _ => .pure _
    | false =>
      simp only [readEscape, hc, Bool.false_eq_true, if_false]
      exact .pure _

theorem utf8Size_backslash : '\\'.utf8Size = 1 := by decide

theorem reads_name (h : s <:+ input) (hn : s.length < n) :
    Reads (name n) input base s (.ok ((readName s).1, (readName s).2)) := by
  induction n generalizing s with
  | zero => cases hn
  | succ n ih =>
    refine (reads_atValidEscape h).next fun _ => (reads_peek h).next fun _ => ?_
    rw [readName.eq_def]
    cases s with
    | nil => exact .pure _
    | cons c s =>
      have hlt : s.length < n := Nat.lt_of_succ_lt_succ hn
      cases hc : isNameChar c with
      | true =>
        simp only [List.head?_cons, hc, if_true]
        exact (reads_move h rfl).next fun hs => (ih (hs.trans h) hlt).next fun _ => .pure _
      | false =>
        simp only [List.head?_cons, hc, Bool.false_eq_true, if_false]
        cases hescape : atEscape (c :: s) with
        | false => exact .pure _
        | true =>
          obtain ⟨rfl, -⟩ := slash_of_atEscape hescape
          have hle := length_readEscape_le s
          exact (reads_move h utf8Size_backslash).next fun hs =>
            (reads_escapedCodePoint (hs.trans h)).next fun ht =>
              (ih (ht.trans (hs.trans h)) (by omega)).next fun _ => .pure _

theorem reads_unterminated {place : List Char} (hplace : place <:+ input) :
    Reads (refuse (.unterminatedString (base + Text.offset input place)) : Scan α) input base s
      (.error (.unterminatedString place)) := by
  refine .refuse (fun p hp => ?_) rfl
  cases hp
  exact hplace

theorem reads_stringBody {place : List Char} (hplace : place <:+ input) (quote : Char)
    (h : s <:+ input) (hn : s.length < n) :
    Reads (stringBody (base + Text.offset input place) quote n) input base s
      (readString (.unterminatedString place) quote s) := by
  induction n generalizing s with
  | zero => cases hn
  | succ n ih =>
    rw [readString.eq_def]
    cases s with
    | nil => exact reads_consume_nil.next fun _ => reads_unterminated hplace
    | cons c s =>
      have hlt : s.length < n := Nat.lt_of_succ_lt_succ hn
      refine (reads_consume h).next fun hs => ?_
      have hs := hs.trans h
      simp only
      split
      · exact .pure _
      · split
        · exact reads_unterminated hplace
        · split
          · refine (reads_peek hs).next fun _ => ?_
            cases s with
            | nil =>
              have hend := ih hs hlt
              rw [readString.eq_def] at hend
              exact hend
            | cons d u =>
              have hd : u.length < n := Nat.lt_of_succ_lt hlt
              simp only [List.head?_cons]
              split
              · rename_i hnewline
                have hone : d.utf8Size = 1 := by
                  rw [hnewline]
                  decide
                exact (reads_move hs hone).next fun hu => ih (hu.trans hs) hd
              · have hle := length_readEscape_le (d :: u)
                exact (reads_escapedCodePoint hs).next fun ht =>
                  (ih (ht.trans hs) (by omega)).bind fun _ _ _ => .pure _
          · exact (ih hs hlt).bind fun _ _ _ => .pure _

theorem reads_string {quote : Char} (h : quote :: s <:+ input) (hn : s.length < n) :
    Reads (string n) input base (quote :: s) (readQuoted (quote :: s)) :=
  reads_offset.next fun _ => (reads_consume h).next fun hs =>
    reads_stringBody h quote (hs.trans h) hn

theorem reads_unquotedValue (h : s <:+ input) (hn : s.length < n) :
    Reads (unquotedValue n) input base s (.ok ((readBareValue s).1, (readBareValue s).2)) := by
  induction n generalizing s with
  | zero => cases hn
  | succ n ih =>
    refine (reads_peek h).next fun _ => ?_
    rw [readBareValue.eq_def]
    cases s with
    | nil => exact .pure _
    | cons c s =>
      have hlt : s.length < n := Nat.lt_of_succ_lt_succ hn
      simp only [List.head?_cons]
      split
      · exact .pure _
      · refine (reads_move h rfl).next fun hs => ?_
        have hs := hs.trans h
        refine (reads_isEof hs).next fun _ => ?_
        split
        · have hle := length_readEscape_le s
          exact (reads_escapedCodePoint hs).next fun ht =>
            (ih (ht.trans hs) (by omega)).next fun _ => .pure _
        · exact (ih hs hlt).next fun _ => .pure _

end Scan

/-! ## Results on whole texts -/

/-- A computation comes to the result of a reader of the text, whose place is `base`. -/
def Gives {α : Type} (x : Except Halt α) (base : Nat) (whole : List Char) : Read α → Prop
  | .ok a => x = .ok a
  | .error e => (∀ place ∈ e.place?, place <:+ whole) ∧
    x = .error (.refused (e.map fun place => base + Text.offset whole place))

/-- The same with error places counted from further ahead. -/
def shifted {α : Type} (start : Nat) : Except Halt α → Except Halt α
  | .error (.refused e) => .error (.refused (e.map (start + ·)))
  | x => x

/-- Runs a scan and drops the cursor. -/
def Scan.run {α : Type} (p : Scan α) (c : Cursor) : Except Halt α := do
  let (a, _) ← p c
  return a

/-- A computation as a scan that does not move the cursor. -/
def Scan.ofExcept {α : Type} (x : Except Halt α) : Scan α := fun c => do
  let a ← x
  return (a, c)

namespace Gives

variable {x : Except Halt α} {whole : List Char} {r : Read α}

theorem ok (a : α) : Gives (.ok a) base whole (.ok a) := rfl

theorem refuse {e : SyntaxError (List Char)} {e' : SyntaxError Nat}
    (he : ∀ place ∈ e.place?, place <:+ whole)
    (heq : e.map (fun place => base + Text.offset whole place) = e') :
    Gives (.error (.refused e') : Except Halt α) base whole (.error e) := ⟨he, by rw [heq]⟩

theorem unplaced {e : SyntaxError (List Char)} {e' : SyntaxError Nat} (he : e.place? = none)
    (heq : e.map (fun place => base + Text.offset whole place) = e') :
    Gives (.error (.refused e') : Except Halt α) base whole (.error e) := by
  refine .refuse (fun place hplace => ?_) heq
  rw [he] at hplace
  cases hplace

/-- A result that the reader has no part in, and what follows it. -/
theorem next {y : Except Halt β} {f : β → Except Halt α} {b : β} (hy : y = .ok b)
    (hf : Gives (f b) base whole r) : Gives (y >>= f) base whole r := by
  rw [hy]
  exact hf

/-- Nothing follows an error. -/
theorem error {f : α → Except Halt β} {e : SyntaxError (List Char)}
    (hx : Gives x base whole (.error e)) : Gives (x >>= f) base whole (.error e) := by
  obtain ⟨hplace, hx⟩ := hx
  rw [hx]
  exact ⟨hplace, rfl⟩

theorem bind {f : α → Except Halt β} {g : α → Read β} (hx : Gives x base whole r)
    (hf : ∀ a, r = .ok a → Gives (f a) base whole (g a)) :
    Gives (x >>= f) base whole (r >>= g) := by
  cases r with
  | ok a =>
    have hx : x = .ok a := hx
    rw [hx]
    exact hf a rfl
  | error e => exact hx.error

/-- A reader whose results the computation has in another form. -/
theorem bind_map {γ : Type} {x : Except Halt β} {r : Read α} {k : α → β}
    {f : β → Except Halt γ} {g : α → Read γ} (hx : Gives x base whole (r.map k))
    (hf : ∀ a, r = .ok a → Gives (f (k a)) base whole (g a)) :
    Gives (x >>= f) base whole (r >>= g) := by
  cases r with
  | ok a =>
    have hx : x = .ok (k a) := hx
    rw [hx]
    exact hf a rfl
  | error e => exact hx.error

theorem mapM {γ : Type} {k : α → β} {f : β → Except Halt γ} {g : α → Read γ}
    {as : List α} (h : ∀ a ∈ as, Gives (f (k a)) base whole (g a)) :
    Gives ((as.map k).mapM f) base whole (as.mapM g) := by
  induction as with
  | nil => exact .ok []
  | cons a as ih =>
    obtain ⟨ha, has⟩ := List.forall_mem_cons.1 h
    rw [List.map_cons, List.mapM_cons, List.mapM_cons]
    exact ha.bind fun _ _ => (ih has).bind fun _ _ => .ok _

theorem map_congr {e : SyntaxError (List Char)} {f g : List Char → Nat}
    (h : ∀ place ∈ e.place?, f place = g place) : e.map f = e.map g := by
  cases e <;> simp_all [SyntaxError.map, SyntaxError.place?]

theorem shifted (h : Gives x 0 whole r) : Gives (shifted base x) base whole r := by
  cases r with
  | ok a =>
    have hx : x = .ok a := h
    rw [hx]
    rfl
  | error e =>
    obtain ⟨hplace, hx⟩ := h
    rw [hx]
    refine ⟨hplace, ?_⟩
    rw [Selector.shifted, SyntaxError.map_map]
    refine congrArg (fun e => Except.error (Halt.refused e)) (map_congr fun place _ => ?_)
    rw [Function.comp_apply, Nat.zero_add]

/-- The reader of what remains of a text, as a reader of the text. -/
theorem of_suffix (hs : s <:+ whole) (h : Gives x (base + Text.offset whole s) s r) :
    Gives x base whole r := by
  cases r with
  | ok a => exact h
  | error e =>
    obtain ⟨hplace, hx⟩ := h
    refine ⟨fun place hp => (hplace place hp).trans hs, ?_⟩
    rw [hx]
    refine congrArg (fun e => Except.error (Halt.refused e)) (map_congr fun place hp => ?_)
    have hle := byteLength_le_of_suffix hs
    have hle' := byteLength_le_of_suffix (hplace place hp)
    simp only [Text.offset]
    omega

/-- The reader of a text that something follows. -/
theorem within (h : Gives x base s r) (after : List Char) :
    Gives x base (s ++ after) (r.within after) := by
  cases r with
  | ok a => exact h
  | error e =>
    obtain ⟨hplace, hx⟩ := h
    refine ⟨?_, ?_⟩
    · intro place hp
      rw [SyntaxError.place?_map, Option.mem_def, Option.map_eq_some_iff] at hp
      obtain ⟨p, hp, rfl⟩ := hp
      obtain ⟨before, heq⟩ := hplace p hp
      exact ⟨before, by rw [← List.append_assoc, heq]⟩
    · rw [hx, SyntaxError.map_map]
      refine congrArg (fun e => Except.error (Halt.refused e)) (map_congr fun place _ => ?_)
      simp only [Function.comp_apply, Text.offset, byteLength_append]
      omega

/-- The result is the reader's with places as byte offsets, so the computation does not halt. -/
theorem eq (h : Gives x base whole r) : x = (r.at base whole).mapError .refused := by
  cases r with
  | ok a => exact h
  | error e => exact h.2

end Gives

namespace Scan.Reads

/-- A scan of the whole text, whose reader gives nothing of the text back. -/
theorem run {p : Scan α} {r : Read α} (hp : Reads p input base input (r.map fun a => (a, t))) :
    Gives (p.run ⟨input, 0, base⟩) base input r := by
  have hstart : Cursor.before input base input = ⟨input, 0, base⟩ := by
    rw [Cursor.before, offset_self]
  cases r with
  | ok a =>
    have hrun : p.run ⟨input, 0, base⟩ = .ok a := by
      rw [Scan.run, ← hstart, hp.2]
      rfl
    exact hrun
  | error e =>
    refine ⟨hp.1, ?_⟩
    rw [Scan.run, ← hstart, hp.2]
    rfl

theorem ofExcept {x : Except Halt α} {r : Read α} (hx : Gives x base input r) :
    Reads (ofExcept x) input base s (r.map fun a => (a, s)) := by
  cases r with
  | ok a =>
    have hx : x = .ok a := hx
    rw [hx]
    exact .pure a
  | error e =>
    refine ⟨hx.1, ?_⟩
    rw [Scan.ofExcept, hx.2]
    rfl

end Scan.Reads

end Umbra.Selector
