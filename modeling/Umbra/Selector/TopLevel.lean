import Umbra.Selector.SyntaxError

/-!
Cutting a text at a separator that stands outside quotes and brackets. A backslash takes the
character behind it out of account, inside quotes and outside.
-/

namespace Umbra.Selector

/-- An opening quote or bracket, with the text that starts there. -/
abbrev Opening := Char × List Char

def closes (opening closing : Char) : Bool :=
  (opening == '[' && closing == ']') || (opening == '(' && closing == ')')

def Read.prepend {α : Type} (s : List Char) (r : Read (Option (List Char × α))) :
    Read (Option (List Char × α)) :=
  r.map (Option.map fun (before, rest) => (s ++ before, rest))

/-- Finds the first separator, with `quote` open or the brackets `opened` open, the innermost
first. Gives the text before the separator and the text from it on; without a separator the whole
text has to be balanced. -/
def findFrom (sep : List Char) (quote : Option Opening) (opened : List Opening) :
    List Char → Read (Option (List Char × List Char))
  | [] =>
    match quote, opened with
    | some (_, place), _ => .error (.unterminatedString place)
    | none, (bracket, place) :: _ => .error (.unbalancedBracket bracket place)
    | none, [] => .ok none
  | '\\' :: c :: s => Read.prepend ['\\', c] (findFrom sep quote opened s)
  | c :: s =>
    match quote with
    | some (q, place) =>
      Read.prepend [c] (findFrom sep (if c = q then none else some (q, place)) opened s)
    | none =>
      if c = '\\' then Read.prepend [c] (findFrom sep none opened s)
      else if c = '"' || c = '\'' then Read.prepend [c] (findFrom sep (some (c, c :: s)) opened s)
      else if c = '[' || c = '(' then Read.prepend [c] (findFrom sep none ((c, c :: s) :: opened) s)
      else if c = ']' || c = ')' then
        match opened with
        | (bracket, _) :: outer =>
          if closes bracket c then Read.prepend [c] (findFrom sep none outer s)
          else .error (.unbalancedBracket c (c :: s))
        | [] => .error (.unbalancedBracket c (c :: s))
      else if opened.isEmpty && sep.isPrefixOf (c :: s) then .ok (some ([], c :: s))
      else Read.prepend [c] (findFrom sep none opened s)

def findTopLevel (sep s : List Char) : Read (Option (List Char × List Char)) :=
  findFrom sep none [] s

theorem Read.prepend_eq_some {α : Type} {s before : List Char} {rest : α}
    {r : Read (Option (List Char × α))} (h : Read.prepend s r = .ok (some (before, rest))) :
    ∃ b, r = .ok (some (b, rest)) ∧ before = s ++ b := by
  match r, h with
  | .ok (some (b, t)), h =>
    simp only [Read.prepend, Except.map, Option.map_some, Except.ok.injEq, Option.some.injEq,
      Prod.mk.injEq] at h
    obtain ⟨rfl, rfl⟩ := h
    exact ⟨b, rfl, rfl⟩

/-- What is cut off and what is left make up the text. -/
theorem append_of_findFrom {sep s before after : List Char} {quote : Option Opening}
    {opened : List Opening} (h : findFrom sep quote opened s = .ok (some (before, after))) :
    before ++ after = s := by
  fun_induction findFrom sep quote opened s generalizing before with
  | case1 | case2 | case3 => simp at h
  | case10 | case11 => simp at h
  | case12 => simp_all
  | _ =>
    obtain ⟨b, hb, rfl⟩ := Read.prepend_eq_some h
    simp_all

/-- A stretch between two separators, and the text that follows it. -/
structure Segment where
  text : List Char
  after : List Char

/-- Cuts a text at every separator. -/
def splitTopLevel (sep s : List Char) : Read (List Segment) :=
  match findTopLevel sep s with
  | .error e => .error e
  | .ok none => .ok [⟨s, []⟩]
  | .ok (some (text, after)) =>
    if _shorter : (after.drop sep.length).length < s.length then
      match splitTopLevel sep (after.drop sep.length) with
      | .error e => .error e
      | .ok segments => .ok (⟨text, after⟩ :: segments)
    else .ok [⟨text, after⟩]
termination_by s.length
decreasing_by exact _shorter

/-- The byte offset of a segment in the text that was cut. -/
def Segment.offset (whole : List Char) (segment : Segment) : Nat :=
  Text.offset whole (segment.text ++ segment.after)

end Umbra.Selector
