import Umbra.Text.Bytes

/-!
Why a selector cannot be read. Readers locate an error by the text that remains from its place, so
`SyntaxError (List Char)` is what they raise; the outside sees `SyntaxError Nat`, with byte offsets.
-/

namespace Umbra

/-- What was looked for when the text ended. -/
inductive Expected where
  | selector
  | selectorAfterCombinator
  | id
  | className
  | pseudoClassName
  | argument
  deriving DecidableEq

def Expected.phrase : Expected → String
  | .selector => "a selector"
  | .selectorAfterCombinator => "a selector after the combinator"
  | .id => "an id"
  | .className => "a class name"
  | .pseudoClassName => "a pseudo-class name"
  | .argument => "a parenthesized argument"

inductive SyntaxError (ρ : Type) where
  | emptySelector
  | unterminatedString (quote : ρ)
  | unbalancedBracket (bracket : Char) (place : ρ)
  | unknownEngine (name : String)
  | duplicateCapture
  | unknownPseudoClass (name : String)
  | invalidAttributeOperator (operator : String) (place : ρ)
  | invalidAttributeModifier (modifier : String) (place : ρ)
  | invalidNth (expression : String)
  | invalidRegex (pattern : String)
  | unexpectedCharacter (found : Char) (place : ρ)
  | unexpectedEnd (expected : Expected)
  deriving DecidableEq

namespace SyntaxError

variable {ρ σ : Type}

/-- Moves the place of an error. -/
def map (f : ρ → σ) : SyntaxError ρ → SyntaxError σ
  | emptySelector => emptySelector
  | unterminatedString quote => unterminatedString (f quote)
  | unbalancedBracket bracket place => unbalancedBracket bracket (f place)
  | unknownEngine name => unknownEngine name
  | duplicateCapture => duplicateCapture
  | unknownPseudoClass name => unknownPseudoClass name
  | invalidAttributeOperator operator place => invalidAttributeOperator operator (f place)
  | invalidAttributeModifier modifier place => invalidAttributeModifier modifier (f place)
  | invalidNth expression => invalidNth expression
  | invalidRegex pattern => invalidRegex pattern
  | unexpectedCharacter found place => unexpectedCharacter found (f place)
  | unexpectedEnd expected => unexpectedEnd expected

/-- The place of an error that has one. -/
def place? : SyntaxError ρ → Option ρ
  | unterminatedString quote => some quote
  | unbalancedBracket _ place => some place
  | invalidAttributeOperator _ place => some place
  | invalidAttributeModifier _ place => some place
  | unexpectedCharacter _ place => some place
  | _ => none

def message : SyntaxError Nat → String
  | emptySelector => "empty selector"
  | unterminatedString quote => "unterminated string starting at " ++ toString quote
  | unbalancedBracket bracket place =>
    "unbalanced '" ++ bracket.toString ++ "' at " ++ toString place
  | unknownEngine name => "unknown selector engine '" ++ name ++ "'"
  | duplicateCapture => "only one part of a selector chain can be captured with '*'"
  | unknownPseudoClass name => "unknown pseudo-class ':" ++ name ++ "'"
  | invalidAttributeOperator operator place =>
    "invalid attribute operator '" ++ operator ++ "' at " ++ toString place
  | invalidAttributeModifier modifier place =>
    "invalid attribute modifier '" ++ modifier ++ "' at " ++ toString place
  | invalidNth expression => "invalid An+B expression '" ++ expression ++ "'"
  | invalidRegex pattern => "invalid regular expression '" ++ pattern ++ "'"
  | unexpectedCharacter found place =>
    "unexpected '" ++ found.toString ++ "' at " ++ toString place
  | unexpectedEnd expected => "unexpected end of selector, expected " ++ expected.phrase

@[simp]
theorem map_map {τ : Type} (f : ρ → σ) (g : σ → τ) (e : SyntaxError ρ) :
    (e.map f).map g = e.map (g ∘ f) := by cases e <;> rfl

@[simp]
theorem place?_map (f : ρ → σ) (e : SyntaxError ρ) : (e.map f).place? = e.place?.map f := by
  cases e <;> rfl

end SyntaxError

/-- What a reader gives: a result, or an error at the text that remains. -/
abbrev Read (α : Type) := Except (SyntaxError (List Char)) α

/-- Reading within a stretch of a longer text: `after` follows the stretch. -/
def Read.within {α : Type} (after : List Char) (r : Read α) : Read α :=
  r.mapError (SyntaxError.map (· ++ after))

/-- Reading with places as byte offsets, counted from `start` at the beginning of `whole`. -/
def Read.at {α : Type} (start : Nat) (whole : List Char) (r : Read α) :
    Except (SyntaxError Nat) α :=
  r.mapError (SyntaxError.map fun rest => start + Text.offset whole rest)

theorem Read.within_eq_ok {α : Type} {after : List Char} {r : Read α} {a : α} :
    r.within after = .ok a ↔ r = .ok a := by
  cases r with
  | error e => exact ⟨nofun, nofun⟩
  | ok b => exact Iff.rfl

theorem Read.at_eq_ok {α : Type} {start : Nat} {whole : List Char} {r : Read α} {a : α} :
    r.at start whole = .ok a ↔ r = .ok a := by
  cases r with
  | error e => exact ⟨nofun, nofun⟩
  | ok b =>
    have same (h : b = a) : (Except.ok b : Except (SyntaxError Nat) α) = .ok a := congrArg _ h
    exact ⟨fun h => congrArg Except.ok (Except.ok.inj h), fun h => same (Except.ok.inj h)⟩

/-- The error for the next character, or for the end of the text. -/
def unexpected (expected : Expected) : List Char → SyntaxError (List Char)
  | [] => .unexpectedEnd expected
  | c :: s => .unexpectedCharacter c (c :: s)

/-- Takes as many steps as there are. A step that reads nothing is the last one. -/
def readMany {α : Type} (step : List Char → Read (Option (α × List Char))) (s : List Char) :
    Read (List α × List Char) :=
  match step s with
  | .error e => .error e
  | .ok none => .ok ([], s)
  | .ok (some (a, r)) =>
    if r.length < s.length then
      match readMany step r with
      | .error e => .error e
      | .ok (as, t) => .ok (a :: as, t)
    else .ok ([a], r)
termination_by s.length

end Umbra
