import Umbra.Proofs.Selector.Indices

/-!
# Reading selectors by byte positions

Every reader of selectors as a scan. A bound `n` on the steps serves for every loop and for the
depth of nested arguments; it is never reached if it exceeds the length of the text.
-/

namespace Umbra.Selector

open Text

namespace Scan

/-- Takes steps as long as there are any. A step is told whether it is the first. -/
def many {α : Type} (step : Bool → Scan (Option α)) : Nat → Bool → Scan (List α)
  | 0, _ => halt .endless
  | n + 1, first => do
    match ← step first with
    | none => return []
    | some a =>
      let others ← many step n false
      return a :: others

/-! ## Names and attributes -/

def startsIdentifier : Scan Bool := do
  match ← peek with
  | some c =>
    if c = '-' then
      match ← peekAt 1 with
      | some d =>
        if d = '\\' then
          let e ← peekAt 2
          return e.any (· != '\n')
        else return isNameStart d || d == '-'
      | none => return false
    else if isNameStart c then return true
    else if c = '\\' then atValidEscape
    else return false
  | none => return false

def expectName (n : Nat) (expected : Expected) : Scan String := do
  let c ← peek
  let escape ← atValidEscape
  if c.any isNameChar || escape then
    let written ← name n
    return String.ofList written
  else unexpected expected

def invalidOperator {α : Type} (place : Nat) (c : Char) : Scan α := do
  let next ← peek
  refuse (.invalidAttributeOperator
    (String.ofList (c :: (next.filter fun n => n != ']' && n != ' ').toList)) place)

def operator : Scan AttributeOperator := do
  let place ← offset
  match ← consume with
  | none => refuse (.invalidAttributeOperator "" place)
  | some c =>
    if c = '=' then return .equals
    else
      match AttributeOperator.ofMark? c with
      | some operator =>
        if ← eat '=' then return operator else invalidOperator place c
      | none => invalidOperator place c

def value (n : Nat) (unclosed : SyntaxError Nat) : Scan (List Char) := do
  match ← peek with
  | none => refuse unclosed
  | some c =>
    if c = '"' || c = '\'' then string n
    else if c = ']' then unexpected .argument
    else unquotedValue n

def modifierText (n : Nat) (c : Char) : Scan (List Char) := do
  if isNameChar c then name n
  else
    let _ ← consume
    return [c]

def modifier (n : Nat) (unclosed : SyntaxError Nat) : Scan CaseMode := do
  let place ← offset
  match ← peek with
  | none => refuse unclosed
  | some c =>
    if c = ']' then return .plain
    else
      let written ← modifierText n c
      match CaseMode.ofModifier? written with
      | some mode => return mode
      | none => refuse (.invalidAttributeModifier (String.ofList written) place)

/-- The end of an attribute test. -/
def closing {α : Type} (n : Nat) (unclosed : SyntaxError Nat) (result : α) : Scan α := do
  let _ ← skipWhitespace n
  if ← eat ']' then return result
  else if ← isEof then refuse unclosed
  else unexpected .argument

def comparison (n : Nat) (unclosed : SyntaxError Nat) (written : List Char) :
    Scan AttributePredicate := do
  let operator ← operator
  let _ ← skipWhitespace n
  let value ← value n unclosed
  let _ ← skipWhitespace n
  let mode ← modifier n unclosed
  closing n unclosed (.make (String.ofList written) (.compare operator (String.ofList value) mode))

def attributeTest (n : Nat) : Scan AttributePredicate := do
  let opening ← offset
  let _ ← consume
  let _ ← skipWhitespace n
  if ← startsIdentifier then
    let written ← name n
    let _ ← skipWhitespace n
    match ← peek with
    | none => refuse (.unbalancedBracket '[' opening)
    | some c =>
      if c = ']' then
        let _ ← consume
        return .make (String.ofList written) .present
      else comparison n (.unbalancedBracket '[' opening) written
  else if ← isEof then refuse (.unbalancedBracket '[' opening)
  else unexpected .argument

/-! ## Arguments and pseudo-classes -/

/-- An argument in parentheses, with its place. -/
def arguments : Scan (Nat × List Char) := do
  let opening ← offset
  let _ ← consume
  let s ← rest
  match Bytes.closing? 0 none 0 s with
  | some i =>
    let argument ← ofExcept (checked (sliceTo? i s))
    advance (i + 1)
    return (opening + 1, argument)
  | none => refuse (.unbalancedBracket '(' opening)

def nthArgument : Scan Nth := do
  let (_, argument) ← arguments
  match Nth.parse? argument with
  | some positions => return positions
  | none => refuse (.invalidNth (String.ofList argument))

variable (inner : Nat → List Char → Except Halt SelectorList) (allows : PseudoClassName → Bool)

def functionalPseudo (name : PseudoClassName) : Scan PseudoClass := do
  match name with
  | .nth among =>
    let positions ← nthArgument
    return .nth among positions
  | .nthLast among =>
    let positions ← nthArgument
    return .nthLast among positions
  | .not =>
    let (place, argument) ← arguments
    let alternatives ← ofExcept (inner place argument)
    return .not alternatives
  | _ => unexpected .argument

def barePseudo (name : PseudoClassName) : Scan PseudoClass :=
  match name with
  | .root => return .root
  | .scope => return .scope
  | .empty => return .empty
  | .first among => return .first among
  | .last among => return .last among
  | .only among => return .only among
  | _ => refuse (.unexpectedEnd .argument)

def pseudoClass (n : Nat) : Scan PseudoClass := do
  let _ ← consume
  if (← peek) = some ':' then
    let _ ← consume
    let written ← name n
    refuse (.unknownPseudoClass (String.ofList (':' :: written)))
  else
    let written ← expectName n .pseudoClassName
    match (PseudoClassName.ofWritten? written).filter allows with
    | none => refuse (.unknownPseudoClass written)
    | some name => if (← peek) = some '(' then functionalPseudo inner name else barePseudo name

/-! ## Compounds -/

/-- One further condition of a compound, if there is one. `first` says that there is none yet. -/
def condition (n : Nat) (first : Bool) : Scan (Option SimpleSelector) := do
  match ← peek with
  | none => return none
  | some c =>
    if c = '#' then
      let _ ← consume
      let name ← expectName n .id
      return some (.id name)
    else if c = '.' then
      let _ ← consume
      let name ← expectName n .className
      return some (.className name)
    else if c = '[' then
      let predicate ← attributeTest n
      return some (.attribute predicate)
    else if c = ':' then
      let pseudo ← pseudoClass inner allows n
      return some (.pseudo pseudo)
    else if c = '*' && !first then unexpected .selector
    else return none

def head (n : Nat) : Scan (List SimpleSelector) := do
  if ← eat '*' then return [.universal]
  else if ← startsIdentifier then
    let written ← name n
    return [.type (String.ofList (asciiLower written))]
  else return []

def compound (n : Nat) : Scan CompoundSelector := do
  let first ← head n
  let others ← many (condition inner allows n) n first.isEmpty
  return first ++ others

/-! ## Combinators -/

def signed (n : Nat) (k : Combinator) : Scan (Option Combinator) := do
  let _ ← consume
  let _ ← skipWhitespace n
  return some k

/-- The combinator that comes next; none at the end of the text. -/
def combinator (n : Nat) : Scan (Option Combinator) := do
  let space ← skipWhitespace n
  match ← peek with
  | none => return none
  | some c =>
    if c = '>' then signed n .child
    else if c = '+' then signed n .nextSibling
    else if c = '~' then signed n .subsequentSibling
    else if space then return some .descendant
    else unexpected .selector

/-- A combinator and the compound behind it, if there is one. -/
def step (n : Nat) : Scan (Option (Combinator × CompoundSelector)) := do
  match ← combinator n with
  | none => return none
  | some k =>
    let next ← compound inner allows n
    if next.isEmpty then unexpected .selectorAfterCombinator
    else return some (k, next)

def complex (n : Nat) : Scan ComplexSelector := do
  let first ← compound inner allows n
  if first.isEmpty then unexpected .selector
  else
    let others ← many (fun _ => step inner allows n) n true
    return others.foldl .extend (.compound first)

/-- One alternative of a list. -/
def alternative (n : Nat) : Scan ComplexSelector := do
  let _ ← skipWhitespace n
  if ← isEof then refuse (.unexpectedEnd .selector)
  else
    let selector ← complex inner allows n
    let _ ← skipWhitespace n
    if ← isEof then return selector else unexpected .selector

end Scan

namespace Bytes

/-- Reads a selector list whose place is `base`. -/
def selectorList (allows : PseudoClassName → Bool) :
    Nat → Nat → List Char → Except Halt SelectorList
  | 0, _, _ => .error .endless
  | n + 1, base, clause => do
    let segments ← shifted base (splitTopLevel (n + 1) [','] clause)
    segments.mapM fun (place, text) =>
      (Scan.alternative (selectorList allows n) allows (n + 1)).run ⟨text, 0, base + place⟩

end Bytes

end Umbra.Selector
