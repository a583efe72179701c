import Umbra.Selector.Basic
import Umbra.Selector.TopLevel

/-!
Reading selector lists. A list is cut at its commas, and every alternative is then read from left
to right. The argument of `:not()` is a selector list again, so the readers of the smaller pieces
take the reader of such an argument as a parameter; `readSelectorList` ties the knot.
-/

namespace Umbra.Selector

/-- The operator of an attribute test, which is not at its end. -/
def readOperator : List Char → Read (AttributeOperator × List Char)
  | [] => .error (.invalidAttributeOperator "" [])
  | '=' :: s => .ok (.equals, s)
  | c :: s =>
    match AttributeOperator.ofMark? c, s with
    | some operator, '=' :: t => .ok (operator, t)
    | _, _ =>
      let next := s.head?.filter fun n => n != ']' && n != ' '
      .error (.invalidAttributeOperator (String.ofList (c :: next.toList)) (c :: s))

/-- An unquoted value: everything up to white space or `]`, with escapes taken for what they
stand for. -/
def readBareValue (s : List Char) : List Char × List Char :=
  match s with
  | [] => ([], [])
  | c :: t =>
    if isSpace c || c = ']' then ([], c :: t)
    else if c = '\\' && !t.isEmpty then
      let (value, rest) := readBareValue (readEscape t).2
      ((readEscape t).1 :: value, rest)
    else
      let (value, rest) := readBareValue t
      (c :: value, rest)
termination_by s.length
decreasing_by
  · have := length_readEscape_le t
    simp only [List.length_cons]
    omega
  · simp

/-- The expected value of an attribute test. -/
def readValue (unclosed : SyntaxError (List Char)) :
    List Char → Read (List Char × List Char)
  | [] => .error unclosed
  | c :: s =>
    if c = '"' || c = '\'' then readQuoted (c :: s)
    else if c = ']' then .error (.unexpectedCharacter c (c :: s))
    else .ok (readBareValue (c :: s))

/-- The case modifier behind the value, if there is one. -/
def readModifier (unclosed : SyntaxError (List Char)) : List Char → Read (CaseMode × List Char)
  | [] => .error unclosed
  | c :: s =>
    if c = ']' then .ok (.plain, c :: s)
    else
      let (modifier, rest) := if isNameChar c then readName (c :: s) else ([c], s)
      match CaseMode.ofModifier? modifier with
      | some mode => .ok (mode, rest)
      | none => .error (.invalidAttributeModifier (String.ofList modifier) (c :: s))

/-- An attribute test; its opening bracket comes next. -/
def readAttribute (s : List Char) : Read (AttributePredicate × List Char) :=
  let unclosed : SyntaxError (List Char) := .unbalancedBracket '[' s
  let start := skipSpace (s.drop 1)
  if !atName start then
    .error (match start with
      | [] => unclosed
      | c :: t => .unexpectedCharacter c (c :: t))
  else
    let (name, afterName) := readName start
    match skipSpace afterName with
    | [] => .error unclosed
    | ']' :: rest => .ok (.make (String.ofList name) .present, rest)
    | c :: t => do
      let (operator, afterOperator) ← readOperator (c :: t)
      let (value, afterValue) ← readValue unclosed (skipSpace afterOperator)
      let (mode, afterMode) ← readModifier unclosed (skipSpace afterValue)
      match skipSpace afterMode with
      | [] => .error unclosed
      | ']' :: rest =>
        .ok (.make (String.ofList name) (.compare operator (String.ofList value) mode), rest)
      | d :: u => .error (.unexpectedCharacter d (d :: u))

/-- Cuts at the parenthesis that closes `depth` open ones and the one before the text. -/
def cutArgument? (depth : Nat) (quote : Option Char) :
    List Char → Option (List Char × List Char)
  | [] => none
  | '\\' :: c :: s =>
    (cutArgument? depth quote s).map fun (argument, rest) => ('\\' :: c :: argument, rest)
  | c :: s =>
    let push (r : Option (List Char × List Char)) :=
      r.map fun (argument, rest) => (c :: argument, rest)
    match quote with
    | some q => push (cutArgument? depth (if c = q then none else quote) s)
    | none =>
      if c = '"' || c = '\'' then push (cutArgument? depth (some c) s)
      else if c = '(' then push (cutArgument? (depth + 1) none s)
      else if c = ')' then
        match depth with
        | 0 => some ([], s)
        | outer + 1 => push (cutArgument? outer none s)
      else push (cutArgument? depth none s)

/-- The argument of a functional pseudo-class; its opening parenthesis comes next. -/
def readArgument (s : List Char) : Read (List Char × List Char) :=
  match cutArgument? 0 none (s.drop 1) with
  | some r => .ok r
  | none => .error (.unbalancedBracket '(' s)

def readNthArgument (s : List Char) : Read (Nth × List Char) := do
  let (argument, rest) ← readArgument s
  match Nth.parse? argument with
  | some positions => .ok (positions, rest)
  | none => .error (.invalidNth (String.ofList argument))

/-- A pseudo-class, from behind its colon. -/
def readPseudoClass (inner : List Char → Read SelectorList) (allows : PseudoClassName → Bool) :
    List Char → Read (PseudoClass × List Char)
  | ':' :: s => .error (.unknownPseudoClass (String.ofList (':' :: (readName s).1)))
  | s => do
    let (written, t) ← expectName .pseudoClassName s
    match (PseudoClassName.ofWritten? written).filter allows with
    | none => .error (.unknownPseudoClass written)
    | some name =>
      match t with
      | '(' :: _ =>
        match name with
        | .nth among => do
          let (positions, rest) ← readNthArgument t
          return (.nth among positions, rest)
        | .nthLast among => do
          let (positions, rest) ← readNthArgument t
          return (.nthLast among positions, rest)
        | .not => do
          let (argument, rest) ← readArgument t
          let alternatives ← (inner argument).within (')' :: rest)
          return (.not alternatives, rest)
        | _ => .error (.unexpectedCharacter '(' t)
      | _ =>
        match name with
        | .root => .ok (.root, t)
        | .scope => .ok (.scope, t)
        | .empty => .ok (.empty, t)
        | .first among => .ok (.first among, t)
        | .last among => .ok (.last among, t)
        | .only among => .ok (.only among, t)
        | _ => .error (.unexpectedEnd .argument)

/-- The type or universal selector that a compound may start with. -/
def readHead (s : List Char) : List SimpleSelector × List Char :=
  match s with
  | '*' :: t => ([.universal], t)
  | _ =>
    if atName s then
      let (name, rest) := readName s
      ([.type (String.ofList (Text.asciiLower name))], rest)
    else ([], s)

/-- One further condition of a compound, if there is one. -/
def readCondition (inner : List Char → Read SelectorList) (allows : PseudoClassName → Bool) :
    List Char → Read (Option (SimpleSelector × List Char))
  | '#' :: s => do
    let (name, rest) ← expectName .id s
    return some (.id name, rest)
  | '.' :: s => do
    let (name, rest) ← expectName .className s
    return some (.className name, rest)
  | '[' :: s => do
    let (predicate, rest) ← readAttribute ('[' :: s)
    return some (.attribute predicate, rest)
  | ':' :: s => do
    let (pseudoClass, rest) ← readPseudoClass inner allows s
    return some (.pseudo pseudoClass, rest)
  | '*' :: s => .error (.unexpectedCharacter '*' ('*' :: s))
  | _ => .ok none

def readCompound (inner : List Char → Read SelectorList) (allows : PseudoClassName → Bool)
    (s : List Char) : Read (CompoundSelector × List Char) := do
  let (head, afterHead) := readHead s
  let (conditions, rest) ← readMany (readCondition inner allows) afterHead
  return (head ++ conditions, rest)

/-- The combinator that comes next; none at the end of the text. White space alone is one. -/
def readCombinator (s : List Char) : Read (Option (Combinator × List Char)) :=
  match skipSpace s with
  | [] => .ok none
  | '>' :: t => .ok (some (.child, skipSpace t))
  | '+' :: t => .ok (some (.nextSibling, skipSpace t))
  | '~' :: t => .ok (some (.subsequentSibling, skipSpace t))
  | c :: t =>
    if (s.head?.any isSpace) then .ok (some (.descendant, c :: t))
    else .error (.unexpectedCharacter c (c :: t))

/-- A combinator and the compound behind it. -/
def readStep (inner : List Char → Read SelectorList) (allows : PseudoClassName → Bool)
    (s : List Char) : Read (Option ((Combinator × CompoundSelector) × List Char)) := do
  match ← readCombinator s with
  | none => return none
  | some (combinator, t) =>
    let (compound, rest) ← readCompound inner allows t
    if compound.isEmpty then .error (unexpected .selectorAfterCombinator rest)
    else return some ((combinator, compound), rest)

/-- A complex selector, with white space around it and nothing else. -/
def readComplex (inner : List Char → Read SelectorList) (allows : PseudoClassName → Bool)
    (s : List Char) : Read ComplexSelector := do
  let (compound, afterFirst) ← readCompound inner allows (skipSpace s)
  if compound.isEmpty then .error (unexpected .selector afterFirst)
  else
    let (steps, _) ← readMany (readStep inner allows) afterFirst
    return steps.foldl .extend (.compound compound)

/-- Selectors with commas between them. -/
def readAlternatives (inner : List Char → Read SelectorList) (allows : PseudoClassName → Bool)
    (s : List Char) : Read SelectorList := do
  let segments ← splitTopLevel [','] s
  segments.mapM fun segment => (readComplex inner allows segment.text).within segment.after

/-- Reads a selector list. An argument is shorter than the text it stands in, so reading ends. -/
def readSelectorList (allows : PseudoClassName → Bool) (s : List Char) : Read SelectorList :=
  readAlternatives
    (fun argument =>
      if argument.length < s.length then readSelectorList allows argument
      else .error .emptySelector)
    allows s
termination_by s.length

end Umbra.Selector
