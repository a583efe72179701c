import Umbra.Text.Ascii
import Umbra.Text.Search
import Umbra.Text.Blank
import Umbra.Engine
import Umbra.Selector.TopLevel

/-!
Cutting a chain at its separators. Every part may start with the name of its engine and an equals
sign, and before that with a star that marks the part whose matches are the answer.

A part that is read as text ends at the next separator, except that a literal at its start is
passed over. Any other part ends at the next separator outside quotes and brackets.
-/

namespace Umbra

/-- A part of a chain as it was written. -/
structure Part where
  engine : Engine
  clause : String
  /-- The byte offset of the clause in the whole chain. -/
  offset : Nat
  captured : Bool
  deriving DecidableEq

namespace Part

def separator : List Char := ['>', '>']

def isEngineChar (c : Char) : Bool :=
  Text.isAsciiLetter c || Text.isAsciiDigit c || c == '_' || c == '-' || c == ':'

/-- The name of an engine and the text behind its equals sign. -/
def readEngineName? (s : List Char) : Option (List Char × List Char) :=
  let name := s.takeWhile isEngineChar
  if name.head?.any Text.isAsciiLetter then
    match Text.trimStart (s.drop name.length) with
    | '=' :: rest => some (name, rest)
    | _ => none
  else none

/-- What a part says before its clause. -/
structure Head where
  captured : Bool
  engineName : Option (List Char)
  /-- The text from the start of the clause on. -/
  clause : List Char

/-- A star is a mark only in front of the name of an engine; otherwise it belongs to the clause. -/
def readHead (s : List Char) : Head :=
  let text := Text.trimStart s
  let (captured, rest) := match text with
    | '*' :: t => if (readEngineName? t).isSome then (true, t) else (false, text)
    | _ => (false, text)
  match readEngineName? rest with
  | some (name, after) => ⟨captured, some name, Text.trimStart after⟩
  | none => ⟨captured, none, rest⟩

/-- The engine of a part, if its name is known. -/
def Head.engine? (defaultEngine : Engine) (h : Head) : Option Engine :=
  match h.engineName with
  | none => some defaultEngine
  | some name => Engine.ofName? (String.ofList name)

/-- The text behind a literal, from behind its opening delimiter. -/
def skipLiteral? (delimiter : Char) : List Char → Option (List Char)
  | [] => none
  | '\\' :: _ :: s => skipLiteral? delimiter s
  | c :: s => if c = delimiter then some s else skipLiteral? delimiter s

/-- The text behind the literal that a clause starts with. An open slash is no literal. -/
def skipStart (clause : List Char) : Read (List Char) :=
  match clause with
  | [] => .ok []
  | c :: s =>
    if c = '"' || c = '\'' then
      match skipLiteral? c s with
      | some rest => .ok rest
      | none => .error (.unterminatedString (c :: s))
    else if c = '/' then .ok ((skipLiteral? c s).getD (c :: s))
    else .ok (c :: s)

/-- Cuts a text part with the given clause: the part, and the text from the separator on. -/
def cutText (s clause : List Char) : Read (Option (List Char × List Char)) := do
  let searched ← skipStart clause
  return (Text.cutBefore? separator searched).map fun (_, after) =>
    (s.take (s.length - after.length), after)

/-- Cuts the first part from a chain. -/
def cutFirst (defaultEngine : Engine) (s : List Char) :
    Read (Option (List Char × List Char)) :=
  let head := readHead s
  if (head.engine? defaultEngine).any Engine.isText then cutText s head.clause
  else Selector.findTopLevel separator s

/-- Reads a part of the chain `whole`. -/
def ofSegment (defaultEngine : Engine) (whole : List Char) (segment : Selector.Segment) :
    Read Part :=
  let head := readHead segment.text
  let clause := Text.trimEnd head.clause
  match head.engine? defaultEngine with
  | none => .error (.unknownEngine (String.ofList (head.engineName.getD [])))
  | some engine =>
    if clause.isEmpty then .error .emptySelector
    else
      let offset := Text.offset whole (head.clause ++ segment.after)
      .ok ⟨engine, String.ofList clause, offset, head.captured⟩

/-- Reads the parts of the chain `whole` that are in the text `s` at its end. -/
def readAll (defaultEngine : Engine) (whole s : List Char) : Read (List Part) :=
  match cutFirst defaultEngine s with
  | .error e => .error e
  | .ok none => do return [← ofSegment defaultEngine whole ⟨s, []⟩]
  | .ok (some (text, after)) => do
    let part ← ofSegment defaultEngine whole ⟨text, after⟩
    if _shorter : (after.drop separator.length).length < s.length then
      let rest ← readAll defaultEngine whole (after.drop separator.length)
      return part :: rest
    else return [part]
termination_by s.length
decreasing_by exact _shorter

/-- The parts of a chain, of which at most one is captured. -/
def split (defaultEngine : Engine) (chain : List Char) :
    Except (SyntaxError Nat) (List Part) :=
  Read.at 0 chain <|
    if (Text.trim chain).isEmpty then .error .emptySelector
    else do
      let parts ← readAll defaultEngine chain chain
      if 1 < parts.countP Part.captured then .error .duplicateCapture else return parts

end Part

end Umbra
