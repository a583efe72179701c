import Umbra.Regex.Basic
import Umbra.Regex.Program.Trie

/-!
The programs of regular expressions. An expression has a program that reads a text from its start
and one that reads it from its end, and both have to keep to the limit on their size.
-/

namespace Umbra

structure Program where
  states : Array Program.State
  start : Nat
  deriving DecidableEq

namespace Program

def bytes (text : List Char) : List UInt8 := text.flatMap String.utf8EncodeChar

def literal (d : Direction) (text : List Char) : Writer Piece :=
  inSequence ((d.order (bytes text)).map fun b => alone (.byte ⟨⟨b, b⟩, 0⟩))

/-- The bytes of literals, if there is nothing else. -/
def literals? : List Regex → Option (List (List UInt8))
  | [] => some []
  | .literal text :: rs => (literals? rs).map (bytes text :: ·)
  | _ => none

mutual

def piece (d : Direction) : Regex → Writer Piece
  | .empty => nothing
  | .literal text => literal d text
  | .chars s => chars d s
  | .look condition => alone (.look condition 0)
  | .repeat r min max _ => repeated (piece d r) r.readsAlways min max
  | .capture _ r => if d = .forward then captured (piece d r) else piece d r
  | .concat rs => inSequence (d.order (pieces d rs))
  | .alternation rs =>
    match literals? rs with
    | some literals => oneOf (literals.map d.order)
    | none => inParallel (pieces d rs)

def pieces (d : Direction) : List Regex → List (Writer Piece)
  | [] => []
  | r :: rs => piece d r :: pieces d rs

end

/-- A piece that passes over bytes as long as it likes. -/
def anywhere : Writer Piece :=
  anyNumber (do
    let stop ← add (.pass 0)
    let start ← add (.bytes [⟨⟨0, 255⟩, stop⟩])
    return ⟨start, stop⟩) true

/-- Whether every match is bound to the end of the text that is read first. -/
def isBound (d : Direction) (r : Regex) : Bool :=
  match d with
  | .forward => r.startsAtTextStart
  | .backward => r.stopsAtTextEnd

/-- Writes the program that looks for a match, and gives its start. -/
def search (d : Direction) (r : Regex) : Writer Nat := do
  let before ← if isBound d r then nothing else anywhere
  let p ← piece d (.capture 0 r)
  let stop ← add .accept
  link p.stop stop
  link before.stop p.start
  return before.start

def ofRegex? (d : Direction) (r : Regex) : Option Program :=
  ((search d r).run ⟨#[], 0⟩).map fun (start, draft) => ⟨draft.states, start⟩

end Program

/-- The program of an expression that is not too large in either direction. -/
def Regex.program? (r : Regex) : Option Program := do
  let forward ← Program.ofRegex? .forward r
  let _ ← Program.ofRegex? .backward r
  return forward

end Umbra
