import Std.Data.HashMap
import Umbra.Regex.Utf8
import Umbra.Regex.Look

/-!
Programs that search a text byte by byte, and how one is written. A program is a table of states; a
piece of a program is entered at one state and left at another, which is linked to what comes next.
A program takes up memory, and may not take up more than `sizeLimit`.
-/

namespace Umbra.Program

/-- A step to another state over one byte. -/
structure Step where
  range : ByteRange
  next : Nat
  deriving DecidableEq

inductive State where
  | pass (next : Nat)
  | byte (step : Step)
  /-- One of several steps, whose ranges have no byte in common. -/
  | bytes (steps : List Step)
  | look (condition : Look) (next : Nat)
  | fork (nexts : List Nat)
  | accept
  deriving DecidableEq

namespace State

/-- The bytes of memory that a state takes. -/
def size : State → Nat
  | bytes steps => 32 + 8 * steps.length
  | fork nexts => 32 + 4 * nexts.length
  | _ => 32

/-- A state that goes on to `target`, instead of elsewhere or, for a fork, as well. -/
def linked (target : Nat) : State → State
  | pass _ => pass target
  | byte step => byte ⟨step.range, target⟩
  | bytes steps => bytes steps
  | look condition _ => look condition target
  | fork nexts => fork (target :: nexts)
  | accept => accept

end State

/-- A program in the making, with the memory that it takes so far. -/
structure Draft where
  states : Array State
  size : Nat

/-- Ten mebibytes. -/
def sizeLimit : Nat := 10485760

/-- Writing on a draft, which fails when the draft grows over the limit. -/
abbrev Writer := StateT Draft Option

structure Piece where
  start : Nat
  stop : Nat

def add (s : State) : Writer Nat := fun draft =>
  let size := draft.size + s.size
  if size ≤ sizeLimit then some (draft.states.size, ⟨draft.states.push s, size⟩) else none

def link (source target : Nat) : Writer Unit := fun draft =>
  let size := match draft.states[source]? with
    | some (.fork _) => draft.size + 4
    | _ => draft.size
  if size ≤ sizeLimit then some ((), ⟨draft.states.modify source (.linked target), size⟩) else none

/-- A piece of one state. -/
def alone (s : State) : Writer Piece := do
  let i ← add s
  return ⟨i, i⟩

def nothing : Writer Piece := alone (.pass 0)

/-! ## Pieces from pieces -/

/-- Writes pieces one behind the other, and all behind the state `stop`. -/
def continued : List (Writer Piece) → (stop : Nat) → Writer Nat
  | [], stop => return stop
  | w :: ws, stop => do
    let p ← w
    link stop p.start
    continued ws p.stop

def inSequence : List (Writer Piece) → Writer Piece
  | [] => nothing
  | w :: ws => do
    let p ← w
    return ⟨p.start, ← continued ws p.stop⟩

/-- Writes further branches between the states of a fork and its end. -/
def branched (start stop : Nat) : List (Writer Piece) → Writer Unit
  | [] => return
  | w :: ws => do
    let p ← w
    link start p.start
    link p.stop stop
    branched start stop ws

def inParallel : List (Writer Piece) → Writer Piece
  | [] => alone (.fork [])
  | [w] => w
  | w :: v :: ws => do
    let first ← w
    let second ← v
    let start ← add (.fork [])
    let stop ← add (.pass 0)
    link start first.start
    link first.stop stop
    link start second.start
    link second.stop stop
    branched start stop ws
    return ⟨start, stop⟩

/-- Writes `count` pieces behind the state `stop`. -/
def copied (w : Writer Piece) : (count stop : Nat) → Writer Nat
  | 0, stop => return stop
  | count + 1, stop => do
    let p ← w
    link stop p.start
    copied w count p.stop

def exactly (w : Writer Piece) : (count : Nat) → Writer Piece
  | 0 => nothing
  | count + 1 => do
    let p ← w
    return ⟨p.start, ← copied w count p.stop⟩

def optional (w : Writer Piece) : Writer Piece := do
  let start ← add (.fork [])
  let p ← w
  let stop ← add (.pass 0)
  link start p.start
  link start stop
  link p.stop stop
  return ⟨start, stop⟩

/-- Any number of pieces. A piece that may read nothing is left before it is entered again, so that
it can be passed over in one way only. -/
def anyNumber (w : Writer Piece) (readsAlways : Bool) : Writer Piece := do
  if readsAlways then
    let start ← add (.fork [])
    let p ← w
    link start p.start
    link p.stop start
    return ⟨start, start⟩
  else
    let p ← w
    let again ← add (.fork [])
    link p.stop again
    link again p.start
    let start ← add (.fork [])
    let stop ← add (.pass 0)
    link start p.start
    link start stop
    link again stop
    return ⟨start, stop⟩

def atLeastOne (w : Writer Piece) : Writer Piece := do
  let p ← w
  let again ← add (.fork [])
  link p.stop again
  link again p.start
  return ⟨p.start, again⟩

def atLeast (w : Writer Piece) (readsAlways : Bool) : (count : Nat) → Writer Piece
  | 0 => anyNumber w readsAlways
  | 1 => atLeastOne w
  | count + 2 => do
    let before ← exactly w (count + 1)
    let last ← atLeastOne w
    link before.stop last.start
    return ⟨before.start, last.stop⟩

/-- Writes `count` more pieces behind the state `last`; before each there is a way to `stop`. -/
def furtherOptional (w : Writer Piece) (stop : Nat) : (count last : Nat) → Writer Nat
  | 0, last => return last
  | count + 1, last => do
    let fork ← add (.fork [])
    let p ← w
    link last fork
    link fork p.start
    link fork stop
    furtherOptional w stop count p.stop

def between (w : Writer Piece) (min max : Nat) : Writer Piece := do
  let before ← exactly w min
  let stop ← add (.pass 0)
  let last ← furtherOptional w stop (max - min) before.stop
  link last stop
  return ⟨before.start, stop⟩

def repeated (w : Writer Piece) (readsAlways : Bool) (min : Nat) (max : Option Nat) :
    Writer Piece :=
  match max with
  | none => atLeast w readsAlways min
  | some most =>
    if min = 0 ∧ most = 1 then optional w
    else if min = most then exactly w min
    else between w min most

/-- A piece between two states that mark where a captured stretch begins and ends. -/
def captured (w : Writer Piece) : Writer Piece := do
  let start ← add (.pass 0)
  let p ← w
  let stop ← add (.pass 0)
  link start p.start
  link p.stop stop
  return ⟨start, stop⟩

/-! ## Sets of characters -/

/-- Which end of the text a program begins to read from. -/
inductive Direction where
  | forward
  | backward
  deriving DecidableEq

def Direction.order {α : Type} (d : Direction) (as : List α) : List α :=
  match d with
  | forward => as
  | backward => as.reverse

/-- Mixes a number into a hash (FNV-1a). -/
def mix (hash : UInt64) (n : UInt64) : UInt64 := (hash ^^^ n) * 1099511628211

def emptyHash : UInt64 := 14695981039346656037

/-- Slots for states that can be shared by the sequences of a set. A slot holds the state that was
put there last, under its contents. -/
abbrev Shelf (α : Type) := Std.HashMap UInt64 (α × Nat)

/-- The state with the given contents: one that stands in its slot, or else a new one. -/
def shared {α : Type} [DecidableEq α] (slot : UInt64) (contents : α) (state : State) :
    StateT (Shelf α) Writer Nat := do
  match (← get)[slot]? with
  | some (known, i) => if known = contents then return i
  | none => pure ()
  let i ← add state
  modify (·.insert slot (contents, i))
  return i

/-- A state with the given steps, shared if it can be. -/
def sharedSteps (steps : List Step) : StateT (Shelf (List Step)) Writer Nat :=
  let hash := steps.foldl (fun h s =>
    mix (mix (mix h s.range.first.toUInt64) s.range.last.toUInt64) s.next.toUInt64) emptyHash
  shared (hash % 10000) steps (.bytes steps)

/-- A state to which sequences may still add: its steps, the last one first, and the range of a
step whose target is not yet complete. -/
structure Growing where
  steps : List Step
  pending : Option ByteRange

def Growing.completed (g : Growing) (target : Nat) : List Step :=
  match g.pending with
  | some range => ⟨range, target⟩ :: g.steps
  | none => g.steps

/-- Completes a chain of growing states, from its end. -/
def complete (stop : Nat) : List Growing → StateT (Shelf (List Step)) Writer Nat
  | [] => return stop
  | g :: gs => do
    let target ← complete stop gs
    sharedSteps (g.completed target).reverse

/-- Adds a sequence that is greater than those before it: what lies behind the place where it
leaves the chain cannot grow any more. -/
def grow (stop : Nat) : List ByteRange → List Growing →
    StateT (Shelf (List Step)) Writer (List Growing)
  | range :: ranges, g :: gs => do
    if g.pending = some range then
      return g :: (← grow stop ranges gs)
    else
      let target ← complete stop gs
      return ⟨g.completed target, some range⟩ :: ranges.map fun r => ⟨[], some r⟩
  | _, gs => return gs

/-- Reads the sequences from their first bytes; what they begin and end with in common is shared. -/
def charsForward (sequences : List (List ByteRange)) : Writer Piece := do
  let stop ← add (.pass 0)
  let writing : StateT (Shelf (List Step)) Writer Nat := do
    let chain ← sequences.foldlM (fun chain sequence => grow stop sequence chain) [⟨[], none⟩]
    complete stop chain
  let (start, _) ← writing.run {}
  return ⟨start, stop⟩

/-- Reads the sequences from their last bytes; what they begin with in common is shared. -/
def charsBackward (sequences : List (List ByteRange)) : Writer Piece := do
  let start ← add (.fork [])
  let stop ← add (.pass 0)
  let step (target : Nat) (range : ByteRange) : StateT (Shelf Step) Writer Nat :=
    let hash :=
      mix (mix (mix emptyHash target.toUInt64) range.first.toUInt64) range.last.toUInt64
    shared (hash % 1000) ⟨range, target⟩ (.byte ⟨range, target⟩)
  let writing : StateT (Shelf Step) Writer Unit :=
    sequences.forM fun sequence => do link start (← sequence.foldlM step stop)
  let _ ← writing.run {}
  return ⟨start, stop⟩

def chars (d : Direction) (s : CharSet) : Writer Piece := do
  if s.isAscii then
    let stop ← add (.pass 0)
    let start ← add <| .bytes <| s.stretches.map fun r =>
      ⟨⟨r.first.toUInt8, r.last.toUInt8⟩, stop⟩
    return ⟨start, stop⟩
  else match d with
    | .forward => charsForward (Utf8.sequences s)
    | .backward => charsBackward (Utf8.sequences s)

end Umbra.Program
