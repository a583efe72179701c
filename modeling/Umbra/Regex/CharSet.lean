import Umbra.Unicode.CodePoints
import Umbra.Unicode.Folding

/-!
Sets of characters. A set is the list of its stretches of code points, in increasing order and with
something between any two of them. The surrogates are code points of no character: next to the
character below them stands the character above them.
-/

namespace Umbra

open Unicode (Stretch lastCodePoint)

structure CharSet where
  stretches : List Stretch
  deriving DecidableEq

namespace CharSet

/-- Whether one of the stretches, which are in increasing order, covers a code point. -/
def anyCovers : List Stretch → Nat → Bool
  | [], _ => false
  | s :: rest, n => s.first ≤ n && (n ≤ s.last || anyCovers rest n)

def mem (s : CharSet) (c : Char) : Bool := anyCovers s.stretches c.toNat

/-- Joins a stretch and those behind it, wherever one overlaps or touches the next. -/
def joinTouching (r : Stretch) : List Stretch → List Stretch
  | [] => [r]
  | s :: rest =>
    if s.first ≤ r.last + 1 then joinTouching ⟨r.first, max r.last s.last⟩ rest
    else r :: joinTouching s rest

/-- The set of the code points that stretches cover, which are ordered by their starts. -/
def ofOrdered : List Stretch → CharSet
  | [] => ⟨[]⟩
  | r :: rest => ⟨joinTouching r rest⟩

/-- What is left of a stretch without the surrogates at its ends. -/
def withoutSurrogates? (s : Stretch) : Option Stretch :=
  let first := if 0xD800 ≤ s.first && s.first ≤ 0xDFFF then 0xE000 else s.first
  let last := if 0xD800 ≤ s.last && s.last ≤ 0xDFFF then 0xD7FF else s.last
  if first ≤ last then some ⟨first, last⟩ else none

/-- The characters in stretches of a table, which are in order. -/
def ofTable (stretches : List Stretch) : CharSet :=
  ⟨(ofOrdered stretches).stretches.filterMap withoutSurrogates?⟩

def empty : CharSet := ⟨[]⟩

def all : CharSet := ⟨[⟨0, lastCodePoint⟩]⟩

def range (first last : Char) : CharSet := ⟨[⟨first.toNat, last.toNat⟩]⟩

def single (c : Char) : CharSet := range c c

def isEmpty (s : CharSet) : Bool := s.stretches.isEmpty

/-- The character of a set that has no other. -/
def onlyMember? (s : CharSet) : Option Char :=
  match s.stretches with
  | [r] => if r.first = r.last then some (Char.ofNat r.first) else none
  | _ => none

/-- Whether all members are ASCII characters. -/
def isAscii (s : CharSet) : Bool := s.stretches.all fun r => r.last < 128

def union (s t : CharSet) : CharSet :=
  ofOrdered (s.stretches.merge t.stretches fun r q => r.first ≤ q.first)

def unions (ss : List CharSet) : CharSet := ss.foldr union empty

def ofList (cs : List Char) : CharSet := unions (cs.map single)

/-- The stretches that two lists of stretches have in common. -/
def common (rs qs : List Stretch) : List Stretch :=
  match rs, qs with
  | r :: rs', q :: qs' =>
    let rest := if r.last < q.last then common rs' (q :: qs') else common (r :: rs') qs'
    let shared : Stretch := ⟨max r.first q.first, min r.last q.last⟩
    if shared.first ≤ shared.last then shared :: rest else rest
  | _, _ => []
termination_by rs.length + qs.length

def inter (s t : CharSet) : CharSet := ⟨common s.stretches t.stretches⟩

/-- The code point of the next character. -/
def following (n : Nat) : Nat := if n = 0xD7FF then 0xE000 else n + 1

/-- The code point of the character before. -/
def preceding (n : Nat) : Nat := if n = 0xE000 then 0xD7FF else n - 1

/-- What the second list of stretches leaves of the first. -/
def remainder (rs qs : List Stretch) : List Stretch :=
  match rs, qs with
  | [], _ => []
  | rs, [] => rs
  | r :: rs', q :: qs' =>
    if q.last < r.first then remainder (r :: rs') qs'
    else if r.last < q.first then r :: remainder rs' (q :: qs')
    else
      let rest :=
        if q.last < r.last then remainder (⟨following q.last, r.last⟩ :: rs') qs'
        else remainder rs' (q :: qs')
      if r.first < q.first then ⟨r.first, preceding q.first⟩ :: rest else rest
termination_by rs.length + qs.length

def difference (s t : CharSet) : CharSet := ⟨remainder s.stretches t.stretches⟩

def symmetricDifference (s t : CharSet) : CharSet := (s.union t).difference (s.inter t)

/-- The stretch between two code points, given in either order. -/
def spanning (m n : Nat) : Stretch := ⟨min m n, max m n⟩

/-- The gaps behind a stretch that ends with `last`. Two stretches that have only the surrogates
between them leave the characters on both sides of the surrogates in a gap. -/
def gapsBehind (last : Nat) : List Stretch → List Stretch
  | [] => if last < lastCodePoint then [⟨following last, lastCodePoint⟩] else []
  | s :: rest => spanning (following last) (preceding s.first) :: gapsBehind s.last rest

def complement (s : CharSet) : CharSet :=
  match s.stretches with
  | [] => all
  | r :: rest =>
    let gaps := gapsBehind r.last rest
    ⟨if 0 < r.first then ⟨0, preceding r.first⟩ :: gaps else gaps⟩

/-- The set of the given code points, in any order. -/
def ofCodePoints (ns : List Nat) : CharSet :=
  ofOrdered ((ns.mergeSort fun m n => m ≤ n).map fun n => ⟨n, n⟩)

/-- Adds every code point that is paired, directly or through the second of a pair, with one of the
set. -/
def closedUnder (pairs : List (Nat × Nat)) (s : CharSet) : CharSet :=
  let reached := ofCodePoints <| pairs.filterMap fun (n, image) =>
    if anyCovers s.stretches n || anyCovers s.stretches image then some image else none
  let sources := ofCodePoints <| pairs.filterMap fun (n, image) =>
    if anyCovers reached.stretches image then some n else none
  s.union (reached.union sources)

def foldPairs : List (Nat × Nat) := Unicode.foldRuns.flatMap (·.pairs)

/-- With every character also its case variants. -/
def folded (s : CharSet) : CharSet := s.closedUnder foldPairs

def asciiFoldPairs : List (Nat × Nat) :=
  Unicode.CaseRun.pairs ⟨'A'.toNat, 'Z'.toNat, 1, 'a'.toNat⟩

/-- With every ASCII letter also its other case. -/
def asciiFolded (s : CharSet) : CharSet := s.closedUnder asciiFoldPairs

end CharSet

end Umbra
