import Umbra.Regex.CharSet

/-!
The UTF-8 forms of sets of characters: as few sequences of byte ranges as there can be, in
increasing order, such that a character belongs to the set when its bytes lie in the ranges of one
of the sequences.
-/

namespace Umbra

/-- A range of bytes, both ends included. -/
structure ByteRange where
  first : UInt8
  last : UInt8
  deriving DecidableEq

namespace Utf8

open Unicode (Stretch)

def encode (n : Nat) : List UInt8 := String.utf8EncodeChar (Char.ofNat n)

/-- Cuts a stretch behind the code point `last`, if it goes on there. -/
def cutBehind (last : Nat) (s : Stretch) : List Stretch :=
  if s.first ≤ last && last < s.last then [⟨s.first, last⟩, ⟨last + 1, s.last⟩] else [s]

/-- The part of a stretch below the surrogates, and the part above them. -/
def cutAtSurrogates (s : Stretch) : List Stretch :=
  if 0xD7FF < s.last && s.first < 0xE000 then
    [⟨s.first, 0xD7FF⟩, ⟨0xE000, s.last⟩].filter fun r => r.first ≤ r.last
  else [s]

/-- Cuts a stretch that reaches over more than one block of the given size behind its first block,
and before its last, unless they are covered whole. -/
def cutAtBlocks (size : Nat) (s : Stretch) : List Stretch :=
  let cutBeforeLast (first : Nat) : List Stretch :=
    let lastBlock := s.last / size * size
    if first / size = s.last / size || s.last % size = size - 1 then [⟨first, s.last⟩]
    else [⟨first, lastBlock - 1⟩, ⟨lastBlock, s.last⟩]
  if s.first / size = s.last / size || s.first % size = 0 then cutBeforeLast s.first
  else
    let secondBlock := (s.first / size + 1) * size
    ⟨s.first, secondBlock - 1⟩ :: cutBeforeLast secondBlock

/-- Parts of a stretch whose characters have forms of one length, and share all bytes but a last
few that take every value between those of the two ends. -/
def parts (s : Stretch) : List Stretch :=
  let oneLength := (cutAtSurrogates s).flatMap (cutBehind 0x7F) |>.flatMap (cutBehind 0x7FF)
    |>.flatMap (cutBehind 0xFFFF)
  oneLength.flatMap fun r =>
    if r.last ≤ 0x7F then [r]
    else (cutAtBlocks 64 r).flatMap (cutAtBlocks 4096) |>.flatMap (cutAtBlocks 262144)

def sequenceOf (s : Stretch) : List ByteRange :=
  List.zipWith ByteRange.mk (encode s.first) (encode s.last)

def sequences (s : CharSet) : List (List ByteRange) :=
  (s.stretches.flatMap parts).map sequenceOf

end Utf8

end Umbra
