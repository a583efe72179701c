import Umbra.Regex.Property

/-! Conditions that a regular expression puts on a place in the text, without reading on. -/

namespace Umbra

/-- A condition on a place in the text. -/
inductive Look where
  | textStart
  | textEnd
  | lineStart (carriageReturns : Bool)
  | lineEnd (carriageReturns : Bool)
  | wordBoundary (unicode : Bool)
  | notWordBoundary (unicode : Bool)
  | wordStart (unicode : Bool)
  | wordEnd (unicode : Bool)
  /-- No word character stands before the place. -/
  | wordStartHalf (unicode : Bool)
  /-- No word character stands behind the place. -/
  | wordEndHalf (unicode : Bool)
  deriving DecidableEq

/-- A place in a text, by the characters before and behind it. -/
structure Surroundings where
  prev : Option Char
  next : Option Char

namespace Look

def isWord (unicode : Bool) (c : Option Char) : Bool :=
  c.any fun c => (unicode || Text.isAscii c) && CharSet.isWordChar c

def holds (l : Look) (place : Surroundings) : Bool :=
  match l with
  | textStart => place.prev.isNone
  | textEnd => place.next.isNone
  | lineStart false => place.prev.isNone || place.prev == some '\n'
  | lineStart true =>
    place.prev.isNone || place.prev == some '\n' ||
      (place.prev == some '\r' && place.next != some '\n')
  | lineEnd false => place.next.isNone || place.next == some '\n'
  | lineEnd true =>
    place.next.isNone || place.next == some '\r' ||
      (place.next == some '\n' && place.prev != some '\r')
  | wordBoundary unicode => isWord unicode place.prev != isWord unicode place.next
  | notWordBoundary unicode => isWord unicode place.prev == isWord unicode place.next
  | wordStart unicode => !isWord unicode place.prev && isWord unicode place.next
  | wordEnd unicode => isWord unicode place.prev && !isWord unicode place.next
  | wordStartHalf unicode => !isWord unicode place.prev
  | wordEndHalf unicode => !isWord unicode place.next

end Look

end Umbra
