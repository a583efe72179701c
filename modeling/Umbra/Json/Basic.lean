import Umbra.Text.Ascii

/-!
JSON values. A value keeps what its text says and no more: a number stays the literal that was
written, and a string that holds half of a surrogate pair has no text.
-/

namespace Umbra

/-- A number literal, digit by digit. -/
structure JsonNumber where
  negative : Bool
  whole : List Char
  fraction : List Char
  /-- The sign and the digits of the exponent. -/
  exponent : Option (Bool × List Char)
  /-- Whether a decimal point was written. -/
  pointed : Bool

namespace JsonNumber

/-- The value of a literal that is written as a natural number. -/
def natural? (n : JsonNumber) : Option Nat :=
  if n.negative || n.pointed || n.exponent.isSome then none
  else some (Text.decimalValue n.whole)

/-- Significant digits, read as one integer, and the power of ten by which it is scaled. -/
structure Significand where
  value : Nat
  scale : Int

/-- Adds a digit before the point, if the value stays below the limit. The digits behind one that
was left out are left out as well, and only scale the value. -/
def Significand.wholeDigit (s : Significand) (c : Char) : Significand :=
  let value := s.value * 10 + (c.toNat - '0'.toNat)
  if s.scale = 0 ∧ value < UInt64.size then ⟨value, 0⟩ else ⟨s.value, s.scale + 1⟩

/-- Adds the digits behind the point, up to the first that leads over the limit. -/
def Significand.fraction (s : Significand) : List Char → Significand
  | [] => s
  | c :: cs =>
    let value := s.value * 10 + (c.toNat - '0'.toNat)
    if value < UInt64.size then Significand.fraction ⟨value, s.scale - 1⟩ cs else s

def exponentValue (n : JsonNumber) : Int :=
  match n.exponent with
  | none => 0
  | some (down, digits) => if down then -Text.decimalValue digits else Text.decimalValue digits

def significand (n : JsonNumber) : Significand :=
  let s := (n.whole.foldl Significand.wholeDigit ⟨0, 0⟩).fraction n.fraction
  ⟨s.value, s.scale + n.exponentValue⟩

/-- The double-precision number nearest to `n`, of two the one with an even significand. -/
def nearestDouble (n : Nat) : Nat :=
  let unit := Nat.pow 2 (n.log2 - 52)
  let down := n / unit
  let twiceRest := 2 * (n % unit)
  if unit < twiceRest || (twiceRest = unit && down % 2 = 1) then (down + 1) * unit
  else down * unit

/-- The least magnitude that no finite double-precision number is nearest to. -/
def magnitudeLimit : Nat := Nat.pow 2 1024 - Nat.pow 2 970

/-- Whether the value of the literal is finite when it is computed in double precision, as the
product of the significand and a power of ten. A quotient is always finite. -/
def inRange (n : JsonNumber) : Bool :=
  let s := n.significand
  if s.value = 0 ∨ s.scale < 0 then true
  else if 308 < s.scale then false
  else nearestDouble s.value * nearestDouble (Nat.pow 10 s.scale.toNat) < magnitudeLimit

def write (n : JsonNumber) : List Char :=
  (if n.negative then ['-'] else []) ++ n.whole ++
    (if n.pointed then '.' :: n.fraction else []) ++
    match n.exponent with
    | none => []
    | some (down, digits) => 'e' :: (if down then ['-'] else []) ++ digits

end JsonNumber

inductive Json where
  | null
  | bool (value : Bool)
  | number (value : JsonNumber)
  | string (text : Option String)
  | array (items : List Json)
  | object (members : List (Option String × Json))

end Umbra
