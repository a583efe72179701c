import Umbra.Text.Ascii
import Umbra.Text.Blank

/-!
Positions of the form A·n + B, for n = 0, 1, 2, …: how they are written, read and tested.
-/

namespace Umbra.Selector

structure Nth where
  step : Int32
  first : Int32
  deriving DecidableEq

/-- The decimal digits of an integer, with a minus sign in front of a negative one. -/
def writeInt (i : Int32) : List Char :=
  (if i.toInt < 0 then ['-'] else []) ++ Nat.toDigits 10 i.toInt.natAbs

/-- Reads an optional sign and digits, within 32 bits. -/
def readInt? (s : List Char) : Option Int32 :=
  let (negative, digits) := match s with
    | '-' :: t => (true, t)
    | '+' :: t => (false, t)
    | _ => (false, s)
  if digits.isEmpty || !digits.all Text.isAsciiDigit then none
  else
    let value : Int :=
      if negative then -Text.decimalValue digits else Text.decimalValue digits
    if Int32.minValue.toInt ≤ value ∧ value ≤ Int32.maxValue.toInt then some (Int32.ofInt value)
    else none

namespace Nth

def odd : Nth := ⟨2, 1⟩

def even : Nth := ⟨2, 0⟩

/-- The number before the `n`: with no digits it is one. -/
def readStep? (s : List Char) : Option Int32 :=
  match s with
  | [] => some 1
  | ['+'] => some 1
  | ['-'] => some (-1)
  | _ => readInt? s

/-- The number behind the `n`: it has a sign, or is not there. -/
def readFirst? (s : List Char) : Option Int32 :=
  match s with
  | [] => some 0
  | c :: _ => if c = '+' || c = '-' then readInt? s else none

/-- Reads an expression, without regard to white space and ASCII case. -/
def parse? (s : List Char) : Option Nth :=
  let compact := Text.asciiLower (s.filter fun c => !Text.isBlank c)
  if compact = ['o', 'd', 'd'] then some odd
  else if compact = ['e', 'v', 'e', 'n'] then some even
  else match compact.dropWhile (· != 'n') with
    | [] => do return ⟨0, ← readInt? compact⟩
    | _ :: rest => do
      return ⟨← readStep? (compact.takeWhile (· != 'n')), ← readFirst? rest⟩

def write (n : Nth) : List Char :=
  if n.step = 0 then writeInt n.first
  else
    (if n.step = 1 then [] else if n.step = -1 then ['-'] else writeInt n.step) ++ 'n' ::
      (if n.first = 0 then []
        else if 0 < n.first then '+' :: writeInt n.first
        else writeInt n.first)

/-- Whether an index is one of the positions. The difference and the quotient are taken in 64 bits,
where they cannot overflow. -/
def holds (n : Nth) (index : Int32) : Bool :=
  if n.step = 0 then index == n.first
  else
    let difference := index.toInt64 - n.first.toInt64
    let step := n.step.toInt64
    difference % step == 0 && 0 ≤ difference / step

end Nth

end Umbra.Selector
