import Umbra.Text.Casing.LowercaseRuns
import Umbra.Text.Casing.Context

/-!
The lower-case form of a whole text, as the Unicode standard maps it without regard to language.
One character becomes two (`İ`), and a capital sigma has two lower-case forms: it is final when the
nearest character before it that is not ignorable is cased and the nearest one behind it is not.
-/

namespace Umbra.Text

/-- The simple mapping, which never looks at the neighbours. -/
def lowerSimple (c : Char) : Char :=
  match lowercaseRuns.find? fun r => r.covers c.toNat with
  | some r => Char.ofNat (r.imageOf c.toNat)
  | none => c

/-- Whether the nearest character that is not ignorable is cased. -/
def meetsCased (s : List Char) : Bool :=
  match s.dropWhile isCaseIgnorable with
  | [] => false
  | c :: _ => isCased c

/-- The lower-case form of `c`, with `before` read backwards from it and `after` onwards. -/
def lowerIn (before : List Char) (c : Char) (after : List Char) : List Char :=
  if c = 'Σ' then [if meetsCased before && !meetsCased after then 'ς' else 'σ']
  else if c = 'İ' then ['i', '\u0307']
  else [lowerSimple c]

def lowercaseFrom (before : List Char) : List Char → List Char
  | [] => []
  | c :: s => lowerIn before c s ++ lowercaseFrom (c :: before) s

def lowercase (s : List Char) : List Char := lowercaseFrom [] s

end Umbra.Text
