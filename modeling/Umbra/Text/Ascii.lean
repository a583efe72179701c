/-!
Case folding of the letters A to Z alone. Element names, attribute names and the names of
pseudo-classes are compared in this way.
-/

namespace Umbra.Text

/-- `Char.toLower` moves the letters A to Z and nothing else. -/
def asciiLower (s : List Char) : List Char := s.map Char.toLower

def asciiLowered (s : String) : String := String.ofList (asciiLower s.toList)

def asciiEqual (s t : String) : Bool := asciiLower s.toList == asciiLower t.toList

def isAsciiDigit (c : Char) : Bool := '0' ≤ c && c ≤ '9'

def isAsciiLetter (c : Char) : Bool := ('a' ≤ c && c ≤ 'z') || ('A' ≤ c && c ≤ 'Z')

def isAscii (c : Char) : Bool := c.toNat < 128

/-- The value of a hexadecimal digit of either case. -/
def hexDigit? (c : Char) : Option Nat :=
  if '0' ≤ c && c ≤ '9' then some (c.toNat - '0'.toNat)
  else if 'a' ≤ c && c ≤ 'f' then some (c.toNat - 'a'.toNat + 10)
  else if 'A' ≤ c && c ≤ 'F' then some (c.toNat - 'A'.toNat + 10)
  else none

def isHexDigit (c : Char) : Bool := (hexDigit? c).isSome

/-- The number that a run of hexadecimal digits denotes, most significant first. -/
def hexValue (digits : List Char) : Nat :=
  digits.foldl (fun n c => n * 16 + (hexDigit? c).getD 0) 0

/-- The number that a run of decimal digits denotes, most significant first. -/
def decimalValue (digits : List Char) : Nat :=
  digits.foldl (fun n c => n * 10 + (c.toNat - '0'.toNat)) 0

/-- The lower-case hexadecimal digits of a number, without leading zeros. -/
def hexDigits (n : Nat) : List Char := Nat.toDigits 16 n

/-- A letter from A to Z is moved behind them, anything else stays. -/
theorem toLower_cases (c : Char) :
    (65 ≤ c.toNat ∧ c.toNat ≤ 90 ∧ c.toLower.toNat = c.toNat + 32) ∨
      ((c.toNat < 65 ∨ 90 < c.toNat) ∧ c.toLower = c) := by
  by_cases h : c.val ≥ 'A'.val ∧ c.val ≤ 'Z'.val
  · have hval : c.toLower.val = c.val + 32 := by
      delta Char.toLower
      rw [dif_pos h]
      rfl
    have h1 : 65 ≤ c.toNat := UInt32.le_iff_toNat_le.1 h.1
    have h2 : c.toNat ≤ 90 := UInt32.le_iff_toNat_le.1 h.2
    have hsum : c.toLower.toNat = (c.toNat + 32) % 2 ^ 32 := by
      rw [Char.toNat, hval, UInt32.toNat_add]
      rfl
    exact Or.inl ⟨h1, h2, by omega⟩
  · have hlower : c.toLower = c := by
      delta Char.toLower
      rw [dif_neg h]
    rw [ge_iff_le, UInt32.le_iff_toNat_le, UInt32.le_iff_toNat_le] at h
    have hA : 'A'.val.toNat = 65 := rfl
    have hZ : 'Z'.val.toNat = 90 := rfl
    have hc : c.val.toNat = c.toNat := rfl
    exact Or.inr ⟨by omega, hlower⟩

theorem toLower_toLower (c : Char) : c.toLower.toLower = c.toLower := by
  rcases toLower_cases c with ⟨h65, h90, hc⟩ | ⟨-, hc⟩
  · rcases toLower_cases c.toLower with ⟨-, hle, -⟩ | ⟨-, hlower⟩
    · omega
    · exact hlower
  · rw [hc, hc]

theorem asciiLower_asciiLower (s : List Char) : asciiLower (asciiLower s) = asciiLower s := by
  simp only [asciiLower, List.map_map]
  exact List.map_congr_left fun c _ => toLower_toLower c

theorem asciiEqual_refl (s : String) : asciiEqual s s = true := by simp [asciiEqual]

theorem asciiEqual_iff {s t : String} : asciiEqual s t = true ↔ asciiLowered s = asciiLowered t := by
  simp only [asciiEqual, asciiLowered, beq_iff_eq]
  exact ⟨fun h => by rw [h], fun h => by simpa using congrArg String.toList h⟩

end Umbra.Text
