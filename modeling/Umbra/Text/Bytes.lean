/-!
Places in a text. A reader works on the text that is still to be read, so a place is known by what
remains from it; towards the outside it is a byte offset in UTF-8. `offset_append` says that the
place behind a stretch of text lies at the byte length of that stretch.
-/

namespace Umbra.Text

def byteLength : List Char → Nat
  | [] => 0
  | c :: s => c.utf8Size + byteLength s

/-- The byte offset in `whole` of the place from which `rest` remains. -/
def offset (whole rest : List Char) : Nat := byteLength whole - byteLength rest

@[simp]
theorem byteLength_append (s t : List Char) :
    byteLength (s ++ t) = byteLength s + byteLength t := by
  induction s with
  | nil => simp [byteLength]
  | cons c s ih => simp [byteLength, ih, Nat.add_assoc]

theorem byteLength_eq_zero {s : List Char} : byteLength s = 0 ↔ s = [] := by
  cases s with
  | nil => exact ⟨fun _ => rfl, fun _ => rfl⟩
  | cons c s =>
    have hpos := c.utf8Size_pos
    simp only [byteLength, List.cons_ne_nil, iff_false]
    omega

@[simp]
theorem offset_append (s t : List Char) : offset (s ++ t) t = byteLength s := by
  simp [offset]

@[simp]
theorem offset_self (s : List Char) : offset s s = 0 := by simp [offset]

end Umbra.Text
