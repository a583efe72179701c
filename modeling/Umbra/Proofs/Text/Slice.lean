import Umbra.Text.Bytes
import Mathlib.Data.List.Basic

/-!
# Slices of a text between bytes

A text may be cut only where a character starts or where it ends. What stands before and behind such
a place is a split of the text, and the place is the byte length of what stands before it. These are
the valid positions of the text as a string.
-/

namespace Umbra.Text

/-- What stands from the byte `n` on, if a character starts there or the text ends there. -/
def sliceFrom? : Nat → List Char → Option (List Char)
  | 0, s => some s
  | _ + 1, [] => none
  | n + 1, c :: s => if n + 1 < c.utf8Size then none else sliceFrom? (n + 1 - c.utf8Size) s

/-- What stands before the byte `n`, under the same condition. -/
def sliceTo? : Nat → List Char → Option (List Char)
  | 0, _ => some []
  | _ + 1, [] => none
  | n + 1, c :: s =>
    if n + 1 < c.utf8Size then none else (sliceTo? (n + 1 - c.utf8Size) s).map (c :: ·)

variable {n : Nat} {s before rest : List Char}

theorem sliceFrom?_append (before rest : List Char) :
    sliceFrom? (byteLength before) (before ++ rest) = some rest := by
  induction before with
  | nil => simp [byteLength, sliceFrom?]
  | cons c before ih =>
    have hpos := c.utf8Size_pos
    obtain ⟨n, hn⟩ : ∃ n, byteLength (c :: before) = n + 1 :=
      Nat.exists_eq_succ_of_ne_zero (by simp only [byteLength]; omega)
    have hlen : n + 1 = c.utf8Size + byteLength before := hn.symm
    rw [hn, List.cons_append, sliceFrom?, if_neg (by omega)]
    have hrest : n + 1 - c.utf8Size = byteLength before := by omega
    rw [hrest, ih]

theorem sliceTo?_append (before rest : List Char) :
    sliceTo? (byteLength before) (before ++ rest) = some before := by
  induction before with
  | nil => simp [byteLength, sliceTo?]
  | cons c before ih =>
    have hpos := c.utf8Size_pos
    obtain ⟨n, hn⟩ : ∃ n, byteLength (c :: before) = n + 1 :=
      Nat.exists_eq_succ_of_ne_zero (by simp only [byteLength]; omega)
    have hlen : n + 1 = c.utf8Size + byteLength before := hn.symm
    rw [hn, List.cons_append, sliceTo?, if_neg (by omega)]
    have hrest : n + 1 - c.utf8Size = byteLength before := by omega
    rw [hrest, ih, Option.map_some]

theorem exists_of_sliceFrom? (h : sliceFrom? n s = some rest) :
    ∃ before, s = before ++ rest ∧ byteLength before = n := by
  fun_induction sliceFrom? n s with
  | case1 s =>
    cases h
    exact ⟨[], rfl, rfl⟩
  | case2 => cases h
  | case3 => cases h
  | case4 n c s hn ih =>
    obtain ⟨before, rfl, hlen⟩ := ih h
    refine ⟨c :: before, rfl, ?_⟩
    rw [byteLength, hlen]
    omega

theorem utf8ByteSize_ofList (s : List Char) : (String.ofList s).utf8ByteSize = byteLength s := by
  induction s with
  | nil => rfl
  | cons c s ih =>
    rw [← List.singleton_append, String.ofList_append, String.utf8ByteSize_append, ih,
      ← String.singleton_eq_ofList, String.utf8ByteSize_singleton, byteLength_append]
    rfl

/-- A text can be cut at its valid positions and nowhere else. -/
theorem isSome_sliceFrom?_iff :
    (sliceFrom? n s).isSome = true ↔ String.Pos.Raw.IsValid (String.ofList s) ⟨n⟩ := by
  rw [Option.isSome_iff_exists, String.Pos.Raw.isValid_iff_exists_append]
  constructor
  · rintro ⟨rest, h⟩
    obtain ⟨before, rfl, rfl⟩ := exists_of_sliceFrom? h
    refine ⟨String.ofList before, String.ofList rest, String.ofList_append, ?_⟩
    rw [String.rawEndPos, utf8ByteSize_ofList]
  · rintro ⟨before, rest, hs, hn⟩
    have hs : s = before.toList ++ rest.toList := by
      rw [← String.toList_append, ← hs, String.toList_ofList]
    have hlen : n = byteLength before.toList := by
      rw [← utf8ByteSize_ofList, String.ofList_toList]
      exact congrArg String.Pos.Raw.byteIdx hn
    exact ⟨rest.toList, by rw [hs, hlen, sliceFrom?_append]⟩

/-! ## Places -/

theorem byteLength_le_of_suffix (h : rest <:+ s) : byteLength rest ≤ byteLength s := by
  obtain ⟨before, rfl⟩ := h
  rw [byteLength_append]
  exact Nat.le_add_left ..

theorem sliceFrom?_offset (h : rest <:+ s) : sliceFrom? (offset s rest) s = some rest := by
  obtain ⟨before, rfl⟩ := h
  rw [offset_append, sliceFrom?_append]

/-- The place of a place in what remains of the text. -/
theorem offset_trans {t : List Char} (h : t <:+ s) (ht : rest <:+ t) :
    offset s t + offset t rest = offset s rest := by
  have hle := byteLength_le_of_suffix h
  have hle' := byteLength_le_of_suffix ht
  simp only [offset]
  omega

/-- A place further on lies behind the bytes in between. -/
theorem offset_add (h : before ++ rest <:+ s) :
    offset s (before ++ rest) + byteLength before = offset s rest := by
  rw [← offset_trans h (List.suffix_append before rest), offset_append]

theorem offset_cons {c : Char} (h : c :: rest <:+ s) :
    offset s (c :: rest) + c.utf8Size = offset s rest :=
  @offset_add s [c] rest h

/-- One character more in front moves every place on by its length. -/
theorem offset_cons_of_suffix (c : Char) (h : rest <:+ s) :
    offset (c :: s) rest = c.utf8Size + offset s rest := by
  have hle := byteLength_le_of_suffix h
  simp only [offset, byteLength]
  omega

end Umbra.Text
