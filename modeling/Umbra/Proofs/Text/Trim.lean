import Umbra.Text.Blank
import Mathlib.Data.List.DropRight
import Mathlib.Data.List.TakeWhile

/-!
# White space at the ends

Trimming takes white space off the ends of a text and nothing else, and what is trimmed has none there.
-/

namespace Umbra

open Text

def Blank (s : List Char) : Prop := ∀ c ∈ s, isBlank c = true

/-- No white space anywhere. -/
def Solid (s : List Char) : Prop := ∀ c ∈ s, isBlank c = false

-- `List.decidableBAll` by name: the instance for finite types would go through all characters
instance (s : List Char) : Decidable (Blank s) :=
  List.decidableBAll (fun c => isBlank c = true) s

instance (s : List Char) : Decidable (Solid s) :=
  List.decidableBAll (fun c => isBlank c = false) s

theorem Blank.nil : Blank [] := fun _ hc => absurd hc List.not_mem_nil

theorem Blank.filter {s : List Char} (h : Blank s) : (s.filter fun c => !isBlank c) = [] :=
  List.filter_eq_nil_iff.2 fun c hc => by simp [h c hc]

theorem Blank.eq_nil {s u : List Char} (h : Blank u) (hs : Solid s) (hu : u ⊆ s) : u = [] := by
  rw [List.eq_nil_iff_forall_not_mem]
  intro c hc
  have hblank := h c hc
  rw [hs c (hu hc)] at hblank
  cases hblank

theorem Solid.filter {s : List Char} (h : Solid s) : (s.filter fun c => !isBlank c) = s :=
  List.filter_eq_self.2 fun c hc => by simp [h c hc]

/-! ## The start -/

section Start

variable {s u : List Char} {c : Char}

theorem trimStart_of_head (h : s.head?.any isBlank = false) : trimStart s = s := by
  cases s with
  | nil => rfl
  | cons c s => rw [trimStart, List.dropWhile_cons_of_neg (by simpa using h)]

theorem not_isBlank_of_trimStart {t : List Char} (h : trimStart s = c :: t) : isBlank c = false := by
  have hhead := List.head?_dropWhile_not isBlank s
  rw [trimStart] at h
  rw [h] at hhead
  simpa using hhead

theorem trimStart_of_isPrefix (h : u <+: trimStart s) : trimStart u = u := by
  cases u with
  | nil => rfl
  | cons c u =>
    obtain ⟨v, hv⟩ := h
    exact trimStart_of_head (by simpa using not_isBlank_of_trimStart hv.symm)

theorem trimStart_trimStart (s : List Char) : trimStart (trimStart s) = trimStart s :=
  trimStart_of_isPrefix List.prefix_rfl

theorem trimStart_isSuffix (s : List Char) : trimStart s <:+ s := List.dropWhile_suffix _

theorem mem_takeWhile_isBlank (s : List Char) : ∀ c ∈ s.takeWhile isBlank, isBlank c = true :=
  fun _ hc => List.mem_takeWhile_imp hc

theorem takeWhile_append_trimStart (s : List Char) : s.takeWhile isBlank ++ trimStart s = s :=
  List.takeWhile_append_dropWhile

theorem trimStart_takeWhile_append (s : List Char) (hu : trimStart u = u) :
    trimStart (s.takeWhile isBlank ++ u) = u := by
  rw [trimStart, List.dropWhile_append_of_pos (mem_takeWhile_isBlank s), ← trimStart, hu]

theorem trimStart_append (hs : trimStart s ≠ []) (t : List Char) :
    trimStart (s ++ t) = trimStart s ++ t := by
  rw [trimStart] at hs
  rw [trimStart, List.dropWhile_append, if_neg (by simpa using hs)]
  rfl

end Start

/-! ## The end -/

section End

variable {s : List Char}

theorem trimEnd_isPrefix (s : List Char) : trimEnd s <+: s := by
  have h := List.dropWhile_suffix isBlank (l := s.reverse)
  rw [← List.reverse_prefix, List.reverse_reverse] at h
  exact h

theorem trimEnd_trimEnd (s : List Char) : trimEnd (trimEnd s) = trimEnd s := by
  rw [trimEnd, trimEnd, List.reverse_reverse, List.dropWhile_idempotent]

theorem exists_trimEnd (s : List Char) : ∃ behind, Blank behind ∧ s = trimEnd s ++ behind := by
  refine ⟨(s.reverse.takeWhile isBlank).reverse, fun c hc => ?_, ?_⟩
  · exact List.mem_takeWhile_imp (List.mem_reverse.1 hc)
  · rw [trimEnd, ← List.reverse_append, List.takeWhile_append_dropWhile, List.reverse_reverse]

theorem trimEnd_append_of_last (h : s.getLast?.any isBlank = false) (t : List Char) :
    trimEnd (s ++ t) = s ++ trimEnd t := by
  rw [trimEnd, trimEnd, List.reverse_append, List.dropWhile_append]
  split
  · rename_i hempty
    rw [List.isEmpty_iff] at hempty
    have hs := trimStart_of_head (s := s.reverse) (by rwa [List.head?_reverse])
    rw [trimStart] at hs
    rw [hempty, hs, List.reverse_reverse, List.reverse_nil, List.append_nil]
  · rw [List.reverse_append, List.reverse_reverse]

theorem trimEnd_append {space : List Char} (hspace : space.all isBlank = true)
    (h : s.getLast?.any isBlank = false) : trimEnd (s ++ space) = s := by
  have hempty : trimEnd space = [] := by
    rw [trimEnd, List.reverse_eq_nil_iff, List.dropWhile_eq_nil_iff]
    exact fun c hc => List.all_eq_true.1 hspace c (List.mem_reverse.1 hc)
  rw [trimEnd_append_of_last h, hempty, List.append_nil]

theorem trimEnd_concat_space (s : List Char) : trimEnd (s ++ [' ']) = trimEnd s := by
  rw [trimEnd, List.reverse_append, List.reverse_singleton, List.singleton_append,
    List.dropWhile_cons_of_pos isBlank_space]
  rfl

end End

/-! ## Both ends -/

section Both

variable {s : List Char} {c : Char}

theorem trim_trimEnd (h : trimStart s = s) : trim (trimEnd s) = trimEnd s := by
  have hstart : trimStart (trimEnd s) = trimEnd s :=
    trimStart_of_isPrefix (by rw [h]; exact trimEnd_isPrefix s)
  rw [trim, hstart, trimEnd_trimEnd]

theorem trim_of_ends (hhead : s.head?.any isBlank = false) (hlast : s.getLast?.any isBlank = false) :
    trim s = s := by
  have hall : ([] : List Char).all isBlank = true := rfl
  rw [trim, trimStart_of_head hhead, ← List.append_nil s]
  exact (trimEnd_append hall hlast).trans (List.append_nil s).symm

theorem trim_eq_self (h : trim s = s) : trimStart s = s ∧ trimEnd s = s := by
  have hstart : trimStart s <:+ s := trimStart_isSuffix s
  have hend := trimEnd_isPrefix (trimStart s)
  rw [← trim, h] at hend
  have hs : trimStart s = s := hstart.eq_of_length_le hend.length_le
  rw [trim, hs] at h
  exact ⟨hs, h⟩

theorem filter_trim (s : List Char) :
    ((trim s).filter fun c => !isBlank c) = s.filter fun c => !isBlank c := by
  obtain ⟨behind, hbehind, hend⟩ := exists_trimEnd (trimStart s)
  have hbefore : Blank (s.takeWhile isBlank) := mem_takeWhile_isBlank s
  calc ((trim s).filter fun c => !isBlank c)
      = (trim s ++ behind).filter fun c => !isBlank c := by
        rw [List.filter_append, hbehind.filter, List.append_nil]
    _ = (trimStart s).filter fun c => !isBlank c := by rw [trim, ← hend]
    _ = (s.takeWhile isBlank ++ trimStart s).filter fun c => !isBlank c := by
        rw [List.filter_append, hbefore.filter, List.nil_append]
    _ = s.filter fun c => !isBlank c := by rw [takeWhile_append_trimStart]

theorem Solid.trim (h : Solid s) : trim s = s :=
  trim_of_ends
    ((Option.any_eq_false ..).2 fun c hc => by simp [h c (List.mem_of_head? hc)])
    ((Option.any_eq_false ..).2 fun c hc => by simp [h c (List.mem_of_getLast? hc)])

theorem not_isEmpty_trim (hc : isBlank c = false) (hs : c ∈ s) : (trim s).isEmpty = false := by
  rw [Bool.eq_false_iff, Ne, List.isEmpty_iff]
  intro hempty
  have hmem : c ∈ s.filter fun c => !isBlank c := List.mem_filter.2 ⟨hs, by simp [hc]⟩
  rw [← filter_trim, hempty] at hmem
  cases hmem

theorem trim_ne_nil (h : isBlank c = false) : (trim (c :: s)).isEmpty = false :=
  not_isEmpty_trim h (List.mem_cons_self ..)

end Both

end Umbra
