import Umbra.Text.Blank

/-!
# Collapsed texts

A collapsed text consists of words with one space between two of them. Collapsing gives such a text,
or the empty one if there is no word, and changes nothing in it.
-/

namespace Umbra.Text

/-- A text of words with one space between two of them; at least one word. -/
inductive Collapsed : List Char → Prop
  | last {c : Char} (hc : isBlank c = false) : Collapsed [c]
  | next {c : Char} {s : List Char} (hc : isBlank c = false) (rest : Collapsed s) : Collapsed (c :: s)
  | space {c : Char} {s : List Char} (hc : isBlank c = false) (rest : Collapsed s) :
    Collapsed (c :: ' ' :: s)

/-! ## Words in front of a collapsed text -/

section Word

variable {w s : List Char}

/-- A word: without white space, and not empty. -/
def IsWord (w : List Char) : Prop := w ≠ [] ∧ ∀ c ∈ w, isBlank c = false

theorem IsWord.induction {P : List Char → Prop} (hw : IsWord w)
    (one : ∀ c, isBlank c = false → P [c])
    (more : ∀ c v, isBlank c = false → P v → P (c :: v)) : P w := by
  obtain ⟨hne, hw⟩ := hw
  induction w with
  | nil => exact absurd rfl hne
  | cons c w ih =>
    obtain ⟨hc, hw⟩ := List.forall_mem_cons.1 hw
    cases w with
    | nil => exact one c hc
    | cons d w => exact more c _ hc (ih (List.cons_ne_nil _ _) hw)

theorem IsWord.collapsed (hw : IsWord w) : Collapsed w :=
  hw.induction (fun _ => .last) fun _ _ => .next

theorem IsWord.collapsed_append (hw : IsWord w) (hs : Collapsed s) : Collapsed (w ++ s) :=
  hw.induction (P := fun v => Collapsed (v ++ s)) (fun _ hc => .next hc hs) fun _ _ => .next

theorem IsWord.collapsed_space (hw : IsWord w) (hs : Collapsed s) : Collapsed (w ++ ' ' :: s) :=
  hw.induction (P := fun v => Collapsed (v ++ ' ' :: s)) (fun _ hc => .space hc hs)
    fun _ _ => .next

end Word

/-! ## Collapsing -/

theorem stretches_ne_nil (s : List Char) : stretches s ≠ [] := by
  cases s with
  | nil => exact List.cons_ne_nil _ _
  | cons c s =>
    rw [stretches]
    split
    · exact List.cons_ne_nil _ _
    · split <;> exact List.cons_ne_nil _ _

theorem not_isBlank_of_mem_stretches {s w : List Char} (hw : w ∈ stretches s) :
    ∀ c ∈ w, isBlank c = false := by
  induction s generalizing w with
  | nil =>
    rw [stretches, List.mem_singleton] at hw
    simp [hw]
  | cons d s ih =>
    rw [stretches] at hw
    split at hw
    · rcases List.mem_cons.1 hw with rfl | hw
      · simp
      · exact ih hw
    · rename_i hd
      rw [Bool.not_eq_true] at hd
      cases hs : stretches s with
      | nil => exact absurd hs (stretches_ne_nil s)
      | cons v ws =>
        rw [hs] at hw ih
        rcases List.mem_cons.1 hw with rfl | hw
        · exact List.forall_mem_cons.2 ⟨hd, ih (List.mem_cons_self ..)⟩
        · exact ih (List.mem_cons_of_mem _ hw)

theorem mem_of_mem_stretches {s w : List Char} {c : Char} (hw : w ∈ stretches s) (hc : c ∈ w) :
    c ∈ s := by
  induction s generalizing w with
  | nil =>
    rw [stretches, List.mem_singleton] at hw
    exact hw ▸ hc
  | cons d s ih =>
    rw [stretches] at hw
    split at hw
    · rcases List.mem_cons.1 hw with rfl | hw
      · cases hc
      · exact List.mem_cons_of_mem _ (ih hw hc)
    · obtain ⟨v, vs, hs⟩ := List.exists_cons_of_ne_nil (stretches_ne_nil s)
      rw [hs] at hw ih
      rcases List.mem_cons.1 hw with rfl | hw
      · rcases List.mem_cons.1 hc with rfl | hc
        · exact List.mem_cons_self
        · exact List.mem_cons_of_mem _ (ih List.mem_cons_self hc)
      · exact List.mem_cons_of_mem _ (ih (List.mem_cons_of_mem _ hw) hc)

theorem isWord_of_mem_words {s w : List Char} (hw : w ∈ words s) : IsWord w := by
  rw [words, List.mem_filter] at hw
  refine ⟨?_, not_isBlank_of_mem_stretches hw.1⟩
  rintro rfl
  simp at hw

theorem collapsed_intercalate {ws : List (List Char)} (hws : ∀ w ∈ ws, IsWord w) (hne : ws ≠ []) :
    Collapsed ([' '].intercalate ws) := by
  induction ws with
  | nil => exact absurd rfl hne
  | cons w ws ih =>
    obtain ⟨hw, hws⟩ := List.forall_mem_cons.1 hws
    cases ws with
    | nil => simpa using hw.collapsed
    | cons v ws =>
      rw [List.intercalate_cons_cons, List.append_assoc]
      exact hw.collapsed_space (ih hws (List.cons_ne_nil _ _))

theorem mem_of_mem_intercalate {sep : List Char} {ws : List (List Char)} {c : Char}
    (hc : c ∈ sep.intercalate ws) : c ∈ sep ∨ ∃ w ∈ ws, c ∈ w := by
  induction ws with
  | nil => cases hc
  | cons w ws ih =>
    cases ws with
    | nil => exact Or.inr ⟨w, List.mem_cons_self, by simpa using hc⟩
    | cons v ws =>
      rw [List.intercalate_cons_cons, List.mem_append, List.mem_append] at hc
      rcases hc with (hc | hc) | hc
      · exact Or.inr ⟨w, List.mem_cons_self, hc⟩
      · exact Or.inl hc
      · obtain hsep | ⟨u, hu, hc⟩ := ih hc
        · exact Or.inl hsep
        · exact Or.inr ⟨u, List.mem_cons_of_mem _ hu, hc⟩

/-- Collapsing brings in no character but the space. -/
theorem mem_of_mem_collapse {s : List Char} {c : Char} (hc : c ∈ collapse s) : c = ' ' ∨ c ∈ s := by
  obtain hspace | ⟨w, hw, hc⟩ := mem_of_mem_intercalate hc
  · exact Or.inl (List.mem_singleton.1 hspace)
  · exact Or.inr (mem_of_mem_stretches (List.mem_filter.1 hw).1 hc)

theorem collapse_cases (s : List Char) : collapse s = [] ∨ Collapsed (collapse s) := by
  rw [collapse]
  by_cases hne : words s = []
  · rw [hne]
    exact Or.inl rfl
  · exact Or.inr (collapsed_intercalate (fun _ => isWord_of_mem_words) hne)

namespace Collapsed

variable {s : List Char}

/-- The stretches of a collapsed text are not empty, and it is put together of them again. -/
theorem stretches_spec (h : Collapsed s) :
    [] ∉ stretches s ∧ [' '].intercalate (stretches s) = s := by
  induction h with
  | last hc => simp [stretches, hc]
  | @next c s hc _ ih =>
    obtain ⟨hne, heq⟩ := ih
    rw [stretches, if_neg (by simp [hc])]
    cases hs : stretches s with
    | nil => exact absurd hs (stretches_ne_nil s)
    | cons w ws =>
      rw [hs] at hne heq
      refine ⟨fun hmem => hne (List.mem_cons_of_mem _ ?_), ?_⟩
      · simpa using hmem
      · rw [← heq]
        cases ws <;> simp
  | @space c s hc _ ih =>
    obtain ⟨hne, heq⟩ := ih
    have hstretches : stretches (c :: ' ' :: s) = [c] :: stretches s := by
      simp [stretches, hc, isBlank_space]
    rw [hstretches]
    refine ⟨by simpa using hne, ?_⟩
    cases hs : stretches s with
    | nil => exact absurd hs (stretches_ne_nil s)
    | cons w ws =>
      rw [hs] at heq
      rw [List.intercalate_cons_cons, heq]
      rfl

theorem collapse_eq (h : Collapsed s) : collapse s = s := by
  obtain ⟨hne, heq⟩ := h.stretches_spec
  rw [collapse, words, List.filter_eq_self.2, heq]
  intro w hw
  cases w with
  | nil => exact absurd hw hne
  | cons c w => rfl

end Collapsed

end Umbra.Text
