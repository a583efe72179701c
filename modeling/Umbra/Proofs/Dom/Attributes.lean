import Umbra.Dom.Attributes
import Mathlib.Data.List.Basic
import Mathlib.Data.List.Nodup

/-!
# Attributes as a map

Attributes depend on their entries alone and not on the order in which these are put in, so nothing
is lost where a map is sorted. What stands under an exact name does not depend on the order of a map
either; among names that are equal up to case, the order decides.
-/

namespace Umbra

namespace Attributes

theorem eq_of_entries {as bs : Attributes} (h : as.entries = bs.entries) : as = bs := by
  obtain ⟨_, _⟩ := as
  obtain ⟨_, _⟩ := bs
  cases h
  rfl

/-- A new name adds one entry. -/
theorem perm_put {name value : String} {es : List (String × String)} (h : name ∉ es.map Prod.fst) :
    (put name value es).Perm ((name, value) :: es) := by
  induction es with
  | nil => exact List.Perm.refl _
  | cons e es ih =>
    rw [List.map_cons, List.mem_cons, not_or] at h
    simp only [put, if_neg h.1]
    split
    · exact List.Perm.refl _
    · exact ((ih h.2).cons e).trans (List.Perm.swap ..)

theorem perm_foldl_set {es : List (String × String)} {as : Attributes}
    (h : ((as.entries ++ es).map Prod.fst).Nodup) :
    (es.foldl (fun as (name, value) => as.set name value) as).entries.Perm (as.entries ++ es) := by
  induction es generalizing as with
  | nil => simp
  | cons e es ih =>
    obtain ⟨name, value⟩ := e
    have hperm : (as.set name value).entries.Perm ((name, value) :: as.entries) := by
      refine perm_put fun hname => ?_
      rw [List.map_append, List.map_cons] at h
      exact (List.nodup_append.1 h).2.2 name hname name (List.mem_cons_self ..) rfl
    have hall : ((as.set name value).entries ++ es).Perm (as.entries ++ (name, value) :: es) :=
      (hperm.append_right es).trans List.perm_middle.symm
    exact (ih ((hall.map Prod.fst).nodup_iff.2 h)).trans hall

/-- Attributes are made of their entries, in whatever order these come. -/
theorem ofList_of_perm {as : Attributes} {es : List (String × String)} (h : es.Perm as.entries) :
    ofList es = as := by
  have hes : ((empty.entries ++ es).map Prod.fst).Nodup := (h.map Prod.fst).nodup_iff.2 as.nodup_names
  refine eq_of_entries (List.Perm.eq_of_pairwise (fun a b _ _ hab hba => ?_) (ofList es).sorted
    as.sorted ((perm_foldl_set hes).trans h))
  exact absurd hba (String.lt_asymm hab)

end Attributes

namespace AttributeMap

variable {m m' : AttributeMap}

theorem sorted_of_perm {as : Attributes} (h : m.entries.Perm as.entries) : m.sorted = as :=
  Attributes.ofList_of_perm h

/-- Sorting changes nothing but the order. -/
theorem perm_sorted (m : AttributeMap) : m.sorted.entries.Perm m.entries :=
  @Attributes.perm_foldl_set m.entries .empty m.nodup

@[simp]
theorem sorted_ofAttributes (as : Attributes) : (ofAttributes as).sorted = as :=
  sorted_of_perm (.refl _)

/-- Two maps have the same entries just when they are the same sorted. -/
theorem sorted_eq_iff : m'.sorted = m.sorted ↔ m'.entries.Perm m.entries := by
  constructor
  · intro h
    exact m'.perm_sorted.symm.trans (h ▸ m.perm_sorted)
  · exact fun h => sorted_of_perm (h.trans m.perm_sorted.symm)

theorem named?_eq_some {name value : String} :
    m.named? name = some value ↔ (name, value) ∈ m.entries := by
  rw [named?, List.lookup_eq_some_iff]
  constructor
  · rintro ⟨before, after, hentries, -⟩
    simp [hentries]
  · intro h
    obtain ⟨before, after, hentries⟩ := List.append_of_mem h
    refine ⟨before, after, hentries, fun e he => ?_⟩
    have hnodup := m.nodup
    rw [hentries, List.map_append, List.map_cons, List.nodup_append] at hnodup
    have hne := hnodup.2.2 e.1 (List.mem_map_of_mem he) name (List.mem_cons_self ..)
    simpa using hne.symm

/-- Two maps with the same entries in different orders, and a name up to case that they answer
differently. -/
example : ∃ m m' : AttributeMap, m'.sorted = m.sorted ∧ m.get? "ID" = some "x" ∧
    m'.get? "ID" = some "y" :=
  ⟨⟨[("Id", "x"), ("iD", "y")], by decide⟩, ⟨[("iD", "y"), ("Id", "x")], by decide⟩,
    sorted_eq_iff.2 (.swap ..), by decide, by decide⟩

end AttributeMap

end Umbra
