import Umbra.Text.Ascii

/-!
The attributes of an element: names with values, each name once.

`Attributes` has them in the order of their names, as a snapshot does. `AttributeMap` is the map that
an element of a document has. It is gone through in an order of its own, which the entries do not
determine, so two maps with the same entries may differ in it.
-/

namespace Umbra

structure Attributes where
  entries : List (String × String)
  sorted : entries.Pairwise fun a b => a.1 < b.1
  deriving DecidableEq

namespace Attributes

def empty : Attributes := ⟨[], .nil⟩

/-- Puts an entry in its place; an entry of the same name is replaced. -/
def put (name value : String) : List (String × String) → List (String × String)
  | [] => [(name, value)]
  | (n, v) :: rest =>
    if name = n then (name, value) :: rest
    else if name < n then (name, value) :: (n, v) :: rest
    else (n, v) :: put name value rest

theorem of_mem_put {name value : String} {es : List (String × String)} {e : String × String}
    (h : e ∈ put name value es) : e = (name, value) ∨ e ∈ es := by
  induction es with
  | nil => exact Or.inl (List.mem_singleton.1 h)
  | cons a es ih =>
    simp only [put] at h
    split at h
    · exact (List.mem_cons.1 h).imp_right (List.mem_cons_of_mem a)
    · split at h
      · exact List.mem_cons.1 h
      · rcases List.mem_cons.1 h with rfl | h
        · exact Or.inr (List.mem_cons_self ..)
        · exact (ih h).imp_right (List.mem_cons_of_mem a)

theorem sorted_put {name value : String} {es : List (String × String)}
    (h : es.Pairwise fun a b => a.1 < b.1) :
    (put name value es).Pairwise fun a b => a.1 < b.1 := by
  induction es with
  | nil => exact List.pairwise_singleton ..
  | cons a es ih =>
    obtain ⟨hlt, hes⟩ := List.pairwise_cons.1 h
    simp only [put]
    split
    · rename_i heq
      rw [List.pairwise_cons, heq]
      exact ⟨hlt, hes⟩
    · rename_i hne
      split
      · rename_i hname
        refine List.pairwise_cons.2 ⟨fun e he => ?_, h⟩
        rcases List.mem_cons.1 he with rfl | he
        · exact hname
        · exact String.lt_trans hname (hlt e he)
      · rename_i hname
        have hlast : a.1 < name := Std.lt_of_le_of_ne (String.not_lt.1 hname) (Ne.symm hne)
        refine List.pairwise_cons.2 ⟨fun e he => ?_, ih hes⟩
        rcases of_mem_put he with rfl | he
        · exact hlast
        · exact hlt e he

def set (as : Attributes) (name value : String) : Attributes :=
  ⟨put name value as.entries, sorted_put as.sorted⟩

/-- Of two entries with one name the later stays. -/
def ofList (entries : List (String × String)) : Attributes :=
  entries.foldl (fun as (name, value) => as.set name value) empty

theorem nodup_names (as : Attributes) : (as.entries.map Prod.fst).Nodup := by
  rw [List.Nodup, List.pairwise_map]
  refine as.sorted.imp fun {a b} hab heq => ?_
  rw [heq] at hab
  exact String.lt_irrefl b.1 hab

end Attributes

/-- The entries are in the order in which the map is gone through. -/
structure AttributeMap where
  entries : List (String × String)
  nodup : (entries.map Prod.fst).Nodup
  deriving DecidableEq

namespace AttributeMap

def empty : AttributeMap := ⟨[], .nil⟩

/-- The map that is gone through by name. -/
def ofAttributes (as : Attributes) : AttributeMap := ⟨as.entries, as.nodup_names⟩

/-- Of two entries with one name the later stays. -/
def ofList (entries : List (String × String)) : AttributeMap := ofAttributes (.ofList entries)

/-- The entries by name. -/
def sorted (m : AttributeMap) : Attributes := .ofList m.entries

/-- The value of the attribute with exactly this name. -/
def named? (m : AttributeMap) (name : String) : Option String := m.entries.lookup name

/-- The value of an attribute, by its exact name or else by its name up to ASCII case. Where several
names are equal up to case, the first that the map comes to is taken. -/
def get? (m : AttributeMap) (name : String) : Option String :=
  match m.named? name with
  | some value => some value
  | none => (m.entries.find? fun entry => Text.asciiEqual entry.1 name).map Prod.snd

end AttributeMap

end Umbra
