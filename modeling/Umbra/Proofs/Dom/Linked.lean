import Umbra.Proofs.Dom.Links
import Umbra.Dom.Walk
import Mathlib.Logic.Relation

/-!
# Documents whose links agree

`Linked` says how the links of a document belong together, `Built` how a document comes about: from
the document node alone, by operations that never move a node that has a place. Every built document
is linked, and since no node ever comes to lie in itself, the way up ends.
-/

namespace Umbra

/-- What can be a child. -/
def NodeData.isContent : NodeData → Bool
  | .element _ _ => true
  | .text _ => true
  | .comment _ => true
  | _ => false

/-- What can have children. -/
def NodeData.isContainer : NodeData → Bool
  | .document => true
  | .element _ _ => true
  | .shadowRoot _ => true
  | _ => false

namespace Dom

def IsContent (d : Dom) (id : NodeId) : Prop :=
  ∃ data, d.data? id = some data ∧ data.isContent = true

def IsContainer (d : Dom) (id : NodeId) : Prop :=
  ∃ data, d.data? id = some data ∧ data.isContainer = true

/-- Whether a node is another one or lies in it, in its tree or in a shadow tree on the way. -/
def Inside (d : Dom) : NodeId → NodeId → Prop :=
  Relation.ReflTransGen fun x y => d.up? x = some y

structure Linked (d : Dom) : Prop where
  mem_children : ∀ {p c}, c ∈ d.children p ↔ d.parent? c = some p
  nodup_children : ∀ p, (d.children p).Nodup
  next_eq : ∀ {p c before after}, d.children p = before ++ c :: after → d.next? c = after.head?
  prev_eq : ∀ {p c before after}, d.children p = before ++ c :: after → d.prev? c = before.getLast?
  alone : ∀ {c}, d.parent? c = none → d.next? c = none ∧ d.prev? c = none
  shadow_iff : ∀ {h s}, d.shadow? h = some s ↔ d.host? s = some h
  host_kind : ∀ {h s}, d.host? s = some h → d.isElement h = true ∧ d.isShadowRoot s = true
  child_kind : ∀ {c p}, d.parent? c = some p → d.IsContent c
  ranked : ∃ rank : NodeId → Nat, ∀ x y, d.up? x = some y → rank y < rank x

/-- Documents that are made by the operations, where a child is content without a place that does
not contain its new parent. -/
inductive Built : Dom → Prop
  | new : Built Dom.new
  | add {d : Dom} (built : Built d) (data : NodeData) : Built (d.add data)
  | attachShadow {d d' : Dom} {host shadow : NodeId} {mode : ShadowMode} (built : Built d)
      (attached : d.attachShadow host mode = .ok (shadow, d')) : Built d'
  | append {d : Dom} {parent child : NodeId} (built : Built d) (container : d.IsContainer parent)
      (content : d.IsContent child) (detached : d.parent? child = none)
      (outside : ¬ d.Inside parent child) : Built (d.append parent child)

/-! ## Kinds -/

section Kinds

variable {d : Dom} {id : NodeId}

theorem isShadowRoot_iff :
    d.isShadowRoot id = true ↔ ∃ mode, d.data? id = some (.shadowRoot mode) := by
  rw [isShadowRoot, mode?]
  split
  · rename_i mode h
    simp [h]
  · rename_i h
    simpa using h

theorem isElement_iff :
    d.isElement id = true ↔ ∃ tag attributes, d.data? id = some (.element tag attributes) := by
  rw [isElement, element?]
  split
  · rename_i tag attributes h
    simp [h]
  · rename_i h
    simpa using h

theorem isDocument_iff : d.isDocument id = true ↔ d.data? id = some .document := by
  rw [isDocument]
  split
  · rename_i h
    simp [h]
  · rename_i h
    simpa using h

theorem IsContent.not_shadowRoot (h : d.IsContent id) : d.isShadowRoot id = false := by
  obtain ⟨data, hd, hc⟩ := h
  by_contra hs
  obtain ⟨mode, hm⟩ := isShadowRoot_iff.1 (by simpa using hs)
  rw [hd, Option.some.injEq] at hm
  subst hm
  cases hc

theorem not_isElement_of_isShadowRoot (h : d.isShadowRoot id = true) : d.isElement id = false := by
  obtain ⟨mode, hm⟩ := isShadowRoot_iff.1 h
  simp [isElement, element?, hm]

theorem lt_size_of_isElement (h : d.isElement id = true) : id < d.size := by
  obtain ⟨_, _, hd⟩ := isElement_iff.1 h
  exact lt_size_of_data? hd

/-- The kind of a node depends on its data alone. -/
theorem isShadowRoot_congr {d' : Dom} {id' : NodeId} (h : d'.data? id' = d.data? id) :
    d'.isShadowRoot id' = d.isShadowRoot id := by
  simp only [isShadowRoot, mode?, h]

theorem isElement_congr {d' : Dom} {id' : NodeId} (h : d'.data? id' = d.data? id) :
    d'.isElement id' = d.isElement id := by
  simp only [isElement, element?, h]

theorem isDocument_congr {d' : Dom} {id' : NodeId} (h : d'.data? id' = d.data? id) :
    d'.isDocument id' = d.isDocument id := by
  simp only [isDocument, h]

end Kinds

/-! ## The way up -/

theorem up?_eq_parent? {d : Dom} {id : NodeId} (h : d.isShadowRoot id = false) :
    d.up? id = d.parent? id := by simp [up?, h]

theorem up?_eq_host? {d : Dom} {id : NodeId} (h : d.isShadowRoot id = true) :
    d.up? id = d.host? id := by simp [up?, h]

namespace Linked

variable {d : Dom} (hd : d.Linked)

include hd

theorem up?_of_parent? {c p : NodeId} (h : d.parent? c = some p) : d.up? c = some p := by
  rw [up?_eq_parent? (hd.child_kind h).not_shadowRoot, h]

theorem up?_of_host? {s h : NodeId} (hs : d.host? s = some h) : d.up? s = some h := by
  rw [up?_eq_host? (hd.host_kind hs).2, hs]

/-- One step up leads to a parent or to a host. -/
theorem up?_eq_some_iff {x y : NodeId} :
    d.up? x = some y ↔ d.parent? x = some y ∨ d.host? x = some y := by
  constructor
  · intro h
    rw [up?] at h
    split at h
    · exact Or.inr h
    · exact Or.inl h
  · rintro (h | h)
    · exact hd.up?_of_parent? h
    · exact hd.up?_of_host? h

theorem parent_lt_size {c p : NodeId} (h : d.parent? c = some p) : p < d.size :=
  lt_size_of_mem_children (hd.mem_children.2 h)

theorem up?_lt_size {x y : NodeId} (h : d.up? x = some y) : y < d.size := by
  rcases hd.up?_eq_some_iff.1 h with h | h
  · exact hd.parent_lt_size h
  · exact lt_size_of_isElement (hd.host_kind h).1

/-- No node lies in a node that lies in it. -/
theorem not_inside_of_up? {x y : NodeId} (h : d.up? x = some y) : ¬ d.Inside y x := by
  obtain ⟨rank, hrank⟩ := hd.ranked
  have le {a b : NodeId} (hab : d.Inside a b) : rank b ≤ rank a := by
    induction hab with
    | refl => exact Nat.le_refl _
    | tail _ hs ih => exact Nat.le_trans (Nat.le_of_lt (hrank _ _ hs)) ih
  intro hyx
  exact absurd (le hyx) (Nat.not_le_of_lt (hrank _ _ h))

end Linked

end Dom

end Umbra
