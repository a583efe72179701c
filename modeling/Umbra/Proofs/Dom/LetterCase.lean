import Umbra.Proofs.Dom.Linked
import Umbra.Query.DocumentOrder
import Mathlib.Data.List.Nodup

/-!
# Documents that differ in letter case

Two documents are equal up to case if they differ at most in the ASCII case of element names and of
attribute names. All walks along their links are the same. An attribute is looked up by its exact
name first, so the two answer alike if no element has two names that differ in case alone.
-/

namespace Umbra

/-! ## Attributes -/

namespace AttributeMap

variable {as bs : AttributeMap} {name value : String}

/-- The entries with their names in lower case. -/
def folded (as : AttributeMap) : List (String × String) :=
  as.entries.map fun entry => (Text.asciiLowered entry.1, entry.2)

/-- No two names are equal up to ASCII case. -/
def NamesApart (as : AttributeMap) : Prop := (as.folded.map Prod.fst).Nodup

instance : Decidable as.NamesApart := inferInstanceAs (Decidable (List.Nodup _))

theorem mem_folded {entry : String × String} (h : entry ∈ as.entries) :
    (Text.asciiLowered entry.1, entry.2) ∈ as.folded :=
  List.mem_map_of_mem h

theorem mem_folded_of_get? (h : as.get? name = some value) :
    (Text.asciiLowered name, value) ∈ as.folded := by
  unfold get? at h
  split at h
  · rename_i v hv
    cases h
    obtain ⟨before, after, hentries, -⟩ := List.lookup_eq_some_iff.1 hv
    exact @mem_folded as (name, value) (by simp [hentries])
  · obtain ⟨entry, hfind, rfl⟩ := Option.map_eq_some_iff.1 h
    have hname : Text.asciiEqual entry.1 name = true := by simpa using List.find?_some hfind
    rw [← Text.asciiEqual_iff.1 hname]
    exact mem_folded (List.mem_of_find?_eq_some hfind)

theorem isSome_get? (h : (Text.asciiLowered name, value) ∈ as.folded) :
    ∃ other, as.get? name = some other := by
  obtain ⟨entry, hentry, heq⟩ := List.mem_map.1 h
  unfold get?
  split
  · rename_i v _
    exact ⟨v, rfl⟩
  · have hfind : (as.entries.find? fun e => Text.asciiEqual e.1 name).isSome = true := by
      rw [List.find?_isSome]
      exact ⟨entry, hentry, Text.asciiEqual_iff.2 (congrArg Prod.fst heq)⟩
    obtain ⟨found, hfound⟩ := Option.isSome_iff_exists.1 hfind
    exact ⟨found.2, by rw [hfound, Option.map_some]⟩

/-- Among names that are apart, a look-up goes by the name in lower case. -/
theorem get?_eq_some_iff (h : as.NamesApart) :
    as.get? name = some value ↔ (Text.asciiLowered name, value) ∈ as.folded := by
  refine ⟨mem_folded_of_get?, fun hmem => ?_⟩
  obtain ⟨other, hother⟩ := isSome_get? hmem
  have heq := List.inj_on_of_nodup_map h (mem_folded_of_get? hother) hmem rfl
  rw [hother, ← (Prod.mk.inj heq).2]

theorem NamesApart.of_perm (h : as.NamesApart) (hperm : as.folded.Perm bs.folded) :
    bs.NamesApart :=
  (hperm.map Prod.fst).nodup_iff.1 h

theorem get?_eq_of_perm (h : as.NamesApart) (hperm : as.folded.Perm bs.folded) (name : String) :
    bs.get? name = as.get? name := by
  apply Option.ext
  intro value
  rw [get?_eq_some_iff h, get?_eq_some_iff (h.of_perm hperm), hperm.mem_iff]

end AttributeMap

/-! ## Nodes -/

inductive NodeData.EqUpToCase : NodeData → NodeData → Prop
  | document : EqUpToCase .document .document
  | element {s t : String} {as bs : AttributeMap} (tags : Text.asciiEqual s t = true)
      (attributes : as.folded.Perm bs.folded) : EqUpToCase (.element s as) (.element t bs)
  | shadowRoot (mode : ShadowMode) : EqUpToCase (.shadowRoot mode) (.shadowRoot mode)
  | text (content : String) : EqUpToCase (.text content) (.text content)
  | comment (content : String) : EqUpToCase (.comment content) (.comment content)

structure Node.EqUpToCase (n m : Node) : Prop where
  data : n.data.EqUpToCase m.data
  links : { m with data := n.data } = n

namespace Dom

/-- The documents differ at most in the ASCII case of element names and attribute names. -/
structure EqUpToCase (d e : Dom) : Prop where
  size_eq : e.size = d.size
  node : ∀ {id n m}, d.node? id = some n → e.node? id = some m → n.EqUpToCase m

/-- No element has two attribute names that are equal up to ASCII case. -/
def NamesApart (d : Dom) : Prop :=
  ∀ id tag attributes, d.element? id = some (tag, attributes) → attributes.NamesApart

theorem namesApart_iff {d : Dom} :
    d.NamesApart ↔ ∀ id < d.size, ∀ e ∈ d.element? id, e.2.NamesApart := by
  constructor
  · exact fun h id _ e he => h id e.1 e.2 he
  · intro h id tag attributes he
    refine h id (lt_size_of_isElement ?_) _ he
    rw [isElement, he, Option.isSome_some]

instance (d : Dom) : Decidable d.NamesApart := decidable_of_iff' _ namesApart_iff

namespace EqUpToCase

variable {d e : Dom} (h : d.EqUpToCase e)

include h

theorem node?_cases (id : NodeId) : (d.node? id = none ∧ e.node? id = none) ∨
    ∃ n m, d.node? id = some n ∧ e.node? id = some m ∧ n.EqUpToCase m := by
  have hsize := h.size_eq
  unfold size at hsize
  cases hd : d.node? id with
  | none =>
    have hlt := Array.getElem?_eq_none_iff.1 hd
    exact Or.inl ⟨rfl, Array.getElem?_eq_none (by omega)⟩
  | some n =>
    obtain ⟨hlt, -⟩ := Array.getElem?_eq_some_iff.1 hd
    have he : e.node? id = some e.nodes[id] := Array.getElem?_eq_getElem (by omega)
    exact Or.inr ⟨n, _, rfl, he, h.node hd he⟩

theorem data?_cases (id : NodeId) : (d.data? id = none ∧ e.data? id = none) ∨
    ∃ a b, d.data? id = some a ∧ e.data? id = some b ∧ a.EqUpToCase b := by
  rcases h.node?_cases id with ⟨hd, he⟩ | ⟨n, m, hd, he, hnm⟩
  · exact Or.inl ⟨by rw [data?, hd]; rfl, by rw [data?, he]; rfl⟩
  · exact Or.inr ⟨n.data, m.data, by rw [data?, hd]; rfl, by rw [data?, he]; rfl, hnm.data⟩

/-- A view of a node that does not show its data is the same. -/
theorem view_eq {α : Type} (view : Node → α) (hview : ∀ n data, view { n with data } = view n)
    (id : NodeId) : (e.node? id).map view = (d.node? id).map view := by
  rcases h.node?_cases id with ⟨hd, he⟩ | ⟨n, m, hd, he, hnm⟩
  · rw [hd, he]
  · rw [hd, he, Option.map_some, Option.map_some, ← hnm.links, hview m n.data]

theorem link_eq {α : Type} (link : Node → Option α)
    (hlink : ∀ n data, link { n with data } = link n) (x : NodeId) :
    (e.node? x).bind link = (d.node? x).bind link := by
  have hview := congrArg (Option.bind · id) (h.view_eq link hlink x)
  simpa only [Option.bind_map, Function.id_comp] using hview

/-! ## Links -/

theorem parent?_eq : e.parent? = d.parent? := funext (h.link_eq Node.parent fun _ _ => rfl)

theorem next?_eq : e.next? = d.next? := funext (h.link_eq Node.next fun _ _ => rfl)

theorem prev?_eq : e.prev? = d.prev? := funext (h.link_eq Node.prev fun _ _ => rfl)

theorem host?_eq : e.host? = d.host? := funext (h.link_eq Node.host fun _ _ => rfl)

theorem shadow?_eq : e.shadow? = d.shadow? := funext (h.link_eq Node.shadow fun _ _ => rfl)

theorem children_eq : e.children = d.children := by
  funext id
  rw [children_eq_getD, children_eq_getD, h.view_eq Node.children fun _ _ => rfl]

theorem firstChild?_eq : e.firstChild? = d.firstChild? := by
  funext id
  rw [firstChild?, firstChild?, h.children_eq]

/-! ## Kinds and contents -/

theorem mode?_eq : e.mode? = d.mode? := by
  funext id
  unfold mode?
  rcases h.data?_cases id with ⟨hd, he⟩ | ⟨a, b, hd, he, hab⟩
  · rw [hd, he]
  · rw [hd, he]
    cases hab <;> rfl

theorem isShadowRoot_eq : e.isShadowRoot = d.isShadowRoot := by
  funext id
  rw [isShadowRoot, isShadowRoot, h.mode?_eq]

theorem isDocument_eq : e.isDocument = d.isDocument := by
  funext id
  unfold isDocument
  rcases h.data?_cases id with ⟨hd, he⟩ | ⟨a, b, hd, he, hab⟩
  · rw [hd, he]
  · rw [hd, he]
    cases hab <;> rfl

theorem text?_eq : e.text? = d.text? := by
  funext id
  unfold text?
  rcases h.data?_cases id with ⟨hd, he⟩ | ⟨a, b, hd, he, hab⟩
  · rw [hd, he]
  · rw [hd, he]
    cases hab <;> rfl

theorem element?_cases (id : NodeId) : (d.element? id = none ∧ e.element? id = none) ∨
    ∃ s t as bs, d.element? id = some (s, as) ∧ e.element? id = some (t, bs) ∧
      Text.asciiEqual s t = true ∧ as.folded.Perm bs.folded := by
  unfold element?
  rcases h.data?_cases id with ⟨hd, he⟩ | ⟨a, b, hd, he, hab⟩
  · exact Or.inl ⟨by rw [hd], by rw [he]⟩
  · rw [hd, he]
    cases hab with
    | element tags attributes => exact Or.inr ⟨_, _, _, _, rfl, rfl, tags, attributes⟩
    | _ => exact Or.inl ⟨rfl, rfl⟩

theorem isElement_eq : e.isElement = d.isElement := by
  funext id
  unfold isElement
  rcases h.element?_cases id with ⟨hd, he⟩ | ⟨s, t, as, bs, hd, he, -, -⟩
  · rw [hd, he]
  · rw [hd, he, Option.isSome_some, Option.isSome_some]

/-- Names of elements are the same in lower case. -/
theorem tag?_eq (id : NodeId) :
    (e.tag? id).map Text.asciiLowered = (d.tag? id).map Text.asciiLowered := by
  unfold tag?
  rcases h.element?_cases id with ⟨hd, he⟩ | ⟨s, t, as, bs, hd, he, htags, -⟩
  · rw [hd, he]
  · simp only [hd, he, Option.map_some, Text.asciiEqual_iff.1 htags]

theorem attribute?_eq (hd : d.NamesApart) : e.attribute? = d.attribute? := by
  funext id name
  unfold attribute?
  rcases h.element?_cases id with ⟨hn, he⟩ | ⟨s, t, as, bs, hs, he, -, hperm⟩
  · rw [hn, he]
  · rw [hs, he, Option.bind_some, Option.bind_some]
    exact AttributeMap.get?_eq_of_perm (hd id s as hs) hperm name

/-! ## Walks -/

theorem linkedChildren_eq : e.linkedChildren = d.linkedChildren := by
  funext id
  rw [linkedChildren, linkedChildren, h.next?_eq, h.size_eq, h.firstChild?_eq]

theorem prevElements_eq : e.prevElements = d.prevElements := by
  funext id
  rw [prevElements, prevElements, prevSiblings, prevSiblings, h.prev?_eq, h.size_eq, h.isElement_eq]

theorem nextElements_eq : e.nextElements = d.nextElements := by
  funext id
  rw [nextElements, nextElements, nextSiblings, nextSiblings, h.next?_eq, h.size_eq, h.isElement_eq]

theorem up?_eq : e.up? = d.up? := by
  funext id
  rw [up?, up?, h.isShadowRoot_eq, h.host?_eq, h.parent?_eq]

theorem topmost_eq : e.topmost = d.topmost := by
  funext id
  rw [topmost, topmost, chain, chain, h.up?_eq, h.size_eq]

theorem inner_eq : e.inner = d.inner := by
  funext pierce id
  unfold inner openShadow?
  rw [h.shadow?_eq, h.mode?_eq, h.linkedChildren_eq]

theorem below_eq (pierce : Bool) (depth : Nat) (id : NodeId) :
    e.below pierce depth id = d.below pierce depth id := by
  induction depth generalizing id with
  | zero => rfl
  | succ depth ih =>
    unfold below
    rw [h.inner_eq]
    simp only [ih]

theorem descendants_eq : e.descendants = d.descendants := by
  funext pierce id
  rw [descendants, descendants, h.size_eq, h.below_eq]

theorem ownText_eq : e.ownText = d.ownText := by
  funext id
  unfold ownText
  rw [h.linkedChildren_eq, h.text?_eq]

theorem isContent (id : NodeId) (hid : d.IsContent id) : e.IsContent id := by
  obtain ⟨data, hdata, hcontent⟩ := hid
  rcases h.data?_cases id with ⟨hd, -⟩ | ⟨a, b, hd, he, hab⟩
  · rw [hd] at hdata
    cases hdata
  · rw [hd, Option.some.injEq] at hdata
    subst hdata
    refine ⟨b, he, ?_⟩
    cases hab <;> exact hcontent

theorem linked (hd : d.Linked) : e.Linked where
  mem_children := by rw [h.children_eq, h.parent?_eq]; exact hd.mem_children
  nodup_children := by rw [h.children_eq]; exact hd.nodup_children
  next_eq := by rw [h.children_eq, h.next?_eq]; exact hd.next_eq
  prev_eq := by rw [h.children_eq, h.prev?_eq]; exact hd.prev_eq
  alone := by rw [h.parent?_eq, h.next?_eq, h.prev?_eq]; exact hd.alone
  shadow_iff := by rw [h.shadow?_eq, h.host?_eq]; exact hd.shadow_iff
  host_kind := by rw [h.host?_eq, h.isElement_eq, h.isShadowRoot_eq]; exact hd.host_kind
  child_kind := by
    rw [h.parent?_eq]
    exact fun hp => h.isContent _ (hd.child_kind hp)
  ranked := by rw [h.up?_eq]; exact hd.ranked

/-- Both documents put their nodes in the same order. -/
theorem ofDom_eq (root : NodeId) : DocumentOrder.ofDom e root = DocumentOrder.ofDom d root := by
  unfold DocumentOrder.ofDom
  rw [h.topmost_eq, h.descendants_eq]

end EqUpToCase

end Dom

end Umbra
