import Umbra.Proofs.Dom.Agreement
import Umbra.Proofs.Dom.Orders
import Umbra.Proofs.Dom.Visible

/-!
# Documents that differ by the names of their nodes

A part of a document that no link leaves may stand in another document under other names. It is
enough that data, child lists and shadow roots correspond: between linked documents all other links
then correspond too, and so do the walks along them. The maps of corresponding elements may have
different orders.
-/

namespace Umbra

/-- A node under the names that `f` gives to what it is linked to. -/
def Node.renamed (f : NodeId → NodeId) (n : Node) : Node where
  data := n.data
  parent := n.parent.map f
  children := n.children.map f
  next := n.next.map f
  prev := n.prev.map f
  shadow := n.shadow.map f
  host := n.host.map f

theorem filter_map_of_eq {f : NodeId → NodeId} {p q : NodeId → Bool} {l : List NodeId}
    (h : ∀ x ∈ l, q (f x) = p x) : (l.map f).filter q = (l.filter p).map f := by
  rw [List.filter_map]
  exact congrArg (List.map f) (List.filter_congr h)

namespace Dom

/-- The nodes of `part` stand in the second document under the names that `f` gives them. -/
structure Renaming (d d' : Dom) (part : NodeId → Prop) (f : NodeId → NodeId) : Prop where
  injective : ∀ {x y}, part x → part y → f x = f y → x = y
  data_eq : ∀ {x}, part x → d'.byName.data? (f x) = d.byName.data? x
  children_eq : ∀ {x}, part x → d'.children (f x) = (d.children x).map f
  shadow_eq : ∀ {x}, part x → d'.shadow? (f x) = (d.shadow? x).map f
  /-- What lies above or below a node of the part is in it. -/
  closed : ∀ {x y}, d.up? x = some y → (part x ↔ part y)
  top : ∀ {x}, part x → d.up? x = none → d'.up? (f x) = none

namespace Renaming

variable {d d' : Dom} {part : NodeId → Prop} {f : NodeId → NodeId} (h : Renaming d d' part f)

include h

theorem ordered (orders orders' : MapOrders) :
    Renaming (d.ordered orders) (d'.ordered orders') part f where
  injective := h.injective
  data_eq hx := by simpa only [ordered_ordered] using h.data_eq hx
  children_eq hx := by simpa only [children_ordered] using h.children_eq hx
  shadow_eq hx := by simpa only [shadow?_ordered] using h.shadow_eq hx
  closed hxy := h.closed (by simpa only [up?_ordered] using hxy)
  top hx hup := by
    rw [up?_ordered] at hup ⊢
    exact h.top hx hup

/-! ## Kinds -/

theorem isElement_eq {x : NodeId} (hx : part x) : d'.isElement (f x) = d.isElement x :=
  isElement_of_contents (h.data_eq hx)

theorem isShadowRoot_eq {x : NodeId} (hx : part x) : d'.isShadowRoot (f x) = d.isShadowRoot x :=
  isShadowRoot_of_contents (h.data_eq hx)

theorem text?_eq {x : NodeId} (hx : part x) : d'.text? (f x) = d.text? x :=
  text?_of_contents (h.data_eq hx)

theorem mode?_eq {x : NodeId} (hx : part x) : d'.mode? (f x) = d.mode? x :=
  mode?_of_contents (h.data_eq hx)

section Linked

variable (hd : d.Linked)

include hd

/-! ## Links -/

theorem part_parent {c p : NodeId} (hp : d.parent? c = some p) : part c ↔ part p :=
  h.closed (hd.up?_of_parent? hp)

theorem part_host {s e : NodeId} (hs : d.host? s = some e) : part s ↔ part e :=
  h.closed (hd.up?_of_host? hs)

theorem part_child {x c : NodeId} (hx : part x) (hc : c ∈ d.children x) : part c :=
  (h.part_parent hd (hd.mem_children.1 hc)).2 hx

theorem part_shadow {x s : NodeId} (hx : part x) (hs : d.shadow? x = some s) : part s :=
  (h.part_host hd (hd.shadow_iff.1 hs)).2 hx

variable (hd' : d'.Linked)

include hd'

theorem parent?_of_some {c p : NodeId} (hc : part c) (hp : d.parent? c = some p) :
    d'.parent? (f c) = some (f p) := by
  rw [← hd'.mem_children, h.children_eq ((h.part_parent hd hp).1 hc)]
  exact List.mem_map_of_mem (hd.mem_children.2 hp)

theorem host?_of_some {s e : NodeId} (hs : part s) (he : d.host? s = some e) :
    d'.host? (f s) = some (f e) := by
  rw [← hd'.shadow_iff, h.shadow_eq ((h.part_host hd he).1 hs), hd.shadow_iff.2 he, Option.map_some]

/-- What has neither parent nor host is at the top, and a shadow root has no parent. -/
theorem parent?_eq {x : NodeId} (hx : part x) : d'.parent? (f x) = (d.parent? x).map f := by
  cases hp : d.parent? x with
  | some p => exact h.parent?_of_some hd hd' hx hp
  | none =>
    cases hs : d.host? x with
    | some e => exact hd'.parent?_of_host? (h.host?_of_some hd hd' hx hs)
    | none =>
      have hup : d.up? x = none := by simp [up?, hp, hs]
      cases hp' : d'.parent? (f x) with
      | none => rfl
      | some p' =>
        have htop := h.top hx hup
        rw [hd'.up?_of_parent? hp'] at htop
        cases htop

theorem host?_eq {x : NodeId} (hx : part x) : d'.host? (f x) = (d.host? x).map f := by
  cases hs : d.host? x with
  | some e => exact h.host?_of_some hd hd' hx hs
  | none =>
    cases hs' : d'.host? (f x) with
    | none => rfl
    | some e' =>
      have hroot : d.isShadowRoot x = true := by
        rw [← h.isShadowRoot_eq hx]
        exact (hd'.host_kind hs').2
      have htop := h.top hx (by rw [up?_eq_host? hroot, hs])
      rw [hd'.up?_of_host? hs'] at htop
      cases htop

/-- A node is on its own in both documents, or has corresponding places in two child lists. -/
theorem alone_or_placed {x : NodeId} (hx : part x) :
    (d.parent? x = none ∧ d'.parent? (f x) = none) ∨
      ∃ p before after, part p ∧ d.children p = before ++ x :: after ∧
        d'.children (f p) = before.map f ++ f x :: after.map f := by
  cases hp : d.parent? x with
  | none => exact Or.inl ⟨rfl, by rw [h.parent?_eq hd hd' hx, hp, Option.map_none]⟩
  | some p =>
    obtain ⟨before, after, hplace⟩ := hd.exists_place hp
    have hpart := (h.part_parent hd hp).1 hx
    refine Or.inr ⟨p, before, after, hpart, hplace, ?_⟩
    rw [h.children_eq hpart, hplace, List.map_append, List.map_cons]

theorem next?_eq {x : NodeId} (hx : part x) : d'.next? (f x) = (d.next? x).map f := by
  rcases h.alone_or_placed hd hd' hx with ⟨hp, hp'⟩ | ⟨p, before, after, -, hplace, hplace'⟩
  · rw [(hd.alone hp).1, (hd'.alone hp').1, Option.map_none]
  · rw [hd.next_eq hplace, hd'.next_eq hplace', List.head?_map]

theorem prev?_eq {x : NodeId} (hx : part x) : d'.prev? (f x) = (d.prev? x).map f := by
  rcases h.alone_or_placed hd hd' hx with ⟨hp, hp'⟩ | ⟨p, before, after, -, hplace, hplace'⟩
  · rw [(hd.alone hp).2, (hd'.alone hp').2, Option.map_none]
  · rw [hd.prev_eq hplace, hd'.prev_eq hplace', List.getLast?_map]

theorem node?_eq_of_data {x : NodeId} (hx : part x) (hdata : d'.data? (f x) = d.data? x) :
    d'.node? (f x) = (d.node? x).map (Node.renamed f) := by
  have hchildren := h.children_eq hx
  have hshadow := h.shadow_eq hx
  have hparent := h.parent?_eq hd hd' hx
  have hhost := h.host?_eq hd hd' hx
  have hnext := h.next?_eq hd hd' hx
  have hprev := h.prev?_eq hd hd' hx
  simp only [data?, children, shadow?, parent?, host?, next?, prev?] at *
  cases hn : d.node? x with
  | none =>
    rw [hn, Option.map_none, Option.map_eq_none_iff] at hdata
    rw [hdata, Option.map_none]
  | some n =>
    rw [hn, Option.map_some, Option.map_eq_some_iff] at hdata
    obtain ⟨n', hn', hdata⟩ := hdata
    simp only [hn, hn', Option.bind_some] at *
    cases n'
    simp_all [Node.renamed]

/-- All that a node is and is linked to corresponds, but for the order of its map. -/
theorem node?_eq {x : NodeId} (hx : part x) :
    d'.byName.node? (f x) = (d.byName.node? x).map (Node.renamed f) :=
  (h.ordered .byName .byName).node?_eq_of_data (hd.ordered _) (hd'.ordered _) hx (h.data_eq hx)

/-! ## Walks -/

omit hd' in
theorem openShadow?_eq {x : NodeId} (hx : part x) :
    d'.openShadow? (f x) = (d.openShadow? x).map f := by
  rw [openShadow?, openShadow?, h.shadow_eq hx]
  cases hs : d.shadow? x with
  | none => rfl
  | some s =>
    rw [Option.map_some, Option.filter_some, Option.filter_some, h.mode?_eq (h.part_shadow hd hx hs)]
    split <;> rfl

theorem inner_eq {pierce : Bool} {x : NodeId} (hx : part x) :
    d'.inner pierce (f x) = (d.inner pierce x).map f := by
  rw [hd.inner_eq, hd'.inner_eq, List.map_append, h.children_eq hx, h.openShadow?_eq hd hx]
  congr 1
  cases hs : d.openShadow? x with
  | none => cases pierce <;> rfl
  | some s =>
    have hpart : part s := (h.part_host hd (hd.openShadow?_eq_some hs).1).2 hx
    cases pierce with
    | false => rfl
    | true => exact h.children_eq hpart

omit hd' in
theorem part_inner {pierce : Bool} {x c : NodeId} (hx : part x) (hc : c ∈ d.inner pierce x) :
    part c := by
  rcases hd.mem_inner.1 hc with hp | ⟨-, s, hs, hp⟩
  · exact (h.part_parent hd hp).2 hx
  · exact (h.part_parent hd hp).2 ((h.part_host hd (hd.openShadow?_eq_some hs).1).2 hx)

omit hd' in
theorem part_descendants {pierce : Bool} {x y : NodeId} (hx : part x)
    (hy : y ∈ d.descendants pierce x) : part y := by
  rw [hd.mem_descendants] at hy
  induction hy with
  | single hc => exact h.part_inner hd hx hc
  | tail _ hc ih => exact h.part_inner hd ih hc

theorem descendants_eq {pierce : Bool} {x : NodeId} (hx : part x) :
    d'.descendants pierce (f x) = (d.descendants pierce x).map f := by
  have hlayered : Layered (d.inner pierce) d.size := hd.layered_inner
  induction x using hlayered.induction with
  | step x ih =>
    rw [hd.descendants_eq, hd'.descendants_eq, h.inner_eq hd hd' hx, List.flatMap_map,
      List.map_flatMap]
    refine List.flatMap_congr fun c hc => ?_
    rw [ih c hc (h.part_inner hd hx hc), List.map_cons]

theorem siblings_eq {x : NodeId} (hx : part x) :
    d'.prevSiblings (f x) = (d.prevSiblings x).map f ∧
      d'.nextSiblings (f x) = (d.nextSiblings x).map f := by
  rcases h.alone_or_placed hd hd' hx with ⟨hp, hp'⟩ | ⟨p, before, after, -, hplace, hplace'⟩
  · rw [hd.prevSiblings_of_alone hp, hd'.prevSiblings_of_alone hp', hd.nextSiblings_of_alone hp,
      hd'.nextSiblings_of_alone hp']
    exact ⟨rfl, rfl⟩
  · rw [hd.prevSiblings_eq hplace, hd'.prevSiblings_eq hplace', hd.nextSiblings_eq hplace,
      hd'.nextSiblings_eq hplace', List.map_reverse]
    exact ⟨rfl, rfl⟩

theorem part_sibling {x y : NodeId} (hx : part x)
    (hy : y ∈ d.prevSiblings x ∨ y ∈ d.nextSiblings x) : part y := by
  rcases h.alone_or_placed hd hd' hx with ⟨hp, -⟩ | ⟨p, before, after, hpart, hplace, -⟩
  · rw [hd.prevSiblings_of_alone hp, hd.nextSiblings_of_alone hp] at hy
    simp at hy
  · rw [hd.prevSiblings_eq hplace, hd.nextSiblings_eq hplace, List.mem_reverse] at hy
    refine h.part_child hd hpart ?_
    rw [hplace]
    exact List.mem_append.2 (hy.imp_right (List.mem_cons_of_mem x))

theorem prevElements_eq {x : NodeId} (hx : part x) :
    d'.prevElements (f x) = (d.prevElements x).map f := by
  rw [prevElements, prevElements, (h.siblings_eq hd hd' hx).1]
  exact filter_map_of_eq fun y hy => h.isElement_eq (h.part_sibling hd hd' hx (Or.inl hy))

theorem nextElements_eq {x : NodeId} (hx : part x) :
    d'.nextElements (f x) = (d.nextElements x).map f := by
  rw [nextElements, nextElements, (h.siblings_eq hd hd' hx).2]
  exact filter_map_of_eq fun y hy => h.isElement_eq (h.part_sibling hd hd' hx (Or.inr hy))

theorem linkedChildren_eq {x : NodeId} (hx : part x) :
    d'.linkedChildren (f x) = (d.linkedChildren x).map f := by
  rw [hd.linkedChildren_eq, hd'.linkedChildren_eq, h.children_eq hx]

theorem ownText_eq {x : NodeId} (hx : part x) : d'.ownText (f x) = d.ownText x := by
  rw [ownText, ownText, h.linkedChildren_eq hd hd' hx, List.flatMap_map, hd.linkedChildren_eq]
  refine List.flatMap_congr fun c hc => ?_
  rw [h.text?_eq (h.part_child hd hx hc)]

end Linked

end Renaming

end Dom

end Umbra
