import Umbra.Proofs.Dom.Visible

/-!
# Open shadow trees laid out

In the flat document there are no shadow roots: the children of an open shadow root stand before the
children of its host, as children of the host, and what lies in a closed shadow root lies below no
node of the document any more. Nodes keep their numbers, so where a shadow root was there is an empty
comment without a place. `Flattens` says this of a document, and `flat` is such a document.

A walk in the flat document is the walk into open shadow trees.
-/

namespace Umbra.Dom

variable {d f : Dom} {id : NodeId}

/-! ## Neighbours in a row -/

/-- What comes behind a node in a row. -/
def behind? (id : NodeId) (row : List NodeId) : Option NodeId :=
  (row.dropWhile (· != id)).tail.head?

/-- What comes before a node in a row. -/
def ahead? (id : NodeId) (row : List NodeId) : Option NodeId := (row.takeWhile (· != id)).getLast?

section Row

variable {before after : List NodeId} (h : id ∉ before)

include h

theorem bne_of_not_mem : ∀ a ∈ before, (a != id) = true := by
  rintro a ha
  rw [bne_iff_ne]
  rintro rfl
  exact h ha

theorem behind?_append : behind? id (before ++ id :: after) = after.head? := by
  rw [behind?, List.dropWhile_append_of_pos (bne_of_not_mem h),
    List.dropWhile_cons_of_neg (by simp), List.tail_cons]

theorem ahead?_append : ahead? id (before ++ id :: after) = before.getLast? := by
  rw [ahead?, List.takeWhile_append_of_pos (bne_of_not_mem h),
    List.takeWhile_cons_of_neg (by simp), List.append_nil]

end Row

/-! ## The flat document -/

/-- The children of the open shadow root of a node and then its own; nothing for shadow roots. -/
def flatChildren (d : Dom) (id : NodeId) : List NodeId :=
  if d.isShadowRoot id then []
  else (d.openShadow? id).elim [] d.children ++ d.children id

/-- The parent, or the host if the parent is an open shadow root. -/
def flatParent? (d : Dom) (id : NodeId) : Option NodeId :=
  (d.parent? id).bind fun p =>
    match d.mode? p with
    | none => some p
    | some .opened => d.host? p
    | some .closed => none

/-- The nodes that have the same parent in the flat document. -/
def flatRow (d : Dom) (id : NodeId) : List NodeId := (d.flatParent? id).elim [] d.flatChildren

def flatNode (d : Dom) (id : NodeId) (n : Node) : Node where
  data := if d.isShadowRoot id then .comment "" else n.data
  parent := d.flatParent? id
  children := d.flatChildren id
  next := behind? id (d.flatRow id)
  prev := ahead? id (d.flatRow id)

/-- The document with its open shadow trees laid out. -/
def flat (d : Dom) : Dom := ⟨d.nodes.mapIdx d.flatNode⟩

/-- The first document is the second with its open shadow trees laid out. -/
structure Flattens (f d : Dom) : Prop where
  linked : f.Linked
  size_eq : f.size = d.size
  data?_eq : ∀ {id}, d.isShadowRoot id = false → f.data? id = d.data? id
  children_eq : ∀ {id}, d.isShadowRoot id = false →
    f.children id = (d.openShadow? id).elim [] d.children ++ d.children id
  stand_in : ∀ {id}, d.isShadowRoot id = true →
    f.data? id = some (.comment "") ∧ f.children id = []

/-! ### What it is made of -/

theorem node?_flat : d.flat.node? id = (d.node? id).map (d.flatNode id) := Array.getElem?_mapIdx

theorem bind_flat {α : Type} {link : Node → Option α} {a : Option α}
    (hlink : ∀ n, link (d.flatNode id n) = a) (hout : d.node? id = none → a = none) :
    (d.flat.node? id).bind link = a := by
  rw [node?_flat]
  cases hn : d.node? id with
  | none => exact (hout hn).symm
  | some n => exact hlink n

theorem data?_flat (hid : d.isShadowRoot id = false) : d.flat.data? id = d.data? id := by
  rw [data?, data?, node?_flat, Option.map_map]
  refine congrArg (Option.map · (d.node? id)) (funext fun n => ?_)
  simp [flatNode, hid]

theorem data?_flat_of_isShadowRoot (hid : d.isShadowRoot id = true) :
    d.flat.data? id = some (.comment "") := by
  obtain ⟨mode, hmode⟩ := isShadowRoot_iff.1 hid
  obtain ⟨n, hn, -⟩ := Option.map_eq_some_iff.1 hmode
  simp [data?, node?_flat, hn, flatNode, hid]

theorem children_flat : d.flat.children id = d.flatChildren id := by
  rw [children_eq_getD, node?_flat]
  cases hn : d.node? id with
  | none => simp [flatChildren, openShadow?, shadow?, children, hn]
  | some n => rfl

theorem parent?_flat : d.flat.parent? id = d.flatParent? id :=
  bind_flat (fun _ => rfl) fun hn => by rw [flatParent?, parent?, hn]; rfl

theorem flatRow_of_alone (h : d.flatParent? id = none) : d.flatRow id = [] := by
  rw [flatRow, h, Option.elim_none]

theorem flatRow_of_not_node (hn : d.node? id = none) : d.flatRow id = [] :=
  flatRow_of_alone (by rw [flatParent?, parent?, hn]; rfl)

theorem next?_flat : d.flat.next? id = behind? id (d.flatRow id) :=
  bind_flat (fun _ => rfl) fun hn => by rw [flatRow_of_not_node hn]; rfl

theorem prev?_flat : d.flat.prev? id = ahead? id (d.flatRow id) :=
  bind_flat (fun _ => rfl) fun hn => by rw [flatRow_of_not_node hn]; rfl

theorem shadow?_flat : d.flat.shadow? id = none := bind_flat (fun _ => rfl) fun _ => rfl

theorem host?_flat : d.flat.host? id = none := bind_flat (fun _ => rfl) fun _ => rfl

/-! ### Its links -/

namespace Linked

variable (hd : d.Linked)

include hd

/-- Laid out, a node has below it what a walk into open shadow trees meets directly below it. -/
theorem flatChildren_eq (hid : d.isShadowRoot id = false) : d.flatChildren id = d.inner true id := by
  rw [flatChildren, hd.inner_eq, hid]
  rfl

theorem mem_flatChildren {p c : NodeId} :
    c ∈ d.flatChildren p ↔ d.isShadowRoot p = false ∧ c ∈ d.inner true p := by
  cases hp : d.isShadowRoot p with
  | false => simp [hd.flatChildren_eq hp]
  | true => simp [flatChildren, hp]

theorem flatParent?_eq_some_iff {p c : NodeId} :
    d.flatParent? c = some p ↔ c ∈ d.flatChildren p := by
  rw [hd.mem_flatChildren, hd.mem_inner, flatParent?, Option.bind_eq_some_iff]
  constructor
  · rintro ⟨q, hc, hq⟩
    split at hq
    · rename_i hmode
      obtain rfl := Option.some.inj hq
      exact ⟨by rw [isShadowRoot, hmode]; rfl, Or.inl hc⟩
    · rename_i hmode
      have hopen : d.openShadow? p = some q := by
        rw [openShadow?, hd.shadow_iff.2 hq]
        simp [hmode]
      refine ⟨?_, Or.inr ⟨rfl, q, hopen, hc⟩⟩
      -- a host is an element
      by_contra hp
      have he := (hd.host_kind hq).1
      rw [not_isElement_of_isShadowRoot (by simpa using hp)] at he
      cases he
    · cases hq
  · rintro ⟨hp, hc | ⟨-, s, hs, hc⟩⟩
    · rw [isShadowRoot, Option.isSome_eq_false_iff, Option.isNone_iff_eq_none] at hp
      exact ⟨p, hc, by rw [hp]⟩
    · have hmode : d.mode? s = some .opened := by simpa using (Option.filter_eq_some_iff.1 hs).2
      exact ⟨s, hc, by rw [hmode]; exact (hd.openShadow?_eq_some hs).1⟩

theorem nodup_flatChildren (p : NodeId) : (d.flatChildren p).Nodup := by
  rw [flatChildren]
  split
  · exact List.nodup_nil
  · cases hs : d.openShadow? p with
    | none => exact hd.nodup_children p
    | some s =>
      refine List.nodup_append.2 ⟨hd.nodup_children s, hd.nodup_children p, ?_⟩
      rintro a has b hbp rfl
      rw [Option.elim_some, hd.mem_children] at has
      rw [hd.mem_children, has, Option.some.injEq] at hbp
      -- the shadow root would be its own host
      subst hbp
      exact hd.not_inside_of_up? (hd.up?_of_host? (hd.openShadow?_eq_some hs).1) .refl

/-- A node stands once in its row. -/
theorem flatRow_eq {p c : NodeId} {before after : List NodeId}
    (h : d.flatChildren p = before ++ c :: after) :
    d.flatRow c = before ++ c :: after ∧ c ∉ before := by
  have hc : c ∈ d.flatChildren p := by simp [h]
  have hn := hd.nodup_flatChildren p
  rw [h] at hn
  refine ⟨by rw [flatRow, hd.flatParent?_eq_some_iff.2 hc, Option.elim_some, h], fun hb => ?_⟩
  exact (List.nodup_append.1 hn).2.2 c hb c (by simp) rfl

theorem flat : d.flat.Linked where
  mem_children {p c} := by rw [children_flat, parent?_flat, hd.flatParent?_eq_some_iff]
  nodup_children p := by
    rw [children_flat]
    exact hd.nodup_flatChildren p
  next_eq {p c before after} h := by
    rw [children_flat] at h
    obtain ⟨hrow, hc⟩ := hd.flatRow_eq h
    rw [next?_flat, hrow, behind?_append hc]
  prev_eq {p c before after} h := by
    rw [children_flat] at h
    obtain ⟨hrow, hc⟩ := hd.flatRow_eq h
    rw [prev?_flat, hrow, ahead?_append hc]
  alone {c} h := by
    rw [parent?_flat] at h
    rw [next?_flat, prev?_flat, flatRow_of_alone h]
    exact ⟨rfl, rfl⟩
  shadow_iff {h s} := by simp [shadow?_flat, host?_flat]
  host_kind {h s} hs := by
    rw [host?_flat] at hs
    cases hs
  child_kind {c p} h := by
    rw [parent?_flat, hd.flatParent?_eq_some_iff, hd.mem_flatChildren] at h
    obtain ⟨data, hdata, hcontent⟩ := hd.isContent_of_mem_inner h.2
    exact ⟨data, by rw [data?_flat (hd.not_isShadowRoot_of_mem_inner h.2), hdata], hcontent⟩
  ranked := by
    have hlayered : Layered (d.inner true) d.size := hd.layered_inner
    obtain ⟨depth, hdepth⟩ := hlayered
    refine ⟨depth, fun x y h => (hdepth y x ?_).1⟩
    have hp : d.flat.parent? x = some y := by
      rw [up?, host?_flat] at h
      split at h
      · cases h
      · exact h
    rw [parent?_flat, hd.flatParent?_eq_some_iff, hd.mem_flatChildren] at hp
    exact hp.2

theorem flattens_flat : d.flat.Flattens d where
  linked := hd.flat
  size_eq := Array.size_mapIdx
  data?_eq := data?_flat
  children_eq {id} hid := by
    rw [children_flat, flatChildren, hid]
    rfl
  stand_in {id} hid :=
    ⟨data?_flat_of_isShadowRoot hid, by rw [children_flat, flatChildren, if_pos hid]⟩

end Linked

/-! ## Walks and steps up -/

namespace Flattens

variable (hf : f.Flattens d)

include hf

theorem not_isShadowRoot (id : NodeId) : f.isShadowRoot id = false := by
  cases hid : d.isShadowRoot id with
  | false => rw [isShadowRoot_congr (hf.data?_eq hid), hid]
  | true => rw [isShadowRoot, mode?, (hf.stand_in hid).1]; rfl

theorem isDocument_eq (id : NodeId) : f.isDocument id = d.isDocument id := by
  cases hid : d.isShadowRoot id with
  | false => exact isDocument_congr (hf.data?_eq hid)
  | true =>
    obtain ⟨mode, hmode⟩ := isShadowRoot_iff.1 hid
    rw [isDocument, isDocument, (hf.stand_in hid).1, hmode]

variable (hd : d.Linked)

include hd

theorem inner_eq (hid : d.isShadowRoot id = false) : f.inner false id = d.inner true id := by
  rw [hf.linked.inner_eq, hd.inner_eq, hf.children_eq hid]
  rfl

/-- The parent in the flat document is the node in which a walk meets the child. -/
theorem parent?_eq_some_iff {x y : NodeId} :
    f.parent? x = some y ↔ d.isShadowRoot y = false ∧ x ∈ d.inner true y := by
  rw [← hf.linked.mem_children]
  cases hy : d.isShadowRoot y with
  | false => simp [hf.children_eq hy, hd.inner_eq]
  | true => simp [(hf.stand_in hy).2]

/-- A document is no host. -/
theorem parent?_eq_document_iff {x p : NodeId} (hp : d.isDocument p = true) :
    f.parent? x = some p ↔ d.parent? x = some p := by
  have hdata := isDocument_iff.1 hp
  have hroot : d.isShadowRoot p = false := by simp [isShadowRoot, mode?, hdata]
  have helement : d.isElement p = false := by simp [isElement, element?, hdata]
  rw [hf.parent?_eq_some_iff hd, hd.mem_inner, openShadow?, hd.shadow?_of_not_isElement helement]
  simp [hroot]

/-- A walk in the flat document is a walk into open shadow trees. -/
theorem descendants_eq : d.isShadowRoot id = false →
    f.descendants false id = d.descendants true id := by
  have hlayered : Layered (d.inner true) d.size := hd.layered_inner
  induction id using hlayered.induction with
  | step a ih =>
    intro ha
    rw [hf.linked.descendants_eq, hd.descendants_eq, hf.inner_eq hd ha]
    exact List.flatMap_congr fun c hc => by rw [ih c hc (hd.not_isShadowRoot_of_mem_inner hc)]

end Flattens

end Umbra.Dom
