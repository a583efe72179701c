import Umbra.Proofs.Dom.Attributes
import Umbra.Proofs.Dom.Reached
import Umbra.Proofs.Outcome
import Umbra.Dom.Snapshot

/-!
# A loaded document is a built one

Loading only adds nodes and ties each new element to its place last. `Grows` says that the nodes
that were there before keep their data and their way up, so the place of a new element cannot lie in
that element.
-/

namespace Umbra

namespace Dom

/-- The nodes of the first document are in the second, with the same data and the same way up. -/
structure Grows (d d' : Dom) : Prop where
  size_le : d.size ≤ d'.size
  data_eq : ∀ x, x < d.size → d'.data? x = d.data? x
  parent_eq : ∀ x, x < d.size → d'.parent? x = d.parent? x
  host_eq : ∀ x, x < d.size → d'.host? x = d.host? x

namespace Grows

variable {d d' d'' : Dom}

theorem refl (d : Dom) : Grows d d := ⟨Nat.le_refl _, fun _ _ => rfl, fun _ _ => rfl, fun _ _ => rfl⟩

theorem trans (h : Grows d d') (h' : Grows d' d'') : Grows d d'' where
  size_le := Nat.le_trans h.size_le h'.size_le
  data_eq x hx := by rw [h'.data_eq x (Nat.lt_of_lt_of_le hx h.size_le), h.data_eq x hx]
  parent_eq x hx := by rw [h'.parent_eq x (Nat.lt_of_lt_of_le hx h.size_le), h.parent_eq x hx]
  host_eq x hx := by rw [h'.host_eq x (Nat.lt_of_lt_of_le hx h.size_le), h.host_eq x hx]

theorem add (d : Dom) (data : NodeData) : Grows d (d.add data) where
  size_le := by simp
  data_eq x hx := by rw [data?_add, if_neg (Nat.ne_of_lt hx)]
  parent_eq _ _ := parent?_add
  host_eq _ _ := host?_add

theorem addShadow (d : Dom) (host : NodeId) (mode : ShadowMode) : Grows d (d.addShadow host mode) where
  size_le := by simp
  data_eq x hx := by rw [data?_addShadow, if_neg (Nat.ne_of_lt hx)]
  parent_eq _ _ := parent?_addShadow
  host_eq x hx := by rw [host?_addShadow, if_neg (Nat.ne_of_lt hx)]

/-- A new node that gets its place is still new. -/
theorem append (h : Grows d d') {p c : NodeId} (hc : d.size ≤ c) (hc' : c < d'.size) :
    Grows d (d'.append p c) where
  size_le := by rw [size_append]; exact h.size_le
  data_eq x hx := by rw [data?_append, h.data_eq x hx]
  parent_eq x hx := by
    rw [parent?_append hc', if_neg (Nat.ne_of_lt (Nat.lt_of_lt_of_le hx hc)), h.parent_eq x hx]
  host_eq x hx := by rw [host?_append, h.host_eq x hx]

theorem isContainer (h : Grows d d') {x : NodeId} (hx : d.IsContainer x) : d'.IsContainer x := by
  obtain ⟨data, hd, hc⟩ := hx
  exact ⟨data, by rw [h.data_eq x (lt_size_of_data? hd), hd], hc⟩

/-- The way up from an old node leads through old nodes. -/
theorem inside_lt (h : Grows d d') (hd : d.Linked) {x y : NodeId} (hx : x < d.size)
    (hxy : d'.Inside x y) : y < d.size := by
  induction hxy with
  | refl => exact hx
  | @tail y z _ hs ih =>
    have hup : d'.up? y = d.up? y := by
      simp only [up?, isShadowRoot_congr (h.data_eq y ih), h.parent_eq y ih, h.host_eq y ih]
    rw [hup] at hs
    exact hd.up?_lt_size hs

end Grows

/-- Documents as they come about: loaded from a snapshot, or built by operations. -/
def WellFormed (d : Dom) : Prop :=
  (∃ (s : Snapshot) (orders : MapOrders), s.load orders = .ok d) ∨ d.Built

end Dom

open Dom

theorem Snapshot.leaf_built {d : Dom} {parent : NodeId} (hb : d.Built) (hp : d.IsContainer parent)
    {data : NodeData} (hc : data.isContent = true) :
    ((d.add data).append parent d.size).Built ∧ Grows d ((d.add data).append parent d.size) := by
  have grows := Grows.add d data
  have hnew : (d.add data).data? d.size = some data := by rw [data?_add, if_pos rfl]
  refine ⟨.append (hb.add data) (grows.isContainer hp) ⟨data, hnew, hc⟩ ?_ ?_, ?_⟩
  · rw [parent?_add, parent?, node?_eq_none (Nat.le_refl _)]
    rfl
  · intro hi
    obtain ⟨_, hpd, _⟩ := hp
    exact Nat.lt_irrefl _ (grows.inside_lt hb.linked (lt_size_of_data? hpd) hi)
  · exact grows.append (Nat.le_refl _) (by simp)

variable {orders : MapOrders}

mutual

theorem Snapshot.loadBelow_built {parent : NodeId} : (s : Snapshot) → {d d' : Dom} → d.Built →
    d.IsContainer parent → s.loadBelow orders parent d = .ok d' → d'.Built ∧ Grows d d'
  | .document _, d, d', _, _, h => by cases h
  | .text content, d, d', hb, hp, h => by
    cases h
    exact Snapshot.leaf_built hb hp rfl
  | .comment content, d, d', hb, hp, h => by
    cases h
    exact Snapshot.leaf_built hb hp rfl
  | .element tag attributes shadow children, d, d', hb, hp, h => by
    simp only [Snapshot.loadBelow, bind_eq_ok, pure_eq_ok] at h
    obtain ⟨d₂, h₂, d₃, h₃, rfl⟩ := h
    let data : NodeData := .element tag (orders.map d.size attributes)
    have hnew : (d.add data).data? d.size = some data := by rw [data?_add, if_pos rfl]
    have hlt : d.size < (d.add data).size := by simp
    have g₁ := Grows.add d data
    obtain ⟨b₂, g₂⟩ := ShadowSnapshot.loadOnto_built shadow (hb.add _)
      (isElement_iff.2 ⟨tag, _, hnew⟩) shadow?_add_self h₂
    obtain ⟨b₃, g₃⟩ := loadAll_built children b₂ (g₂.isContainer ⟨_, hnew, rfl⟩) h₃
    have g₂₃ := g₂.trans g₃
    refine ⟨.append b₃ (g₂₃.isContainer (g₁.isContainer hp)) ⟨data, ?_, rfl⟩ ?_ ?_, ?_⟩
    · rw [g₂₃.data_eq _ hlt, hnew]
    · rw [g₂₃.parent_eq _ hlt, parent?_add, parent?, node?_eq_none (Nat.le_refl _)]
      rfl
    · intro hi
      obtain ⟨_, hpd, _⟩ := hp
      exact Nat.lt_irrefl _ ((g₁.trans g₂₃).inside_lt hb.linked (lt_size_of_data? hpd) hi)
    · exact (g₁.trans g₂₃).append (Nat.le_refl _) (Nat.lt_of_lt_of_le hlt g₂₃.size_le)

theorem ShadowSnapshot.loadOnto_built {host : NodeId} : (s : ShadowSnapshot) → {d d' : Dom} →
    d.Built → d.isElement host = true → d.shadow? host = none → s.loadOnto orders host d = .ok d' →
    d'.Built ∧ Grows d d'
  | .absent, d, d', hb, _, _, h => by
    cases h
    exact ⟨hb, .refl d⟩
  | .attached mode children, d, d', hb, he, hs, h => by
    rw [ShadowSnapshot.loadOnto] at h
    have ha : d.attachShadow host mode = .ok (d.size, d.addShadow host mode) :=
      attachShadow_eq_ok.2 ⟨he, hs, rfl, rfl⟩
    have hc : (d.addShadow host mode).IsContainer d.size :=
      ⟨.shadowRoot mode, by rw [data?_addShadow, if_pos rfl], rfl⟩
    obtain ⟨hb', g⟩ := loadAll_built children (hb.attachShadow ha) hc h
    exact ⟨hb', (Grows.addShadow d host mode).trans g⟩

theorem loadAll_built {parent : NodeId} : (snapshots : List Snapshot) → {d d' : Dom} → d.Built →
    d.IsContainer parent → loadAll orders parent snapshots d = .ok d' → d'.Built ∧ Grows d d'
  | [], d, d', hb, _, h => by
    cases h
    exact ⟨hb, .refl d⟩
  | s :: rest, d, d', hb, hp, h => by
    simp only [loadAll, bind_eq_ok] at h
    obtain ⟨d₁, h₁, h₂⟩ := h
    obtain ⟨b₁, g₁⟩ := Snapshot.loadBelow_built s hb hp h₁
    obtain ⟨b₂, g₂⟩ := loadAll_built rest b₁ (g₁.isContainer hp) h₂
    exact ⟨b₂, g₁.trans g₂⟩

end

theorem Snapshot.load_built {s : Snapshot} {d : Dom} (h : s.load orders = .ok d) : d.Built := by
  have hroot : Dom.new.IsContainer Dom.root := ⟨.document, rfl, rfl⟩
  cases s with
  | document children => exact (loadAll_built children .new hroot h).1
  | element tag attributes shadow children => exact (Snapshot.loadBelow_built _ .new hroot h).1
  | text content => exact (Snapshot.loadBelow_built _ .new hroot h).1
  | comment content => exact (Snapshot.loadBelow_built _ .new hroot h).1

theorem Dom.WellFormed.built {d : Dom} (h : d.WellFormed) : d.Built := by
  rcases h with ⟨s, orders, h⟩ | h
  · exact Snapshot.load_built h
  · exact h

theorem Dom.WellFormed.linked {d : Dom} (h : d.WellFormed) : d.Linked := h.built.linked

end Umbra
