import Umbra.Proofs.Dom.Descendants
import Umbra.Proofs.Dom.Loading
import Mathlib.Data.List.Intervals

/-!
# Where loading puts the nodes

A snapshot takes up a stretch of the arena, in pre-order: an element, then its shadow root with what
is in it, then its children one after another. `StoredIn` says that it stands there, and it goes on
standing there while the nodes of the stretch stay as they are. What is loaded below a node only
adds to the children of that node, so nothing that is loaded later disturbs it.
-/

namespace Umbra

open Dom

mutual

/-- A snapshot stands in a document from `first` to before `last`. -/
def Snapshot.StoredIn (d : Dom) : Snapshot → Nat → Nat → Prop
  | .document _, _, _ => False
  | .element tag attributes shadow children, first, last =>
    (∃ m, d.data? first = some (.element tag m) ∧ m.sorted = attributes) ∧ ∃ mid,
      shadow.StoredIn d first (first + 1) mid ∧ AllStoredIn d children (d.children first) mid last
  | .text content, first, last =>
    d.data? first = some (.text content) ∧ d.children first = [] ∧ last = first + 1
  | .comment content, first, last =>
    d.data? first = some (.comment content) ∧ d.children first = [] ∧ last = first + 1

/-- What is attached to `host` stands in a document from `first` to before `last`. -/
def ShadowSnapshot.StoredIn (d : Dom) (host : NodeId) : ShadowSnapshot → Nat → Nat → Prop
  | .absent, first, last => d.shadow? host = none ∧ last = first
  | .attached mode children, first, last =>
    d.shadow? host = some first ∧ d.data? first = some (.shadowRoot mode) ∧
      AllStoredIn d children (d.children first) (first + 1) last

/-- Snapshots stand one behind another, and start at the given places. -/
def AllStoredIn (d : Dom) : List Snapshot → List NodeId → Nat → Nat → Prop
  | [], ids, first, last => ids = [] ∧ last = first
  | s :: rest, ids, first, last => ∃ mid others, ids = first :: others ∧ s.StoredIn d first mid ∧
      AllStoredIn d rest others mid last

end

/-! ## The stretch -/

mutual

theorem Snapshot.StoredIn.lt {d : Dom} : (s : Snapshot) → {first last : Nat} →
    s.StoredIn d first last → first < last
  | .document _, _, _, h => h.elim
  | .element _ _ shadow children, _, _, h => by
    obtain ⟨-, mid, hshadow, hchildren⟩ := h
    have h₁ := ShadowSnapshot.StoredIn.le shadow hshadow
    have h₂ := AllStoredIn.le children hchildren
    omega
  | .text _, _, _, h => by
    obtain ⟨-, -, rfl⟩ := h
    exact Nat.lt_succ_self _
  | .comment _, _, _, h => by
    obtain ⟨-, -, rfl⟩ := h
    exact Nat.lt_succ_self _

theorem ShadowSnapshot.StoredIn.le {d : Dom} {host : NodeId} : (s : ShadowSnapshot) →
    {first last : Nat} → s.StoredIn d host first last → first ≤ last
  | .absent, _, _, h => Nat.le_of_eq h.2.symm
  | .attached _ children, _, _, h => by
    obtain ⟨-, -, hchildren⟩ := h
    exact Nat.le_of_succ_le (AllStoredIn.le children hchildren)

theorem AllStoredIn.le {d : Dom} : (snapshots : List Snapshot) → {ids : List NodeId} →
    {first last : Nat} → AllStoredIn d snapshots ids first last → first ≤ last
  | [], _, _, _, h => Nat.le_of_eq h.2.symm
  | s :: rest, _, _, _, h => by
    obtain ⟨mid, others, -, hs, hrest⟩ := h
    exact Nat.le_trans (Nat.le_of_lt (Snapshot.StoredIn.lt s hs)) (AllStoredIn.le rest hrest)

end

/-! ## Nodes that stay as they are -/

namespace Dom

/-- A node has the same data, shadow root and children in two documents. -/
structure SameNode (d d' : Dom) (x : NodeId) : Prop where
  data_eq : d'.data? x = d.data? x
  shadow_eq : d'.shadow? x = d.shadow? x
  children_eq : d'.children x = d.children x

theorem SameNode.trans {d d' d'' : Dom} {x : NodeId} (h : SameNode d d' x) (h' : SameNode d' d'' x) :
    SameNode d d'' x :=
  ⟨h'.data_eq.trans h.data_eq, h'.shadow_eq.trans h.shadow_eq, h'.children_eq.trans h.children_eq⟩

theorem SameNode.add {d : Dom} {data : NodeData} {x : NodeId} (hx : x < d.size) :
    SameNode d (d.add data) x :=
  ⟨by rw [data?_add, if_neg (Nat.ne_of_lt hx)], shadow?_add, children_add⟩

theorem SameNode.addShadow {d : Dom} {h x : NodeId} {mode : ShadowMode} (hh : h < d.size)
    (hx : x < d.size) (hne : x ≠ h) : SameNode d (d.addShadow h mode) x :=
  ⟨by rw [data?_addShadow, if_neg (Nat.ne_of_lt hx)], by rw [shadow?_addShadow hh, if_neg hne],
    children_addShadow⟩

theorem SameNode.append {d : Dom} {p c x : NodeId} (hp : p < d.size) (hx : x ≠ p) :
    SameNode d (d.append p c) x :=
  ⟨data?_append, shadow?_append, by rw [children_append hp, if_neg hx]⟩

end Dom

mutual

theorem Snapshot.StoredIn.congr {d d' : Dom} : (s : Snapshot) → {first last : Nat} →
    (∀ x, first ≤ x → x < last → SameNode d d' x) → s.StoredIn d first last →
    s.StoredIn d' first last
  | .document _, _, _, _, h => h.elim
  | .element tag attributes shadow children, first, last, same, h => by
    have hlt := Snapshot.StoredIn.lt _ h
    obtain ⟨⟨m, hdata, hsorted⟩, mid, hshadow, hchildren⟩ := h
    have hfirst := same first (Nat.le_refl _) hlt
    have h₁ := ShadowSnapshot.StoredIn.le shadow hshadow
    have h₂ := AllStoredIn.le children hchildren
    refine ⟨⟨m, hfirst.data_eq.trans hdata, hsorted⟩, mid, ?_, ?_⟩
    · exact ShadowSnapshot.StoredIn.congr shadow hfirst.shadow_eq
        (fun x hx hx' => same x (by omega) (by omega)) hshadow
    · rw [hfirst.children_eq]
      exact AllStoredIn.congr children (fun x hx hx' => same x (by omega) hx') hchildren
  | .text content, first, last, same, h => by
    have hfirst := same first (Nat.le_refl _) (Snapshot.StoredIn.lt _ h)
    exact ⟨hfirst.data_eq.trans h.1, hfirst.children_eq.trans h.2.1, h.2.2⟩
  | .comment content, first, last, same, h => by
    have hfirst := same first (Nat.le_refl _) (Snapshot.StoredIn.lt _ h)
    exact ⟨hfirst.data_eq.trans h.1, hfirst.children_eq.trans h.2.1, h.2.2⟩

theorem ShadowSnapshot.StoredIn.congr {d d' : Dom} {host : NodeId} : (s : ShadowSnapshot) →
    {first last : Nat} → d'.shadow? host = d.shadow? host →
    (∀ x, first ≤ x → x < last → SameNode d d' x) → s.StoredIn d host first last →
    s.StoredIn d' host first last
  | .absent, _, _, hhost, _, h => ⟨hhost.trans h.1, h.2⟩
  | .attached mode children, first, last, hhost, same, h => by
    obtain ⟨hs, hdata, hchildren⟩ := h
    have hfirst := same first (Nat.le_refl _) (AllStoredIn.le children hchildren)
    refine ⟨hhost.trans hs, hfirst.data_eq.trans hdata, ?_⟩
    rw [hfirst.children_eq]
    exact AllStoredIn.congr children (fun x hx hx' => same x (by omega) hx') hchildren

theorem AllStoredIn.congr {d d' : Dom} : (snapshots : List Snapshot) → {ids : List NodeId} →
    {first last : Nat} → (∀ x, first ≤ x → x < last → SameNode d d' x) →
    AllStoredIn d snapshots ids first last → AllStoredIn d' snapshots ids first last
  | [], _, _, _, _, h => h
  | s :: rest, _, first, last, same, h => by
    obtain ⟨mid, others, hids, hs, hrest⟩ := h
    have h₁ := Snapshot.StoredIn.lt s hs
    have h₂ := AllStoredIn.le rest hrest
    refine ⟨mid, others, hids, ?_, ?_⟩
    · exact Snapshot.StoredIn.congr s (fun x hx hx' => same x hx (by omega)) hs
    · exact AllStoredIn.congr rest (fun x hx hx' => same x (by omega) hx') hrest

end

/-! ## Loading -/

namespace Dom

/-- Of the nodes that were there before, only one may have come by another shadow root or children. -/
structure OnlyAt (d d' : Dom) (id : NodeId) : Prop where
  size_le : d.size ≤ d'.size
  others : ∀ x, x < d.size → x ≠ id → SameNode d d' x
  data_eq : d'.data? id = d.data? id

/-- What is loaded below `parent` becomes its last children. -/
structure Gains (d d' : Dom) (parent : NodeId) (added : List NodeId) : Prop
    extends OnlyAt d d' parent where
  shadow_eq : d'.shadow? parent = d.shadow? parent
  children_eq : d'.children parent = d.children parent ++ added

namespace Gains

variable {d d' d'' : Dom} {parent : NodeId}

theorem refl (d : Dom) (parent : NodeId) : Gains d d parent [] :=
  ⟨⟨Nat.le_refl _, fun _ _ _ => ⟨rfl, rfl, rfl⟩, rfl⟩, rfl, (List.append_nil _).symm⟩

theorem trans {added added' : List NodeId} (h : Gains d d' parent added)
    (h' : Gains d' d'' parent added') : Gains d d'' parent (added ++ added') where
  size_le := Nat.le_trans h.size_le h'.size_le
  others x hx hne := (h.others x hx hne).trans (h'.others x (Nat.lt_of_lt_of_le hx h.size_le) hne)
  data_eq := h'.data_eq.trans h.data_eq
  shadow_eq := h'.shadow_eq.trans h.shadow_eq
  children_eq := by rw [h'.children_eq, h.children_eq, List.append_assoc]

/-- A new node with what is loaded below it becomes a child. -/
theorem of_append {c : NodeId} (hp : parent < d.size) (hsize : d.size ≤ d'.size)
    (same : ∀ x, x < d.size → SameNode d d' x) : Gains d (d'.append parent c) parent [c] where
  size_le := by rw [size_append]; exact hsize
  others x hx hne := (same x hx).trans (.append (Nat.lt_of_lt_of_le hp hsize) hne)
  data_eq := data?_append.trans (same parent hp).data_eq
  shadow_eq := shadow?_append.trans (same parent hp).shadow_eq
  children_eq := by
    rw [children_append (Nat.lt_of_lt_of_le hp hsize), if_pos rfl, (same parent hp).children_eq]

end Gains

end Dom

/-- A node that has nothing in it. -/
theorem Snapshot.leaf_stored {d : Dom} {parent : NodeId} (hp : parent < d.size) (data : NodeData) :
    ((d.add data).append parent d.size).data? d.size = some data ∧
      ((d.add data).append parent d.size).children d.size = [] ∧
      Gains d ((d.add data).append parent d.size) parent [d.size] := by
  have hp' : parent < (d.add data).size := by
    rw [size_add]
    exact Nat.lt_succ_of_lt hp
  refine ⟨?_, ?_, .of_append hp (by simp) fun x hx => .add hx⟩
  · rw [data?_append, data?_add, if_pos rfl]
  · rw [children_append hp', if_neg (Nat.ne_of_gt hp), children_add,
      children_eq_nil (Nat.le_refl _)]

variable {orders : MapOrders}

mutual

theorem Snapshot.loadBelow_stored {parent : NodeId} : (s : Snapshot) → {d d' : Dom} →
    parent < d.size → s.loadBelow orders parent d = .ok d' →
    s.StoredIn d' d.size d'.size ∧ Gains d d' parent [d.size]
  | .document _, d, d', _, h => by cases h
  | .text content, d, d', hp, h => by
    cases h
    obtain ⟨hdata, hchildren, gains⟩ := Snapshot.leaf_stored hp (.text content)
    exact ⟨⟨hdata, hchildren, by simp⟩, gains⟩
  | .comment content, d, d', hp, h => by
    cases h
    obtain ⟨hdata, hchildren, gains⟩ := Snapshot.leaf_stored hp (.comment content)
    exact ⟨⟨hdata, hchildren, by simp⟩, gains⟩
  | .element tag attributes shadow children, d, d', hp, h => by
    simp only [Snapshot.loadBelow, bind_eq_ok, pure_eq_ok] at h
    obtain ⟨d₂, h₂, d₃, h₃, rfl⟩ := h
    have hnew : d.size < (d.add (.element tag (orders.map d.size attributes))).size := by simp
    obtain ⟨hshadow, only, hchildren₂⟩ :=
      ShadowSnapshot.loadOnto_stored shadow hnew shadow?_add_self h₂
    have hnew₂ := Nat.lt_of_lt_of_le hnew only.size_le
    obtain ⟨ids, hchildren, gains⟩ := loadAll_stored children hnew₂ h₃
    have hp₃ := Nat.lt_trans hp (Nat.lt_of_lt_of_le hnew₂ gains.size_le)
    -- neither the element nor its parent stands in a stretch that was loaded before
    have same₃ (x : NodeId) (hx : d.size < x) (hx' : x < d₂.size) :
        SameNode d₂ (d₃.append parent d.size) x :=
      (gains.others x hx' (Nat.ne_of_gt hx)).trans
        (.append hp₃ (Nat.ne_of_gt (Nat.lt_trans hp hx)))
    have hids : (d₃.append parent d.size).children d.size = ids := by
      rw [(SameNode.append hp₃ (Nat.ne_of_gt hp)).children_eq, gains.children_eq, hchildren₂,
        children_add, children_eq_nil (Nat.le_refl _), List.nil_append]
    have hsorted := AttributeMap.sorted_of_perm (orders.perm d.size attributes)
    refine ⟨⟨⟨_, ?_, hsorted⟩, d₂.size, ?_, ?_⟩, .of_append hp ?_ fun x hx => ?_⟩
    · rw [data?_append, gains.data_eq, only.data_eq, data?_add, if_pos rfl]
    · rw [size_add] at hshadow
      refine ShadowSnapshot.StoredIn.congr shadow ?_ (fun x hx hx' => same₃ x hx hx') hshadow
      rw [shadow?_append, gains.shadow_eq]
    · rw [hids, size_append]
      refine AllStoredIn.congr children (fun x hx _ => .append hp₃ ?_) hchildren
      exact Nat.ne_of_gt (Nat.lt_trans hp (Nat.lt_of_lt_of_le hnew₂ hx))
    · exact Nat.le_of_lt (Nat.lt_of_lt_of_le hnew₂ gains.size_le)
    · have hx₁ := Nat.lt_trans hx hnew
      have hne := Nat.ne_of_lt hx
      exact (SameNode.add hx).trans
        ((only.others x hx₁ hne).trans (gains.others x (Nat.lt_trans hx hnew₂) hne))

theorem ShadowSnapshot.loadOnto_stored {host : NodeId} : (s : ShadowSnapshot) → {d d' : Dom} →
    host < d.size → d.shadow? host = none → s.loadOnto orders host d = .ok d' →
    s.StoredIn d' host d.size d'.size ∧ OnlyAt d d' host ∧ d'.children host = d.children host
  | .absent, d, d', _, hs, h => by
    cases h
    exact ⟨⟨hs, rfl⟩, (Gains.refl d host).toOnlyAt, rfl⟩
  | .attached mode children, d, d', hh, _, h => by
    rw [ShadowSnapshot.loadOnto] at h
    have hnew : d.size < (d.addShadow host mode).size := by simp
    have hne := Nat.ne_of_lt hh
    obtain ⟨ids, hchildren, gains⟩ := loadAll_stored children hnew h
    have hids : d'.children d.size = ids := by
      rw [gains.children_eq, children_addShadow, children_eq_nil (Nat.le_refl _), List.nil_append]
    have hhost := gains.others host (Nat.lt_trans hh hnew) hne
    refine ⟨⟨?_, ?_, ?_⟩,
      ⟨Nat.le_of_lt (Nat.lt_of_lt_of_le hnew gains.size_le), fun x hx hx' => ?_, ?_⟩, ?_⟩
    · rw [hhost.shadow_eq, shadow?_addShadow hh, if_pos rfl]
    · rw [gains.data_eq, data?_addShadow, if_pos rfl]
    · rw [size_addShadow] at hchildren
      rw [hids]
      exact hchildren
    · exact (SameNode.addShadow hh hx hx').trans
        (gains.others x (Nat.lt_trans hx hnew) (Nat.ne_of_lt hx))
    · rw [hhost.data_eq, data?_addShadow, if_neg hne]
    · rw [hhost.children_eq, children_addShadow]

theorem loadAll_stored {parent : NodeId} : (snapshots : List Snapshot) → {d d' : Dom} →
    parent < d.size → loadAll orders parent snapshots d = .ok d' →
    ∃ ids, AllStoredIn d' snapshots ids d.size d'.size ∧ Gains d d' parent ids
  | [], d, d', _, h => by
    cases h
    exact ⟨[], ⟨rfl, rfl⟩, .refl d parent⟩
  | s :: rest, d, d', hp, h => by
    simp only [loadAll, bind_eq_ok] at h
    obtain ⟨d₁, h₁, h₂⟩ := h
    obtain ⟨hs, gains₁⟩ := Snapshot.loadBelow_stored s hp h₁
    obtain ⟨ids, hrest, gains₂⟩ := loadAll_stored rest (Nat.lt_of_lt_of_le hp gains₁.size_le) h₂
    refine ⟨d.size :: ids, ⟨d₁.size, ids, rfl, ?_, hrest⟩, gains₁.trans gains₂⟩
    -- later siblings only change the children of the parent, which stands before the stretch
    exact Snapshot.StoredIn.congr s
      (fun x hx hx' => gains₂.others x hx' (Nat.ne_of_gt (Nat.lt_of_lt_of_le hp hx))) hs

end

/-! ## The document node -/

def ShadowSnapshot.inside : ShadowSnapshot → List Snapshot
  | .absent => []
  | .attached _ children => children

/-- The snapshots that lie directly in a snapshot: in its shadow root, and then its children. -/
def Snapshot.parts : Snapshot → List Snapshot
  | .document children => children
  | .element _ _ shadow children => shadow.inside ++ children
  | .text _ => []
  | .comment _ => []

/-- A snapshot as a whole document. -/
def Snapshot.asDocument : Snapshot → Snapshot
  | .document children => .document children
  | s => .document [s]

theorem Snapshot.load_eq (s : Snapshot) (orders : MapOrders) :
    s.load orders = loadAll orders root s.asDocument.parts Dom.new := by
  have single (s : Snapshot) :
      loadAll orders root [s] Dom.new = s.loadBelow orders root Dom.new := by
    rw [loadAll]
    cases s.loadBelow orders root Dom.new <;> rfl
  cases s with
  | document children => rfl
  | element tag attributes shadow children => exact (single _).symm
  | text content => exact (single _).symm
  | comment content => exact (single _).symm

/-- A loaded document holds the document node and behind it the snapshot. -/
theorem Snapshot.load_stored {s : Snapshot} {d : Dom} (h : s.load orders = .ok d) :
    AllStoredIn d s.asDocument.parts (d.children root) 1 d.size ∧ d.data? root = some .document ∧
      d.shadow? root = none := by
  rw [Snapshot.load_eq] at h
  have hroot : root < Dom.new.size := Nat.one_pos
  obtain ⟨ids, hstored, gains⟩ := loadAll_stored _ hroot h
  have hids : d.children root = ids := gains.children_eq
  rw [hids]
  exact ⟨hstored, gains.data_eq, gains.shadow_eq⟩

end Umbra
