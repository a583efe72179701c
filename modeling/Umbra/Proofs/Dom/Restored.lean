import Umbra.Proofs.Dom.Layout

/-!
# Snapshots that are loaded and read back

Loading fails just for the snapshots with a document node below their top. From what it makes of any
other snapshot, that snapshot is read back, as a whole document.
-/

namespace Umbra

open Dom

/-! ## Document nodes in a snapshot -/

namespace Snapshot

/-- A snapshot is another one or lies in it, at any depth. -/
inductive Occurs (t : Snapshot) : Snapshot → Prop
  | self : Occurs t t
  | part {s p : Snapshot} (part : p ∈ s.parts) (inside : Occurs t p) : Occurs t s

/-- A document node occurs in a snapshot. -/
def HasDocument (s : Snapshot) : Prop := ∃ children, (document children).Occurs s

/-- A document node occurs in a snapshot below its top. -/
def NestsDocument (s : Snapshot) : Prop := ∃ p ∈ s.parts, p.HasDocument

theorem hasDocument_iff {s : Snapshot} :
    s.HasDocument ↔ (∃ children, s = document children) ∨ s.NestsDocument := by
  constructor
  · rintro ⟨children, h⟩
    cases h with
    | self => exact Or.inl ⟨children, rfl⟩
    | part hp inside => exact Or.inr ⟨_, hp, children, inside⟩
  · rintro (⟨children, rfl⟩ | ⟨p, hp, children, inside⟩)
    · exact ⟨children, .self⟩
    · exact ⟨children, .part hp inside⟩

theorem hasDocument_iff_nestsDocument {s : Snapshot} (h : ∀ children, s ≠ document children) :
    s.HasDocument ↔ s.NestsDocument := by
  rw [hasDocument_iff, or_iff_right]
  rintro ⟨children, hs⟩
  exact h children hs

theorem not_hasDocument_of_parts {s : Snapshot} (h : ∀ children, s ≠ document children)
    (hs : s.parts = []) : ¬ s.HasDocument := by
  rw [hasDocument_iff_nestsDocument h, NestsDocument, hs]
  simp

theorem exists_parts_asDocument (s : Snapshot) :
    (∃ p ∈ s.asDocument.parts, p.HasDocument) ↔ s.NestsDocument := by
  have single {s : Snapshot} (h : ∀ children, s ≠ document children) :
      (∃ p ∈ [s], p.HasDocument) ↔ s.NestsDocument := by
    simp only [List.mem_singleton, exists_eq_left]
    exact hasDocument_iff_nestsDocument h
  cases s with
  | document children => rfl
  | element tag attributes shadow children => exact single nofun
  | text content => exact single nofun
  | comment content => exact single nofun

end Snapshot

/-! ## When loading fails -/

/-- A shadow root is attached as by `attachShadow`, which refuses no element that was just added. -/
theorem Snapshot.loadBelow_attached {parent : NodeId} {tag : String} {attributes : Attributes}
    {mode : ShadowMode} {inside children : List Snapshot} (orders : MapOrders) (d : Dom)
    (refused : ShadowError → LoadError) :
    (element tag attributes (.attached mode inside) children).loadBelow orders parent d = do
      let id := d.size
      let d := d.add (.element tag (orders.map id attributes))
      let (shadow, d) ← (d.attachShadow id mode).mapError refused
      let d ← loadAll orders shadow inside d
      let d ← loadAll orders id children d
      return d.append parent id := by
  simp only [attachShadow_add, Except.mapError]
  rw [Snapshot.loadBelow, ShadowSnapshot.loadOnto, size_add]
  rfl

/-- A load fails just when `p` holds, and then because of a document node. -/
structure FailsWhen {α : Type} (x : Except LoadError α) (p : Prop) : Prop where
  error : p → x = .error .nestedDocument
  ok : ¬ p → ∃ a, x = .ok a

namespace FailsWhen

variable {α β : Type} {x : Except LoadError α} {f : α → Except LoadError β} {p q : Prop}

theorem never {a : α} (h : ¬ p) : FailsWhen (.ok a) p := ⟨fun hp => absurd hp h, fun _ => ⟨a, rfl⟩⟩

theorem always (h : p) : FailsWhen (.error .nestedDocument : Except LoadError α) p :=
  ⟨fun _ => rfl, fun hn => absurd h hn⟩

theorem bind (hx : FailsWhen x p) (hf : ∀ a, FailsWhen (f a) q) : FailsWhen (x >>= f) (p ∨ q) := by
  by_cases hp : p
  · have he : x >>= f = .error .nestedDocument := by
      rw [hx.error hp]
      rfl
    exact ⟨fun _ => he, fun hn => absurd (Or.inl hp) hn⟩
  · obtain ⟨a, ha⟩ := hx.ok hp
    have hbind : x >>= f = f a := by
      rw [ha]
      rfl
    rw [hbind]
    exact ⟨fun h => (hf a).error (h.resolve_left hp), fun hn => (hf a).ok fun hq => hn (Or.inr hq)⟩

theorem map {g : α → β} (hx : FailsWhen x p) : FailsWhen (x >>= fun a => pure (g a)) p := by
  have h := hx.bind fun a => never (a := g a) not_false
  rwa [or_false] at h

theorem error_iff (h : FailsWhen x p) {e : LoadError} :
    x = .error e ↔ e = .nestedDocument ∧ p := by
  constructor
  · intro he
    by_cases hp : p
    · rw [h.error hp, Except.error.injEq] at he
      exact ⟨he.symm, hp⟩
    · obtain ⟨a, ha⟩ := h.ok hp
      rw [ha] at he
      cases he
  · rintro ⟨rfl, hp⟩
    exact h.error hp

end FailsWhen

variable (orders : MapOrders)

mutual

theorem Snapshot.failsWhen_loadBelow : (s : Snapshot) → (parent : NodeId) → (d : Dom) →
    FailsWhen (s.loadBelow orders parent d) s.HasDocument
  | .document children, _, _ => .always ⟨children, .self⟩
  | .element tag attributes shadow children, parent, d => by
    have hparts : (Snapshot.element tag attributes shadow children).HasDocument ↔
        (∃ p ∈ shadow.inside, p.HasDocument) ∨ ∃ p ∈ children, p.HasDocument := by
      rw [Snapshot.hasDocument_iff_nestsDocument (by simp)]
      simp only [Snapshot.NestsDocument, Snapshot.parts, List.mem_append, or_and_right, exists_or]
    rw [hparts]
    exact (ShadowSnapshot.failsWhen_loadOnto shadow d.size _).bind fun d' =>
      (failsWhen_loadAll children d.size d').map
  | .text content, _, _ => .never (Snapshot.not_hasDocument_of_parts nofun rfl)
  | .comment content, _, _ => .never (Snapshot.not_hasDocument_of_parts nofun rfl)

theorem ShadowSnapshot.failsWhen_loadOnto : (s : ShadowSnapshot) → (host : NodeId) → (d : Dom) →
    FailsWhen (s.loadOnto orders host d) (∃ p ∈ s.inside, p.HasDocument)
  | .absent, _, _ => .never (by simp [ShadowSnapshot.inside])
  | .attached mode children, host, d => failsWhen_loadAll children d.size (d.addShadow host mode)

theorem failsWhen_loadAll : (snapshots : List Snapshot) → (parent : NodeId) → (d : Dom) →
    FailsWhen (loadAll orders parent snapshots d) (∃ p ∈ snapshots, p.HasDocument)
  | [], _, _ => .never (by simp)
  | s :: rest, parent, d => by
    rw [List.exists_mem_cons_iff]
    exact (Snapshot.failsWhen_loadBelow s parent d).bind fun d' => failsWhen_loadAll rest parent d'

end

theorem Snapshot.document_parts_asDocument (s : Snapshot) :
    .document s.asDocument.parts = s.asDocument := by
  cases s <;> rfl

theorem Snapshot.failsWhen_load (s : Snapshot) : FailsWhen (s.load orders) s.NestsDocument := by
  rw [Snapshot.load_eq, ← Snapshot.exists_parts_asDocument]
  exact failsWhen_loadAll orders s.asDocument.parts root Dom.new

/-! ## Reading back -/

mutual

/-- A snapshot is read back from where it stands, as far down as its stretch is long. -/
theorem Snapshot.StoredIn.snapshotBelow_eq {d : Dom} : (s : Snapshot) → {first last depth : Nat} →
    s.StoredIn d first last → last ≤ first + depth → d.snapshotBelow depth first = s
  | .document _, _, _, _, h, _ => h.elim
  | .text content, first, last, depth, h, hdepth => by
    obtain ⟨hdata, -, rfl⟩ := h
    cases depth with
    | zero => omega
    | succ depth => simp [snapshotBelow, hdata]
  | .comment content, first, last, depth, h, hdepth => by
    obtain ⟨hdata, -, rfl⟩ := h
    cases depth with
    | zero => omega
    | succ depth => simp [snapshotBelow, hdata]
  | .element tag attributes .absent children, first, last, depth, h, hdepth => by
    have hlt := Snapshot.StoredIn.lt _ h
    obtain ⟨⟨m, hdata, rfl⟩, mid, ⟨hshadow, rfl⟩, hchildren⟩ := h
    cases depth with
    | zero => omega
    | succ depth =>
      have hread : (d.children first).map (d.snapshotBelow depth) = children :=
        AllStoredIn.map_snapshotBelow children hchildren (by omega)
      simp [snapshotBelow, hdata, hshadow, hread]
  | .element tag attributes (.attached mode inside) children, first, last, depth, h, hdepth => by
    have hlt := Snapshot.StoredIn.lt _ h
    obtain ⟨⟨m, hdata, rfl⟩, mid, ⟨hshadow, hmode, hinside⟩, hchildren⟩ := h
    have hle := AllStoredIn.le children hchildren
    have hle' := AllStoredIn.le inside hinside
    cases depth with
    | zero => omega
    | succ depth =>
      have hread : (d.children first).map (d.snapshotBelow depth) = children :=
        AllStoredIn.map_snapshotBelow children hchildren (by omega)
      have hread' : (d.children (first + 1)).map (d.snapshotBelow depth) = inside :=
        AllStoredIn.map_snapshotBelow inside hinside (by omega)
      simp [snapshotBelow, hdata, hshadow, hread, hread', mode?, hmode]

theorem AllStoredIn.map_snapshotBelow {d : Dom} : (snapshots : List Snapshot) → {ids : List NodeId} →
    {first last depth : Nat} → AllStoredIn d snapshots ids first last → last ≤ first + depth →
    ids.map (d.snapshotBelow depth) = snapshots
  | [], _, _, _, _, h, _ => by
    obtain ⟨rfl, -⟩ := h
    rfl
  | s :: rest, ids, first, last, depth, h, hdepth => by
    obtain ⟨mid, others, rfl, hs, hrest⟩ := h
    have hlt := Snapshot.StoredIn.lt s hs
    have hle := AllStoredIn.le rest hrest
    rw [List.map_cons, Snapshot.StoredIn.snapshotBelow_eq s hs (by omega),
      AllStoredIn.map_snapshotBelow rest hrest (by omega)]

end

theorem Snapshot.snapshot_of_load {s : Snapshot} {orders : MapOrders} {d : Dom}
    (h : s.load orders = .ok d) :
    d.snapshot root = s.asDocument := by
  obtain ⟨hstored, hdata, -⟩ := Snapshot.load_stored h
  have hread : (d.children root).map (d.snapshotBelow d.size) = s.asDocument.parts :=
    AllStoredIn.map_snapshotBelow s.asDocument.parts hstored (Nat.le_add_left _ _)
  calc d.snapshot root
      = .document ((d.children root).map (d.snapshotBelow d.size)) := by
        rw [Dom.snapshot, snapshotBelow, hdata]
    _ = .document s.asDocument.parts := by rw [hread]
    _ = s.asDocument := s.document_parts_asDocument

/-- Loading fails just for the snapshots with a document node below their top, and then says so. From
any other one it makes a document from which the whole snapshot is read back. -/
theorem Snapshot.snapshot_load (s : Snapshot) (orders : MapOrders) :
    (∀ e, s.load orders = .error e ↔ e = .nestedDocument ∧ s.NestsDocument) ∧
    (¬ s.NestsDocument → ∃ d, s.load orders = .ok d ∧ d.snapshot root = s.asDocument) := by
  have hfails := Snapshot.failsWhen_load orders s
  refine ⟨fun e => hfails.error_iff, fun hs => ?_⟩
  obtain ⟨d, hd⟩ := hfails.ok hs
  exact ⟨d, hd, Snapshot.snapshot_of_load hd⟩

/-- A document node in an element in a closed shadow root, and a snapshot that is no document. -/
theorem Snapshot.snapshot_load_closed_shadow : ∃ nested plain : Snapshot,
    nested.NestsDocument ∧ nested.load = .error .nestedDocument ∧
    ¬ plain.NestsDocument ∧ ∃ d, plain.load = .ok d ∧ d.snapshot root = .document [plain] := by
  let nested : Snapshot := .element "a" .empty
    (.attached .closed [.element "b" .empty .absent [.document []]]) []
  let plain : Snapshot := .element "a" (Attributes.empty.set "id" "x")
    (.attached .closed [.text "b"]) [.comment "c", .element "d" .empty .absent []]
  have hfails : nested.load = .error .nestedDocument := rfl
  have hplain : ¬ plain.NestsDocument := fun h =>
    nomatch ((plain.snapshot_load .byName).1 .nestedDocument).2 ⟨rfl, h⟩
  exact ⟨nested, plain, (((nested.snapshot_load .byName).1 _).1 hfails).2, hfails, hplain,
    (plain.snapshot_load .byName).2 hplain⟩

end Umbra
