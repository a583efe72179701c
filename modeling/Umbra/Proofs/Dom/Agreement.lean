import Umbra.Proofs.Dom.Descendants
import Umbra.Proofs.Dom.Loading
import Mathlib.Order.WellFounded

/-!
# What the links say of one another

In every document that comes about, child lists, parents, siblings, hosts and shadow roots tell the
same, and every way up ends.
-/

namespace Umbra.Dom

variable {d : Dom}

/-- Documents that come about: loaded from a snapshot, or reached by calls. -/
def Arises (d : Dom) : Prop :=
  (∃ (s : Snapshot) (orders : MapOrders), s.load orders = .ok d) ∨ d.Reached

theorem Arises.linked (h : d.Arises) : d.Linked := by
  rcases h with ⟨s, orders, h⟩ | h
  · exact (Snapshot.load_built h).linked
  · exact h.linked

/-! ## What the links say -/

namespace Linked

variable (hd : d.Linked)

include hd

/-- A node stands in the child list of its parent and in no other. -/
theorem existsUnique_children {c : NodeId} :
    (∃! p, c ∈ d.children p) ↔ (d.parent? c).isSome = true := by
  simp only [hd.mem_children, Option.isSome_iff_exists]
  constructor
  · rintro ⟨p, hp, -⟩
    exact ⟨p, hp⟩
  · rintro ⟨p, hp⟩
    exact ⟨p, hp, fun q hq => Option.some.inj (hq.symm.trans hp)⟩

/-- A shadow root has no parent, hence no siblings. -/
theorem parent?_of_host? {h s : NodeId} (hs : d.host? s = some h) : d.parent? s = none := by
  cases hp : d.parent? s with
  | none => rfl
  | some p =>
    have hr := (hd.host_kind hs).2
    rw [(hd.child_kind hp).not_shadowRoot] at hr
    cases hr

/-- No climb by parents and hosts goes on forever. -/
theorem wellFounded_climb :
    WellFounded fun y x => d.parent? x = some y ∨ d.host? x = some y := by
  obtain ⟨rank, hrank⟩ := hd.ranked
  exact Subrelation.wf (fun h => hrank _ _ (hd.up?_eq_some_iff.2 h)) (measure rank).wf

end Linked

/-- In every document that comes about, a node is in one child list, once, just when it has a parent,
and that owns the list; the sibling links lead to the neighbours in it; hosts and shadow roots know
one another, and a shadow root has neither parent nor siblings; every climb ends. A refused call
changes nothing. -/
theorem Arises.links_agree (h : d.Arises) :
    (∀ c, (∃! p, c ∈ d.children p) ↔ (d.parent? c).isSome = true) ∧
    (∀ p c, c ∈ d.children p → d.parent? c = some p ∧ (d.children p).count c = 1) ∧
    (∀ p before c after, d.children p = before ++ c :: after →
      d.next? c = after.head? ∧ d.prev? c = before.getLast?) ∧
    (∀ c, d.parent? c = none → d.next? c = none ∧ d.prev? c = none) ∧
    (∀ h s, d.shadow? h = some s ↔ d.host? s = some h) ∧
    (∀ h s, d.shadow? h = some s → d.isElement h = true ∧ d.isShadowRoot s = true ∧
      d.parent? s = none ∧ d.next? s = none ∧ d.prev? s = none) ∧
    (WellFounded fun y x => d.parent? x = some y ∨ d.host? x = some y) ∧
    (∀ host mode e d', (Call.attachShadow host mode).run d = .error e d' → d' = d) := by
  have hd := h.linked
  refine ⟨fun c => hd.existsUnique_children, ?_, ?_, fun c => hd.alone, fun h s => hd.shadow_iff, ?_,
    hd.wellFounded_climb, fun host mode e d' hrun => (Call.run_attachShadow_eq_error.1 hrun).2⟩
  · intro p c hc
    exact ⟨hd.mem_children.1 hc, (hd.nodup_children p).count.trans (if_pos hc)⟩
  · intro p before c after hplace
    exact ⟨hd.next_eq hplace, hd.prev_eq hplace⟩
  · intro h s hs
    have hhost := hd.shadow_iff.1 hs
    have hp := hd.parent?_of_host? hhost
    exact ⟨(hd.host_kind hhost).1, (hd.host_kind hhost).2, hp, hd.alone hp⟩

/-- An element with a closed shadow root, in a text, built with a refused call on the way. -/
theorem links_agree_after_refusal : ∃ d : Dom, d.Arises ∧ d.data? 3 = some (.text "b") ∧
    d.children 3 = [1] ∧ d.shadow? 1 = some 2 ∧ (∃! p, 1 ∈ d.children p) ∧ d.host? 2 = some 1 ∧
    (WellFounded fun y x => d.parent? x = some y ∨ d.host? x = some y) ∧
    ∃ d', (Call.attachShadow 1 .opened).run d = .error (.alreadyHost 1) d' ∧ d' = d := by
  let d₁ : Dom := ⟨#[{ data := .document }, { data := .element "a" .empty }]⟩
  let d₂ : Dom := ⟨#[{ data := .document }, { data := .element "a" .empty, shadow := some 2 },
    { data := .shadowRoot .closed, host := some 1 }]⟩
  let d₃ : Dom := ⟨#[{ data := .document }, { data := .element "a" .empty, shadow := some 2 },
    { data := .shadowRoot .closed, host := some 1 }, { data := .text "b" }]⟩
  let d₄ : Dom := ⟨#[{ data := .document },
    { data := .element "a" .empty, parent := some 3, shadow := some 2 },
    { data := .shadowRoot .closed, host := some 1 }, { data := .text "b", children := [1] }]⟩
  have reached₁ : d₁.Reached := .add .new (.element "a" .empty)
  have attached : (Call.attachShadow 1 .closed).run d₁ = .ok 2 d₂ := rfl
  have refused : (Call.attachShadow 1 .opened).run d₂ = .error (.alreadyHost 1) d₂ := rfl
  have reached₃ : d₃.Reached := .add (.refused (.attachShadow reached₁ attached) refused) (.text "b")
  have outside : ¬ d₃.Inside 3 1 := by
    rw [reached₃.linked.inside_iff]
    decide +kernel
  have appended : d₃.append? 3 1 = some d₄ := rfl
  have hd : d₄.Arises := Or.inr (.append reached₃ ⟨_, rfl, rfl⟩ rfl outside appended)
  obtain ⟨place, -, -, -, shadow, -, climb, unchanged⟩ := hd.links_agree
  exact ⟨d₄, hd, rfl, rfl, rfl, (place 1).2 rfl, (shadow 1 2).1 rfl, climb, d₄, rfl,
    unchanged 1 .opened _ d₄ rfl⟩

end Umbra.Dom
