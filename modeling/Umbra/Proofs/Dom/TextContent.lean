import Umbra.Proofs.Dom.Reload
import Umbra.Proofs.Dom.Stack

/-!
# The text of a node

The text of a node is collected by a recursion over child lists that goes into elements and into
nothing else. The walk with a stack goes into every node that it meets. In well-formed documents only
what can have children has some, and a child is never a document or a shadow root. So both find the
same texts: those of the light tree below the node, each once and in order.
-/

namespace Umbra.Dom

variable {d : Dom}

/-- What a child adds to the text of its parent: a text its content, an element what is found in it. -/
def childText (d : Dom) (found : NodeId → List Char) (child : NodeId) : List Char :=
  match d.data? child with
  | some (.text content) => content.toList
  | some (.element _ _) => found child
  | _ => []

/-! ## The light tree below a node -/

namespace Linked

variable (hd : d.Linked) {id x s : NodeId}

include hd

theorem inner_light (id : NodeId) : d.inner false id = d.children id := hd.inner_eq id

theorem mem_descendants_light :
    x ∈ d.descendants false id ↔ Relation.TransGen (fun p c => c ∈ d.children p) id x := by
  rw [hd.mem_descendants]
  simp only [hd.inner_light]

/-- A shadow root that a light descendant lies in is not below the node. -/
theorem inside_of_mem_light (hx : x ∈ d.descendants false id) (hs : d.isShadowRoot s = true)
    (h : d.Inside x s) : d.Inside id s := by
  have up {a c : NodeId} (hc : c ∈ d.children a) (h : d.Inside c s) : d.Inside a s := by
    have hp := hd.mem_children.1 hc
    rcases Relation.ReflTransGen.cases_head h with rfl | ⟨b, hb, hbs⟩
    · rw [(hd.child_kind hp).not_shadowRoot] at hs
      cases hs
    · rw [hd.up?_of_parent? hp, Option.some.injEq] at hb
      exact hb ▸ hbs
  rw [hd.mem_descendants_light] at hx
  induction hx with
  | single hc => exact up hc h
  | tail _ hc ih => exact ih (up hc h)

end Linked

/-! ## The recursion over child lists -/

namespace Built

variable (h : d.Built)

include h

theorem children_eq_nil {x : NodeId} {data : NodeData} (hx : d.data? x = some data)
    (hk : data.isContainer = false) : d.children x = [] := by
  rw [List.eq_nil_iff_forall_not_mem]
  intro c hc
  obtain ⟨kind, hkind, hcontainer⟩ := h.isContainer hc
  rw [hx, Option.some.injEq] at hkind
  rw [← hkind, hk] at hcontainer
  cases hcontainer

/-- A child adds its content, if it is a text, and the texts below it. -/
theorem childText_eq {p c : NodeId} (hc : c ∈ d.children p) (n : Nat) {found : NodeId → List Char}
    (hfound : found c = ((d.below false n c).filterMap d.text?).flatMap String.toList) :
    d.childText found c = ((c :: d.below false n c).filterMap d.text?).flatMap String.toList := by
  have hd := h.linked
  obtain ⟨data, hdata, hcontent⟩ := hd.child_kind (hd.mem_children.1 hc)
  have leaf (hk : data.isContainer = false) : d.below false n c = [] := by
    cases n with
    | zero => rfl
    | succ n => rw [Dom.below, hd.inner_light, h.children_eq_nil hdata hk, List.flatMap_nil]
  cases data with
  | document => cases hcontent
  | shadowRoot mode => cases hcontent
  | element tag attributes => simp [childText, hdata, text?, hfound]
  | text content => simp [childText, hdata, text?, leaf rfl]
  | comment content => simp [childText, hdata, text?, leaf rfl]

theorem textBelow_eq (n : Nat) (id : NodeId) :
    d.textBelow n id = ((d.below false n id).filterMap d.text?).flatMap String.toList := by
  induction n generalizing id with
  | zero => rfl
  | succ n ih =>
    rw [Dom.below, h.linked.inner_light, List.filterMap_flatMap, List.flatMap_assoc]
    exact List.flatMap_congr fun c hc => h.childText_eq hc n (ih c)

theorem toList_textContent (id : NodeId) : (d.textContent id).toList =
    ((d.descendants false id).filterMap d.text?).flatMap String.toList := by
  rw [textContent, String.toList_ofList, h.textBelow_eq, descendants]

/-- The bound on the levels cuts nothing off. -/
theorem toList_textContent_eq (id : NodeId) : (d.textContent id).toList =
    (d.children id).flatMap (d.childText fun c => (d.textContent c).toList) := by
  rw [h.toList_textContent, h.linked.descendants_eq, h.linked.inner_light, List.filterMap_flatMap,
    List.flatMap_assoc]
  exact List.flatMap_congr fun c hc => (h.childText_eq hc d.size (h.toList_textContent c)).symm

end Built

/-- In well-formed documents the text of a node is what the recursion over child lists collects, and
that is the texts among what the walk with a stack meets without piercing shadows, in its order. The
walk comes to its end; it meets just what child lists lead to from the node, each node once, and nothing
in a shadow tree that the node is not in itself. -/
theorem WellFormed.textContent_walk (h : d.WellFormed) (id : NodeId) :
    (d.textContent id).toList =
      (d.children id).flatMap (d.childText fun c => (d.textContent c).toList) ∧
    ∃ met, (∀ met', d.Walks false id met' ↔ met' = met) ∧
      d.textContent id = String.join (met.filterMap d.text?) ∧
      met.Nodup ∧ (∀ x, x ∈ met ↔ Relation.TransGen (fun p c => c ∈ d.children p) id x) ∧
      ∀ x ∈ met, ∀ s, d.isShadowRoot s = true → d.Inside x s → d.Inside id s := by
  have hd := h.linked
  have hwalk : d.Walks false id (d.descendants false id) := hd.walks_descendants id
  refine ⟨h.built.toList_textContent_eq id, d.descendants false id,
    fun met => ⟨fun hmet => hmet.unique hwalk, fun hmet => hmet ▸ hwalk⟩, ?_,
    hd.nodup_descendants id, fun x => hd.mem_descendants_light,
    fun x hx s hs => hd.inside_of_mem_light hx hs⟩
  rw [← String.toList_inj, String.toList_join]
  exact h.built.toList_textContent id

/-- A host with a text in its shadow tree, between texts on three levels. -/
theorem WellFormed.textContent_walk_across_shadow : ∃ d : Dom, d.WellFormed ∧
    d.textContent 0 = "bdf" ∧ d.Walks false 0 [1, 4, 5, 6, 7, 8] ∧ d.text? 3 = some "x" ∧
    d.textContent 2 = "x" := by
  let shadow : ShadowSnapshot := .attached .opened [.text "x"]
  let inner : Snapshot := .element "c" .empty .absent [.text "d", .comment "e"]
  let host : Snapshot := .element "a" .empty shadow [.text "b", inner]
  let d : Dom := ⟨#[{ data := .document, children := [1, 8] },
    { data := .element "a" .empty, parent := some 0, children := [4, 5], next := some 8,
      shadow := some 2 },
    { data := .shadowRoot .opened, host := some 1, children := [3] },
    { data := .text "x", parent := some 2 },
    { data := .text "b", parent := some 1, next := some 5 },
    { data := .element "c" .empty, parent := some 1, children := [6, 7], prev := some 4 },
    { data := .text "d", parent := some 5, next := some 7 },
    { data := .comment "e", parent := some 5, prev := some 6 },
    { data := .text "f", parent := some 0, prev := some 1 }]⟩
  have hd : d.WellFormed := Or.inl ⟨.document [host, .text "f"], .byName, rfl⟩
  obtain ⟨-, met, hwalk, htext, -⟩ := hd.textContent_walk 0
  have hlight : d.descendants false 0 = [1, 4, 5, 6, 7, 8] := by decide +kernel
  have hmeets : d.Walks false 0 [1, 4, 5, 6, 7, 8] := hlight ▸ hd.linked.walks_descendants 0
  rw [← (hwalk _).1 hmeets] at htext
  exact ⟨d, hd, htext, hmeets, rfl, by decide +kernel⟩

end Umbra.Dom
