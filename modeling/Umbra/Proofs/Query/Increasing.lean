import Umbra.Proofs.Dom.Tiles
import Umbra.Proofs.Query.Answer
import Umbra.Regex.Library

/-!
# Answers on loaded documents

On a document as it was loaded, document order is the order of the numbers, so every answer is
strictly increasing, whatever the root: also in a closed shadow tree, which the numbering from the
topmost node does not reach.
-/

namespace Umbra

variable {d : Dom}

/-- An answer leaves things out of the walk below the root, but changes no order. -/
theorem Dom.Linked.chain_selectAll_sublist [RegexLibrary] (hd : d.Linked) (c : Chain)
    (root : NodeId) : (c.selectAll d root).Sublist (d.descendants true root) := by
  by_cases hne : c.stages = []
  · rw [Chain.selectAll, hne]
    exact List.nil_sublist _
  · obtain ⟨before, s, after, hc, hindex, -, -⟩ := c.exists_answering hne
    obtain ⟨answer, hanswer, hsub, -⟩ :=
      hd.selections_spec before s after (d.singleton_subset_visible root)
    rw [Chain.selectAll, hindex, hc, hanswer, Option.getD_some]
    exact hsub

namespace Snapshot

/-- In a loaded document everything in a node, shadow roots included, is numbered without a gap from
the node on: first what is in its shadow root, and then what is in one child after another. Hence
every answer is strictly increasing. -/
theorem load_consecutive [RegexLibrary] {s : Snapshot} {orders : MapOrders}
    (h : s.load orders = .ok d) :
    (∀ id, (∀ x, x ∈ d.subtree id ↔ d.Inside x id) ∧
      d.subtree id = id :: ((d.shadow? id).toList ++ d.children id).flatMap d.subtree ∧
      ∃ stop, d.subtree id = List.Ico id stop) ∧
    ∀ (c : Chain) (root : NodeId), (c.selectAll d root).Pairwise (· < ·) := by
  have hd := (load_built h).linked
  refine ⟨fun id => ⟨fun x => hd.mem_subtree, hd.subtree_eq id, load_subtree_eq h id⟩, ?_⟩
  intro c root
  obtain ⟨stop, hblock⟩ := load_subtree_eq h root
  have hsub : (c.selectAll d root).Sublist (d.subtree root) :=
    (hd.chain_selectAll_sublist c root).trans ((hd.descendants_sublist root).cons root)
  rw [hblock] at hsub
  exact (List.Ico.pairwise_lt root stop).sublist hsub

/-- A closed shadow tree before a child, and a chain of two stages from the closed shadow root. -/
theorem load_consecutive_closed_shadow : ∃ (s : Snapshot) (d : Dom) (c : Chain), s.load = .ok d ∧
    d.shadow? 1 = some 2 ∧ d.children 1 = [7] ∧ d.subtree 1 = [1, 2, 3, 4, 5, 6, 7] ∧
    (∃ stop, d.subtree 2 = List.Ico 2 stop) ∧ c.selectAll d 2 = [5, 6] ∧
    (c.selectAll d 2).Pairwise (· < ·) := by
  let b : Snapshot := .element "b" .empty .absent []
  let a (shadow : ShadowSnapshot) (children : List Snapshot) : Snapshot :=
    .element "a" .empty shadow children
  let s : Snapshot := .document [a (.attached .closed [a .absent [a .absent [b], b]]) [b]]
  let d : Dom := ⟨#[{ data := .document, children := [1] },
    { data := .element "a" .empty, parent := some 0, children := [7], shadow := some 2 },
    { data := .shadowRoot .closed, host := some 1, children := [3] },
    { data := .element "a" .empty, parent := some 2, children := [4, 6] },
    { data := .element "a" .empty, parent := some 3, children := [5], next := some 6 },
    { data := .element "b" .empty, parent := some 4 },
    { data := .element "b" .empty, parent := some 3, prev := some 4 },
    { data := .element "b" .empty, parent := some 1 }]⟩
  have hd : s.load = .ok d := rfl
  let c : Chain := ⟨[⟨.css, .css [.compound [.universal]], false⟩,
    ⟨.css, .css [.compound [.type "b"]], false⟩]⟩
  obtain ⟨hblock, hincreasing⟩ := load_consecutive hd
  have hall : c.selectAll d 2 = [5, 6] :=
    ((load_built hd).linked.chain_selectAll_eq_filtered c 2).trans (by decide +kernel)
  exact ⟨s, d, c, hd, rfl, rfl, by decide +kernel, (hblock 2).2.2, hall, hincreasing c 2⟩

end Snapshot

end Umbra
