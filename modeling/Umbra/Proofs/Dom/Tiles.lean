import Umbra.Proofs.Dom.Layout

/-!
# Blocks of numbers

In a loaded document the nodes in a node, open and closed shadow trees included, are numbered one
after another, from the node itself on. The blocks of what lies directly in a node fill what is left
of its block, in order and without gaps.
-/

namespace Umbra

namespace Dom

/-- The blocks of some nodes fill a stretch one after another, and every node of the stretch has a
block. -/
structure Tiles (d : Dom) (ids : List NodeId) (first last : Nat) : Prop where
  le : first ≤ last
  subtrees_eq : ids.flatMap d.subtree = List.Ico first last
  block : ∀ x, first ≤ x → x < last → ∃ stop, d.subtree x = List.Ico x stop

namespace Tiles

variable {d : Dom} {ids ids' : List NodeId} {first mid last : Nat}

theorem nil : Tiles d [] first first :=
  ⟨Nat.le_refl _, List.Ico.self_empty.symm, fun _ hx hx' => absurd hx' (Nat.not_lt_of_le hx)⟩

theorem append (h : Tiles d ids first mid) (h' : Tiles d ids' mid last) :
    Tiles d (ids ++ ids') first last where
  le := Nat.le_trans h.le h'.le
  subtrees_eq := by
    rw [List.flatMap_append, h.subtrees_eq, h'.subtrees_eq,
      List.Ico.append_consecutive h.le h'.le]
  block x hx hx' := by
    rcases Nat.lt_or_ge x mid with hmid | hmid
    · exact h.block x hx hmid
    · exact h'.block x hmid hx'

/-- What lies directly in a node follows it at once. -/
theorem node (hd : d.Linked) (h : Tiles d (d.contents first) (first + 1) last) :
    Tiles d [first] first last := by
  have hlt : first < last := h.le
  have hblock : d.subtree first = List.Ico first last := by
    rw [hd.subtree_eq, h.subtrees_eq, List.Ico.eq_cons hlt]
  refine ⟨Nat.le_of_lt hlt, ?_, fun x hx hx' => ?_⟩
  · rw [List.flatMap_singleton, hblock]
  · rcases Nat.eq_or_lt_of_le hx with rfl | hx
    · exact ⟨last, hblock⟩
    · exact h.block x hx hx'

/-- A node that has nothing in it. -/
theorem leaf (hd : d.Linked) (helement : d.isElement first = false)
    (hchildren : d.children first = []) : Tiles d [first] first (first + 1) := by
  refine .node hd ?_
  rw [contents, hd.shadow?_of_not_isElement helement, hchildren]
  exact .nil

end Tiles

end Dom

open Dom

mutual

theorem Snapshot.StoredIn.tiles {d : Dom} (hd : d.Linked) : (s : Snapshot) → {first last : Nat} →
    s.StoredIn d first last → Tiles d [first] first last
  | .document _, _, _, h => h.elim
  | .element _ _ shadow children, first, last, h => by
    obtain ⟨-, mid, hshadow, hchildren⟩ := h
    exact .node hd ((ShadowSnapshot.StoredIn.tiles hd shadow hshadow).append
      (AllStoredIn.tiles hd children hchildren))
  | .text content, first, last, h => by
    obtain ⟨hdata, hchildren, rfl⟩ := h
    exact .leaf hd (by simp [isElement, element?, hdata]) hchildren
  | .comment content, first, last, h => by
    obtain ⟨hdata, hchildren, rfl⟩ := h
    exact .leaf hd (by simp [isElement, element?, hdata]) hchildren

theorem ShadowSnapshot.StoredIn.tiles {d : Dom} (hd : d.Linked) {host : NodeId} :
    (s : ShadowSnapshot) → {first last : Nat} → s.StoredIn d host first last →
    Tiles d (d.shadow? host).toList first last
  | .absent, first, last, h => by
    obtain ⟨hshadow, rfl⟩ := h
    rw [hshadow]
    exact .nil
  | .attached mode children, first, last, h => by
    obtain ⟨hshadow, hdata, hchildren⟩ := h
    rw [hshadow]
    refine .node hd ?_
    rw [contents, hd.shadow?_of_isShadowRoot (isShadowRoot_iff.2 ⟨mode, hdata⟩)]
    exact AllStoredIn.tiles hd children hchildren

theorem AllStoredIn.tiles {d : Dom} (hd : d.Linked) : (snapshots : List Snapshot) →
    {ids : List NodeId} → {first last : Nat} → AllStoredIn d snapshots ids first last →
    Tiles d ids first last
  | [], _, _, _, h => by
    obtain ⟨rfl, rfl⟩ := h
    exact .nil
  | s :: rest, _, first, last, h => by
    obtain ⟨mid, others, rfl, hs, hrest⟩ := h
    exact (Snapshot.StoredIn.tiles hd s hs).append (AllStoredIn.tiles hd rest hrest)

end

namespace Snapshot

variable {s : Snapshot} {orders : MapOrders} {d : Dom}

/-- A loaded document is one block. -/
theorem load_tiles (h : s.load orders = .ok d) : Tiles d [root] root d.size := by
  obtain ⟨hstored, -, hshadow⟩ := Snapshot.load_stored h
  refine .node (load_built h).linked ?_
  rw [contents, hshadow]
  exact AllStoredIn.tiles (load_built h).linked s.asDocument.parts hstored

/-- In a loaded document every subtree is a block. Outside of the document that is the number alone. -/
theorem load_subtree_eq (h : s.load orders = .ok d) (id : NodeId) :
    ∃ stop, d.subtree id = List.Ico id stop := by
  rcases Nat.lt_or_ge id d.size with hid | hid
  · exact (load_tiles h).block id (Nat.zero_le _) hid
  · have helement : d.isElement id = false := by
      simp [isElement, element?, data?, node?_eq_none hid]
    have alone := Tiles.leaf (load_built h).linked helement (children_eq_nil hid)
    exact alone.block id (Nat.le_refl _) (Nat.lt_succ_self _)

end Snapshot

end Umbra
