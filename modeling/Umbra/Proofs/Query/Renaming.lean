import Umbra.Proofs.Dom.Reload
import Umbra.Proofs.Query.Correspondence
import Umbra.Regex.Library

/-!
# Answers under other names

Where a part of a document that no link leaves stands under other names, a query from one of its
nodes has the same possible answers under the other names, member by member. A document that is read
back and loaded again is such a case, so it answers as before.
-/

namespace Umbra

open Selector

variable {d d' : Dom} {part : NodeId → Prop} {f : NodeId → NodeId}

namespace Dom.Renaming

variable (h : Renaming d d' part f)

include h

theorem fills_eq {x : NodeId} (hx : part x) : d'.fills (f x) = d.fills x := by
  rw [fills, fills, h.isElement_eq hx, h.text?_eq hx]

variable (hd : d.Linked) (hd' : d'.Linked)

include hd hd'

/-- A part that no link leaves corresponds to itself under the other names. -/
theorem corresponds : Corresponds d d' part f where
  injective := h.injective
  data_eq := h.data_eq
  parent?_eq := h.parent?_eq hd hd'
  part_parent hx hp := (h.part_parent hd hp).1 hx
  host?_eq := h.host?_eq hd hd'
  part_host hx hh := (h.part_host hd hh).1 hx
  prevElements_eq := h.prevElements_eq hd hd'
  part_prev hx hy := h.part_sibling hd hd' hx (Or.inl (List.mem_of_mem_filter hy))
  nextElements_eq := h.nextElements_eq hd hd'
  part_next hx hy := h.part_sibling hd hd' hx (Or.inr (List.mem_of_mem_filter hy))
  any_fills_eq := by
    intro x hx
    rw [h.linkedChildren_eq hd hd' hx, hd.linkedChildren_eq]
    refine (any_eq_of_forall₂ (forall₂_map_of_part fun y hy => h.part_child hd hx hy) ?_).symm
    rintro y _ ⟨hy, rfl⟩
    exact (h.fills_eq hy).symm
  ownText_eq := h.ownText_eq hd hd'
  elementsBelow_eq := by
    intro x pierce hx
    unfold elementsBelow
    rw [h.descendants_eq hd hd' hx]
    exact filter_map_of_eq fun y hy => h.isElement_eq (h.part_descendants hd hx hy)
  part_below hx hy := h.part_descendants hd hx (List.mem_of_mem_filter hy)

end Dom.Renaming

namespace Dom

/-- A built document is read back and loaded again as it is, except that what lies in the document
node gets new names, its ranks in pre-order, that the maps get other orders, and that the rest is left
behind. From each node it answers every chain as before, under the new names, if no element has two
names that are equal up to case. Over all orders of the maps it always has the same answers. -/
theorem Built.load_snapshot [RegexLibrary] (h : d.Built) (orders : MapOrders) :
    ∃ d', (d.snapshot root).load orders = .ok d' ∧
    (∀ x, x ∈ d.subtree root ↔
      Relation.ReflTransGen (fun p c => c ∈ d.children p ∨ d.shadow? p = some c) root x) ∧
    (∀ x, d.subtree x = x :: ((d.shadow? x).toList ++ d.children x).flatMap d.subtree) ∧
    (d.subtree root).map d.rank = List.range d'.size ∧
    (∀ x ∈ d.subtree root,
      d'.byName.node? (d.rank x) = (d.byName.node? x).map (Node.renamed d.rank)) ∧
    ∀ r ∈ d.subtree root, ∀ c : Chain,
      (d.NamesApart → c.selectAll d' (d.rank r) = (c.selectAll d r).map d.rank) ∧
      ∀ ids', c.MayAnswer d' (d.rank r) ids' ↔
        ∃ ids, c.MayAnswer d r ids ∧ ids.map d.rank = ids' := by
  have hd := h.linked
  obtain ⟨d', hload⟩ := h.exists_load orders
  have hd' := (Snapshot.load_built hload).linked
  have hrenaming := h.renaming hload
  have hcorresponds := hrenaming.corresponds hd hd'
  refine ⟨d', hload, fun x => ?_, hd.subtree_eq, ?_, fun x hx => hrenaming.node?_eq hd hd' hx,
    fun r hr c => ⟨fun apart => ?_, hcorresponds.mayAnswer_iff hd hd' hr c⟩⟩
  · rw [hd.mem_subtree, Inside, ← Relation.reflTransGen_swap]
    have hswap : (Function.swap fun x y => d.up? x = some y) =
        fun p c => c ∈ d.children p ∨ d.shadow? p = some c := by
      funext p c
      change (d.up? c = some p) = _
      rw [hd.up?_eq_some_iff, hd.mem_children, hd.shadow_iff]
    rw [hswap]
  · rw [hd.map_rank, (h.copied hload).1]
  · have reads (x : NodeId) (hx : x ∈ d.subtree root) := hcorresponds.attribute?_eq apart hx
    exact hcorresponds.chain_selectAll_eq hd hd' reads hr c

/-- A closed shadow tree, numbers out of order and a detached node. -/
theorem Built.load_snapshot_out_of_order : ∃ d d' : Dom, d.Built ∧
    d.subtree root = [0, 2, 3, 1, 4] ∧ d.mode? 3 = some .closed ∧ d.size = 6 ∧
    (d.snapshot root).load = .ok d' ∧ List.range d'.size = [0, 1, 2, 3, 4] ∧
    d'.byName.node? 3 = (d.byName.node? 1).map (Node.renamed d.rank) ∧ ∀ c : Chain,
      c.selectAll d' 2 = (c.selectAll d 3).map d.rank := by
  let d₁ : Dom := (Dom.new.add (.element "b" .empty)).add (.element "a" .empty)
  let d₂ : Dom := ⟨#[{ data := .document }, { data := .element "b" .empty },
    { data := .element "a" .empty, shadow := some 3 },
    { data := .shadowRoot .closed, host := some 2 }]⟩
  let d₃ : Dom := ⟨#[{ data := .document }, { data := .element "b" .empty, parent := some 3 },
    { data := .element "a" .empty, shadow := some 3 },
    { data := .shadowRoot .closed, children := [1], host := some 2 },
    { data := .text "t" }, { data := .comment "c" }]⟩
  let d₄ : Dom := ⟨#[{ data := .document }, { data := .element "b" .empty, parent := some 3 },
    { data := .element "a" .empty, children := [4], shadow := some 3 },
    { data := .shadowRoot .closed, children := [1], host := some 2 },
    { data := .text "t", parent := some 2 }, { data := .comment "c" }]⟩
  let d : Dom := ⟨#[{ data := .document, children := [2] },
    { data := .element "b" .empty, parent := some 3 },
    { data := .element "a" .empty, parent := some 0, children := [4], shadow := some 3 },
    { data := .shadowRoot .closed, children := [1], host := some 2 },
    { data := .text "t", parent := some 2 }, { data := .comment "c" }]⟩
  have built₁ : d₁.Built := .add (.add .new _) _
  have attached : d₁.attachShadow 2 .closed = .ok (3, d₂) := rfl
  have built₂ : d₂.Built := .attachShadow built₁ attached
  have inner : (d₂.append 3 1).Built := .append built₂ ⟨_, rfl, rfl⟩ ⟨_, rfl, rfl⟩ rfl
    (mt built₂.linked.inside_iff.1 (by decide +kernel))
  have built₃ : d₃.Built := .add (.add inner (.text "t")) (.comment "c")
  have built₄ : d₄.Built := @Built.append d₃ 2 4 built₃ ⟨_, rfl, rfl⟩ ⟨_, rfl, rfl⟩ rfl
    (mt built₃.linked.inside_iff.1 (by decide +kernel))
  have built : d.Built := @Built.append d₄ 0 2 built₄ ⟨_, rfl, rfl⟩ ⟨_, rfl, rfl⟩ rfl
    (mt built₄.linked.inside_iff.1 (by decide +kernel))
  have hsubtree : d.subtree root = [0, 2, 3, 1, 4] := by decide +kernel
  obtain ⟨d', hload, -, -, hrank, hnode, hanswer⟩ := built.load_snapshot .byName
  refine ⟨d, d', built, hsubtree, rfl, rfl, hload, ?_, ?_, fun c => ?_⟩
  · rw [← hrank]
    decide +kernel
  · exact hnode 1 (by decide +kernel)
  · exact (hanswer 3 (by decide +kernel) c).1 (by decide +kernel)

end Dom

end Umbra
