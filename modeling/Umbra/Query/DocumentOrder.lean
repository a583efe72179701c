import Umbra.Dom.Walk

/-!
Document order. The nodes of the tree around a node are numbered in pre-order from the topmost
node on, the contents of an open shadow root before the children of its host. If the node itself is
not met in this way, it and the nodes below it are numbered last.

Sets of nodes are merged by these numbers, and nodes without a number come at the end.
-/

namespace Umbra

structure DocumentOrder where
  /-- How many nodes are numbered. -/
  count : Nat
  /-- The numbers that were given out, the last one first. -/
  numbers : List (NodeId × Nat)

namespace DocumentOrder

def empty : DocumentOrder := ⟨0, []⟩

def position? (o : DocumentOrder) (id : NodeId) : Option Nat := o.numbers.lookup id

def isNumbered (o : DocumentOrder) (id : NodeId) : Bool := (o.position? id).isSome

/-- Gives a node the next number, also if it has one already. -/
def number (o : DocumentOrder) (id : NodeId) : DocumentOrder :=
  ⟨if o.isNumbered id then o.count else o.count + 1, (id, o.count) :: o.numbers⟩

/-- Gives a node the next number unless it has one. -/
def numberNew (o : DocumentOrder) (id : NodeId) : DocumentOrder :=
  if o.isNumbered id then o else o.number id

def ofDom (d : Dom) (root : NodeId) : DocumentOrder :=
  let top := d.topmost root
  let order := (top :: d.descendants true top).foldl number empty
  if order.isNumbered root then order
  else (root :: d.descendants true root).foldl numberNew order

/-- Whether the first of two nodes may stay before the second. -/
def le (o : DocumentOrder) (a b : NodeId) : Bool :=
  match o.position? a, o.position? b with
  | some m, some n => m ≤ n
  | some _, none => true
  | none, some _ => false
  | none, none => true

/-- A list without what was in it before. -/
def firsts : List NodeId → List NodeId
  | [] => []
  | id :: rest => id :: (firsts rest).filter (· != id)

/-- The nodes of several sets, each once, in document order. Nodes without a number keep the order
they have. -/
def merge (o : DocumentOrder) (sets : List (List NodeId)) : List NodeId :=
  (firsts sets.flatten).mergeSort o.le

theorem mem_firsts {id : NodeId} {ids : List NodeId} : id ∈ firsts ids ↔ id ∈ ids := by
  induction ids with
  | nil => simp [firsts]
  | cons a ids ih =>
    by_cases h : id = a
    · simp [firsts, h]
    · simp [firsts, h, ih]

theorem nodup_firsts (ids : List NodeId) : (firsts ids).Nodup := by
  induction ids with
  | nil => simp [firsts]
  | cons a ids ih =>
    rw [firsts, List.nodup_cons]
    exact ⟨by simp, ih.filter _⟩

theorem le_total (o : DocumentOrder) (a b : NodeId) : (o.le a b || o.le b a) = true := by
  unfold le
  cases o.position? a <;> cases o.position? b <;> simp [Nat.le_total]

theorem le_trans (o : DocumentOrder) {a b c : NodeId} (hab : o.le a b = true)
    (hbc : o.le b c = true) : o.le a c = true := by
  unfold le at *
  cases ha : o.position? a <;> cases hb : o.position? b <;> cases hc : o.position? c <;>
    simp_all
  exact Nat.le_trans hab hbc

theorem mem_merge {o : DocumentOrder} {sets : List (List NodeId)} {id : NodeId} :
    id ∈ o.merge sets ↔ ∃ s ∈ sets, id ∈ s := by
  simp [merge, List.mem_mergeSort, mem_firsts]

theorem nodup_merge (o : DocumentOrder) (sets : List (List NodeId)) : (o.merge sets).Nodup :=
  (List.mergeSort_perm _ _).nodup_iff.2 (nodup_firsts _)

theorem sorted_merge (o : DocumentOrder) (sets : List (List NodeId)) :
    (o.merge sets).Pairwise fun a b => o.le a b = true :=
  @List.pairwise_mergeSort NodeId o.le (fun _ _ _ => o.le_trans) o.le_total _

end DocumentOrder

end Umbra
