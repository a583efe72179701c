import Umbra.Dom.Basic
import Mathlib.Tactic.ByContra

/-!
# What the operations do to the links

One lemma for each operation and each view of a node. Everything later speaks about the views and
opens neither the arena nor the operations.
-/

namespace Umbra.Dom

variable {d : Dom} {x : NodeId}

/-! ## One node changed -/

theorem node?_update (d : Dom) (id : NodeId) (f : Node → Node) (x : NodeId) :
    (d.update id f).node? x = if x = id then (d.node? id).map f else d.node? x := by
  simp only [update, node?, Array.getElem?_modify]
  by_cases h : x = id
  · simp [h]
  · simp [h, Ne.symm h]

/-- A view that the change of a node keeps. -/
theorem map_update {α : Type} (view : Node → α) {id : NodeId} {f : Node → Node}
    (hf : ∀ n, view (f n) = view n) : ((d.update id f).node? x).map view = (d.node? x).map view := by
  rw [node?_update]
  by_cases h : x = id
  · rw [if_pos h, h, Option.map_map]
    exact congrArg (fun g => Option.map g (d.node? id)) (funext hf)
  · rw [if_neg h]

/-- A link that the change of a node keeps. -/
theorem bind_update {α : Type} (link : Node → Option α) {id : NodeId} {f : Node → Node}
    (hf : ∀ n, link (f n) = link n) :
    ((d.update id f).node? x).bind link = (d.node? x).bind link := by
  rw [node?_update]
  by_cases h : x = id
  · rw [if_pos h, h, Option.bind_map]
    exact congrArg (Option.bind (d.node? id)) (funext hf)
  · rw [if_neg h]

/-- A link that the change of a node sets. -/
theorem bind_update_set {α : Type} (link : Node → Option α) {id : NodeId} {f : Node → Node}
    {a : Option α} (hf : ∀ n, link (f n) = a) (hid : id < d.size) :
    ((d.update id f).node? x).bind link = if x = id then a else (d.node? x).bind link := by
  rw [node?_update]
  by_cases h : x = id
  · have hn : d.node? id = some d.nodes[id] := Array.getElem?_eq_getElem hid
    rw [if_pos h, if_pos h, hn]
    exact hf _
  · rw [if_neg h, if_neg h]

theorem children_eq_getD (d : Dom) (x : NodeId) :
    d.children x = ((d.node? x).map Node.children).getD [] := by
  rw [children]
  cases d.node? x <;> rfl

theorem children_update {id : NodeId} {f : Node → Node} (hf : ∀ n, (f n).children = n.children) :
    (d.update id f).children x = d.children x := by
  simp only [children_eq_getD, map_update Node.children hf]

/-! ## Nodes outside the arena -/

theorem node?_eq_none (h : d.size ≤ x) : d.node? x = none := Array.getElem?_eq_none h

theorem children_eq_nil (h : d.size ≤ x) : d.children x = [] := by
  rw [children, node?_eq_none h]

theorem lt_size_of_bind {α : Type} {link : Node → Option α} {a : α}
    (h : (d.node? x).bind link = some a) : x < d.size := by
  by_contra hx
  rw [node?_eq_none (Nat.le_of_not_lt hx)] at h
  cases h

theorem lt_size_of_parent? {p : NodeId} (h : d.parent? x = some p) : x < d.size := lt_size_of_bind h

theorem lt_size_of_host? {p : NodeId} (h : d.host? x = some p) : x < d.size := lt_size_of_bind h

theorem lt_size_of_mem_children {c : NodeId} (h : c ∈ d.children x) : x < d.size := by
  by_contra hx
  rw [children, node?_eq_none (Nat.le_of_not_lt hx)] at h
  cases h

theorem lt_size_of_data? {data : NodeData} (h : d.data? x = some data) : x < d.size := by
  by_contra hx
  rw [data?, node?_eq_none (Nat.le_of_not_lt hx)] at h
  cases h

/-! ## A detached node -/

section Add

variable {data : NodeData}

theorem node?_add : (d.add data).node? x = if x = d.size then some { data } else d.node? x := by
  simp only [add, node?, size, Array.getElem?_push]
  rfl

theorem data?_add : (d.add data).data? x = if x = d.size then some data else d.data? x := by
  simp only [data?, node?_add]
  split <;> rfl

/-- A new node has no links. -/
theorem bind_add {α : Type} (link : Node → Option α) (hl : link { data } = none) :
    ((d.add data).node? x).bind link = (d.node? x).bind link := by
  rw [node?_add]
  by_cases h : x = d.size
  · rw [if_pos h, node?_eq_none (Nat.le_of_eq h.symm)]
    exact hl
  · rw [if_neg h]

theorem parent?_add : (d.add data).parent? x = d.parent? x := bind_add Node.parent rfl

theorem next?_add : (d.add data).next? x = d.next? x := bind_add Node.next rfl

theorem prev?_add : (d.add data).prev? x = d.prev? x := bind_add Node.prev rfl

theorem host?_add : (d.add data).host? x = d.host? x := bind_add Node.host rfl

theorem shadow?_add : (d.add data).shadow? x = d.shadow? x := bind_add Node.shadow rfl

theorem shadow?_add_self : (d.add data).shadow? d.size = none := by
  rw [shadow?_add, shadow?, node?_eq_none (Nat.le_refl _)]
  rfl

theorem children_add : (d.add data).children x = d.children x := by
  rw [children_eq_getD, children_eq_getD, node?_add]
  by_cases h : x = d.size
  · rw [if_pos h, node?_eq_none (Nat.le_of_eq h.symm)]
    rfl
  · rw [if_neg h]

end Add

/-! ## A child -/

section Append

variable {p c : NodeId}

theorem data?_append : (d.append p c).data? x = d.data? x := by
  simp only [append, data?]
  split <;> simp only [map_update Node.data, implies_true]

theorem host?_append : (d.append p c).host? x = d.host? x := by
  simp only [append, host?]
  split <;> simp only [bind_update Node.host, implies_true]

theorem shadow?_append : (d.append p c).shadow? x = d.shadow? x := by
  simp only [append, shadow?]
  split <;> simp only [bind_update Node.shadow, implies_true]

theorem children_append (hp : p < d.size) :
    (d.append p c).children x = if x = p then d.children p ++ [c] else d.children x := by
  have key : ((d.update p fun n => { n with children := n.children ++ [c] }).children x) =
      if x = p then d.children p ++ [c] else d.children x := by
    simp only [children_eq_getD, node?_update]
    by_cases h : x = p
    · have hn : d.node? p = some d.nodes[p] := Array.getElem?_eq_getElem hp
      simp only [if_pos h, hn, Option.map_some, Option.getD_some]
    · simp only [if_neg h]
  simp only [append]
  split <;> simp only [children_update, implies_true, key]

theorem parent?_append (hc : c < d.size) :
    (d.append p c).parent? x = if x = c then some p else d.parent? x := by
  simp only [append, parent?]
  split <;> simp only [bind_update Node.parent, bind_update_set (a := some p) Node.parent,
    size_update, hc, implies_true]

theorem next?_append {last : NodeId} (h : (d.children p).getLast? = some last)
    (hl : last < d.size) :
    (d.append p c).next? x = if x = last then some c else d.next? x := by
  simp only [append, next?, h]
  simp only [bind_update Node.next, bind_update_set (a := some c) Node.next, size_update, hl,
    implies_true]

theorem next?_append_first (h : d.children p = []) : (d.append p c).next? x = d.next? x := by
  simp only [append, next?, h, List.getLast?_nil]
  simp only [bind_update Node.next, implies_true]

theorem prev?_append {last : NodeId} (h : (d.children p).getLast? = some last) (hc : c < d.size) :
    (d.append p c).prev? x = if x = c then some last else d.prev? x := by
  simp only [append, prev?, h]
  simp only [bind_update Node.prev, bind_update_set (a := some last) Node.prev, size_update, hc,
    implies_true]

theorem prev?_append_first (h : d.children p = []) : (d.append p c).prev? x = d.prev? x := by
  simp only [append, prev?, h, List.getLast?_nil]
  simp only [bind_update Node.prev, implies_true]

end Append

/-! ## A shadow root -/

section AddShadow

variable {h : NodeId} {mode : ShadowMode}

theorem data?_addShadow :
    (d.addShadow h mode).data? x = if x = d.size then some (.shadowRoot mode) else d.data? x := by
  simp only [addShadow, data?, map_update Node.data, implies_true]
  exact data?_add

theorem parent?_addShadow : (d.addShadow h mode).parent? x = d.parent? x := by
  simp only [addShadow, parent?, bind_update Node.parent, implies_true]
  exact parent?_add

theorem next?_addShadow : (d.addShadow h mode).next? x = d.next? x := by
  simp only [addShadow, next?, bind_update Node.next, implies_true]
  exact next?_add

theorem prev?_addShadow : (d.addShadow h mode).prev? x = d.prev? x := by
  simp only [addShadow, prev?, bind_update Node.prev, implies_true]
  exact prev?_add

theorem children_addShadow : (d.addShadow h mode).children x = d.children x := by
  simp only [addShadow, children_update, implies_true]
  exact children_add

theorem host?_addShadow :
    (d.addShadow h mode).host? x = if x = d.size then some h else d.host? x := by
  simp only [addShadow, host?, bind_update Node.host, bind_update_set (a := some h) Node.host,
    size_add, Nat.lt_succ_self, implies_true]
  rw [bind_add Node.host rfl]

theorem shadow?_addShadow (hh : h < d.size) :
    (d.addShadow h mode).shadow? x = if x = h then some d.size else d.shadow? x := by
  have hlt : h < d.size + 1 := Nat.lt_succ_of_lt hh
  simp only [addShadow, shadow?, bind_update Node.shadow,
    bind_update_set (a := some d.size) Node.shadow, size_add, size_update, hlt, implies_true]
  rw [bind_add Node.shadow rfl]

end AddShadow

end Umbra.Dom
