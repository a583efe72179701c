import Umbra.Proofs.Dom.Agreement
import Umbra.Proofs.Dom.Visible

/-!
# The walk with a stack

A walk can keep on a stack what it still has to meet: it takes the node on top, meets it, and puts
what lies directly in it on the stack, the first one on top. To find that, it follows the sibling
links from the first child on, as far as they go, and it goes on until the stack is empty.

In every document that comes about this ends, and the nodes are met in pre-order.
-/

namespace Umbra.Dom

variable {d : Dom} {pierce : Bool}

/-- What the child lists put directly below a node: the children of its open shadow root, if shadows
are pierced, and then its own. -/
def listed (d : Dom) (pierce : Bool) (id : NodeId) : List NodeId :=
  (if pierce then d.openShadow? id else none).elim [] d.children ++ d.children id

/-- A stack, its top at the end, before and after a node has put on it what the links say lies
directly in the node. -/
def Pushes (d : Dom) (pierce : Bool) (id : NodeId) (stack stack' : List NodeId) : Prop :=
  ∃ shadowed light,
    Trace d.next? ((if pierce then d.openShadow? id else none).bind d.firstChild?) shadowed ∧
      Trace d.next? (d.firstChild? id) light ∧ stack' = stack ++ (shadowed ++ light).reverse

/-- From a stack on, the walk meets the nodes of a list and comes to its end. -/
inductive Meets (d : Dom) (pierce : Bool) : List NodeId → List NodeId → Prop
  | done : Meets d pierce [] []
  | step {id : NodeId} {stack stack' met : List NodeId} (pushed : d.Pushes pierce id stack stack')
      (rest : Meets d pierce stack' met) : Meets d pierce (stack ++ [id]) (id :: met)

/-- The walk below a node meets the nodes of a list and comes to its end. -/
def Walks (d : Dom) (pierce : Bool) (root : NodeId) (met : List NodeId) : Prop :=
  ∃ stack, d.Pushes pierce root [] stack ∧ d.Meets pierce stack met

/-- What child lists alone lead to from a node: for a shadow root, its tree. -/
def TreeOf (d : Dom) : NodeId → NodeId → Prop :=
  Relation.ReflTransGen fun p c => c ∈ d.children p

/-! ## One walk at most -/

theorem Pushes.unique {id : NodeId} {stack after after' : List NodeId}
    (h : d.Pushes pierce id stack after) (h' : d.Pushes pierce id stack after') : after = after' := by
  obtain ⟨shadowed, light, hshadowed, hlight, rfl⟩ := h
  obtain ⟨shadowed', light', hshadowed', hlight', rfl⟩ := h'
  rw [hshadowed.unique hshadowed', hlight.unique hlight']

theorem Meets.unique {stack met met' : List NodeId} (h : d.Meets pierce stack met)
    (h' : d.Meets pierce stack met') : met = met' := by
  induction h generalizing met' with
  | done =>
    generalize hs : ([] : List NodeId) = stack at h'
    cases h' with
    | done => rfl
    | step => simp at hs
  | @step id stack stack' met pushed _ ih =>
    generalize hs : stack ++ [id] = top at h'
    cases h' with
    | done => simp at hs
    | step pushed' rest =>
      obtain ⟨rfl, hid⟩ := List.append_inj' hs rfl
      cases hid
      rw [ih (pushed.unique pushed' ▸ rest)]

theorem Walks.unique {root : NodeId} {met met' : List NodeId} (h : d.Walks pierce root met)
    (h' : d.Walks pierce root met') : met = met' := by
  obtain ⟨stack, hpushed, hmeets⟩ := h
  obtain ⟨stack', hpushed', hmeets'⟩ := h'
  exact hmeets.unique (hpushed.unique hpushed' ▸ hmeets')

namespace Linked

variable (hd : d.Linked)

include hd

/-! ## The walk in pre-order -/

theorem inner_eq_listed : d.inner pierce = d.listed pierce := funext fun _ => hd.inner_eq _

theorem pushes (id : NodeId) (stack : List NodeId) :
    d.Pushes pierce id stack (stack ++ (d.listed pierce id).reverse) := by
  refine ⟨_, d.children id, ?_, hd.trace_children id, rfl⟩
  cases if pierce then d.openShadow? id else none with
  | none => exact .nil
  | some s => exact hd.trace_children s

/-- With a forest on top of the stack, its nodes are met in pre-order before the rest. -/
theorem meets_append {forest l stack met : List NodeId}
    (h : InPreorder (d.listed pierce) forest l) (hrest : d.Meets pierce stack met) :
    d.Meets pierce (stack ++ forest.reverse) (l ++ met) := by
  induction h generalizing stack met with
  | nil => simpa using hrest
  | @cons c forest inside beside _ _ ihFirst ihOthers =>
    have hinside := ihFirst (ihOthers hrest)
    rw [List.reverse_cons, ← List.append_assoc, List.cons_append, List.append_assoc inside]
    exact .step (hd.pushes c _) hinside

theorem inPreorder_descendants (a : NodeId) :
    InPreorder (d.listed pierce) (d.listed pierce a) (d.descendants pierce a) := by
  have h : Layered (d.inner pierce) d.size := hd.layered_inner
  rw [hd.inner_eq_listed] at h
  rw [descendants, below_eq_preorder, hd.inner_eq_listed]
  exact h.inPreorder a

theorem walks_descendants (root : NodeId) : d.Walks pierce root (d.descendants pierce root) := by
  have h : d.Meets pierce ([] ++ (d.listed pierce root).reverse) (d.descendants pierce root ++ []) :=
    hd.meets_append (hd.inPreorder_descendants root) .done
  rw [List.append_nil] at h
  exact ⟨_, hd.pushes root [], h⟩

/-! ## Where the walk stays -/

/-- What every node but a closed shadow root hands up to its parent or host is handed up from what the
walk meets to where it starts. -/
theorem of_descendants {P : NodeId → Prop} {root x s : NodeId} (hs : d.mode? s = some .closed)
    (hchild : ∀ p c, c ≠ s → d.parent? c = some p → P c → P p)
    (hshadow : ∀ h r, r ≠ s → d.host? r = some h → P r → P h)
    (hx : x ∈ d.descendants pierce root) (h : P x) : P root := by
  have child {p c : NodeId} (hp : d.parent? c = some p) (h : P c) : P p := by
    refine hchild p c ?_ hp h
    rintro rfl
    have hc := (hd.child_kind hp).not_shadowRoot
    simp [isShadowRoot, hs] at hc
  have shadow {a r : NodeId} (hr : d.openShadow? a = some r) (h : P r) : P a := by
    refine hshadow a r ?_ (hd.openShadow?_eq_some hr).1 h
    rintro rfl
    have hopen := (Option.filter_eq_some_iff.1 hr).2
    simp [hs] at hopen
  have step {a c : NodeId} (hc : c ∈ d.inner pierce a) (h : P c) : P a := by
    rcases hd.mem_inner.1 hc with hp | ⟨-, r, hr, hp⟩
    · exact child hp h
    · exact shadow hr (child hp h)
  rw [hd.mem_descendants] at hx
  induction hx with
  | single hc => exact step hc h
  | tail _ hc ih => exact ih (step hc h)

/-- What lies in a closed shadow root, in its tree or further down, is met only from there. -/
theorem inside_of_descendants {root x s : NodeId} (hs : d.mode? s = some .closed)
    (hx : x ∈ d.descendants pierce root) (h : d.Inside x s) : d.Inside root s := by
  have up {a b : NodeId} (hne : a ≠ s) (hup : d.up? a = some b) (h : d.Inside a s) :
      d.Inside b s := by
    rcases Relation.ReflTransGen.cases_head h with rfl | ⟨c, hc, hcs⟩
    · exact absurd rfl hne
    · rw [hup, Option.some.injEq] at hc
      exact hc ▸ hcs
  exact hd.of_descendants (P := (d.Inside · s)) hs (fun _ _ hne hp => up hne (hd.up?_of_parent? hp))
    (fun _ _ hne hh => up hne (hd.up?_of_host? hh)) hx h

/-- What is in the tree of a closed shadow root is met only from that tree. -/
theorem treeOf_of_descendants {root x s : NodeId} (hs : d.mode? s = some .closed)
    (hx : x ∈ d.descendants pierce root) (h : d.TreeOf s x) : d.TreeOf s root := by
  have up {a p : NodeId} (hne : a ≠ s) (h : d.TreeOf s a) (hp : d.parent? a = some p) :
      d.TreeOf s p := by
    rcases Relation.ReflTransGen.cases_tail h with rfl | ⟨q, hq, hqa⟩
    · exact absurd rfl hne
    · rw [hd.mem_children, hp, Option.some.injEq] at hqa
      exact hqa ▸ hq
  refine hd.of_descendants hs (fun _ _ hne hp h => up hne h hp) (fun a r hne hh h => ?_) hx h
  rcases Relation.ReflTransGen.cases_tail h with rfl | ⟨q, -, hqr⟩
  · exact absurd rfl hne
  · rw [hd.mem_children, hd.parent?_of_host? hh] at hqr
    cases hqr

theorem not_isShadowRoot_of_mem_descendants {root x : NodeId} (hx : x ∈ d.descendants pierce root) :
    d.isShadowRoot x = false :=
  hd.not_isShadowRoot_of_descendants ((hd.descendants_sublist_true root).subset hx)

end Linked

/-- In every document that comes about, the walk with a stack below a node comes to its end. What it
meets is what the child lists give in pre-order, each node once, and neither the node where it starts
nor a shadow root. What is in a closed shadow root, in its tree or further down, is met only from
there. -/
theorem Arises.walks_preorder (h : d.Arises) (root : NodeId) (pierce : Bool) :
    (∀ met, d.Walks pierce root met ↔ met = d.descendants pierce root) ∧
    (∀ met, InPreorder (d.listed pierce) (d.listed pierce root) met ↔
      met = d.descendants pierce root) ∧
    (d.descendants pierce root).Nodup ∧ root ∉ d.descendants pierce root ∧
    ∀ x ∈ d.descendants pierce root, d.isShadowRoot x = false ∧
      ∀ s, d.mode? s = some .closed →
        (d.Inside x s → d.Inside root s) ∧ (d.TreeOf s x → d.TreeOf s root) := by
  have hd := h.linked
  have hwalk : d.Walks pierce root (d.descendants pierce root) := hd.walks_descendants root
  have hpreorder : InPreorder (d.listed pierce) (d.listed pierce root) (d.descendants pierce root) :=
    hd.inPreorder_descendants root
  refine ⟨fun met => ⟨fun hmet => hmet.unique hwalk, fun hmet => hmet ▸ hwalk⟩,
    fun met => ⟨fun hmet => hmet.unique hpreorder, fun hmet => hmet ▸ hpreorder⟩,
    hd.nodup_descendants root, fun hroot => hd.ne_of_descendants hroot rfl, fun x hx => ?_⟩
  exact ⟨hd.not_isShadowRoot_of_mem_descendants hx, fun s hs =>
    ⟨hd.inside_of_descendants hs hx, hd.treeOf_of_descendants hs hx⟩⟩

/-- An open shadow root in a closed one, from the closed one and from outside. -/
theorem walks_preorder_closed_shadow : ∃ d : Dom, d.Arises ∧ d.mode? 2 = some .closed ∧
    d.mode? 4 = some .opened ∧ d.Walks true 2 [3, 5, 6] ∧ d.Walks false 2 [3, 6] ∧
    d.Walks true 0 [1, 7] ∧ (d.Inside 5 2 → d.Inside 2 2) := by
  let d : Dom := ⟨#[{ data := .document, children := [1] },
    { data := .element "a" .empty, parent := some 0, children := [7], shadow := some 2 },
    { data := .shadowRoot .closed, host := some 1, children := [3] },
    { data := .element "b" .empty, parent := some 2, children := [6], shadow := some 4 },
    { data := .shadowRoot .opened, host := some 3, children := [5] },
    { data := .element "c" .empty, parent := some 4 },
    { data := .text "t", parent := some 3 },
    { data := .element "d" .empty, parent := some 1 }]⟩
  let inner : ShadowSnapshot := .attached .opened [.element "c" .empty .absent []]
  let outer : ShadowSnapshot := .attached .closed [.element "b" .empty inner [.text "t"]]
  have hd : d.Arises :=
    Or.inl ⟨.document [.element "a" .empty outer [.element "d" .empty .absent []]], .byName, rfl⟩
  obtain ⟨hpierced, -, -, -, hstays⟩ := hd.walks_preorder 2 true
  exact ⟨d, hd, rfl, rfl, (hpierced _).2 (by decide +kernel),
    ((hd.walks_preorder 2 false).1 _).2 (by decide +kernel),
    ((hd.walks_preorder 0 true).1 _).2 (by decide +kernel),
    ((hstays 5 (by decide +kernel)).2 2 rfl).1⟩

end Umbra.Dom
