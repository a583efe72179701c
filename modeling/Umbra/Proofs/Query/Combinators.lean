import Umbra.Proofs.Dom.Agreement
import Umbra.Proofs.Dom.Visible
import Umbra.Query.Matcher

/-!
# Combinators

A complex selector holds at an element just when there is a path of elements, one for each of its
compounds, along which its combinators lead. `Leads` says where a combinator leads to in terms of
the parent links and the child lists of the document.
-/

namespace Umbra

open Selector

/-! ## The elements up to the scope -/

theorem head?_through (last : NodeId) (l : List NodeId) : (through last l).head? = l.head? := by
  cases l with
  | nil => rfl
  | cons a l =>
    rw [through]
    split <;> rfl

theorem through_sublist (last : NodeId) (l : List NodeId) : (through last l).Sublist l := by
  induction l with
  | nil => exact List.Sublist.slnil
  | cons a l ih =>
    rw [through]
    split
    · exact (List.nil_sublist l).cons_cons a
    · exact ih.cons_cons a

/-- Reaching a member of a list through members that all satisfy `q`. -/
theorem reach_cons {q : NodeId → Prop} {c x : NodeId} {l : List NodeId} :
    (∃ a b, c :: l = a ++ x :: b ∧ ∀ y ∈ a, q y) ↔
      c = x ∨ q c ∧ ∃ a b, l = a ++ x :: b ∧ ∀ y ∈ a, q y := by
  constructor
  · rintro ⟨a, b, hl, ha⟩
    cases a with
    | nil => exact Or.inl (List.cons.inj hl).1
    | cons d a =>
      obtain ⟨rfl, rfl⟩ := List.cons.inj hl
      exact Or.inr ⟨ha c (by simp), a, b, rfl, fun y hy => ha y (by simp [hy])⟩
  · rintro (rfl | ⟨hc, a, b, rfl, ha⟩)
    · exact ⟨[], l, rfl, by simp⟩
    · refine ⟨c :: a, b, rfl, fun y hy => ?_⟩
      rcases List.mem_cons.1 hy with rfl | hy
      · exact hc
      · exact ha y hy

/-- Of the kept members of a list, `through` takes those with no kept `last` before them. -/
theorem mem_through_filter {p : NodeId → Bool} {last x : NodeId} {l : List NodeId} :
    x ∈ through last (l.filter p) ↔
      p x = true ∧ ∃ a b, l = a ++ x :: b ∧ ∀ y ∈ a, p y = true → y ≠ last := by
  induction l with
  | nil => simp [through]
  | cons c l ih =>
    rw [reach_cons]
    by_cases hc : p c = true
    · rw [List.filter_cons_of_pos hc, through]
      by_cases hlast : c = last
      · rw [if_pos hlast, List.mem_singleton]
        constructor
        · rintro rfl
          exact ⟨hc, Or.inl rfl⟩
        · rintro ⟨-, rfl | ⟨h, -⟩⟩
          · rfl
          · exact absurd hlast (h hc)
      · rw [if_neg hlast, List.mem_cons, ih]
        constructor
        · rintro (rfl | ⟨hx, h⟩)
          · exact ⟨hc, Or.inl rfl⟩
          · exact ⟨hx, Or.inr ⟨fun _ => hlast, h⟩⟩
        · rintro ⟨hx, rfl | ⟨-, h⟩⟩
          · exact Or.inl rfl
          · exact Or.inr ⟨hx, h⟩
    · rw [List.filter_cons_of_neg hc, ih]
      constructor
      · rintro ⟨hx, h⟩
        exact ⟨hx, Or.inr ⟨fun h => absurd h hc, h⟩⟩
      · rintro ⟨hx, rfl | ⟨-, h⟩⟩
        · exact absurd hx hc
        · exact ⟨hx, h⟩

/-! ## Where combinators lead -/

/-- Whether a combinator leads up. -/
def Selector.Combinator.Upward : Combinator → Prop
  | .descendant => True
  | .child => True
  | .nextSibling => False
  | .subsequentSibling => False

namespace Matcher

variable {m : Matcher}

/-- One step up: to the parent or, with piercing, from a child of a shadow root to its host. No step
starts from the scope, and the shadow root that is the scope is not passed over. -/
inductive StepUp (m : Matcher) : NodeId → NodeId → Prop
  | parent {id p : NodeId} (inside : id ≠ m.scope) (parent : m.dom.parent? id = some p)
      (light : p = m.scope ∨ m.dom.isShadowRoot p = false) : StepUp m id p
  | host {id s h : NodeId} (inside : id ≠ m.scope) (parent : m.dom.parent? id = some s)
      (other : s ≠ m.scope) (shadow : m.dom.isShadowRoot s = true) (pierce : m.pierce = true)
      (host : m.dom.host? s = some h) : StepUp m id h

/-- Where a combinator leads to from the element on its right. The way to earlier siblings ends at
the scope. -/
def Leads (m : Matcher) : Combinator → NodeId → NodeId → Prop
  | .descendant, id, e => Relation.TransGen m.StepUp id e
  | .child, id, e => m.StepUp id e
  | .nextSibling, id, e => id ≠ m.scope ∧ m.dom.isElement e = true ∧
      ∃ between, m.dom.Precedes e id between ∧ ∀ x ∈ between, m.dom.isElement x = false
  | .subsequentSibling, id, e => id ≠ m.scope ∧ m.dom.isElement e = true ∧
      ∃ between, m.dom.Precedes e id between ∧ ∀ x ∈ between, m.dom.isElement x = true → x ≠ m.scope

theorem parent?_eq_some_iff {id p : NodeId} : m.parent? id = some p ↔ m.StepUp id p := by
  rw [parent?]
  constructor
  · intro h
    split at h
    · cases h
    · rename_i hid
      split at h
      · cases h
      · rename_i q hq
        split at h
        · rename_i hs
          split at h
          · rename_i hp
            exact .host hid hq hs.1 hs.2 hp h
          · cases h
        · rename_i hs
          obtain rfl := Option.some.inj h
          refine .parent hid hq ?_
          by_cases hq : q = m.scope
          · exact Or.inl hq
          · exact Or.inr (by simpa [hq] using hs)
  · rintro (⟨hid, hp, hl⟩ | ⟨hid, hp, ho, hs, hpierce, hh⟩)
    · rw [if_neg hid, hp]
      rcases hl with rfl | hl
      · simp
      · simp [hl]
    · rw [if_neg hid, hp]
      simp [ho, hs, hpierce, hh]

section Linked

variable (hd : m.dom.Linked)

include hd

theorem trace_ancestors (id : NodeId) :
    Trace m.parent? (m.parent? id) (m.ancestors id) := by
  have hup {x y : NodeId} (h : m.parent? x = some y) : m.dom.depth y < m.dom.depth x := by
    rw [parent?_eq_some_iff] at h
    cases h with
    | parent _ hp _ =>
      rw [hd.depth_succ (hd.up?_of_parent? hp)]
      exact Nat.lt_succ_self _
    | host _ hp _ _ _ hh =>
      rw [hd.depth_succ (hd.up?_of_parent? hp), hd.depth_succ (hd.up?_of_host? hh)]
      exact Nat.lt_succ_of_lt (Nat.lt_succ_self _)
  have hlt {x y : NodeId} (h : m.parent? x = some y) : y < m.dom.size := by
    rw [parent?_eq_some_iff] at h
    cases h with
    | parent _ hp _ => exact hd.parent_lt_size hp
    | host _ _ _ _ _ hh => exact Dom.lt_size_of_isElement (hd.host_kind hh).1
  exact Trace.of_follow (fun _ _ h => hup h) (fun _ h => hlt h) fun _ _ h => hlt h

theorem mem_ancestors {id p : NodeId} :
    p ∈ m.ancestors id ↔ Relation.TransGen m.StepUp id p := by
  rw [(trace_ancestors hd id).mem_iff]
  simp only [parent?_eq_some_iff]

/-- One step up from below the scope leads to where the walk into open shadow trees came from; without
piercing there is none out of a shadow tree. -/
theorem parent?_of_inner {x y : NodeId} (hy : y ∈ m.dom.visible m.scope)
    (hx : x ∈ m.dom.inner true y) :
    m.parent? x = if m.pierce = true ∨ m.dom.parent? x = some y then some y else none := by
  have hne : x ≠ m.scope := hd.ne_of_descendants (hd.mem_descendants_of_inner hy hx)
  rw [parent?, if_neg hne]
  rcases hd.mem_inner.1 hx with hp | ⟨-, s, hs, hp⟩
  · have hlight : ¬ (y ≠ m.scope ∧ m.dom.isShadowRoot y = true) := by
      rintro ⟨hscope, hroot⟩
      rcases List.mem_cons.1 hy with rfl | hy
      · exact hscope rfl
      · rw [hd.not_isShadowRoot_of_descendants hy] at hroot
        cases hroot
    rw [hp, if_pos (Or.inr rfl)]
    exact if_neg hlight
  · obtain ⟨hhost, hroot⟩ := hd.openShadow?_eq_some hs
    have hscope : s ≠ m.scope := by
      rintro rfl
      exact hd.not_inside_of_up? (hd.up?_of_host? hhost) (hd.inside_of_visible hy)
    have hother : s ≠ y := by
      rintro rfl
      exact hd.not_inside_of_up? (hd.up?_of_host? hhost) .refl
    rw [hp]
    simp [hscope, hroot, hhost, hother]

theorem mem_prevElements {id e : NodeId} :
    e ∈ m.prevElements id ↔ m.Leads .subsequentSibling id e := by
  rw [prevElements, Leads]
  split
  · rename_i hid
    simp [hid]
  · rename_i hid
    rw [Dom.prevElements, mem_through_filter, hd.reach_prevSiblings, and_iff_right hid]

theorem head?_prevElements {id e : NodeId} :
    (m.prevElements id).head? = some e ↔ m.Leads .nextSibling id e := by
  rw [prevElements, Leads]
  split
  · rename_i hid
    simp [hid]
  · rename_i hid
    rw [head?_through, Dom.prevElements, List.head?_filter, List.find?_eq_some_iff_append,
      hd.reach_prevSiblings, and_iff_right hid]
    simp only [Bool.not_eq_true']

theorem mem_related {k : Combinator} {id e : NodeId} : e ∈ m.related id k ↔ m.Leads k id e := by
  cases k with
  | descendant => exact mem_ancestors hd
  | child => rw [related, Option.mem_toList, parent?_eq_some_iff, Leads]
  | nextSibling => rw [related, Option.mem_toList, head?_prevElements hd]
  | subsequentSibling => exact mem_prevElements hd

/-- A selector with a combinator holds where its subject does and the combinator leads to where the
rest holds. -/
theorem holds_link_iff {subject : CompoundSelector} {k : Combinator} {left : ComplexSelector}
    {id : NodeId} : m.holds (.link subject k left) id = true ↔
      (m.dom.isElement id = true ∧ m.holdsEvery subject id = true) ∧
        ∃ next, m.Leads k id next ∧ m.holds left next = true := by
  rw [holds, Bool.and_eq_true, Bool.and_eq_true, List.any_eq_true]
  simp only [mem_related hd]

end Linked

/-- Among nodes that no step leaves, matchers that take the same steps have the same ancestors. -/
theorem ancestors_eq {m m' : Matcher} (hd : m.dom.Linked) (hd' : m'.dom.Linked) {V : NodeId → Prop}
    (hparent : ∀ x, V x → m'.parent? x = m.parent? x ∧ ∀ p, m.parent? x = some p → V p)
    {x : NodeId} (hx : V x) : m'.ancestors x = m.ancestors x ∧ ∀ p ∈ m.ancestors x, V p := by
  obtain ⟨hp, hpV⟩ := hparent x hx
  have htrace := trace_ancestors hd x
  have hmem := htrace.forall_mem (P := V) hpV fun a b ha => (hparent a ha).2 b
  have htrace' := htrace.congr fun a ha => (hparent a (hmem a ha)).1
  rw [← hp] at htrace'
  exact ⟨(trace_ancestors hd' x).unique htrace', hmem⟩

theorem related_upward_eq {m m' : Matcher} (hd : m.dom.Linked) (hd' : m'.dom.Linked)
    {V : NodeId → Prop}
    (hparent : ∀ x, V x → m'.parent? x = m.parent? x ∧ ∀ p, m.parent? x = some p → V p)
    {x : NodeId} (hx : V x) {k : Combinator} (hk : k.Upward) :
    m'.related x k = m.related x k ∧ ∀ p ∈ m.related x k, V p := by
  cases k with
  | descendant => exact ancestors_eq hd hd' hparent hx
  | child =>
    obtain ⟨hp, hpV⟩ := hparent x hx
    refine ⟨by rw [related, related, hp], fun p hp => hpV p ?_⟩
    simpa [related] using hp
  | nextSibling => exact hk.elim
  | subsequentSibling => exact hk.elim

/-- Among nodes that no step leaves, matchers that take the same steps follow every combinator alike. -/
theorem related_eq {m m' : Matcher} (hd : m.dom.Linked) (hd' : m'.dom.Linked) {V : NodeId → Prop}
    (hparent : ∀ x, V x → m'.parent? x = m.parent? x ∧ ∀ p, m.parent? x = some p → V p)
    (hprev : ∀ x, V x → m'.prevElements x = m.prevElements x ∧ ∀ p ∈ m.prevElements x, V p)
    {x : NodeId} (hx : V x) (k : Combinator) :
    m'.related x k = m.related x k ∧ ∀ p ∈ m.related x k, V p := by
  obtain ⟨hs, hsV⟩ := hprev x hx
  cases k with
  | descendant => exact related_upward_eq hd hd' hparent hx trivial
  | child => exact related_upward_eq hd hd' hparent hx trivial
  | nextSibling =>
    refine ⟨by rw [related, related, hs], fun p hp => hsV p (List.mem_of_mem_head? ?_)⟩
    simpa [related] using hp
  | subsequentSibling => exact ⟨hs, hsV⟩

/-- A path with one more node in front. -/
def pathCons (first : NodeId) (e : Nat → NodeId) : Nat → NodeId
  | 0 => first
  | i + 1 => e i

/-- A complex selector holds at a node just when there are elements, from that node on, that satisfy
its compounds and to each of which the combinator between the compounds leads. -/
theorem holds_iff_path (hd : m.dom.Arises) : (c : ComplexSelector) → (id : NodeId) →
    (m.holds c id = true ↔ ∃ e : Nat → NodeId, e 0 = id ∧
      m.dom.isElement (e 0) = true ∧ m.holdsEvery c.subject (e 0) = true ∧
      ∀ i k compound, c.steps[i]? = some (k, compound) → m.Leads k (e i) (e (i + 1)) ∧
        m.dom.isElement (e (i + 1)) = true ∧ m.holdsEvery compound (e (i + 1)) = true)
  | .compound subject, id => by
    rw [holds, Bool.and_eq_true]
    constructor
    · rintro ⟨he, hs⟩
      exact ⟨fun _ => id, rfl, he, hs, by simp [ComplexSelector.steps]⟩
    · rintro ⟨e, rfl, he, hs, -⟩
      exact ⟨he, hs⟩
  | .link subject k left, id => by
    rw [holds_link_iff hd.linked]
    constructor
    · rintro ⟨⟨he, hs⟩, next, hlead, hleft⟩
      obtain ⟨e, rfl, he', hs', hsteps⟩ := (holds_iff_path hd left next).1 hleft
      refine ⟨pathCons id e, rfl, he, hs, fun i => ?_⟩
      cases i with
      | zero =>
        rintro k' compound h
        cases h
        exact ⟨hlead, he', hs'⟩
      | succ i => exact hsteps i
    · rintro ⟨e, rfl, he, hs, hsteps⟩
      obtain ⟨hlead, he', hs'⟩ := hsteps 0 k left.subject rfl
      refine ⟨⟨he, hs⟩, e 1, hlead, (holds_iff_path hd left (e 1)).2 ?_⟩
      exact ⟨fun i => e (i + 1), rfl, he', hs', fun i => hsteps (i + 1)⟩

/-- A path across a shadow boundary and back along siblings. -/
theorem holds_iff_path_across_shadow : ∃ m : Matcher, m.dom.Arises ∧ ∃ c : ComplexSelector,
    c.steps.map Prod.fst = [.nextSibling, .child] ∧
    (m.holds c 4 = true ↔ ∃ e : Nat → NodeId, e 0 = 4 ∧
      m.dom.isElement (e 0) = true ∧ m.holdsEvery c.subject (e 0) = true ∧
      ∀ i k compound, c.steps[i]? = some (k, compound) → m.Leads k (e i) (e (i + 1)) ∧
        m.dom.isElement (e (i + 1)) = true ∧ m.holdsEvery compound (e (i + 1)) = true) ∧
    m.holds c 4 = true := by
  let d : Dom := ⟨#[{ data := .document, children := [1] },
    { data := .element "a" .empty, parent := some 0, shadow := some 2 },
    { data := .shadowRoot .opened, host := some 1, children := [3, 4] },
    { data := .element "b" .empty, parent := some 2, next := some 4 },
    { data := .element "c" .empty, parent := some 2, prev := some 3 }]⟩
  let shadow : ShadowSnapshot :=
    .attached .opened [.element "b" .empty .absent [], .element "c" .empty .absent []]
  have hd : d.Arises := Or.inl ⟨.document [.element "a" .empty shadow []], .byName, rfl⟩
  let m : Matcher := ⟨d, 0, true⟩
  let c : ComplexSelector :=
    .link [.type "c"] .nextSibling (.link [.type "b"] .child (.compound [.type "a"]))
  exact ⟨m, hd, c, rfl, holds_iff_path (m := m) hd c 4, by decide +kernel⟩

/-- The scope stops the way to earlier siblings: `c` has an `a` before it, but the scope is between. -/
theorem not_holds_past_scope : ∃ m : Matcher, m.dom.Arises ∧
    m.holds (.link [.type "c"] .subsequentSibling (.compound [.type "a"])) 4 = false ∧
    m.dom.isElement 4 = true ∧ m.holdsEvery [.type "c"] 4 = true ∧
    4 ≠ m.scope ∧ m.dom.Precedes 2 4 [3] ∧
    m.dom.isElement 2 = true ∧ m.holdsEvery [.type "a"] 2 = true := by
  let d : Dom := ⟨#[{ data := .document, children := [1] },
    { data := .element "r" .empty, parent := some 0, children := [2, 3, 4] },
    { data := .element "a" .empty, parent := some 1, next := some 3 },
    { data := .element "b" .empty, parent := some 1, next := some 4, prev := some 2 },
    { data := .element "c" .empty, parent := some 1, prev := some 3 }]⟩
  have hd : d.Arises := Or.inl ⟨.document [.element "r" .empty .absent
    [.element "a" .empty .absent [], .element "b" .empty .absent [],
      .element "c" .empty .absent []]], .byName, rfl⟩
  refine ⟨⟨d, 3, false⟩, hd, by decide +kernel, rfl, by decide +kernel, by decide, ?_, rfl,
    by decide +kernel⟩
  exact ⟨1, [], [], rfl, rfl⟩

end Matcher

end Umbra
