import Umbra.Proofs.Query.Increasing
import Umbra.Proofs.Query.Combinators
import Umbra.Proofs.Dom.Agreement
import Umbra.Regex.Library
import Mathlib.Data.List.Induction

/-!
# Chains of compounds

A chain goes down: every stage walks below what the stage before it selected. A descendant
combinator goes up from each candidate. Below a root that is no element the two ways meet the same
nodes, so a chain of compounds selects what one clause does that joins the compounds by descendant
combinators. The compounds must not ask where they are evaluated from.
-/

namespace Umbra

open Selector

/-! ## Conditions on an element alone -/

namespace Selector

mutual

/-- Whether a condition is on an element alone, wherever a query starts: there is no `:scope` in it
and no combinator. -/
def SimpleSelector.Local : SimpleSelector → Prop
  | .pseudo pseudoClass => pseudoClass.Local
  | _ => True

def PseudoClass.Local : PseudoClass → Prop
  | .scope => False
  | .not alternatives => localList alternatives
  | _ => True

def localCompound : List SimpleSelector → Prop
  | [] => True
  | s :: rest => s.Local ∧ localCompound rest

def ComplexSelector.Local : ComplexSelector → Prop
  | .compound subject => localCompound subject
  | .link _ _ _ => False

def localList : List ComplexSelector → Prop
  | [] => True
  | c :: rest => c.Local ∧ localList rest

end

/-- Compounds from left to right, joined by descendant combinators. -/
def ComplexSelector.descendants (first : CompoundSelector) (rest : List CompoundSelector) :
    ComplexSelector :=
  (rest.map (Prod.mk .descendant)).foldl .extend (.compound first)

theorem ComplexSelector.descendants_concat (first : CompoundSelector)
    (rest : List CompoundSelector) (a : CompoundSelector) :
    descendants first (rest ++ [a]) = .link a .descendant (descendants first rest) := by
  rw [descendants, List.map_append, List.foldl_append]
  rfl

end Selector

namespace Matcher

variable {d : Dom}

mutual

theorem holdsSimple_local (c c' : NodeId) (p p' : Bool) (x : NodeId) : (s : SimpleSelector) →
    s.Local → (Matcher.mk d c p).holdsSimple s x = (Matcher.mk d c' p').holdsSimple s x
  | .type _, _ => rfl
  | .universal, _ => rfl
  | .id _, _ => rfl
  | .className _, _ => rfl
  | .attribute _, _ => rfl
  | .pseudo pseudoClass, h => by
    rw [holdsSimple, holdsSimple]
    exact holdsPseudo_local c c' p p' x pseudoClass h

theorem holdsPseudo_local (c c' : NodeId) (p p' : Bool) (x : NodeId) : (s : PseudoClass) →
    s.Local → (Matcher.mk d c p).holdsPseudo s x = (Matcher.mk d c' p').holdsPseudo s x
  | .root, _ => rfl
  | .scope, h => h.elim
  | .empty, _ => rfl
  | .first _, _ => rfl
  | .last _, _ => rfl
  | .only _, _ => rfl
  | .nth _ _, _ => rfl
  | .nthLast _ _, _ => rfl
  | .not alternatives, h => by
    rw [holdsPseudo, holdsPseudo, holdsAny_local c c' p p' x alternatives h]

theorem holdsEvery_local (c c' : NodeId) (p p' : Bool) (x : NodeId) : (a : List SimpleSelector) →
    localCompound a → (Matcher.mk d c p).holdsEvery a x = (Matcher.mk d c' p').holdsEvery a x
  | [], _ => rfl
  | s :: rest, h => by
    rw [holdsEvery, holdsEvery, holdsSimple_local c c' p p' x s h.1,
      holdsEvery_local c c' p p' x rest h.2]

theorem holds_local (c c' : NodeId) (p p' : Bool) (x : NodeId) : (s : ComplexSelector) → s.Local →
    (Matcher.mk d c p).holds s x = (Matcher.mk d c' p').holds s x
  | .compound subject, h => by rw [holds, holds, holdsEvery_local c c' p p' x subject h]
  | .link _ _ _, h => h.elim

theorem holdsAny_local (c c' : NodeId) (p p' : Bool) (x : NodeId) : (l : List ComplexSelector) →
    localList l → (Matcher.mk d c p).holdsAny l x = (Matcher.mk d c' p').holdsAny l x
  | [], _ => rfl
  | s :: rest, h => by
    rw [holdsAny, holdsAny, holds_local c c' p p' x s h.1, holdsAny_local c c' p p' x rest h.2]

end

theorem isElement_of_holds {m : Matcher} {c : ComplexSelector} {x : NodeId}
    (h : m.holds c x = true) : m.dom.isElement x = true := by
  cases c with
  | compound =>
    rw [holds, Bool.and_eq_true] at h
    exact h.1
  | link =>
    rw [holds, Bool.and_eq_true, Bool.and_eq_true] at h
    exact h.1.1

/-! ## Up and down -/

section Linked

variable {m : Matcher} (hd : m.dom.Linked)

include hd

/-- Below the scope the steps up are the steps of the walk taken back. -/
theorem stepUp_iff {x y : NodeId} (hx : x ∈ m.dom.descendants m.pierce m.scope) :
    m.StepUp x y ↔
      y ∈ m.scope :: m.dom.descendants m.pierce m.scope ∧ x ∈ m.dom.inner m.pierce y := by
  have back {z : NodeId} (hz : z ∈ m.scope :: m.dom.descendants m.pierce m.scope)
      (hxz : x ∈ m.dom.inner m.pierce z) : m.StepUp x z := by
    have hvisible : z ∈ m.dom.visible m.scope :=
      ((hd.descendants_sublist_true m.scope).cons_cons m.scope).subset hz
    have hinner : x ∈ m.dom.inner true z := by
      rw [hd.mem_inner] at hxz ⊢
      exact hxz.imp_right fun ⟨_, hs⟩ => ⟨rfl, hs⟩
    rw [← parent?_eq_some_iff, parent?_of_inner hd hvisible hinner, if_pos]
    exact (hd.mem_inner.1 hxz).symm.imp_left And.left
  refine ⟨fun hxy => ?_, fun ⟨hy, hxy⟩ => back hy hxy⟩
  obtain ⟨z, hz, hxz⟩ := Relation.TransGen.tail'_iff.1 (hd.mem_descendants.1 hx)
  have hzwalk : z ∈ m.scope :: m.dom.descendants m.pierce m.scope := by
    rw [List.mem_cons, hd.mem_descendants, ← Relation.reflTransGen_iff_eq_or_transGen]
    exact hz
  have hstep := parent?_eq_some_iff.2 (back hzwalk hxz)
  rw [parent?_eq_some_iff.2 hxy, Option.some.injEq] at hstep
  subst hstep
  exact ⟨hzwalk, hxz⟩

theorem mem_descendants_of_walk {x y : NodeId}
    (hy : y ∈ m.scope :: m.dom.descendants m.pierce m.scope)
    (hx : x ∈ m.dom.descendants m.pierce y) : x ∈ m.dom.descendants m.pierce m.scope := by
  rcases List.mem_cons.1 hy with rfl | hy
  · exact hx
  · rw [hd.mem_descendants] at hx hy ⊢
    exact hy.trans hx

/-- From below the scope a descendant combinator leads to just those nodes of the walk below which
the walk meets the node again. -/
theorem mem_ancestors_iff {x e : NodeId} (hx : x ∈ m.dom.descendants m.pierce m.scope) :
    e ∈ m.ancestors x ↔
      e ∈ m.scope :: m.dom.descendants m.pierce m.scope ∧ x ∈ m.dom.descendants m.pierce e := by
  rw [mem_ancestors hd, hd.mem_descendants]
  constructor
  · intro h
    induction h using Relation.TransGen.head_induction_on with
    | single hxe =>
      obtain ⟨he, hin⟩ := (stepUp_iff hd hx).1 hxe
      exact ⟨he, .single hin⟩
    | @head x z hxz hze ih =>
      obtain ⟨hz, hin⟩ := (stepUp_iff hd hx).1 hxz
      -- no step starts from the scope, so the way has not reached it yet
      have hinside : z ≠ m.scope := by
        obtain ⟨y, hy, -⟩ := Relation.TransGen.head'_iff.1 hze
        cases hy with
        | parent inside => exact inside
        | host inside => exact inside
      obtain ⟨he, hez⟩ := ih ((List.mem_cons.1 hz).resolve_left hinside)
      exact ⟨he, hez.tail hin⟩
  · rintro ⟨he, hex⟩
    induction hex with
    | single hin => exact .single ((stepUp_iff hd hx).2 ⟨he, hin⟩)
    | @tail z x hez hin ih =>
      have hz := mem_descendants_of_walk hd he (hd.mem_descendants.2 hez)
      exact .head ((stepUp_iff hd hx).2 ⟨List.mem_cons_of_mem _ hz, hin⟩) (ih hz)

end Linked

end Matcher

/-! ## Stages -/

section Library

variable [RegexLibrary]

/-- A stage that is not captured and selects by a single alternative. -/
def Stage.ofSelector (engine : Engine) (c : ComplexSelector) : Stage := ⟨engine, .css [c], false⟩

namespace Stage

variable {d : Dom} {engine : Engine}

theorem reached_concat (stages : List Stage) (s : Stage) (start : Set NodeId) :
    reached d (stages ++ [s]) start =
      {id | ∃ context ∈ reached d stages start, id ∈ s.select d context} := by
  induction stages generalizing start with
  | nil => rfl
  | cons t stages ih => exact ih _

theorem mem_select_ofSelector {c : ComplexSelector} {context id : NodeId} :
    id ∈ (ofSelector engine c).select d context ↔
      id ∈ d.descendants engine.piercesShadow context ∧
        (Matcher.mk d context engine.piercesShadow).holds c id = true := by
  rw [select, ofSelector, Matcher.select, List.mem_filter, Matcher.holdsClause, Matcher.holdsAny,
    Matcher.holdsAny, Bool.or_false, Bool.and_eq_true]
  exact and_congr_right fun _ => and_iff_right_of_imp Matcher.isElement_of_holds

/-- One stage after another, each with a compound, leads from a root that is no element to what the
joined compounds select below it. -/
theorem mem_reached_iff (hd : d.Linked) {root : NodeId} (hroot : d.isElement root = false)
    (first : CompoundSelector) (rest : List CompoundSelector)
    (hlocal : ∀ a ∈ first :: rest, localCompound a) (id : NodeId) :
    id ∈ reached d ((first :: rest).map fun a => ofSelector engine (.compound a)) {root} ↔
      id ∈ (ofSelector engine (.descendants first rest)).select d root := by
  induction rest using List.reverseRecOn generalizing id with
  | nil => simp [reached, ComplexSelector.descendants]
  | append_singleton rest a ih =>
    let m : Matcher := ⟨d, root, engine.piercesShadow⟩
    have hm : m.dom.Linked := hd
    rw [← List.cons_append] at hlocal ⊢
    obtain ⟨hleft, ha⟩ := List.forall_mem_append.1 hlocal
    have hsame (context : NodeId) :
        (Matcher.mk d context engine.piercesShadow).holds (.compound a) id =
          m.holds (.compound a) id :=
      Matcher.holds_local context root _ _ id (.compound a) (ha a (List.mem_singleton_self a))
    rw [List.map_append, List.map_singleton, reached_concat, ComplexSelector.descendants_concat,
      mem_select_ofSelector, Matcher.holds_link_iff hm, ← Bool.and_eq_true, ← Matcher.holds]
    simp only [Set.mem_ofPred_eq, ih hleft, mem_select_ofSelector, hsame, Matcher.Leads,
      ← Matcher.mem_ancestors hm]
    constructor
    · rintro ⟨c, ⟨hc, hholds⟩, hid, hsubject⟩
      have hwalk : c ∈ m.scope :: m.dom.descendants m.pierce m.scope := List.mem_cons_of_mem _ hc
      have hbelow := Matcher.mem_descendants_of_walk hm hwalk hid
      exact ⟨hbelow, hsubject, c, (Matcher.mem_ancestors_iff hm hbelow).2 ⟨hwalk, hid⟩, hholds⟩
    · rintro ⟨hbelow, hsubject, c, hc, hholds⟩
      obtain ⟨hwalk, hid⟩ := (Matcher.mem_ancestors_iff hm hbelow).1 hc
      rcases List.mem_cons.1 hwalk with rfl | hwalk
      -- the chain never selects the root, and neither can a compound fit it
      · rw [m.isElement_of_holds hholds] at hroot
        cases hroot
      · exact ⟨c, ⟨hwalk, hholds⟩, hid, hsubject⟩

end Stage

end Library

namespace Chain

variable {d : Dom}

/-- Without a captured stage the last one answers. -/
theorem mem_selectAll_of_uncaptured [RegexLibrary] (hd : d.Linked) {root : NodeId} {c : Chain}
    (hne : c.stages ≠ []) (huncaptured : ∀ s ∈ c.stages, s.captured = false) (id : NodeId) :
    id ∈ c.selectAll d root ↔ id ∈ Stage.reached d c.stages {root} := by
  obtain ⟨before, s, after, hc, hindex, -, hs⟩ := c.exists_answering hne
  have hafter : after = [] := by
    rcases hs with hs | ⟨hafter, -⟩
    · rw [huncaptured s (by simp [hc])] at hs
      cases hs
    · exact hafter
  subst hafter
  obtain ⟨answer, hanswer, -, hmem⟩ :=
    hd.selections_spec before s [] (d.singleton_subset_visible root)
  have hstart : {x | x ∈ [root]} = ({root} : Set NodeId) := by
    ext x
    simp
  rw [selectAll, hindex, hc, hanswer, Option.getD_some, hmem, hstart]

/-- A document or a shadow root is no element. -/
theorem not_isElement_of_root {root : NodeId}
    (h : d.isDocument root = true ∨ d.isShadowRoot root = true) : d.isElement root = false := by
  rcases h with h | h
  · rw [Dom.isDocument] at h
    split at h
    · rename_i hdata
      simp [Dom.isElement, Dom.element?, hdata]
    · cases h
  · exact Dom.not_isElement_of_isShadowRoot h

/-- From a root that is a document or a shadow root, a chain of compounds gives the same answer as
the clause that joins them by descendant combinators. -/
theorem selectAll_descendants [RegexLibrary] (h : d.Arises) {root : NodeId}
    (hroot : d.isDocument root = true ∨ d.isShadowRoot root = true) (engine : Engine)
    (first : CompoundSelector) (rest : List CompoundSelector)
    (hlocal : ∀ a ∈ first :: rest, localCompound a) :
    (Chain.mk ((first :: rest).map fun a => Stage.ofSelector engine (.compound a))).selectAll d root =
      (Chain.mk [Stage.ofSelector engine (.descendants first rest)]).selectAll d root := by
  have hd := h.linked
  refine hd.eq_of_descendants_sublist (hd.chain_selectAll_sublist _ root)
    (hd.chain_selectAll_sublist _ root) fun id => ?_
  rw [mem_selectAll_of_uncaptured hd (by simp) (by simp [Stage.ofSelector]),
    Stage.mem_reached_iff hd (not_isElement_of_root hroot) first rest hlocal]
  rfl

/-- From a shadow root, with contexts in one another and a further shadow boundary between them. -/
theorem selectAll_descendants_across_shadow : ∃ (d : Dom) (a b : CompoundSelector), d.Arises ∧
    d.isShadowRoot 2 = true ∧ (∀ c ∈ [a, a, b], localCompound c) ∧
    (Chain.mk ([a, a, b].map fun c => Stage.ofSelector .css (.compound c))).selectAll d 2 = [6, 7] ∧
    (Chain.mk ([a, a, b].map fun c => Stage.ofSelector .css (.compound c))).selectAll d 2 =
      (Chain.mk [Stage.ofSelector .css (.descendants a [a, b])]).selectAll d 2 := by
  let d : Dom := ⟨#[{ data := .document, children := [1] },
    { data := .element "a" .empty, parent := some 0, shadow := some 2 },
    { data := .shadowRoot .closed, host := some 1, children := [3] },
    { data := .element "a" .empty, parent := some 2, children := [4, 8] },
    { data := .element "a" .empty, parent := some 3, next := some 8, shadow := some 5 },
    { data := .shadowRoot .opened, host := some 4, children := [6] },
    { data := .element "a" .empty, parent := some 5, children := [7] },
    { data := .element "b" .empty, parent := some 6 },
    { data := .element "b" .empty, parent := some 3, prev := some 4 }]⟩
  let leaf : Snapshot := .element "b" .empty .absent []
  let inner : ShadowSnapshot := .attached .opened [.element "a" .empty .absent [leaf]]
  let outer : ShadowSnapshot :=
    .attached .closed [.element "a" .empty .absent [.element "a" .empty inner [], leaf]]
  have hd : d.Arises := Or.inl ⟨.document [.element "a" .empty outer []], .byName, rfl⟩
  let a : CompoundSelector := [.type "a"]
  let b : CompoundSelector := [.pseudo (.not [.compound [.pseudo .empty, .type "a"]])]
  have hlocal : ∀ c ∈ [a, a, b], localCompound c := by
    simp [a, b, localCompound, SimpleSelector.Local, PseudoClass.Local, localList,
      ComplexSelector.Local]
  have hall : (Chain.mk ([a, a, b].map fun c =>
      Stage.ofSelector .css (.compound c))).selectAll d 2 = [6, 7] :=
    (hd.linked.chain_selectAll_eq_filtered _ 2).trans (by decide +kernel)
  exact ⟨d, a, b, hd, rfl, hlocal, hall,
    selectAll_descendants hd (Or.inr rfl) .css a [a, b] hlocal⟩

end Chain

end Umbra
