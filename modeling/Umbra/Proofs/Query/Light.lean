import Umbra.Proofs.Dom.Agreement
import Umbra.Proofs.Query.Combinators
import Umbra.Proofs.Query.Simulation
import Umbra.Regex.Library

/-!
# Queries that stay out of shadow trees

Without piercing, a query selects what a piercing one selects among the light descendants of the
scope. From a light descendant both take the same steps up, since no shadow root lies between it and
the scope, so combinators lead both to the same light nodes.
-/

namespace Umbra

variable {d : Dom}

namespace Dom

/-- A node and its light descendants. -/
def light (d : Dom) (scope : NodeId) : List NodeId := scope :: d.descendants false scope

namespace Linked

variable (hd : d.Linked)

include hd

theorem mem_light {scope x : NodeId} :
    x ∈ d.light scope ↔ Relation.ReflTransGen (fun a c => c ∈ d.children a) scope x := by
  rw [light, List.mem_cons, hd.mem_descendants, Relation.reflTransGen_iff_eq_or_transGen]
  simp only [hd.mem_inner, hd.mem_children, Bool.false_eq_true, false_and, or_false]

/-- The parent of a light descendant is the scope or a light descendant. -/
theorem exists_parent_light {scope x : NodeId} (hx : x ∈ d.descendants false scope) :
    ∃ p ∈ d.light scope, d.parent? x = some p := by
  obtain ⟨p, hp, hpx⟩ := Relation.TransGen.tail'_iff.1 (hd.mem_descendants.1 hx)
  refine ⟨p, ?_, by simpa [hd.mem_inner] using hpx⟩
  rw [light, List.mem_cons, hd.mem_descendants, ← Relation.reflTransGen_iff_eq_or_transGen]
  exact hp

theorem light_subset_visible (scope : NodeId) : d.light scope ⊆ d.visible scope :=
  ((hd.descendants_light_sublist scope).cons_cons scope).subset

/-- Of what the walk into open shadow trees meets, the light descendants are what the other walk
meets. -/
theorem filter_light {scope : NodeId} {p : NodeId → Bool}
    (hp : ∀ x, p x = true ↔ x ∈ d.light scope) :
    (d.descendants true scope).filter p = d.descendants false scope := by
  have hlight : (d.descendants false scope).filter p = d.descendants false scope :=
    List.filter_eq_self.2 fun x hx => (hp x).2 (List.mem_cons_of_mem _ hx)
  have hsub := (hd.descendants_light_sublist scope).filter p
  rw [hlight] at hsub
  have hsubset : (d.descendants true scope).filter p ⊆ d.descendants false scope := by
    intro x hx
    obtain ⟨hx, hpx⟩ := List.mem_filter.1 hx
    exact (List.mem_cons.1 ((hp x).1 hpx)).resolve_left (hd.ne_of_descendants hx)
  have hnodup : (d.descendants true scope).Nodup := hd.nodup_descendants scope
  exact (hsub.eq_of_length_le (List.subperm_of_subset (hnodup.filter p) hsubset).length_le).symm

end Linked

end Dom

namespace Matcher

/-- From a light descendant of the scope, or from the scope, both matchers step to the same light
nodes. -/
theorem parent?_light (hd : d.Linked) {scope x : NodeId} (hx : x ∈ d.light scope) :
    (Matcher.mk d scope true).parent? x = (Matcher.mk d scope false).parent? x ∧
      ∀ p, (Matcher.mk d scope false).parent? x = some p → p ∈ d.light scope := by
  rcases List.mem_cons.1 hx with rfl | hx
  · simp [parent?]
  · obtain ⟨p, hp, hxp⟩ := hd.exists_parent_light hx
    have hvisible := hd.light_subset_visible scope hp
    have hinner := hd.mem_inner_of_parent? hxp
    rw [parent?_of_inner (m := ⟨d, scope, true⟩) hd hvisible hinner,
      parent?_of_inner (m := ⟨d, scope, false⟩) hd hvisible hinner, if_pos (Or.inl rfl),
      if_pos (Or.inr hxp)]
    refine ⟨rfl, fun q hq => ?_⟩
    cases hq
    exact hp

/-- Earlier siblings of a light descendant are light descendants. -/
theorem prevElements_light (hd : d.Linked) {scope x : NodeId} (hx : x ∈ d.light scope) :
    ∀ e ∈ (Matcher.mk d scope false).prevElements x, e ∈ d.light scope := by
  intro e he
  obtain ⟨hne, -, between, ⟨q, before, after, hq, hplace⟩, -⟩ := (mem_prevElements hd).1 he
  obtain ⟨p, hp, hxp⟩ := hd.exists_parent_light ((List.mem_cons.1 hx).resolve_left hne)
  rw [hq, Option.some.injEq] at hxp
  subst hxp
  rw [hd.mem_light] at hp ⊢
  refine hp.tail ?_
  rw [hplace]
  simp

/-- On the scope and its light descendants the two matchers are alike. -/
theorem alike_light (hd : d.Linked) (scope : NodeId) :
    Alike ⟨d, scope, false⟩ ⟨d, scope, true⟩ fun a b => a = b ∧ a ∈ d.light scope where
  isElement_eq h := h.1 ▸ rfl
  type_eq h _ _ := h.1 ▸ rfl
  attribute?_eq h _ _ := h.1 ▸ rfl
  isRoot_eq h _ := h.1 ▸ rfl
  isScope_eq h _ := h.1 ▸ rfl
  isEmpty_eq h _ := h.1 ▸ rfl
  before_eq h _ _ := h.1 ▸ rfl
  after_eq h _ _ := h.1 ▸ rfl
  related := by
    rintro a _ ⟨rfl, ha⟩ - k
    obtain ⟨heq, hmem⟩ := @related_eq ⟨d, scope, false⟩ ⟨d, scope, true⟩ hd hd (· ∈ d.light scope)
      (fun _ hx => parent?_light hd hx) (fun _ hx => ⟨rfl, prevElements_light hd hx⟩) a ha k
    rw [heq, List.forall₂_same]
    exact fun b hb => ⟨rfl, hmem b hb⟩

theorem holdsClause_light [RegexLibrary] (hd : d.Linked) {scope x : NodeId} (hx : x ∈ d.light scope)
    (clause : Clause) :
    (Matcher.mk d scope false).holdsClause x clause =
      (Matcher.mk d scope true).holdsClause x clause :=
  (alike_light hd scope).holdsClause_eq ⟨rfl, hx⟩ rfl clause

open Classical in
/-- A query that does not pierce shadow roots selects what the piercing one selects among the nodes
that child lists alone lead to from the scope, in the same order. -/
theorem select_light_eq [RegexLibrary] (hd : d.Arises) (scope : NodeId) (clause : Clause) :
    (Matcher.mk d scope false).select clause =
      ((Matcher.mk d scope true).select clause).filter fun x =>
        Relation.ReflTransGen (fun a c => c ∈ d.children a) scope x := by
  have hl := hd.linked
  have hwalk : (d.descendants true scope).filter
      (fun x => Relation.ReflTransGen (fun a c => c ∈ d.children a) scope x) =
        d.descendants false scope :=
    hl.filter_light fun x => by rw [decide_eq_true_eq, hl.mem_light]
  calc (Matcher.mk d scope false).select clause
      = (d.descendants false scope).filter fun x =>
          d.isElement x && (Matcher.mk d scope true).holdsClause x clause := by
        refine List.filter_congr fun x hx => ?_
        rw [holdsClause_light hl (List.mem_cons_of_mem _ hx)]
    _ = ((Matcher.mk d scope true).select clause).filter fun x =>
          Relation.ReflTransGen (fun a c => c ∈ d.children a) scope x := by
        rw [select, List.filter_comm, hwalk]

open Classical in
/-- Below a shadow root, with an element of that tree that hosts another one. -/
theorem select_light_eq_below_shadow : ∃ (d : Dom) (clause : Clause), d.Arises ∧
    (Matcher.mk d 2 true).select clause = [5, 6] ∧ (Matcher.mk d 2 false).select clause = [6] ∧
    (Matcher.mk d 2 false).select clause = ((Matcher.mk d 2 true).select clause).filter fun x =>
      Relation.ReflTransGen (fun a c => c ∈ d.children a) 2 x := by
  let d : Dom := ⟨#[{ data := .document, children := [1] },
    { data := .element "a" .empty, parent := some 0, shadow := some 2 },
    { data := .shadowRoot .opened, host := some 1, children := [3] },
    { data := .element "a" .empty, parent := some 2, children := [6], shadow := some 4 },
    { data := .shadowRoot .opened, host := some 3, children := [5] },
    { data := .element "b" .empty, parent := some 4 },
    { data := .element "b" .empty, parent := some 3 }]⟩
  let inner : ShadowSnapshot := .attached .opened [.element "b" .empty .absent []]
  let outer : ShadowSnapshot :=
    .attached .opened [.element "a" .empty inner [.element "b" .empty .absent []]]
  have hd : d.Arises := Or.inl ⟨.document [.element "a" .empty outer []], .byName, rfl⟩
  let clause : Clause := .css [.link [.type "b"] .child (.compound [.type "a"])]
  exact ⟨d, clause, hd, by decide +kernel, by decide +kernel, select_light_eq hd 2 clause⟩

end Matcher

end Umbra
