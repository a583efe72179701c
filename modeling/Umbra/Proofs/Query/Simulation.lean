import Umbra.Query.Matcher
import Mathlib.Data.List.Forall2

/-!
# Matchers that see the same

Two matchers on two documents may be compared along a relation between the nodes of the one and of
the other. `Alike` says that related elements look the same to all that a selector can ask about one
element, and that combinators lead from them to related nodes. Then every selector holds at both or
at neither.
-/

namespace Umbra

open Selector

theorem any_eq_of_forall₂ {R : NodeId → NodeId → Prop} {l l' : List NodeId}
    (h : List.Forall₂ R l l') {p p' : NodeId → Bool} (hp : ∀ a b, R a b → p a = p' b) :
    l.any p = l'.any p' := by
  induction h with
  | nil => rfl
  | cons hab _ ih => rw [List.any_cons, List.any_cons, hp _ _ hab, ih]

theorem forall₂_filter {R : NodeId → NodeId → Prop} {l l' : List NodeId} (h : List.Forall₂ R l l')
    {p p' : NodeId → Bool} (hp : ∀ a b, R a b → p a = p' b) :
    List.Forall₂ R (l.filter p) (l'.filter p') := by
  induction h with
  | nil => exact .nil
  | cons hab _ ih =>
    rw [List.filter_cons, List.filter_cons, hp _ _ hab]
    split
    · exact .cons hab ih
    · exact ih

namespace Matcher

structure Alike (m m' : Matcher) (R : NodeId → NodeId → Prop) : Prop where
  isElement_eq : ∀ {a b}, R a b → m.dom.isElement a = m'.dom.isElement b
  type_eq : ∀ {a b}, R a b → m.dom.isElement a = true →
    ∀ name, m.holdsSimple (.type name) a = m'.holdsSimple (.type name) b
  attribute?_eq : ∀ {a b}, R a b → m.dom.isElement a = true →
    ∀ name, m.dom.attribute? a name = m'.dom.attribute? b name
  isRoot_eq : ∀ {a b}, R a b → m.dom.isElement a = true → m.isRoot a = m'.isRoot b
  isScope_eq : ∀ {a b}, R a b → m.dom.isElement a = true → m.isScope a = m'.isScope b
  isEmpty_eq : ∀ {a b}, R a b → m.dom.isElement a = true → m.isEmpty a = m'.isEmpty b
  before_eq : ∀ {a b}, R a b → m.dom.isElement a = true → ∀ among,
    (m.dom.countedBefore among a).length = (m'.dom.countedBefore among b).length
  after_eq : ∀ {a b}, R a b → m.dom.isElement a = true → ∀ among,
    (m.dom.countedAfter among a).length = (m'.dom.countedAfter among b).length
  related : ∀ {a b}, R a b → m.dom.isElement a = true → ∀ k,
    List.Forall₂ R (m.related a k) (m'.related b k)

namespace Alike

variable {m m' : Matcher} {R : NodeId → NodeId → Prop}

theorem isEmpty_congr {l l' : List NodeId} (hl : l.length = l'.length) : l.isEmpty = l'.isEmpty := by
  cases l <;> cases l' <;> simp_all

mutual

theorem holdsSimple_eq (h : Alike m m' R) {a b : NodeId} (hab : R a b)
    (ha : m.dom.isElement a = true) : (s : SimpleSelector) → m.holdsSimple s a = m'.holdsSimple s b
  | .type name => h.type_eq hab ha name
  | .universal => rfl
  | .id name => by rw [holdsSimple, holdsSimple, h.attribute?_eq hab ha]
  | .className name => by
    rw [holdsSimple, holdsSimple, hasClass, hasClass, h.attribute?_eq hab ha]
  | .attribute predicate => by rw [holdsSimple, holdsSimple, h.attribute?_eq hab ha]
  | .pseudo pseudoClass => by
    rw [holdsSimple, holdsSimple]
    exact holdsPseudo_eq h hab ha pseudoClass

theorem holdsPseudo_eq (h : Alike m m' R) {a b : NodeId} (hab : R a b)
    (ha : m.dom.isElement a = true) : (p : PseudoClass) → m.holdsPseudo p a = m'.holdsPseudo p b
  | .root => by rw [holdsPseudo, holdsPseudo, h.isRoot_eq hab ha]
  | .scope => by rw [holdsPseudo, holdsPseudo, h.isScope_eq hab ha]
  | .empty => by rw [holdsPseudo, holdsPseudo, h.isEmpty_eq hab ha]
  | .first among => by rw [holdsPseudo, holdsPseudo, isEmpty_congr (h.before_eq hab ha among)]
  | .last among => by rw [holdsPseudo, holdsPseudo, isEmpty_congr (h.after_eq hab ha among)]
  | .only among => by
    rw [holdsPseudo, holdsPseudo, isEmpty_congr (h.before_eq hab ha among),
      isEmpty_congr (h.after_eq hab ha among)]
  | .nth among positions => by
    rw [holdsPseudo, holdsPseudo, placeBehind, placeBehind, h.before_eq hab ha among]
  | .nthLast among positions => by
    rw [holdsPseudo, holdsPseudo, placeBehind, placeBehind, h.after_eq hab ha among]
  | .not alternatives => by rw [holdsPseudo, holdsPseudo, holdsAny_eq h hab alternatives]

theorem holdsEvery_eq (h : Alike m m' R) {a b : NodeId} (hab : R a b)
    (ha : m.dom.isElement a = true) : (c : List SimpleSelector) → m.holdsEvery c a = m'.holdsEvery c b
  | [] => rfl
  | s :: rest => by
    rw [holdsEvery, holdsEvery, holdsSimple_eq h hab ha s, holdsEvery_eq h hab ha rest]

theorem holds_eq (h : Alike m m' R) {a b : NodeId} (hab : R a b) :
    (c : ComplexSelector) → m.holds c a = m'.holds c b
  | .compound subject => by
    rw [holds, holds, ← h.isElement_eq hab]
    cases ha : m.dom.isElement a with
    | false => rfl
    | true => rw [holdsEvery_eq h hab ha subject]
  | .link subject k left => by
    rw [holds, holds, ← h.isElement_eq hab]
    cases ha : m.dom.isElement a with
    | false => rfl
    | true =>
      rw [holdsEvery_eq h hab ha subject,
        any_eq_of_forall₂ (h.related hab ha k) fun _ _ hnext => holds_eq h hnext left]

theorem holdsAny_eq (h : Alike m m' R) {a b : NodeId} (hab : R a b) :
    (alternatives : List ComplexSelector) → m.holdsAny alternatives a = m'.holdsAny alternatives b
  | [] => rfl
  | c :: rest => by rw [holdsAny, holdsAny, holds_eq h hab c, holdsAny_eq h hab rest]

end

theorem holdsClause_eq [RegexLibrary] (h : Alike m m' R) {a b : NodeId} (hab : R a b)
    (htext : m.dom.ownText a = m'.dom.ownText b) (clause : Clause) :
    m.holdsClause a clause = m'.holdsClause b clause := by
  cases clause with
  | css alternatives => exact h.holdsAny_eq hab alternatives
  | text pattern => rw [holdsClause, holdsClause, htext]

/-- From walks that meet related nodes in the same order, related nodes are selected. -/
theorem forall₂_select [RegexLibrary] (h : Alike m m' R)
    (hwalk : List.Forall₂ R (m.dom.descendants m.pierce m.scope)
      (m'.dom.descendants m'.pierce m'.scope))
    (htext : ∀ {a b}, R a b → m.dom.isElement a = true → m.dom.ownText a = m'.dom.ownText b)
    (clause : Clause) : List.Forall₂ R (m.select clause) (m'.select clause) := by
  refine forall₂_filter hwalk fun a b hab => ?_
  rw [← h.isElement_eq hab]
  cases ha : m.dom.isElement a with
  | false => rfl
  | true => rw [h.holdsClause_eq hab (htext hab ha)]

end Alike

end Matcher

end Umbra
