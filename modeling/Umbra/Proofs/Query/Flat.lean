import Umbra.Proofs.Dom.Agreement
import Umbra.Proofs.Dom.Flat
import Umbra.Proofs.Query.Combinators
import Umbra.Regex.Library

/-!
# Piercing queries as plain ones

A piercing query leads down into open shadow trees and back up out of them. On the flat document a
plain query does the same, as long as the selector asks about no neighbours and no children.
-/

namespace Umbra

open Selector

/-! ## Conditions on the way up -/

namespace Selector

mutual

/-- Whether a condition is on an element, what it lies in and the scope: on no siblings and on no
children. -/
def SimpleSelector.Upward : SimpleSelector → Prop
  | .pseudo pseudoClass => pseudoClass.Upward
  | _ => True

def PseudoClass.Upward : PseudoClass → Prop
  | .root => True
  | .scope => True
  | .not alternatives => upwardList alternatives
  | _ => False

def upwardCompound : List SimpleSelector → Prop
  | [] => True
  | s :: rest => s.Upward ∧ upwardCompound rest

def ComplexSelector.Upward : ComplexSelector → Prop
  | .compound subject => upwardCompound subject
  | .link subject combinator left => upwardCompound subject ∧ combinator.Upward ∧ left.Upward

def upwardList : List ComplexSelector → Prop
  | [] => True
  | c :: rest => c.Upward ∧ upwardList rest

end

end Selector

namespace Matcher

/-- On the nodes of `V` two matchers see the same elements, and combinators that lead up stay in `V`
and lead to the same nodes. -/
structure AlikeUpward (m m' : Matcher) (V : NodeId → Prop) : Prop where
  data?_eq : ∀ {x}, V x → m'.dom.data? x = m.dom.data? x
  isRoot_eq : ∀ {x}, V x → m'.isRoot x = m.isRoot x
  isScope_eq : ∀ {x}, V x → m'.isScope x = m.isScope x
  related_eq : ∀ {x k}, V x → k.Upward → m'.related x k = m.related x k ∧ ∀ p ∈ m.related x k, V p

namespace AlikeUpward

variable {m m' : Matcher} {V : NodeId → Prop}

theorem element?_eq (h : AlikeUpward m m' V) {x : NodeId} (hx : V x) :
    m'.dom.element? x = m.dom.element? x := by
  rw [Dom.element?, Dom.element?, h.data?_eq hx]

theorem attribute?_eq (h : AlikeUpward m m' V) {x : NodeId} (hx : V x) (name : String) :
    m'.dom.attribute? x name = m.dom.attribute? x name := by
  rw [Dom.attribute?, Dom.attribute?, h.element?_eq hx]

mutual

theorem holdsSimple_eq (h : AlikeUpward m m' V) {x : NodeId} (hx : V x) : (s : SimpleSelector) →
    s.Upward → m'.holdsSimple s x = m.holdsSimple s x
  | .type _, _ => by rw [holdsSimple, holdsSimple, Dom.tag?, Dom.tag?, h.element?_eq hx]
  | .universal, _ => rfl
  | .id _, _ => by rw [holdsSimple, holdsSimple, h.attribute?_eq hx]
  | .className _, _ => by rw [holdsSimple, holdsSimple, hasClass, hasClass, h.attribute?_eq hx]
  | .attribute _, _ => by rw [holdsSimple, holdsSimple, h.attribute?_eq hx]
  | .pseudo pseudoClass, hs => by
    rw [holdsSimple, holdsSimple]
    exact holdsPseudo_eq h hx pseudoClass hs

theorem holdsPseudo_eq (h : AlikeUpward m m' V) {x : NodeId} (hx : V x) : (p : PseudoClass) →
    p.Upward → m'.holdsPseudo p x = m.holdsPseudo p x
  | .root, _ => by rw [holdsPseudo, holdsPseudo, h.isRoot_eq hx]
  | .scope, _ => by rw [holdsPseudo, holdsPseudo, h.isScope_eq hx]
  | .empty, hp => hp.elim
  | .first _, hp => hp.elim
  | .last _, hp => hp.elim
  | .only _, hp => hp.elim
  | .nth _ _, hp => hp.elim
  | .nthLast _ _, hp => hp.elim
  | .not alternatives, hp => by rw [holdsPseudo, holdsPseudo, holdsAny_eq h hx alternatives hp]

theorem holdsEvery_eq (h : AlikeUpward m m' V) {x : NodeId} (hx : V x) :
    (c : List SimpleSelector) → upwardCompound c → m'.holdsEvery c x = m.holdsEvery c x
  | [], _ => rfl
  | s :: rest, hc => by
    rw [holdsEvery, holdsEvery, holdsSimple_eq h hx s hc.1, holdsEvery_eq h hx rest hc.2]

theorem holds_eq (h : AlikeUpward m m' V) {x : NodeId} (hx : V x) : (c : ComplexSelector) →
    c.Upward → m'.holds c x = m.holds c x
  | .compound subject, hc => by
    rw [holds, holds, Dom.isElement, Dom.isElement, h.element?_eq hx, holdsEvery_eq h hx subject hc]
  | .link subject k left, hc => by
    obtain ⟨hrelated, hstays⟩ := h.related_eq hx hc.2.1
    have hany : ((m.related x k).any fun next => m'.holds left next) =
        (m.related x k).any fun next => m.holds left next := by
      rw [Bool.eq_iff_iff, List.any_eq_true, List.any_eq_true]
      refine exists_congr fun next => and_congr_right fun hnext => ?_
      rw [holds_eq h (hstays next hnext) left hc.2.2]
    rw [holds, holds, Dom.isElement, Dom.isElement, h.element?_eq hx,
      holdsEvery_eq h hx subject hc.1, hrelated, hany]

theorem holdsAny_eq (h : AlikeUpward m m' V) {x : NodeId} (hx : V x) :
    (l : List ComplexSelector) → upwardList l → m'.holdsAny l x = m.holdsAny l x
  | [], _ => rfl
  | c :: rest, hl => by
    rw [holdsAny, holdsAny, holds_eq h hx c hl.1, holdsAny_eq h hx rest hl.2]

end

end AlikeUpward

section Flattens

variable {d f : Dom} {scope x : NodeId} (hf : f.Flattens d) (hd : d.Linked)

include hf hd

theorem isRoot_flattens : (Matcher.mk f scope false).isRoot x = (Matcher.mk d scope true).isRoot x := by
  rw [isRoot, isRoot, Bool.eq_iff_iff, Option.any_eq_true, Option.any_eq_true]
  refine exists_congr fun p => ?_
  rw [hf.isDocument_eq]
  exact and_congr_left (hf.parent?_eq_document_iff hd)

theorem isScope_flattens :
    (Matcher.mk f scope false).isScope x = (Matcher.mk d scope true).isScope x := by
  rw [isScope, isScope, hf.isDocument_eq]
  cases hdoc : d.isDocument scope with
  | false => rfl
  | true =>
    congr 2
    rw [Bool.eq_iff_iff, beq_iff_eq, beq_iff_eq]
    exact hf.parent?_eq_document_iff hd hdoc

variable (hscope : d.isShadowRoot scope = false)

include hscope

/-- From what is met below the scope both take the same steps up. -/
theorem parent?_flattens (hx : x ∈ d.visible scope) :
    (Matcher.mk f scope false).parent? x = (Matcher.mk d scope true).parent? x ∧
      ∀ p, (Matcher.mk d scope true).parent? x = some p → p ∈ d.visible scope := by
  rcases List.mem_cons.1 hx with rfl | hx
  · simp [parent?]
  · obtain ⟨y, hy, hxy⟩ := hd.exists_inner hx
    have hflat : f.parent? x = some y :=
      (hf.parent?_eq_some_iff hd).2 ⟨hd.not_isShadowRoot_of_visible hscope hy, hxy⟩
    rw [parent?_of_inner (m := ⟨d, scope, true⟩) hd hy hxy, if_pos (Or.inl rfl), parent?,
      if_neg (hd.ne_of_descendants hx)]
    refine ⟨by simp [hflat, hf.not_isShadowRoot], fun p hp => ?_⟩
    cases hp
    exact hy

theorem alike_flattens :
    AlikeUpward ⟨d, scope, true⟩ ⟨f, scope, false⟩ (· ∈ d.visible scope) where
  data?_eq hx := hf.data?_eq (hd.not_isShadowRoot_of_visible hscope hx)
  isRoot_eq _ := isRoot_flattens hf hd
  isScope_eq _ := isScope_flattens hf hd
  related_eq {x k} hx hk :=
    @related_upward_eq ⟨d, scope, true⟩ ⟨f, scope, false⟩ hd hf.linked (· ∈ d.visible scope)
      (fun _ => parent?_flattens hf hd hscope) x hx k hk

theorem select_flattens [RegexLibrary] {alternatives : SelectorList}
    (hl : upwardList alternatives) : (Matcher.mk d scope true).select (.css alternatives) =
      (Matcher.mk f scope false).select (.css alternatives) := by
  have halike := alike_flattens hf hd hscope
  rw [select, select, hf.descendants_eq hd hscope]
  refine List.filter_congr fun x hx => ?_
  have hvisible : x ∈ d.visible scope := List.mem_cons_of_mem _ hx
  rw [Dom.isElement_congr (halike.data?_eq hvisible), holdsClause, holdsClause,
    halike.holdsAny_eq hvisible alternatives hl]

end Flattens

/-- A piercing query by conditions on the way up selects what the plain query selects in the flat
document, in the same order. -/
theorem select_flat [RegexLibrary] {d : Dom} (h : d.Arises) {scope : NodeId}
    (hscope : d.isShadowRoot scope = false) {alternatives : SelectorList}
    (hl : upwardList alternatives) : d.flat.Flattens d ∧ (Matcher.mk d scope true).select (.css alternatives) =
      (Matcher.mk d.flat scope false).select (.css alternatives) :=
  ⟨h.linked.flattens_flat, select_flattens h.linked.flattens_flat h.linked hscope hl⟩

/-- Hosts in one another, with a closed shadow root, and a negated path across a boundary. -/
theorem select_flat_nested : ∃ (d : Dom) (alternatives : SelectorList), d.Arises ∧
    d.isShadowRoot 0 = false ∧ upwardList alternatives ∧ d.flat.Flattens d ∧
    d.flat.children 1 = [3, 9] ∧ d.flat.children 3 = [5, 6] ∧ d.flat.children 6 = [] ∧
    (Matcher.mk d 0 true).select (.css alternatives) = [5, 6] ∧
    (Matcher.mk d 0 true).select (.css alternatives) =
      (Matcher.mk d.flat 0 false).select (.css alternatives) := by
  let d : Dom := ⟨#[{ data := .document, children := [1] },
    { data := .element "a" .empty, parent := some 0, children := [9], shadow := some 2 },
    { data := .shadowRoot .opened, host := some 1, children := [3] },
    { data := .element "b" .empty, parent := some 2, children := [6], shadow := some 4 },
    { data := .shadowRoot .opened, host := some 3, children := [5] },
    { data := .element "c" .empty, parent := some 4 },
    { data := .element "c" .empty, parent := some 3, shadow := some 7 },
    { data := .shadowRoot .closed, host := some 6, children := [8] },
    { data := .element "c" .empty, parent := some 7 },
    { data := .element "c" .empty, parent := some 1 }]⟩
  let leaf : Snapshot := .element "c" .empty .absent []
  let b : Snapshot :=
    .element "b" .empty (.attached .opened [leaf]) [.element "c" .empty (.attached .closed [leaf]) []]
  have hd : d.Arises :=
    Or.inl ⟨.document [.element "a" .empty (.attached .opened [b]) [leaf]], .byName, rfl⟩
  let alternatives : SelectorList :=
    [.link [.type "c", .pseudo (.not [.link [.universal] .child (.compound [.type "a"])])]
      .descendant (.compound [.type "a", .pseudo .root])]
  have hl : upwardList alternatives := by
    simp [alternatives, upwardList, ComplexSelector.Upward, upwardCompound, SimpleSelector.Upward,
      PseudoClass.Upward, Combinator.Upward]
  obtain ⟨hflattens, hselect⟩ := @select_flat _ d hd 0 rfl alternatives hl
  exact ⟨d, alternatives, hd, rfl, hl, hflattens, rfl, rfl, rfl, by decide +kernel, hselect⟩

end Matcher

end Umbra
