import Umbra.Proofs.Dom.Agreement
import Umbra.Proofs.Query.Combinators

/-!
# The walk down and the steps up

The walk below the scope goes into open shadow roots only, while a step up leaves any shadow root for
its host. So the two are inverse except from within closed shadow trees: from there the steps up may
reach the scope, although the walk never comes to where they start.
-/

namespace Umbra

namespace Dom

variable {d : Dom} {scope s x y : NodeId}

/-- Whether a node lies in a closed shadow tree that is hosted by the scope or by a node in it. -/
def ShutOff (d : Dom) (scope id : NodeId) : Prop :=
  ∃ s h, d.mode? s = some .closed ∧ d.host? s = some h ∧ d.Inside h scope ∧ d.Inside id s

theorem ShutOff.of_inside (hxy : d.Inside x y) (h : d.ShutOff scope y) : d.ShutOff scope x := by
  obtain ⟨s, host, hs, hhost, hscope, hy⟩ := h
  exact ⟨s, host, hs, hhost, hscope, hxy.trans hy⟩

namespace Linked

variable (hd : d.Linked)

include hd

/-- A step of the walk does not lead into a closed shadow tree. -/
theorem not_inside_of_mem_inner (hs : d.mode? s = some .closed) (hx : x ∈ d.inner true y)
    (hy : ¬ d.Inside y s) : ¬ d.Inside x s := by
  intro hxs
  rcases Relation.ReflTransGen.cases_head hxs with rfl | ⟨p, hp, hps⟩
  · have hcontent := hd.not_isShadowRoot_of_mem_inner hx
    rw [isShadowRoot, hs] at hcontent
    cases hcontent
  rcases hd.mem_inner.1 hx with hparent | ⟨-, r, hr, hparent⟩
  · rw [hd.up?_of_parent? hparent, Option.some.injEq] at hp
    exact hy (hp ▸ hps)
  · rw [hd.up?_of_parent? hparent, Option.some.injEq] at hp
    subst hp
    rcases Relation.ReflTransGen.cases_head hps with rfl | ⟨q, hq, hqs⟩
    · have hopen := (Option.filter_eq_some_iff.1 hr).2
      rw [hs] at hopen
      cases hopen
    · rw [hd.up?_of_host? (hd.openShadow?_eq_some hr).1, Option.some.injEq] at hq
      exact hy (hq ▸ hqs)

/-- The walk does not come into a closed shadow tree in the node that it starts from. -/
theorem not_shutOff (hx : x ∈ d.descendants true scope) : ¬ d.ShutOff scope x := by
  rintro ⟨s, host, hs, hhost, hscope, hxs⟩
  have hstart : ¬ d.Inside scope s := fun h =>
    hd.not_inside_of_up? (hd.up?_of_host? hhost) (hscope.trans h)
  have hwalk : ¬ d.Inside x s := by
    induction hd.mem_descendants.1 hx with
    | single hc => exact hd.not_inside_of_mem_inner hs hc hstart
    | tail hab hc ih =>
      have hb := hd.mem_descendants.2 hab
      exact hd.not_inside_of_mem_inner hs hc fun h => ih hb h h
  exact hwalk hxs

end Linked

end Dom

namespace Matcher

variable {m : Matcher} {x y : NodeId}

theorem StepUp.inside (hd : m.dom.Linked) (h : m.StepUp x y) : m.dom.Inside x y := by
  cases h with
  | parent _ hp _ => exact .single (hd.up?_of_parent? hp)
  | host _ hp _ _ _ hh => exact .head (hd.up?_of_parent? hp) (.single (hd.up?_of_host? hh))

/-- A step of the walk is taken back by a step up. -/
theorem stepUp_of_mem_inner (hd : m.dom.Linked) (hy : y ∈ m.dom.visible m.scope)
    (hx : x ∈ m.dom.inner m.pierce y) : m.StepUp x y := by
  have hx' := hd.mem_inner.1 hx
  have hinner : x ∈ m.dom.inner true y := hd.mem_inner.2 (hx'.imp_right fun h => ⟨rfl, h.2⟩)
  rw [← parent?_eq_some_iff, parent?_of_inner hd hy hinner]
  exact if_pos (hx'.symm.imp_left And.left)

/-- A step up that does not leave a closed shadow tree is taken back by the walk. -/
theorem StepUp.mem_inner (hd : m.dom.Linked) (h : m.StepUp x y) (hy : m.dom.Inside y m.scope)
    (hshut : ¬ m.dom.ShutOff m.scope x) : x ∈ m.dom.inner m.pierce y := by
  cases h with
  | parent _ hp _ => exact hd.mem_inner.2 (Or.inl hp)
  | @host s _ _ hp _ hroot hpierce hh =>
    refine hd.mem_inner.2 (Or.inr ⟨hpierce, s, ?_, hp⟩)
    obtain ⟨mode, hmode⟩ := Option.isSome_iff_exists.1 hroot
    cases mode with
    | opened => exact Option.filter_eq_some_iff.2 ⟨hd.shadow_iff.2 hh, by simp [hmode]⟩
    | closed => exact absurd ⟨s, y, hmode, hh, hy, .single (hd.up?_of_parent? hp)⟩ hshut

/-- The walk below the scope meets a node just if repeated steps up from the node reach the scope,
unless the node is the scope itself or lies in a closed shadow tree that the scope or a node in it
hosts. Such nodes the walk does not meet. -/
theorem mem_descendants_iff (hd : m.dom.Arises) (id : NodeId) :
    id ∈ m.dom.descendants m.pierce m.scope ↔
      id ≠ m.scope ∧ ¬ m.dom.ShutOff m.scope id ∧
        Relation.ReflTransGen (fun x y => m.parent? x = some y) id m.scope := by
  have hl := hd.linked
  simp only [parent?_eq_some_iff]
  constructor
  · intro h
    have hmet := (hl.descendants_sublist_true m.scope).subset h
    refine ⟨hl.ne_of_descendants h, hl.not_shutOff hmet, ?_⟩
    clear hmet
    induction hl.mem_descendants.1 h with
    | single hx => exact .single (stepUp_of_mem_inner hl (List.mem_cons_self ..) hx)
    | tail hab hx ih =>
      have hb := hl.mem_descendants.2 hab
      have hvisible := List.mem_cons_of_mem m.scope ((hl.descendants_sublist_true m.scope).subset hb)
      exact .head (stepUp_of_mem_inner hl hvisible hx) (ih hb)
  · rintro ⟨hne, hshut, h⟩
    rw [hl.mem_descendants]
    -- a node on the way up lies in a closed shadow tree only if the first one does
    induction h using Relation.ReflTransGen.head_induction_on with
    | refl => exact absurd rfl hne
    | @head x y hstep hup ih =>
      have hinside : m.dom.Inside y m.scope :=
        hup.lift' (fun z => z) fun _ _ hab => hab.inside hl
      have hx := hstep.mem_inner hl hinside hshut
      by_cases hy : y = m.scope
      · exact .single (hy ▸ hx)
      · exact .tail (ih hy fun h => hshut (h.of_inside (hstep.inside hl))) hx

/-- From a closed shadow tree in an open one, whose root is the scope, the steps up reach the scope. -/
theorem mem_descendants_iff_nested : ∃ d : Dom, d.Arises ∧
    (4 ∈ d.descendants true 3 ∧
      Relation.ReflTransGen (fun x y => (Matcher.mk d 3 true).parent? x = some y) 4 3) ∧
    6 ∉ d.descendants true 3 ∧ d.ShutOff 3 6 ∧
      Relation.ReflTransGen (fun x y => (Matcher.mk d 3 true).parent? x = some y) 6 3 := by
  let inner : ShadowSnapshot := .attached .closed [.element "b" .empty .absent []]
  let outer : ShadowSnapshot := .attached .opened [.element "p" .empty inner []]
  let d : Dom := ⟨#[{ data := .document, children := [1] },
    { data := .element "section" .empty, parent := some 0, children := [2] },
    { data := .element "div" .empty, parent := some 1, shadow := some 3 },
    { data := .shadowRoot .opened, host := some 2, children := [4] },
    { data := .element "p" .empty, parent := some 3, shadow := some 5 },
    { data := .shadowRoot .closed, host := some 4, children := [6] },
    { data := .element "b" .empty, parent := some 5 }]⟩
  have hd : d.Arises := Or.inl ⟨.document [.element "section" .empty .absent
    [.element "div" .empty outer []]], .byName, rfl⟩
  have hiff (id : NodeId) := mem_descendants_iff (m := ⟨d, 3, true⟩) hd id
  have hmet : 4 ∈ d.descendants true 3 := by decide +kernel
  have hmissed : 6 ∉ d.descendants true 3 := by decide +kernel
  have hup := ((hiff 4).1 hmet).2.2
  have hhost : (Matcher.mk d 3 true).parent? 6 = some 4 := rfl
  have hreach : Relation.ReflTransGen (fun x y => (Matcher.mk d 3 true).parent? x = some y) 6 3 :=
    .head hhost hup
  refine ⟨d, hd, ⟨hmet, hup⟩, hmissed, ?_, hreach⟩
  by_contra hshut
  exact hmissed ((hiff 6).2 ⟨by decide, hshut, hreach⟩)

end Matcher

end Umbra
