import Umbra.Proofs.Dom.Renaming
import Umbra.Proofs.Query.Answer
import Umbra.Proofs.Query.Combinators
import Umbra.Proofs.Query.Orders

/-!
# Documents that correspond

Some nodes of a document may have counterparts in another one, under other names. `Corresponds` says
that they look the same to all that a query asks: what they are, what they lie in, which elements
stand beside and below them and what text they own. Only their maps may have different orders. Where
the attributes are looked up alike all the same, a query from one of these nodes has the same answer
under the other names, member by member. In any case it has the same possible answers.
-/

namespace Umbra

open Selector

variable {d d' : Dom} {part : NodeId → Prop} {f : NodeId → NodeId}

theorem through_map {last : NodeId} {l : List NodeId} (h : ∀ x ∈ l, f x = f last ↔ x = last) :
    through (f last) (l.map f) = (through last l).map f := by
  induction l with
  | nil => rfl
  | cons x l ih =>
    obtain ⟨hx, hl⟩ := List.forall_mem_cons.1 h
    rw [List.map_cons, through, through, ih hl]
    by_cases hlast : x = last
    · rw [if_pos hlast, if_pos (hx.2 hlast)]
      rfl
    · rw [if_neg hlast, if_neg (mt hx.1 hlast)]
      rfl

theorem forall₂_map_of_part {l : List NodeId} (hl : ∀ x ∈ l, part x) :
    List.Forall₂ (fun a b => part a ∧ f a = b) l (l.map f) := by
  rw [List.forall₂_map_right_iff, List.forall₂_same]
  exact fun x hx => ⟨hl x hx, rfl⟩

namespace Dom

/-- The elements below a node in pre-order. -/
def elementsBelow (d : Dom) (pierce : Bool) (id : NodeId) : List NodeId :=
  (d.descendants pierce id).filter d.isElement

/-- The nodes of `part` look the same as those that `f` leads to. -/
structure Corresponds (d d' : Dom) (part : NodeId → Prop) (f : NodeId → NodeId) : Prop where
  injective : ∀ {x y}, part x → part y → f x = f y → x = y
  data_eq : ∀ {x}, part x → d'.byName.data? (f x) = d.byName.data? x
  parent?_eq : ∀ {x}, part x → d'.parent? (f x) = (d.parent? x).map f
  part_parent : ∀ {x p}, part x → d.parent? x = some p → part p
  host?_eq : ∀ {x}, part x → d'.host? (f x) = (d.host? x).map f
  part_host : ∀ {x h}, part x → d.host? x = some h → part h
  prevElements_eq : ∀ {x}, part x → d'.prevElements (f x) = (d.prevElements x).map f
  part_prev : ∀ {x y}, part x → y ∈ d.prevElements x → part y
  nextElements_eq : ∀ {x}, part x → d'.nextElements (f x) = (d.nextElements x).map f
  part_next : ∀ {x y}, part x → y ∈ d.nextElements x → part y
  any_fills_eq : ∀ {x}, part x →
    (d'.linkedChildren (f x)).any d'.fills = (d.linkedChildren x).any d.fills
  ownText_eq : ∀ {x}, part x → d'.ownText (f x) = d.ownText x
  elementsBelow_eq : ∀ {x pierce}, part x →
    d'.elementsBelow pierce (f x) = (d.elementsBelow pierce x).map f
  part_below : ∀ {x y pierce}, part x → y ∈ d.elementsBelow pierce x → part y

namespace Corresponds

variable (h : Corresponds d d' part f)

include h

/-! ## What is asked about one node -/

theorem eq_iff {x y : NodeId} (hx : part x) (hy : part y) : f x = f y ↔ x = y :=
  ⟨h.injective hx hy, congrArg f⟩

theorem tag?_eq {x : NodeId} (hx : part x) : d'.tag? (f x) = d.tag? x :=
  tag?_of_element? (element?_of_contents (h.data_eq hx))

theorem counts_eq {x y : NodeId} (hx : part x) (hy : part y) (among : Siblings) :
    d'.counts among (f x) (f y) = d.counts among x y := by
  cases among with
  | all => rfl
  | sameType => rw [counts, counts, h.tag?_eq hx, h.tag?_eq hy]

theorem countedBefore_eq {x : NodeId} (hx : part x) (among : Siblings) :
    d'.countedBefore among (f x) = (d.countedBefore among x).map f := by
  rw [countedBefore, countedBefore, h.prevElements_eq hx]
  exact filter_map_of_eq fun y hy => h.counts_eq hx (h.part_prev hx hy) among

theorem countedAfter_eq {x : NodeId} (hx : part x) (among : Siblings) :
    d'.countedAfter among (f x) = (d.countedAfter among x).map f := by
  rw [countedAfter, countedAfter, h.nextElements_eq hx]
  exact filter_map_of_eq fun y hy => h.counts_eq hx (h.part_next hx hy) among

theorem any_parent?_eq {x : NodeId} (hx : part x) {p q : NodeId → Bool}
    (hpq : ∀ y, part y → q (f y) = p y) : (d'.parent? (f x)).any q = (d.parent? x).any p := by
  rw [h.parent?_eq hx]
  cases hy : d.parent? x with
  | none => rfl
  | some y => exact hpq y (h.part_parent hx hy)

/-! ## Where combinators lead -/

variable (pierce : Bool) {c : NodeId}

theorem part_matcher_parent? {x : NodeId} (hx : part x) :
    ∀ p, (Matcher.mk d c pierce).parent? x = some p → part p := by
  intro p hp
  cases Matcher.parent?_eq_some_iff.1 hp with
  | parent _ hp _ => exact h.part_parent hx hp
  | host _ hp _ _ _ hh => exact h.part_host (h.part_parent hx hp) hh

variable (hc : part c)

include hc

theorem matcher_parent?_eq {x : NodeId} (hx : part x) :
    (Matcher.mk d' (f c) pierce).parent? (f x) = ((Matcher.mk d c pierce).parent? x).map f := by
  rw [Matcher.parent?, Matcher.parent?]
  simp only [h.eq_iff hx hc, h.parent?_eq hx]
  by_cases hscope : x = c
  · rw [if_pos hscope, if_pos hscope, Option.map_none]
  · rw [if_neg hscope, if_neg hscope]
    cases hp : d.parent? x with
    | none => rfl
    | some p =>
      have hpart := h.part_parent hx hp
      simp only [Option.map_some, isShadowRoot_of_contents (h.data_eq hpart), ne_eq, h.eq_iff hpart hc,
        h.host?_eq hpart]
      split
      · split <;> rfl
      · rfl

theorem matcher_prevElements_eq {x : NodeId} (hx : part x) :
    (Matcher.mk d' (f c) pierce).prevElements (f x) =
        ((Matcher.mk d c pierce).prevElements x).map f ∧
      ∀ p ∈ (Matcher.mk d c pierce).prevElements x, part p := by
  have hprev (y : NodeId) (hy : y ∈ d.prevElements x) : part y := h.part_prev hx hy
  rw [Matcher.prevElements, Matcher.prevElements]
  simp only [h.eq_iff hx hc, h.prevElements_eq hx]
  by_cases hscope : x = c
  · rw [if_pos hscope, if_pos hscope]
    exact ⟨rfl, by simp⟩
  · rw [if_neg hscope, if_neg hscope, through_map fun y hy => h.eq_iff (hprev y hy) hc]
    exact ⟨rfl, fun p hp => hprev p ((through_sublist c _).subset hp)⟩

variable (hd : d.Linked) (hd' : d'.Linked)

include hd hd'

theorem matcher_ancestors_eq {x : NodeId} (hx : part x) :
    (Matcher.mk d' (f c) pierce).ancestors (f x) = ((Matcher.mk d c pierce).ancestors x).map f ∧
      ∀ p ∈ (Matcher.mk d c pierce).ancestors x, part p := by
  have htrace := Matcher.trace_ancestors (m := ⟨d, c, pierce⟩) hd x
  have hmem := htrace.forall_mem (P := part) (h.part_matcher_parent? pierce hx)
    fun p q hp => h.part_matcher_parent? pierce hp q
  have htrace' := htrace.map fun p hp => h.matcher_parent?_eq pierce hc (hmem p hp)
  rw [← h.matcher_parent?_eq pierce hc hx] at htrace'
  exact ⟨(Matcher.trace_ancestors (m := ⟨d', f c, pierce⟩) hd' (f x)).unique htrace', hmem⟩

theorem matcher_related_eq {x : NodeId} (hx : part x) (k : Combinator) :
    (Matcher.mk d' (f c) pierce).related (f x) k = ((Matcher.mk d c pierce).related x k).map f ∧
      ∀ p ∈ (Matcher.mk d c pierce).related x k, part p := by
  obtain ⟨hprev, hprev_part⟩ := h.matcher_prevElements_eq pierce hc hx
  cases k with
  | descendant => exact h.matcher_ancestors_eq pierce hc hd hd' hx
  | child =>
    rw [Matcher.related, Matcher.related, h.matcher_parent?_eq pierce hc hx]
    refine ⟨Option.toList_map, fun p hp => ?_⟩
    exact h.part_matcher_parent? pierce hx p (Option.mem_toList.1 hp)
  | nextSibling =>
    rw [Matcher.related, Matcher.related, hprev, List.head?_map]
    refine ⟨Option.toList_map, fun p hp => hprev_part p (List.mem_of_mem_head? ?_)⟩
    exact Option.mem_toList.1 hp
  | subsequentSibling => exact ⟨hprev, hprev_part⟩

/-! ## Answers -/

variable (reads : ∀ x, part x → ∀ name, d'.attribute? (f x) name = d.attribute? x name)

include reads

/-- Matchers from corresponding scopes are alike on corresponding nodes. -/
theorem alike :
    Matcher.Alike ⟨d, c, pierce⟩ ⟨d', f c, pierce⟩ fun a b => part a ∧ f a = b where
  isElement_eq := by
    rintro a _ ⟨ha, rfl⟩
    exact (isElement_of_contents (h.data_eq ha)).symm
  type_eq := by
    rintro a _ ⟨ha, rfl⟩ - name
    rw [Matcher.holdsSimple, Matcher.holdsSimple, h.tag?_eq ha]
  attribute?_eq := by
    rintro a _ ⟨ha, rfl⟩ - name
    exact (reads a ha name).symm
  isRoot_eq := by
    rintro a _ ⟨ha, rfl⟩ -
    exact (h.any_parent?_eq ha fun y hy => isDocument_of_contents (h.data_eq hy)).symm
  isScope_eq := by
    rintro a _ ⟨ha, rfl⟩ -
    have hparent : (d'.parent? (f a) == some (f c)) = (d.parent? a == some c) := by
      rw [h.parent?_eq ha]
      cases hp : d.parent? a with
      | none => rfl
      | some p =>
        rw [Option.map_some, Option.some_beq_some, Option.some_beq_some, Bool.eq_iff_iff,
          beq_iff_eq, beq_iff_eq]
        exact h.eq_iff (h.part_parent ha hp) hc
    have hself : (f a == f c) = (a == c) := by
      rw [Bool.eq_iff_iff, beq_iff_eq, beq_iff_eq]
      exact h.eq_iff ha hc
    rw [Matcher.isScope, Matcher.isScope, isDocument_of_contents (h.data_eq hc), hparent, hself]
  isEmpty_eq := by
    rintro a _ ⟨ha, rfl⟩ -
    rw [Matcher.isEmpty, Matcher.isEmpty, h.any_fills_eq ha]
  before_eq := by
    rintro a _ ⟨ha, rfl⟩ - among
    rw [h.countedBefore_eq ha, List.length_map]
  after_eq := by
    rintro a _ ⟨ha, rfl⟩ - among
    rw [h.countedAfter_eq ha, List.length_map]
  related := by
    rintro a _ ⟨ha, rfl⟩ - k
    obtain ⟨heq, hpart⟩ := h.matcher_related_eq pierce hc hd hd' ha k
    rw [heq]
    exact forall₂_map_of_part hpart

variable [RegexLibrary]

omit h hc hd hd' reads in
theorem select_eq_filter (s : Stage) : s.select d c =
    (d.elementsBelow s.engine.piercesShadow c).filter fun id =>
      (Matcher.mk d c s.engine.piercesShadow).holdsClause id s.clause := by
  unfold Stage.select Matcher.select elementsBelow
  rw [List.filter_filter]
  exact List.filter_congr fun id _ => Bool.and_comm ..

omit pierce in
theorem select_eq (s : Stage) : s.select d' (f c) = (s.select d c).map f := by
  rw [select_eq_filter, select_eq_filter, h.elementsBelow_eq hc]
  refine filter_map_of_eq fun x hx => ?_
  have hpart := h.part_below hc hx
  exact ((h.alike s.engine.piercesShadow hc hd hd' reads).holdsClause_eq ⟨hpart, rfl⟩
    (h.ownText_eq hpart).symm s.clause).symm

omit h hc hd' reads in
/-- A stage leads to elements below the root, in their order. -/
theorem selectAll_eq_filter {r : NodeId} {contexts : List NodeId} (hsub : contexts ⊆ d.visible r)
    (s : Stage) : s.selectAll d r contexts = (d.elementsBelow true r).filter fun id =>
      contexts.any fun c => (s.select d c).contains id := by
  unfold elementsBelow
  rw [hd.selectAll_eq_filter hsub, List.filter_filter]
  refine List.filter_congr fun x _ => ?_
  rw [List.any_map]
  cases hx : d.isElement x with
  | true => exact (Bool.and_true _).symm
  | false =>
    rw [Bool.and_false, List.any_eq_false]
    intro c _
    rw [Function.comp_apply, List.contains_iff_mem]
    intro hmem
    have hsel := (List.mem_filter.1 hmem).2
    rw [hx] at hsel
    cases hsel

omit hc in
theorem selectAll_eq {r : NodeId} (hr : part r) {contexts : List NodeId}
    (hsub : contexts ⊆ d.visible r) (hsub' : contexts.map f ⊆ d'.visible (f r))
    (hpart : ∀ c ∈ contexts, part c) (s : Stage) :
    s.selectAll d' (f r) (contexts.map f) = (s.selectAll d r contexts).map f := by
  rw [selectAll_eq_filter hd hsub, selectAll_eq_filter hd' hsub', h.elementsBelow_eq hr]
  refine filter_map_of_eq fun x hx => ?_
  have hxpart := h.part_below hr hx
  refine (any_eq_of_forall₂ (forall₂_map_of_part hpart) ?_).symm
  rintro c _ ⟨hcpart, rfl⟩
  rw [h.select_eq hcpart hd hd' reads, Bool.eq_iff_iff, List.contains_iff_mem, List.contains_iff_mem,
    List.mem_map]
  constructor
  · exact fun hxs => ⟨x, hxs, rfl⟩
  · rintro ⟨y, hy, heq⟩
    have hbelow := select_eq_filter s ▸ hy
    have hypart := h.part_below hcpart (List.mem_of_mem_filter hbelow)
    exact h.injective hypart hxpart heq ▸ hy

omit hc in
theorem selections_eq {r : NodeId} (hr : part r) (stages : List Stage) {contexts : List NodeId}
    (hsub : contexts ⊆ d.visible r) (hsub' : contexts.map f ⊆ d'.visible (f r))
    (hpart : ∀ c ∈ contexts, part c) :
    Stage.selections d' (f r) stages (contexts.map f) =
      (Stage.selections d r stages contexts).map (List.map f) := by
  induction stages generalizing contexts with
  | nil => rfl
  | cons s rest ih =>
    have hall := h.selectAll_eq hd hd' reads hr hsub hsub' hpart s
    have hsub'' := hd'.selectAll_subset_visible hsub' s
    have hselected (x : NodeId) (hx : x ∈ s.selectAll d r contexts) : part x := by
      rw [selectAll_eq_filter hd hsub s] at hx
      exact h.part_below hr (List.mem_of_mem_filter hx)
    rw [Stage.selections, Stage.selections]
    simp only [List.map_cons]
    rw [hall] at hsub'' ⊢
    rw [ih (hd.selectAll_subset_visible hsub s) hsub'' hselected]

omit hc in
/-- A chain gives the same answer under the other names if attributes are looked up alike. -/
theorem chain_selectAll_eq {r : NodeId} (hr : part r) (chain : Chain) :
    chain.selectAll d' (f r) = (chain.selectAll d r).map f := by
  have hselections := h.selections_eq hd hd' reads hr chain.stages (d.singleton_subset_visible r)
    (d'.singleton_subset_visible (f r)) fun c hc => List.mem_singleton.1 hc ▸ hr
  rw [List.map_singleton] at hselections
  rw [Chain.selectAll, Chain.selectAll, hselections, List.getElem?_map]
  cases (Stage.selections d r chain.stages [r])[chain.answerIndex]? <;> rfl

end Corresponds

theorem elementsBelow_ordered (d : Dom) (orders : MapOrders) :
    (d.ordered orders).elementsBelow = d.elementsBelow := by
  funext pierce x
  rw [elementsBelow, elementsBelow, descendants_ordered, isElement_ordered]

namespace Corresponds

variable (h : Corresponds d d' part f)

include h

/-- Attributes are looked up alike where no two names are equal up to case. -/
theorem attribute?_eq (apart : d.NamesApart) {x : NodeId} (hx : part x) (name : String) :
    d'.attribute? (f x) name = d.attribute? x name :=
  attribute?_of_element? (element?_of_contents (h.data_eq hx)) (fun e => apart x e.1 e.2) name

/-- Correspondence does not depend on the orders of the maps. -/
theorem ordered (orders orders' : MapOrders) :
    Corresponds (d.ordered orders) (d'.ordered orders') part f where
  injective := h.injective
  data_eq := by simp only [ordered_ordered]; exact h.data_eq
  parent?_eq := by simp only [parent?_ordered]; exact h.parent?_eq
  part_parent := by simp only [parent?_ordered]; exact h.part_parent
  host?_eq := by simp only [host?_ordered]; exact h.host?_eq
  part_host := by simp only [host?_ordered]; exact h.part_host
  prevElements_eq := by simp only [prevElements_ordered]; exact h.prevElements_eq
  part_prev := by simp only [prevElements_ordered]; exact h.part_prev
  nextElements_eq := by simp only [nextElements_ordered]; exact h.nextElements_eq
  part_next := by simp only [nextElements_ordered]; exact h.part_next
  any_fills_eq := by simp only [linkedChildren_ordered, fills_ordered]; exact h.any_fills_eq
  ownText_eq := by simp only [ownText_ordered]; exact h.ownText_eq
  elementsBelow_eq := by simp only [elementsBelow_ordered]; exact h.elementsBelow_eq
  part_below := by simp only [elementsBelow_ordered]; exact h.part_below

/-- Orders for one of the documents are orders for the other one under the other names. -/
theorem exists_orders (orders : MapOrders) :
    ∃ orders' : MapOrders, ∀ x, part x → orders'.map (f x) = orders.map x := by
  classical
  let map (y : NodeId) : Attributes → AttributeMap :=
    if hy : ∃ x, part x ∧ f x = y then orders.map hy.choose else .ofAttributes
  refine ⟨⟨map, fun y as => ?_⟩, fun x hx => ?_⟩
  · simp only [map]
    split
    · exact orders.perm _ as
    · exact .refl _
  · have hx' : ∃ z, part z ∧ f z = f x := ⟨x, hx, rfl⟩
    have hchoose : hx'.choose = x := h.injective hx'.choose_spec.1 hx hx'.choose_spec.2
    simp only [map, dif_pos hx', hchoose]

variable [RegexLibrary] (hd : d.Linked) (hd' : d'.Linked)

include hd hd'

theorem selectAll_ordered {orders orders' : MapOrders}
    (horders : ∀ x, part x → orders'.map (f x) = orders.map x) {r : NodeId} (hr : part r)
    (chain : Chain) : chain.selectAll (d'.ordered orders') (f r) =
      (chain.selectAll (d.ordered orders) r).map f := by
  have reads (x : NodeId) (hx : part x) (name : String) :=
    attribute?_ordered_of_element? (element?_of_contents (h.data_eq hx)) (horders x hx) name
  exact (h.ordered orders orders').chain_selectAll_eq (hd.ordered orders) (hd'.ordered orders')
    reads hr chain

/-- A chain may give the same answers under the other names. -/
theorem mayAnswer_iff {r : NodeId} (hr : part r) (chain : Chain) (ids' : List NodeId) :
    chain.MayAnswer d' (f r) ids' ↔ ∃ ids, chain.MayAnswer d r ids ∧ ids.map f = ids' := by
  constructor
  · rintro ⟨orders', rfl⟩
    let orders : MapOrders := ⟨fun x => orders'.map (f x), fun x => orders'.perm (f x)⟩
    exact ⟨_, ⟨orders, rfl⟩, (h.selectAll_ordered hd hd' (fun _ _ => rfl) hr chain).symm⟩
  · rintro ⟨_, ⟨orders, rfl⟩, rfl⟩
    obtain ⟨orders', horders⟩ := h.exists_orders orders
    exact ⟨orders', h.selectAll_ordered hd hd' horders hr chain⟩

end Corresponds

end Dom

end Umbra
