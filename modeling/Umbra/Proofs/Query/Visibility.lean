import Umbra.Proofs.Query.Answer
import Umbra.Proofs.Query.Combinators
import Umbra.Proofs.Query.Orders

/-!
# What can be seen from a node

A query from a node reads that node and what is below it through children and open shadow roots. Of
everything else it reads the names of the elements beside the node and whether the parent of the
node is a document. `SameView` says that two documents agree in this, but for the orders of their maps.
Then they give the same answers where these orders make no difference, and over all orders they have
the same answers.
-/

namespace Umbra

namespace Dom

/-- Two documents agree in what can be seen from a node, but for the orders of their maps. -/
structure SameView (d d' : Dom) (r : NodeId) : Prop where
  element?_eq : d'.byName.element? r = d.byName.element? r
  isDocument_eq : d'.isDocument r = d.isDocument r
  isShadowRoot_eq : d'.isShadowRoot r = d.isShadowRoot r
  data?_eq : ∀ x, d.InView r x → x ≠ r → d'.byName.data? x = d.byName.data? x
  children_eq : ∀ x, d.InView r x → d'.children x = d.children x
  openShadow?_eq : ∀ x, d.InView r x → d'.openShadow? x = d.openShadow? x
  before_eq : (d'.prevElements r).map d'.tag? = (d.prevElements r).map d.tag?
  after_eq : (d'.nextElements r).map d'.tag? = (d.nextElements r).map d.tag?
  parent_eq : (d'.parent? r).any d'.isDocument = (d.parent? r).any d.isDocument

namespace SameView

variable {d d' : Dom} {r : NodeId} (h : SameView d d' r) (hd : d.Linked) (hd' : d'.Linked)

include h hd hd'

/-! ## Links -/

theorem inner_eq {pierce : Bool} {x : NodeId} (hx : d.InView r x) :
    d'.inner pierce x = d.inner pierce x := by
  rw [hd.inner_eq, hd'.inner_eq, h.children_eq x hx, h.openShadow?_eq x hx]
  congr 1
  cases hs : (if pierce = true then d.openShadow? x else none) with
  | none => rfl
  | some s =>
    have ho : d.openShadow? x = some s := by
      cases pierce with
      | false => cases hs
      | true => exact hs
    exact h.children_eq s (.shadow hx ho)

theorem descendants_eq {pierce : Bool} {x : NodeId} (hx : d.InView r x) :
    d'.descendants pierce x = d.descendants pierce x := by
  have hlayered : Layered (d.inner pierce) d.size := hd.layered_inner
  induction x using hlayered.induction with
  | step x ih =>
    rw [hd'.descendants_eq, hd.descendants_eq, h.inner_eq hd hd' hx]
    refine List.flatMap_congr fun c hc => ?_
    rw [ih c hc]
    rcases hd.mem_inner.1 hc with hp | ⟨-, s, hs, hp⟩
    · exact .child hx (hd.mem_children.2 hp)
    · exact .child (.shadow hx hs) (hd.mem_children.2 hp)

theorem visible_eq {x : NodeId} (hx : x ∈ d.visible r) : d'.visible x = d.visible x := by
  rw [Dom.visible, Dom.visible, h.descendants_eq hd hd' (hd.inView_iff.2 (Or.inl hx))]

theorem parent?_eq {x : NodeId} (hx : x ∈ d.descendants true r) : d'.parent? x = d.parent? x := by
  obtain ⟨p, hp, hx⟩ := hd.exists_parent_inView hx
  rw [hx, ← hd'.mem_children, h.children_eq p hp]
  exact hd.mem_children.2 hx

theorem siblings_eq {x : NodeId} (hx : x ∈ d.descendants true r) :
    d'.prevSiblings x = d.prevSiblings x ∧ d'.nextSiblings x = d.nextSiblings x := by
  obtain ⟨p, hp, hx⟩ := hd.exists_parent_inView hx
  obtain ⟨before, after, hplace⟩ := hd.exists_place hx
  have hplace' : d'.children p = before ++ x :: after := (h.children_eq p hp).trans hplace
  rw [hd.prevSiblings_eq hplace, hd'.prevSiblings_eq hplace', hd.nextSiblings_eq hplace,
    hd'.nextSiblings_eq hplace']
  exact ⟨rfl, rfl⟩

/-! ## Data -/

omit hd' in
theorem data?_eq_of_descendants {x : NodeId} (hx : x ∈ d.descendants true r) :
    d'.byName.data? x = d.byName.data? x :=
  h.data?_eq x (hd.inView_iff.2 (Or.inl (List.mem_cons_of_mem _ hx))) (hd.ne_of_descendants hx)

omit hd' in
theorem element?_eq_of_visible {x : NodeId} (hx : x ∈ d.visible r) :
    d'.byName.element? x = d.byName.element? x := by
  rcases List.mem_cons.1 hx with rfl | hx
  · exact h.element?_eq
  · exact element?_of_contents (h.data?_eq_of_descendants hd hx)

omit hd' in
theorem isElement_eq {x : NodeId} (hx : x ∈ d.visible r) : d'.isElement x = d.isElement x :=
  isElement_of_element? (h.element?_eq_of_visible hd hx)

omit hd' in
theorem tag?_eq {x : NodeId} (hx : x ∈ d.visible r) : d'.tag? x = d.tag? x :=
  tag?_of_element? (h.element?_eq_of_visible hd hx)

omit hd hd' in
theorem isDocument_eq_of_inView {x : NodeId} (hx : d.InView r x) :
    d'.isDocument x = d.isDocument x := by
  by_cases hr : x = r
  · rw [hr]
    exact h.isDocument_eq
  · exact isDocument_of_contents (h.data?_eq x hx hr)

theorem ownText_eq {x : NodeId} (hx : x ∈ d.visible r) : d'.ownText x = d.ownText x := by
  have hv := hd.inView_iff.2 (Or.inl hx)
  rw [ownText, ownText, hd.linkedChildren_eq, hd'.linkedChildren_eq, h.children_eq x hv]
  refine List.flatMap_congr fun c hc => ?_
  rw [text?_of_contents (h.data?_eq_of_descendants hd (hd.mem_descendants_of_child hv hc))]

/-! ## Elements beside an element -/

theorem elements_eq {x : NodeId} (hx : x ∈ d.descendants true r) :
    d'.prevElements x = d.prevElements x ∧ d'.nextElements x = d.nextElements x := by
  have hs := h.siblings_eq hd hd' hx
  rw [prevElements, prevElements, nextElements, nextElements, hs.1, hs.2]
  have hsibling {y : NodeId} (hy : y ∈ d.prevSiblings x ∨ y ∈ d.nextSiblings x) :
      d'.isElement y = d.isElement y :=
    h.isElement_eq hd (List.mem_cons_of_mem _ (hd.mem_descendants_of_sibling hx hy))
  exact ⟨List.filter_congr fun y hy => hsibling (Or.inl hy),
    List.filter_congr fun y hy => hsibling (Or.inr hy)⟩

theorem tags_eq {x : NodeId} (hx : x ∈ d.visible r) :
    (d'.prevElements x).map d'.tag? = (d.prevElements x).map d.tag? ∧
      (d'.nextElements x).map d'.tag? = (d.nextElements x).map d.tag? := by
  rcases List.mem_cons.1 hx with rfl | hx
  · exact ⟨h.before_eq, h.after_eq⟩
  · have hs := h.elements_eq hd hd' hx
    have hsibling {y : NodeId} (hy : y ∈ d.prevSiblings x ∨ y ∈ d.nextSiblings x) :
        d'.tag? y = d.tag? y :=
      h.tag?_eq hd (List.mem_cons_of_mem _ (hd.mem_descendants_of_sibling hx hy))
    rw [hs.1, hs.2]
    exact ⟨List.map_congr_left fun y hy => hsibling (Or.inl (List.mem_of_mem_filter hy)),
      List.map_congr_left fun y hy => hsibling (Or.inr (List.mem_of_mem_filter hy))⟩

end SameView

/-- Whether an element of one name is counted among the siblings of an element of another. -/
def countsTag (among : Selector.Siblings) (own other : Option String) : Bool :=
  match among with
  | .all => true
  | .sameType =>
    match other, own with
    | some s, some t => Text.asciiEqual s t
    | _, _ => false

theorem counts_eq (d : Dom) (among : Selector.Siblings) (x : NodeId) :
    d.counts among x = countsTag among (d.tag? x) ∘ d.tag? := by
  funext y
  cases among <;> rfl

/-- How many elements are counted depends on their names alone. -/
theorem length_filter_counts {d d' : Dom} {x : NodeId} {l l' : List NodeId}
    (hx : d'.tag? x = d.tag? x) (hl : l'.map d'.tag? = l.map d.tag?) (among : Selector.Siblings) :
    (l'.filter (d'.counts among x)).length = (l.filter (d.counts among x)).length := by
  rw [counts_eq, counts_eq, hx, ← List.countP_eq_length_filter, ← List.countP_eq_length_filter,
    ← List.countP_map, ← List.countP_map, hl]

end Dom

/-! ## Matching -/

namespace Dom.SameView

variable {d d' : Dom} {r : NodeId} (h : SameView d d' r) (hd : d.Linked) (hd' : d'.Linked)

include h hd hd'

/-- Two matchers below the same node of what is seen take the same steps up. -/
theorem matcher_parent?_eq (pierce : Bool) {c x : NodeId} (hc : c ∈ d.visible r)
    (hx : x ∈ d.visible c) :
    (Matcher.mk d' c pierce).parent? x = (Matcher.mk d c pierce).parent? x ∧
      ∀ p, (Matcher.mk d c pierce).parent? x = some p → p ∈ d.visible c := by
  rcases List.mem_cons.1 hx with rfl | hx
  · simp [Matcher.parent?]
  · obtain ⟨y, hy, hyx⟩ := hd.exists_inner hx
    have hyr := hd.inView_iff.2 (Or.inl (hd.visible_subset hc hy))
    have hxr : x ∈ d.descendants true r := hd.mem_descendants_of_inner (hd.visible_subset hc hy) hyx
    have hy' : y ∈ d'.visible c := by rwa [h.visible_eq hd hd' hc]
    have hyx' : x ∈ d'.inner true y := by rwa [h.inner_eq hd hd' hyr]
    rw [Matcher.parent?_of_inner (m := ⟨d, c, pierce⟩) hd hy hyx,
      Matcher.parent?_of_inner (m := ⟨d', c, pierce⟩) hd' hy' hyx', h.parent?_eq hd hd' hxr]
    refine ⟨rfl, fun p hp => ?_⟩
    split at hp
    · cases hp
      exact hy
    · cases hp

theorem matcher_prevElements_eq (pierce : Bool) {c x : NodeId} (hc : c ∈ d.visible r)
    (hx : x ∈ d.visible c) :
    (Matcher.mk d' c pierce).prevElements x = (Matcher.mk d c pierce).prevElements x ∧
      ∀ p ∈ (Matcher.mk d c pierce).prevElements x, p ∈ d.visible c := by
  rcases List.mem_cons.1 hx with rfl | hx
  · simp [Matcher.prevElements]
  · obtain ⟨y, hy, hyx⟩ := hd.exists_inner hx
    have hxr := hd.mem_descendants_of_inner (hd.visible_subset hc hy) hyx
    rw [Matcher.prevElements, Matcher.prevElements, (h.elements_eq hd hd' hxr).1]
    refine ⟨rfl, fun p hp => ?_⟩
    split at hp
    · cases hp
    · rw [prevElements, mem_through_filter] at hp
      obtain ⟨-, a, b, hp, -⟩ := hp
      refine List.mem_cons_of_mem _ (hd.mem_descendants_of_sibling hx (Or.inl ?_))
      rw [hp]
      exact List.mem_append_right _ (List.mem_cons_self ..)

variable (reads : ∀ x ∈ d.visible r, ∀ name, d'.attribute? x name = d.attribute? x name)

include reads

/-- Two matchers below the same node of what is seen are alike. -/
theorem alike {c : NodeId} (hc : c ∈ d.visible r) (pierce : Bool) :
    Matcher.Alike ⟨d, c, pierce⟩ ⟨d', c, pierce⟩ fun a b => a = b ∧ a ∈ d.visible c where
  isElement_eq := by
    rintro a _ ⟨rfl, ha⟩
    exact (h.isElement_eq hd (hd.visible_subset hc ha)).symm
  type_eq := by
    rintro a _ ⟨rfl, ha⟩ - name
    rw [Matcher.holdsSimple, Matcher.holdsSimple, h.tag?_eq hd (hd.visible_subset hc ha)]
  attribute?_eq := by
    rintro a _ ⟨rfl, ha⟩ - name
    exact (reads a (hd.visible_subset hc ha) name).symm
  isRoot_eq := by
    rintro a _ ⟨rfl, ha⟩ -
    rw [Matcher.isRoot, Matcher.isRoot]
    rcases List.mem_cons.1 (hd.visible_subset hc ha) with rfl | ha
    · exact h.parent_eq.symm
    · obtain ⟨p, hp, hap⟩ := hd.exists_parent_inView ha
      rw [h.parent?_eq hd hd' ha, hap, Option.any_some, Option.any_some]
      exact (h.isDocument_eq_of_inView hp).symm
  isScope_eq := by
    rintro a _ ⟨rfl, ha⟩ -
    rw [Matcher.isScope, Matcher.isScope]
    rcases List.mem_cons.1 ha with rfl | ha
    · simp
    · obtain ⟨y, hy, hya⟩ := hd.exists_inner ha
      rw [h.isDocument_eq_of_inView (hd.inView_iff.2 (Or.inl hc)),
        h.parent?_eq hd hd' (hd.mem_descendants_of_inner (hd.visible_subset hc hy) hya)]
  isEmpty_eq := by
    rintro a _ ⟨rfl, ha⟩ -
    have hv := hd.inView_iff.2 (Or.inl (hd.visible_subset hc ha))
    rw [Matcher.isEmpty, Matcher.isEmpty, hd.linkedChildren_eq, hd'.linkedChildren_eq,
      h.children_eq a hv]
    congr 1
    refine any_eq_of_forall₂ (R := fun b b' => b = b' ∧ b ∈ d.children a)
      (List.forall₂_same.2 fun b hb => ⟨rfl, hb⟩) ?_
    rintro b _ ⟨rfl, hb⟩
    have hb := hd.mem_descendants_of_child hv hb
    rw [fills, fills, text?_of_contents (h.data?_eq_of_descendants hd hb),
      h.isElement_eq hd (List.mem_cons_of_mem _ hb)]
  before_eq := by
    rintro a _ ⟨rfl, ha⟩ - among
    have ha := hd.visible_subset hc ha
    exact (length_filter_counts (h.tag?_eq hd ha) (h.tags_eq hd hd' ha).1 among).symm
  after_eq := by
    rintro a _ ⟨rfl, ha⟩ - among
    have ha := hd.visible_subset hc ha
    exact (length_filter_counts (h.tag?_eq hd ha) (h.tags_eq hd hd' ha).2 among).symm
  related := by
    rintro a _ ⟨rfl, ha⟩ - k
    obtain ⟨heq, hmem⟩ := @Matcher.related_eq ⟨d, c, pierce⟩ ⟨d', c, pierce⟩ hd hd'
      (· ∈ d.visible c) (fun _ hx => h.matcher_parent?_eq hd hd' pierce hc hx)
      (fun _ hx => h.matcher_prevElements_eq hd hd' pierce hc hx) a ha k
    rw [heq, List.forall₂_same]
    exact fun b hb => ⟨rfl, hmem b hb⟩

variable [RegexLibrary]

theorem select_eq {c : NodeId} (hc : c ∈ d.visible r) (s : Stage) : s.select d' c = s.select d c := by
  have hsame : List.Forall₂ (fun a b => a = b ∧ a ∈ d.visible c)
      (d.descendants s.engine.piercesShadow c) (d'.descendants s.engine.piercesShadow c) := by
    rw [h.descendants_eq hd hd' (hd.inView_iff.2 (Or.inl hc)), List.forall₂_same]
    exact fun x hx => ⟨rfl, List.mem_cons_of_mem _ ((hd.descendants_sublist_true c).subset hx)⟩
  have hselect := (h.alike hd hd' reads hc s.engine.piercesShadow).forall₂_select hsame (by
    rintro a _ ⟨rfl, ha⟩ -
    exact (h.ownText_eq hd hd' (hd.visible_subset hc ha)).symm) s.clause
  have heq : List.Forall₂ (· = ·) (s.select d c) (s.select d' c) := hselect.imp fun _ _ hab => hab.1
  rw [List.forall₂_eq_eq_eq] at heq
  exact heq.symm

theorem selections_eq (stages : List Stage) {contexts : List NodeId} (hc : contexts ⊆ d.visible r) :
    Stage.selections d' r stages contexts = Stage.selections d r stages contexts := by
  induction stages generalizing contexts with
  | nil => rfl
  | cons s rest ih =>
    have hr : r ∈ d.visible r := List.mem_cons_self ..
    have hc' : contexts ⊆ d'.visible r := by rwa [h.visible_eq hd hd' hr]
    have hselect : contexts.map (s.select d') = contexts.map (s.select d) :=
      List.map_congr_left fun c hcc => h.select_eq hd hd' reads (hc hcc) s
    have hall : s.selectAll d' r contexts = s.selectAll d r contexts := by
      rw [hd.selectAll_eq_filter hc, hd'.selectAll_eq_filter hc', hselect,
        h.descendants_eq hd hd' .self]
    rw [Stage.selections, Stage.selections]
    simp only [hall]
    rw [ih (hd.selectAll_subset_visible hc s)]

theorem chain_selectAll_eq (c : Chain) : c.selectAll d' r = c.selectAll d r := by
  rw [Chain.selectAll, Chain.selectAll,
    h.selections_eq hd hd' reads _ (d.singleton_subset_visible r)]

end Dom.SameView

/-! ## Orders of maps -/

namespace Dom

variable {d d' : Dom} {r : NodeId}

theorem inView_of_ordered {orders : MapOrders} {x : NodeId} (hx : (d.ordered orders).InView r x) :
    d.InView r x := by
  induction hx with
  | self => exact .self
  | child _ hc ih => exact .child ih (children_ordered d orders ▸ hc)
  | shadow _ hs ih => exact .shadow ih (openShadow?_ordered d orders ▸ hs)

namespace SameView

variable (h : SameView d d' r)

include h

/-- Attributes are looked up alike where no two names are equal up to case. -/
theorem attribute?_eq (hd : d.Linked) {x : NodeId} (hx : x ∈ d.visible r)
    (apart : ∀ e ∈ d.element? x, e.2.NamesApart) (name : String) :
    d'.attribute? x name = d.attribute? x name :=
  attribute?_of_element? (h.element?_eq_of_visible hd hx) apart name

/-- What can be seen does not depend on the orders of the maps. -/
theorem ordered (orders orders' : MapOrders) :
    SameView (d.ordered orders) (d'.ordered orders') r where
  element?_eq := by simp only [ordered_ordered]; exact h.element?_eq
  isDocument_eq := by simp only [isDocument_ordered]; exact h.isDocument_eq
  isShadowRoot_eq := by simp only [isShadowRoot_ordered]; exact h.isShadowRoot_eq
  data?_eq x hx hr := by simp only [ordered_ordered]; exact h.data?_eq x (inView_of_ordered hx) hr
  children_eq x hx := by simp only [children_ordered]; exact h.children_eq x (inView_of_ordered hx)
  openShadow?_eq x hx := by
    simp only [openShadow?_ordered]
    exact h.openShadow?_eq x (inView_of_ordered hx)
  before_eq := by simp only [prevElements_ordered, tag?_ordered]; exact h.before_eq
  after_eq := by simp only [nextElements_ordered, tag?_ordered]; exact h.after_eq
  parent_eq := by simp only [parent?_ordered, isDocument_ordered]; exact h.parent_eq

/-- With the same orders of their maps the documents give the same answer. -/
theorem selectAll_ordered [RegexLibrary] (hd : d.Linked) (hd' : d'.Linked) (orders : MapOrders)
    (c : Chain) : c.selectAll (d'.ordered orders) r = c.selectAll (d.ordered orders) r := by
  refine (h.ordered orders orders).chain_selectAll_eq (hd.ordered orders) (hd'.ordered orders)
    (fun x hx name => ?_) c
  rw [visible, descendants_ordered] at hx
  exact attribute?_ordered_of_element? (h.element?_eq_of_visible hd hx) rfl name

end SameView

end Dom

end Umbra
