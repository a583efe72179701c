import Umbra.Proofs.Dom.Agreement
import Umbra.Proofs.Dom.Visible
import Umbra.Proofs.Dom.Renaming
import Umbra.Query.Matcher

/-!
# Documents cut up in another way

A document may be written down again with other comments and with its texts cut at other places.
What holds neither an element nor a document node nor a shadow root counts by its content alone, so
the child lists of the two documents are compared as lists of such contents and of the other nodes,
which have counterparts in the other document. The edits change neither the nodes that are left in a
list, in their order, nor the text of the whole list.
-/

namespace Umbra

/-! ## Child lists with texts and comments by their content -/

inductive Item where
  | node (id : NodeId)
  | text (content : String)
  | comment
  deriving DecidableEq

namespace Item

def renamed (f : NodeId → NodeId) : Item → Item
  | .node id => .node (f id)
  | i => i

def node? : Item → Option NodeId
  | .node id => some id
  | _ => none

/-- The text that an item adds to its parent, given the texts of the nodes. -/
def chars (text : NodeId → List Char) : Item → List Char
  | .node id => text id
  | .text content => content.toList
  | .comment => []

/-- A comment is put somewhere, or a text is cut into pieces. -/
inductive Edit : List Item → List Item → Prop
  | comment (before after : List Item) : Edit (before ++ after) (before ++ .comment :: after)
  | cut (before after : List Item) (pieces : List String) :
      Edit (before ++ .text (String.join pieces) :: after) (before ++ pieces.map .text ++ after)

theorem Edit.filterMap_node?_eq {l l' : List Item} (h : Edit l l') :
    l'.filterMap node? = l.filterMap node? := by
  cases h with
  | comment before after => simp [List.filterMap_cons, node?]
  | cut before after pieces =>
    have hpieces : (pieces.map Item.text).filterMap node? = [] := by
      rw [List.filterMap_map]
      exact List.filterMap_eq_nil_iff.2 fun _ _ => rfl
    simp only [List.filterMap_append, hpieces, List.append_nil]
    rfl

theorem Edit.flatMap_chars_eq {l l' : List Item} (h : Edit l l') (text : NodeId → List Char) :
    l'.flatMap (chars text) = l.flatMap (chars text) := by
  cases h with
  | comment before after => simp [List.flatMap_append, chars]
  | cut before after pieces =>
    have hpieces : (pieces.map Item.text).flatMap (chars text) = (String.join pieces).toList := by
      rw [List.flatMap_map, String.toList_join]
      rfl
    simp only [List.flatMap_append, List.flatMap_cons, hpieces, List.append_assoc]
    rfl

/-- What no edit changes is the same after any number of edits, made or undone. -/
theorem Edit.eqvGen_eq {α : Type} {view : List Item → α}
    (hview : ∀ {l l'}, Edit l l' → view l' = view l) {l l' : List Item}
    (h : Relation.EqvGen Edit l l') : view l' = view l := by
  induction h with
  | rel _ _ hedit => exact hview hedit
  | refl => rfl
  | symm _ _ _ ih => exact ih.symm
  | trans _ _ _ _ _ ih ih' => exact ih'.trans ih

end Item

namespace Dom

/-- Whether an element, a document node or a shadow root is the node or lies in it. Where only they
have children, no text and no comment is meant. -/
def bears (d : Dom) (id : NodeId) : Bool :=
  (d.subtree id).any fun x => (d.data? x).any NodeData.isContainer

def item (d : Dom) (id : NodeId) : Item :=
  if d.bears id then .node id
  else
    match d.text? id with
    | some content => .text content
    | none => .comment

def items (d : Dom) (id : NodeId) : List Item := (d.children id).map d.item

/-- The nodes of the first document that hold more than texts and comments stand in the second one
under the names that `f` gives them, with the same data but for the orders of their maps. Otherwise
the child lists are those of the first document with comments put in or left out and with texts cut up
or joined. -/
structure Recut (d d' : Dom) (f : NodeId → NodeId) : Prop where
  injective : ∀ {x y}, d.bears x = true → d.bears y = true → f x = f y → x = y
  bears_iff : ∀ {y}, d'.bears y = true ↔ ∃ x, d.bears x = true ∧ f x = y
  data_eq : ∀ {x}, d.bears x = true → d'.byName.data? (f x) = d.byName.data? x
  shadow?_eq : ∀ {x}, d.bears x = true → d'.shadow? (f x) = (d.shadow? x).map f
  edited : ∀ {x}, d.bears x = true →
    Relation.EqvGen Item.Edit ((d.items x).map (Item.renamed f)) (d'.items (f x))

variable {d : Dom}

/-! ## Child lists -/

theorem node?_item (c : NodeId) : (d.item c).node? = if d.bears c = true then some c else none := by
  unfold item
  split
  · rfl
  · cases d.text? c <;> rfl

/-- The nodes among the items of a child list are the children that bear something. -/
theorem filterMap_items (p : NodeId) :
    (d.items p).filterMap Item.node? = (d.children p).filter d.bears := by
  unfold items
  rw [List.filterMap_map, ← List.filterMap_eq_filter]
  exact List.filterMap_congr fun c _ => node?_item c

theorem chars_item (c : NodeId) :
    (d.item c).chars (fun id => ((d.text? id).getD "").toList) = ((d.text? c).getD "").toList := by
  unfold item
  split
  · rfl
  · cases d.text? c <;> rfl

/-! ## What bears an element -/

namespace Linked

variable (hd : d.Linked)

include hd

theorem bears_iff {x : NodeId} : d.bears x = true ↔ ∃ y, d.Inside y x ∧ d.IsContainer y := by
  simp only [bears, List.any_eq_true, hd.mem_subtree, IsContainer, Option.any_eq_true]

theorem bears_of_isContainer {x : NodeId} (hx : d.IsContainer x) : d.bears x = true :=
  hd.bears_iff.2 ⟨x, .refl, hx⟩

theorem lt_size_of_bears {x : NodeId} (hx : d.bears x = true) : x < d.size := by
  obtain ⟨y, hyx, data, hdata, -⟩ := hd.bears_iff.1 hx
  rcases Relation.ReflTransGen.cases_tail hyx with rfl | ⟨z, -, hz⟩
  · exact lt_size_of_data? hdata
  · exact hd.up?_lt_size hz

theorem bears_of_isElement {x : NodeId} (hx : d.isElement x = true) : d.bears x = true := by
  obtain ⟨tag, attributes, hx⟩ := isElement_iff.1 hx
  exact hd.bears_of_isContainer ⟨_, hx, rfl⟩

theorem bears_of_isShadowRoot {x : NodeId} (hx : d.isShadowRoot x = true) : d.bears x = true := by
  obtain ⟨mode, hx⟩ := isShadowRoot_iff.1 hx
  exact hd.bears_of_isContainer ⟨_, hx, rfl⟩

theorem bears_of_inside {x y : NodeId} (hxy : d.Inside x y) (hx : d.bears x = true) :
    d.bears y = true := by
  obtain ⟨z, hz, hcontainer⟩ := hd.bears_iff.1 hx
  exact hd.bears_iff.2 ⟨z, hz.trans hxy, hcontainer⟩

theorem bears_parent {x p : NodeId} (hx : d.bears x = true) (hp : d.parent? x = some p) :
    d.bears p = true :=
  hd.bears_of_inside (.single (hd.up?_of_parent? hp)) hx

theorem bears_host {s h : NodeId} (hs : d.host? s = some h) : d.bears h = true :=
  hd.bears_of_isElement (hd.host_kind hs).1

/-- The text of a node is the text of its items. -/
theorem ownText_eq_items (p : NodeId) : d.ownText p =
    (d.items p).flatMap (Item.chars fun id => ((d.text? id).getD "").toList) := by
  unfold ownText items
  rw [hd.linkedChildren_eq, List.flatMap_map]
  exact List.flatMap_congr fun c _ => (chars_item c).symm

theorem filter_isElement (l : List NodeId) :
    l.filter d.isElement = (l.filter d.bears).filter d.isElement := by
  rw [List.filter_filter]
  refine List.filter_congr fun x _ => ?_
  cases hx : d.isElement x with
  | false => rfl
  | true => rw [hd.bears_of_isElement hx, Bool.and_true]

end Linked

/-! ## Links -/

namespace Recut

variable {d' : Dom} {f : NodeId → NodeId} (h : Recut d d' f)

include h

theorem bears_image {x : NodeId} (hx : d.bears x = true) : d'.bears (f x) = true :=
  h.bears_iff.2 ⟨x, hx, rfl⟩

theorem isElement_eq {x : NodeId} (hx : d.bears x = true) : d'.isElement (f x) = d.isElement x :=
  isElement_of_contents (h.data_eq hx)

theorem chars_renamed (c : NodeId) :
    ((d.item c).renamed f).chars (fun id => ((d'.text? id).getD "").toList) =
      (d.item c).chars fun id => ((d.text? id).getD "").toList := by
  unfold item
  split
  · rename_i hc
    rw [Item.renamed, Item.chars, Item.chars, text?_of_contents (h.data_eq hc)]
  · cases d.text? c <;> rfl

/-- In a child list the nodes that bear something stand in the same order. -/
theorem filter_children_eq {x : NodeId} (hx : d.bears x = true) :
    (d'.children (f x)).filter d'.bears = ((d.children x).filter d.bears).map f := by
  have hrenamed (i : Item) : (i.renamed f).node? = i.node?.map f := by cases i <;> rfl
  rw [← filterMap_items, ← filterMap_items,
    Item.Edit.eqvGen_eq Item.Edit.filterMap_node?_eq (h.edited hx), List.filterMap_map,
    List.map_filterMap]
  exact List.filterMap_congr fun i _ => hrenamed i

variable (hd : d.Linked) (hd' : d'.Linked)

include hd hd'

theorem ownText_eq {x : NodeId} (hx : d.bears x = true) : d'.ownText (f x) = d.ownText x := by
  rw [hd.ownText_eq_items, hd'.ownText_eq_items,
    Item.Edit.eqvGen_eq (fun hedit => hedit.flatMap_chars_eq _) (h.edited hx), items,
    List.flatMap_map, List.flatMap_map, List.flatMap_map]
  exact List.flatMap_congr fun c _ => h.chars_renamed c

omit hd hd' in
theorem mem_children_iff {p c : NodeId} (hp : d.bears p = true) (hc : d.bears c = true) :
    f c ∈ d'.children (f p) ↔ c ∈ d.children p := by
  have hmem : f c ∈ (d'.children (f p)).filter d'.bears ↔
      f c ∈ ((d.children p).filter d.bears).map f := by rw [h.filter_children_eq hp]
  rw [List.mem_filter, List.mem_map] at hmem
  constructor
  · intro hfc
    obtain ⟨y, hy, heq⟩ := hmem.1 ⟨hfc, h.bears_image hc⟩
    obtain ⟨hyp, hbears⟩ := List.mem_filter.1 hy
    exact h.injective hbears hc heq ▸ hyp
  · exact fun hcp => (hmem.2 ⟨c, List.mem_filter.2 ⟨hcp, hc⟩, rfl⟩).1

theorem parent?_eq {x : NodeId} (hx : d.bears x = true) :
    d'.parent? (f x) = (d.parent? x).map f := by
  cases hp : d.parent? x with
  | some p =>
    rw [Option.map_some, ← hd'.mem_children, h.mem_children_iff (hd.bears_parent hx hp) hx,
      hd.mem_children, hp]
  | none =>
    cases hp' : d'.parent? (f x) with
    | none => rfl
    | some p' =>
      obtain ⟨p, hpb, rfl⟩ := h.bears_iff.1 (hd'.bears_parent (h.bears_image hx) hp')
      rw [← hd'.mem_children, h.mem_children_iff hpb hx, hd.mem_children, hp] at hp'
      cases hp'

theorem host?_eq {x : NodeId} (hx : d.bears x = true) : d'.host? (f x) = (d.host? x).map f := by
  cases hh : d.host? x with
  | some host =>
    rw [Option.map_some, ← hd'.shadow_iff, h.shadow?_eq (hd.bears_host hh), hd.shadow_iff.2 hh,
      Option.map_some]
  | none =>
    cases hh' : d'.host? (f x) with
    | none => rfl
    | some host' =>
      obtain ⟨host, hbears, rfl⟩ := h.bears_iff.1 (hd'.bears_host hh')
      rw [← hd'.shadow_iff, h.shadow?_eq hbears, Option.map_eq_some_iff] at hh'
      obtain ⟨s, hs, heq⟩ := hh'
      have hs := hd.shadow_iff.1 hs
      rw [h.injective (hd.bears_of_isShadowRoot (hd.host_kind hs).2) hx heq, hh] at hs
      cases hs

omit hd' in
theorem openShadow?_eq {x : NodeId} (hx : d.bears x = true) :
    d'.openShadow? (f x) = (d.openShadow? x).map f := by
  rw [openShadow?, openShadow?, h.shadow?_eq hx]
  cases hs : d.shadow? x with
  | none => rfl
  | some s =>
    have hroot := (hd.host_kind (hd.shadow_iff.1 hs)).2
    have hmode : d'.mode? (f s) = d.mode? s :=
      mode?_of_contents (h.data_eq (hd.bears_of_isShadowRoot hroot))
    rw [Option.map_some, Option.filter_some, Option.filter_some, hmode]
    split <;> rfl

/-! ## Walks -/

theorem filter_inner_eq {pierce : Bool} {x : NodeId} (hx : d.bears x = true) :
    (d'.inner pierce (f x)).filter d'.bears = ((d.inner pierce x).filter d.bears).map f := by
  rw [hd.inner_eq, hd'.inner_eq, List.filter_append, List.filter_append, List.map_append,
    h.filter_children_eq hx, h.openShadow?_eq hd hx]
  congr 1
  cases hs : d.openShadow? x with
  | none => cases pierce <;> rfl
  | some s =>
    have hroot := hd.bears_of_isShadowRoot (hd.openShadow?_eq_some hs).2
    cases pierce with
    | false => rfl
    | true => exact h.filter_children_eq hroot

/-- On both sides of a node the siblings that bear something stand in the same order. -/
theorem filter_siblings_eq {x : NodeId} (hx : d.bears x = true) :
    (d'.prevSiblings (f x)).filter d'.bears = ((d.prevSiblings x).filter d.bears).map f ∧
      (d'.nextSiblings (f x)).filter d'.bears = ((d.nextSiblings x).filter d.bears).map f := by
  have hparent := h.parent?_eq hd hd' hx
  cases hp : d.parent? x with
  | none =>
    rw [hp, Option.map_none] at hparent
    rw [hd.prevSiblings_of_alone hp, hd'.prevSiblings_of_alone hparent,
      hd.nextSiblings_of_alone hp, hd'.nextSiblings_of_alone hparent]
    exact ⟨rfl, rfl⟩
  | some p =>
    rw [hp, Option.map_some] at hparent
    obtain ⟨before, after, hplace⟩ := hd.exists_place hp
    obtain ⟨before', after', hplace'⟩ := hd'.exists_place hparent
    have heq := h.filter_children_eq (hd.bears_parent hx hp)
    have hnodup := hd'.nodup_children (f p)
    rw [hplace', List.nodup_middle, List.nodup_cons, List.mem_append, not_or] at hnodup
    obtain ⟨⟨hnotBefore, hnotAfter⟩, -⟩ := hnodup
    rw [hplace, hplace', List.filter_append, List.filter_append,
      List.filter_cons_of_pos (h.bears_image hx), List.filter_cons_of_pos hx, List.map_append,
      List.map_cons, List.append_cons_inj_of_notMem] at heq
    · obtain ⟨hbefore, -, hafter⟩ := heq
      rw [hd.prevSiblings_eq hplace, hd'.prevSiblings_eq hplace', hd.nextSiblings_eq hplace,
        hd'.nextSiblings_eq hplace', List.filter_reverse, List.filter_reverse, hbefore,
        List.map_reverse]
      exact ⟨rfl, hafter⟩
    · exact fun hmem => hnotBefore (List.mem_of_mem_filter hmem)
    · exact fun hmem => hnotAfter (List.mem_of_mem_filter hmem)

theorem filter_isElement_eq {l l' : List NodeId}
    (heq : l'.filter d'.bears = (l.filter d.bears).map f) :
    l'.filter d'.isElement = (l.filter d.isElement).map f := by
  rw [hd.filter_isElement, hd'.filter_isElement, heq]
  exact filter_map_of_eq fun x hx => h.isElement_eq (List.mem_filter.1 hx).2

theorem prevElements_eq {x : NodeId} (hx : d.bears x = true) :
    d'.prevElements (f x) = (d.prevElements x).map f :=
  h.filter_isElement_eq hd hd' (h.filter_siblings_eq hd hd' hx).1

theorem nextElements_eq {x : NodeId} (hx : d.bears x = true) :
    d'.nextElements (f x) = (d.nextElements x).map f :=
  h.filter_isElement_eq hd hd' (h.filter_siblings_eq hd hd' hx).2

end Recut

end Dom

end Umbra
