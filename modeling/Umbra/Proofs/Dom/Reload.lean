import Umbra.Proofs.Dom.Renaming
import Umbra.Proofs.Dom.Restored

/-!
# Documents that are read back and loaded again

From the document node of a built document a snapshot is read that can be loaded. Loading lays out
what lay in the document node in pre-order, whatever the numbers of the nodes were before, so a node
comes back under its rank in pre-order. Detached nodes are left behind.
-/

namespace Umbra

open Dom

/-! ## Consecutive numbers -/

/-- The nodes of a list are numbered one after another. -/
def Consecutive (number : NodeId → Nat) (first : Nat) (l : List NodeId) : Prop :=
  l.map number = List.range' first l.length

theorem consecutive_cons {number : NodeId → Nat} {first : Nat} {x : NodeId} {l : List NodeId} :
    Consecutive number first (x :: l) ↔ number x = first ∧ Consecutive number (first + 1) l := by
  rw [Consecutive, List.map_cons, List.length_cons, List.range'_succ, List.cons.injEq, Consecutive]

theorem consecutive_append {number : NodeId → Nat} {first : Nat} {l l' : List NodeId} :
    Consecutive number first (l ++ l') ↔
      Consecutive number first l ∧ Consecutive number (first + l.length) l' := by
  rw [Consecutive, List.map_append, List.length_append, ← List.range'_append_1]
  constructor
  · exact fun h => List.append_inj h (by simp)
  · rintro ⟨hl, hl'⟩
    rw [hl, hl']

namespace Dom

variable {d d' : Dom}

/-! ## Built documents -/

theorem Built.data?_root (h : d.Built) : d.data? root = some .document := by
  induction h with
  | new => rfl
  | add _ data ih => exact data?_add_of_eq_some ih
  | attachShadow _ attached ih =>
    obtain ⟨-, -, -, rfl⟩ := attachShadow_eq_ok.1 attached
    rw [data?_addShadow, if_neg (Nat.ne_of_lt (lt_size_of_data? ih)), ih]
  | append _ _ _ _ _ ih => rw [data?_append, ih]

/-- Only what can have children has some. -/
theorem Built.isContainer (h : d.Built) {p c : NodeId} (hc : c ∈ d.children p) :
    d.IsContainer p := by
  induction h with
  | new => cases p <;> cases hc
  | add _ data ih =>
    rw [children_add] at hc
    obtain ⟨kind, hp, hk⟩ := ih hc
    exact ⟨kind, data?_add_of_eq_some hp, hk⟩
  | attachShadow _ attached ih =>
    obtain ⟨-, -, -, rfl⟩ := attachShadow_eq_ok.1 attached
    rw [children_addShadow] at hc
    obtain ⟨kind, hp, hk⟩ := ih hc
    exact ⟨kind, by rw [data?_addShadow, if_neg (Nat.ne_of_lt (lt_size_of_data? hp)), hp], hk⟩
  | @append d parent child _ container _ _ _ ih =>
    obtain ⟨kind, hp, hk⟩ := container
    rw [children_append (lt_size_of_data? hp)] at hc
    by_cases hparent : p = parent
    · exact ⟨kind, by rw [data?_append, hparent, hp], hk⟩
    · rw [if_neg hparent] at hc
      obtain ⟨kind, hp, hk⟩ := ih hc
      exact ⟨kind, by rw [data?_append, hp], hk⟩

theorem Built.up?_root (h : d.Built) : d.up? root = none := by
  have hd := h.linked
  cases hup : d.up? root with
  | none => rfl
  | some y =>
    rcases hd.up?_eq_some_iff.1 hup with hp | hs
    · obtain ⟨data, hdata, hcontent⟩ := hd.child_kind hp
      rw [h.data?_root, Option.some.injEq] at hdata
      subst hdata
      cases hcontent
    · obtain ⟨mode, hmode⟩ := isShadowRoot_iff.1 (hd.host_kind hs).2
      rw [h.data?_root] at hmode
      cases hmode

/-! ## Nodes that come back -/

/-- A node stands in another document under its number, and what is linked to it under theirs. -/
structure Copied (d d' : Dom) (number : NodeId → Nat) (x : NodeId) : Prop where
  data_eq : d'.byName.data? (number x) = d.byName.data? x
  children_eq : d'.children (number x) = (d.children x).map number
  shadow_eq : d'.shadow? (number x) = (d.shadow? x).map number

/-- Wherever the snapshots of some nodes stand, there the nodes and all in them have come back, if
they were numbered from there on. -/
def ComeBack (d d' : Dom) (number : NodeId → Nat) (ids : List NodeId) : Prop :=
  ∀ ⦃depth first last : Nat⦄ ⦃places : List NodeId⦄,
    AllStoredIn d' (ids.map (d.snapshotBelow depth)) places first last →
    Consecutive number first (ids.flatMap d.subtree) →
    places = ids.map number ∧ last = first + (ids.flatMap d.subtree).length ∧
      ∀ y ∈ ids.flatMap d.subtree, Copied d d' number y

namespace ComeBack

variable {number : NodeId → Nat}

theorem nil : ComeBack d d' number [] := by
  intro depth first last places hstored _
  obtain ⟨rfl, rfl⟩ := hstored
  simp

theorem cons {x : NodeId} {ids : List NodeId} (hx : ComeBack d d' number [x])
    (hids : ComeBack d d' number ids) : ComeBack d d' number (x :: ids) := by
  intro depth first last places hstored hnumber
  obtain ⟨mid, others, rfl, hs, hrest⟩ := hstored
  rw [List.flatMap_cons, consecutive_append] at hnumber
  have halone : AllStoredIn d' ([x].map (d.snapshotBelow depth)) [first] first mid :=
    ⟨mid, [], rfl, hs, rfl, rfl⟩
  obtain ⟨hfirst, hmid, hcopied⟩ := hx halone (by simpa using hnumber.1)
  rw [List.flatMap_singleton] at hmid hcopied
  subst hmid
  obtain ⟨hothers, hlast, hcopied'⟩ := hids hrest hnumber.2
  refine ⟨?_, ?_, ?_⟩
  · rw [List.map_cons, ← hothers]
    exact congrArg (· :: others) (List.cons.inj hfirst).1
  · rw [hlast, List.flatMap_cons, List.length_append, Nat.add_assoc]
  · rw [List.flatMap_cons, List.forall_mem_append]
    exact ⟨hcopied, hcopied'⟩

theorem of_forall {ids : List NodeId} (h : ∀ x ∈ ids, ComeBack d d' number [x]) :
    ComeBack d d' number ids := by
  induction ids with
  | nil => exact .nil
  | cons x ids ih =>
    obtain ⟨hx, hids⟩ := List.forall_mem_cons.1 h
    exact .cons hx (ih hids)

end ComeBack

namespace Built

variable (h : d.Built) (hd' : d'.Linked) {number : NodeId → Nat}

include h hd'

/-- A node that can have nothing in it. -/
theorem comeBack_leaf {x : NodeId} {data : NodeData} (hdata : d.data? x = some data)
    (hleaf : data.isContainer = false) {first : Nat} (hfirst : d'.data? first = some data)
    (hchildren : d'.children first = []) (hnumber : Consecutive number first (d.subtree x)) :
    number x = first ∧ d.subtree x = [x] ∧ Copied d d' number x := by
  have hd := h.linked
  have notElement {e : Dom} {y : NodeId} (hy : e.data? y = some data) : e.isElement y = false := by
    cases data with
    | text => simp [isElement, element?, hy]
    | comment => simp [isElement, element?, hy]
    | _ => cases hleaf
  have hnone : d.children x = [] := by
    refine List.eq_nil_iff_forall_not_mem.2 fun c hc => ?_
    obtain ⟨kind, hkind, hcontainer⟩ := h.isContainer hc
    rw [hdata, Option.some.injEq] at hkind
    rw [← hkind, hleaf] at hcontainer
    cases hcontainer
  have hshadow := hd.shadow?_of_not_isElement (notElement hdata)
  have hself : d.subtree x = [x] := by simp [hd.subtree_eq, contents, hshadow, hnone]
  rw [hself, consecutive_cons] at hnumber
  refine ⟨hnumber.1, hself, ?_, ?_, ?_⟩
  · exact hnumber.1 ▸ contents_of_data (hfirst.trans hdata.symm)
  · rw [hnumber.1, hchildren, hnone, List.map_nil]
  · rw [hnumber.1, hd'.shadow?_of_not_isElement (notElement hfirst), hshadow, Option.map_none]

/-- What is attached to a node, where its snapshot stands attached. -/
theorem comeBack_shadow {x host : NodeId} {depth first last : Nat}
    (hinside : ∀ s, d.shadow? x = some s → ComeBack d d' number (d.children s))
    (hstored : (match d.shadow? x with
      | some s => ShadowSnapshot.attached ((d.mode? s).getD .opened)
          ((d.children s).map (d.snapshotBelow depth))
      | none => .absent).StoredIn d' host first last)
    (hnumber : Consecutive number first ((d.shadow? x).toList.flatMap d.subtree)) :
    d'.shadow? host = (d.shadow? x).map number ∧
      last = first + ((d.shadow? x).toList.flatMap d.subtree).length ∧
      ∀ y ∈ (d.shadow? x).toList.flatMap d.subtree, Copied d d' number y := by
  have hd := h.linked
  cases hs : d.shadow? x with
  | none =>
    rw [hs] at hstored
    obtain ⟨hhost, rfl⟩ := hstored
    simp [hhost]
  | some s =>
    rw [hs] at hstored hnumber
    obtain ⟨hhost, hdata, hchildren⟩ := hstored
    have hroot : d.isShadowRoot s = true := (hd.host_kind (hd.shadow_iff.1 hs)).2
    obtain ⟨mode, hmode⟩ := isShadowRoot_iff.1 hroot
    have hnone := hd.shadow?_of_isShadowRoot hroot
    have hself : d.subtree s = s :: (d.children s).flatMap d.subtree := by
      rw [hd.subtree_eq, contents, hnone, Option.toList_none, List.nil_append]
    rw [Option.toList_some, List.flatMap_singleton, hself, consecutive_cons] at hnumber
    obtain ⟨hplaces, hlast, hcopied⟩ := hinside s hs hchildren hnumber.2
    rw [mode?, hmode, Option.getD_some] at hdata
    have hcopy : Copied d d' number s := by
      refine ⟨?_, ?_, ?_⟩
      · exact hnumber.1 ▸ contents_of_data (hdata.trans hmode.symm)
      · rw [hnumber.1, hplaces]
      · rw [hnumber.1, hnone, hd'.shadow?_of_isShadowRoot (isShadowRoot_iff.2 ⟨mode, hdata⟩),
          Option.map_none]
    rw [Option.toList_some, List.flatMap_singleton, hself, List.length_cons]
    refine ⟨by rw [hhost, Option.map_some, hnumber.1], by omega, ?_⟩
    exact List.forall_mem_cons.2 ⟨hcopy, hcopied⟩

theorem comeBack_node {x : NodeId} (hchildren : ComeBack d d' number (d.children x))
    (hinside : ∀ s, d.shadow? x = some s → ComeBack d d' number (d.children s)) :
    ComeBack d d' number [x] := by
  intro depth first last places hstored hnumber
  obtain ⟨_, _, rfl, hs, rfl, rfl⟩ := hstored
  rw [List.flatMap_singleton] at hnumber ⊢
  -- a snapshot of a document node stands nowhere
  cases depth with
  | zero => exact hs.elim
  | succ depth =>
    cases hdata : d.data? x with
    | none =>
      simp only [snapshotBelow, hdata] at hs
      exact hs.elim
    | some data =>
      cases data with
      | document =>
        simp only [snapshotBelow, hdata] at hs
        exact hs.elim
      | shadowRoot mode =>
        simp only [snapshotBelow, hdata] at hs
        exact hs.elim
      | text content =>
        simp only [snapshotBelow, hdata] at hs
        obtain ⟨hfirst, hnone, rfl⟩ := hs
        obtain ⟨hx, hself, hcopy⟩ := h.comeBack_leaf hd' hdata rfl hfirst hnone hnumber
        simp [hx, hself, hcopy]
      | comment content =>
        simp only [snapshotBelow, hdata] at hs
        obtain ⟨hfirst, hnone, rfl⟩ := hs
        obtain ⟨hx, hself, hcopy⟩ := h.comeBack_leaf hd' hdata rfl hfirst hnone hnumber
        simp [hx, hself, hcopy]
      | element tag attributes =>
        simp only [snapshotBelow, hdata] at hs
        obtain ⟨⟨m, hfirst, hsorted⟩, mid, hshadow, hrest⟩ := hs
        rw [h.linked.subtree_eq, contents, List.flatMap_append, consecutive_cons,
          consecutive_append] at hnumber
        obtain ⟨hx, hnumber, hnumber'⟩ := hnumber
        obtain ⟨hhost, rfl, hcopied⟩ := h.comeBack_shadow hd' hinside hshadow hnumber
        obtain ⟨hplaces, hlast, hcopied'⟩ := hchildren hrest hnumber'
        have hcopy : Copied d d' number x :=
          ⟨hx ▸ contents_of_sorted hfirst hdata hsorted, by rw [hx, hplaces], by rw [hx, hhost]⟩
        rw [h.linked.subtree_eq, contents, List.flatMap_append, List.length_cons,
          List.length_append]
        refine ⟨by rw [List.map_singleton, hx], by omega, List.forall_mem_cons.2 ⟨hcopy, ?_⟩⟩
        exact List.forall_mem_append.2 ⟨hcopied, hcopied'⟩

theorem comeBack (x : NodeId) : ComeBack d d' number [x] ∧ ComeBack d d' number (d.children x) := by
  have hd := h.linked
  induction x using hd.layered.induction with
  | step x ih =>
    have hchildren : ComeBack d d' number (d.children x) := .of_forall fun c hc =>
      (ih c (hd.mem_contents.2 (hd.up?_of_parent? (hd.mem_children.1 hc)))).1
    refine ⟨h.comeBack_node hd' hchildren fun s hs => ?_, hchildren⟩
    exact (ih s (hd.mem_contents.2 (hd.up?_of_host? (hd.shadow_iff.1 hs)))).2

end Built

/-! ## Reading and loading -/

namespace Built

variable (h : d.Built)

include h

/-- No document node is read below a node that can be a child, if the bound on the levels is not
reached. -/
theorem not_hasDocument {x : NodeId} (hx : d.IsContent x) {depth : Nat}
    (hdepth : d.size < d.depth x + depth) : ¬ (d.snapshotBelow depth x).HasDocument := by
  have hd := h.linked
  induction depth generalizing x with
  | zero => exact absurd (hd.depth_le x) (Nat.not_le_of_lt hdepth)
  | succ depth ih =>
    have below {p c : NodeId} (hc : c ∈ d.children p) (hp : d.depth x ≤ d.depth p) :
        ¬ (d.snapshotBelow depth c).HasDocument := by
      have hpc := hd.mem_children.1 hc
      have hlevel := hd.depth_succ (hd.up?_of_parent? hpc)
      exact ih (hd.child_kind hpc) (by omega)
    obtain ⟨data, hdata, hcontent⟩ := hx
    cases data with
    | document => cases hcontent
    | shadowRoot mode => cases hcontent
    | text content =>
      rw [snapshotBelow, hdata]
      exact Snapshot.not_hasDocument_of_parts nofun rfl
    | comment content =>
      rw [snapshotBelow, hdata]
      exact Snapshot.not_hasDocument_of_parts nofun rfl
    | element tag attributes =>
      simp only [snapshotBelow, hdata]
      rw [Snapshot.hasDocument_iff_nestsDocument (by simp), Snapshot.NestsDocument, Snapshot.parts]
      rintro ⟨p, hp, hdocument⟩
      rcases List.mem_append.1 hp with hp | hp
      · cases hs : d.shadow? x with
        | none =>
          rw [hs] at hp
          cases hp
        | some s =>
          rw [hs] at hp
          obtain ⟨c, hc, rfl⟩ := List.mem_map.1 hp
          have hlevel := hd.depth_succ (hd.up?_of_host? (hd.shadow_iff.1 hs))
          exact below hc (by omega) hdocument
      · obtain ⟨c, hc, rfl⟩ := List.mem_map.1 hp
        exact below hc (Nat.le_refl _) hdocument

theorem snapshot_root :
    d.snapshot root = .document ((d.children root).map (d.snapshotBelow d.size)) := by
  rw [snapshot, snapshotBelow, h.data?_root]

theorem exists_load (orders : MapOrders) : ∃ d', (d.snapshot root).load orders = .ok d' := by
  refine (Snapshot.failsWhen_load orders _).ok ?_
  rw [h.snapshot_root]
  rintro ⟨p, hp, hdocument⟩
  obtain ⟨c, hc, rfl⟩ := List.mem_map.1 hp
  have hpc := h.linked.mem_children.1 hc
  have hlevel := h.linked.depth_succ (h.linked.up?_of_parent? hpc)
  exact h.not_hasDocument (h.linked.child_kind hpc) (by omega) hdocument

end Built

/-- The place of a node in pre-order from the document node on, shadow roots counted. -/
def rank (d : Dom) (x : NodeId) : Nat := (d.subtree root).idxOf x

theorem Linked.map_rank (hd : d.Linked) :
    (d.subtree root).map d.rank = List.range (d.subtree root).length := by
  refine List.ext_getElem (by simp) fun i hi hi' => ?_
  rw [List.getElem_map, List.getElem_range]
  exact (hd.nodup_subtree root).idxOf_getElem i _

theorem Built.copied {orders : MapOrders} (h : d.Built)
    (hload : (d.snapshot root).load orders = .ok d') :
    d'.size = (d.subtree root).length ∧ ∀ x ∈ d.subtree root, Copied d d' d.rank x := by
  have hd := h.linked
  have hd' := (Snapshot.load_built hload).linked
  obtain ⟨hstored, hdata, hshadow⟩ := Snapshot.load_stored hload
  rw [h.snapshot_root] at hstored
  have notElement : d.isElement root = false := by simp [isElement, element?, h.data?_root]
  have hnone := hd.shadow?_of_not_isElement notElement
  have hself : d.subtree root = root :: (d.children root).flatMap d.subtree := by
    rw [hd.subtree_eq, contents, hnone, Option.toList_none, List.nil_append]
  have hnumber : Consecutive d.rank 0 (d.subtree root) := by
    rw [Consecutive, hd.map_rank, List.range_eq_range']
  rw [hself, consecutive_cons] at hnumber
  obtain ⟨hplaces, hlast, hcopied⟩ := (h.comeBack hd' root).2 hstored hnumber.2
  have hroot : Copied d d' d.rank root := by
    refine ⟨?_, ?_, ?_⟩
    · exact hnumber.1 ▸ contents_of_data (hdata.trans h.data?_root.symm)
    · rw [hnumber.1]
      exact hplaces
    · rw [hnumber.1, hnone]
      exact hshadow
  rw [hself, List.length_cons]
  exact ⟨by omega, List.forall_mem_cons.2 ⟨hroot, hcopied⟩⟩

/-- All that lies in the document node comes back under its rank. -/
theorem Built.renaming {orders : MapOrders} (h : d.Built)
    (hload : (d.snapshot root).load orders = .ok d') :
    Renaming d d' (· ∈ d.subtree root) d.rank := by
  have hd := h.linked
  have hcopied := (h.copied hload).2
  refine ⟨fun hx _ heq => (List.idxOf_inj hx).1 heq, fun hx => (hcopied _ hx).data_eq,
    fun hx => (hcopied _ hx).children_eq, fun hx => (hcopied _ hx).shadow_eq, ?_, ?_⟩
  · intro x y hxy
    rw [hd.mem_subtree, hd.mem_subtree]
    constructor
    · intro hx
      rcases Relation.ReflTransGen.cases_head hx with rfl | ⟨z, hz, hzroot⟩
      · rw [h.up?_root] at hxy
        cases hxy
      · rw [hxy, Option.some.injEq] at hz
        exact hz ▸ hzroot
    · exact .head hxy
  · intro x hx hup
    rw [hd.mem_subtree] at hx
    rcases Relation.ReflTransGen.cases_head hx with rfl | ⟨z, hz, -⟩
    · have hzero : d.rank root = root := List.idxOf_cons_self
      rw [hzero]
      exact (Snapshot.load_built hload).up?_root
    · rw [hup] at hz
      cases hz

end Dom

end Umbra
