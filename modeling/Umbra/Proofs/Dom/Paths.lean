import Umbra.Dom.Path
import Umbra.Proofs.Dom.Agreement
import Umbra.Proofs.Dom.Attributes
import Mathlib.Data.List.Forall2

/-!
# Paths

A path is found tree by tree: from a node up to the top of its tree, and on from the host there, as
long as there is one. In documents that come about these climbs end, and put together they are the one
chain that goes by parents and, at shadow roots, by hosts. Read from its end, the elements and shadow
roots of the chain are the steps of the path.
-/

namespace Umbra.Dom

variable {d : Dom}

/-- Climbing tree by tree from a node meets the nodes of a list and comes to its end. -/
inductive Climbs (d : Dom) : NodeId → List NodeId → Prop
  | last {start : NodeId} {above : List NodeId}
    (tree : Trace d.parent? (d.parent? start) above)
    (top : d.host? (above.getLastD start) = none) : Climbs d start (start :: above)
  | across {start host : NodeId} {above rest : List NodeId}
    (tree : Trace d.parent? (d.parent? start) above)
    (top : d.host? (above.getLastD start) = some host) (further : Climbs d host rest) :
    Climbs d start (start :: above ++ rest)

/-- How a node shows in a path: an element by its tag, with its id behind it if it has one. -/
inductive Shows (d : Dom) : NodeId → String → Prop
  | named {id : NodeId} {tag name : String} {attributes : AttributeMap}
    (data : d.data? id = some (.element tag attributes))
    (entry : ("id", name) ∈ attributes.entries) : Shows d id (tag ++ "#" ++ name)
  | unnamed {id : NodeId} {tag : String} {attributes : AttributeMap}
    (data : d.data? id = some (.element tag attributes))
    (entry : ∀ name, ("id", name) ∉ attributes.entries) : Shows d id tag
  | shadowRoot {id : NodeId} {mode : ShadowMode} (data : d.data? id = some (.shadowRoot mode)) :
    Shows d id "#shadow-root"

/-! ## One chain -/

namespace Linked

variable (hd : d.Linked)

include hd

/-- From the top of a tree the way up leads to the host. -/
theorem up?_of_top {x : NodeId} (hx : d.parent? x = none) : d.up? x = d.host? x := by
  rw [up?]
  split
  · rfl
  · rename_i hs
    rw [hx]
    cases hh : d.host? x with
    | none => rfl
    | some h => exact absurd (hd.host_kind hh).2 hs

/-- A climb to the top of a tree and a chain from the host there are one chain. -/
theorem trace_append {start : NodeId} {above rest : List NodeId}
    (tree : Trace d.parent? (d.parent? start) above)
    (further : Trace d.up? (d.host? (above.getLastD start)) rest) :
    Trace d.up? (d.up? start) (above ++ rest) := by
  induction above generalizing start with
  | nil =>
    generalize hp : d.parent? start = p at tree
    cases tree
    rw [hd.up?_of_top hp]
    exact further
  | cons p above ih =>
    generalize hp : d.parent? start = q at tree
    cases tree with
    | cons tree =>
      rw [hd.up?_of_parent? hp]
      rw [List.getLastD_cons] at further
      exact .cons (ih tree further)

theorem trace_of_climbs {start : NodeId} {met : List NodeId} (h : d.Climbs start met) :
    Trace d.up? (some start) met := by
  induction h with
  | @last start above tree top =>
    have hnone : Trace d.up? (d.host? (above.getLastD start)) [] := by
      rw [top]
      exact .nil
    rw [← List.append_nil above]
    exact .cons (hd.trace_append tree hnone)
  | across tree top _ ih =>
    rw [← top] at ih
    exact .cons (hd.trace_append tree ih)

theorem trace_chain (id : NodeId) : Trace d.up? (some id) (d.chain id) := .cons (hd.trace_up id)

theorem trace_ancestors (id : NodeId) : Trace d.parent? (d.parent? id) (d.ancestors id) := by
  obtain ⟨rank, hrank⟩ := hd.ranked
  exact Trace.of_follow (fun _ _ h => hrank _ _ (hd.up?_of_parent? h))
    (fun _ h => hd.parent_lt_size h) fun _ _ h => hd.parent_lt_size h

/-! ## The climbs end -/

/-- The host at the top of a tree is less deep than a node in the tree. -/
theorem depth_host_lt {id host : NodeId} (h : d.host? ((d.ancestors id).getLastD id) = some host) :
    d.depth host < d.depth id := by
  have further : Trace d.up? (d.host? ((d.ancestors id).getLastD id)) (d.chain host) := by
    rw [h]
    exact hd.trace_chain host
  have hchain := (hd.trace_up id).unique (hd.trace_append (hd.trace_ancestors id) further)
  rw [depth, depth, hchain, List.length_append, chain, List.length_cons]
  omega

theorem climbs_climb {n : Nat} {id : NodeId} (hn : d.depth id < n) :
    d.Climbs id (d.climb n id) := by
  induction n generalizing id with
  | zero => cases hn
  | succ n ih =>
    have tree := hd.trace_ancestors id
    rw [climb]
    cases hhost : d.host? ((d.ancestors id).getLastD id) with
    | none =>
      simp only [List.append_nil]
      exact .last tree hhost
    | some host =>
      have hlt := hd.depth_host_lt hhost
      exact .across tree hhost (ih (by omega))

theorem depth_lt_size (hsize : 0 < d.size) (id : NodeId) : d.depth id < d.size := by
  by_cases hid : id < d.size
  · obtain ⟨rank, hrank⟩ := hd.ranked
    have hchain : (d.chain id).length ≤ d.size := by
      refine Trace.length_le_of_nodup ((hd.trace_chain id).nodup hrank) fun x hx => ?_
      rcases (hd.trace_chain id).exists_step hx with h | ⟨y, -, h⟩
      · rw [Option.some.injEq] at h
        exact h ▸ hid
      · exact hd.up?_lt_size h
    exact hchain
  · have hup : d.up? id = none := by
      cases h : d.up? id with
      | none => rfl
      | some x =>
        rcases hd.up?_eq_some_iff.1 h with hp | hh
        · exact absurd (lt_size_of_parent? hp) hid
        · exact absurd (lt_size_of_host? hh) hid
    rw [depth, hup, Trace.nil.follow_eq (Nat.zero_le _)]
    exact hsize

end Linked

theorem Arises.size_pos (h : d.Arises) : 0 < d.size := by
  have reached {d : Dom} (h : d.Reached) : 0 < d.size := by
    induction h with
    | new => exact Nat.one_pos
    | add _ data ih => rw [size_add]; exact Nat.succ_pos _
    | attachShadow _ attached ih =>
      rw [Call.run_attachShadow_eq_ok] at attached
      obtain ⟨-, -, -, rfl⟩ := attachShadow_eq_ok.1 attached
      rw [size_addShadow]
      exact Nat.succ_pos _
    | refused _ refused ih =>
      obtain ⟨-, rfl⟩ := Call.run_attachShadow_eq_error.1 refused
      exact ih
    | append _ _ _ _ appended ih =>
      simp only [append?, Option.ite_none_right_eq_some, Option.some.injEq] at appended
      obtain ⟨-, rfl⟩ := appended
      rwa [size_append]
  rcases h with ⟨s, orders, h⟩ | h
  · exact reached (Snapshot.load_built h).reached
  · exact reached h

/-! ## Steps -/

theorem shows_iff {id : NodeId} {step : String} : d.Shows id step ↔ d.pathStep? id = some step := by
  constructor
  · rintro (⟨data, entry⟩ | ⟨data, entry⟩ | data)
    · simp only [pathStep?, data, AttributeMap.named?_eq_some.2 entry]
    · rename_i attributes
      have hnone : attributes.named? "id" = none := Option.eq_none_iff_forall_ne_some.2 fun name h =>
        entry name (AttributeMap.named?_eq_some.1 h)
      simp only [pathStep?, data, hnone]
    · simp only [pathStep?, data]
  · intro h
    rw [pathStep?] at h
    split at h
    · rename_i tag attributes data
      split at h
      · rename_i name hname
        cases h
        exact .named data (AttributeMap.named?_eq_some.1 hname)
      · rename_i hnone
        cases h
        refine .unnamed data fun name hname => ?_
        rw [AttributeMap.named?_eq_some.2 hname] at hnone
        cases hnone
    · rename_i data
      cases h
      exact .shadowRoot data
    · cases h

/-- Elements and shadow roots show in a path, and nothing else. -/
theorem isSome_pathStep? (id : NodeId) :
    (d.pathStep? id).isSome = (d.isElement id || d.isShadowRoot id) := by
  rw [pathStep?, isElement, element?, isShadowRoot, mode?]
  cases d.data? id with
  | none => rfl
  | some data =>
    cases data with
    | element tag attributes => cases h : attributes.named? "id" <;> simp [h]
    | _ => rfl

theorem forall₂_shows (ids : List NodeId) : List.Forall₂ d.Shows
    (ids.filter fun x => d.isElement x || d.isShadowRoot x) (ids.filterMap d.pathStep?) := by
  induction ids with
  | nil => exact .nil
  | cons x ids ih =>
    rw [List.filter_cons, List.filterMap_cons, ← isSome_pathStep?]
    cases hstep : d.pathStep? x with
    | none => simpa using ih
    | some step => simpa using ⟨shows_iff.2 hstep, ih⟩

theorem Linked.climb_eq_chain (hd : d.Linked) (hsize : 0 < d.size) (id : NodeId) :
    d.climb d.size id = d.chain id :=
  (hd.trace_of_climbs (hd.climbs_climb (hd.depth_lt_size hsize id))).unique (hd.trace_chain id)

/-- The climbs from a node, tree by tree, come to their end. What they meet is the one chain by parents
and, at shadow roots, hosts, which leads from the node to its topmost node and meets each node once.
Read from the topmost node down, what shows in a path of this chain are the steps of the path. -/
theorem Arises.path_chain (h : d.Arises) (id : NodeId) :
    (∀ met, d.Climbs id met ↔ met = d.chain id) ∧
    Trace d.up? (some id) (d.chain id) ∧ (d.chain id).Nodup ∧
    (d.chain id).getLast? = some (d.topmost id) ∧
    List.Forall₂ d.Shows
      ((d.chain id).reverse.filter fun x => d.isElement x || d.isShadowRoot x) (d.pathSteps id) ∧
    d.path id = " > ".intercalate (d.pathSteps id) := by
  have hd := h.linked
  have hclimb := hd.climb_eq_chain h.size_pos id
  have hclimbs := hd.climbs_climb (hd.depth_lt_size h.size_pos id)
  rw [hclimb] at hclimbs
  refine ⟨fun met => ⟨fun hmet => ?_, fun hmet => hmet ▸ hclimbs⟩, hd.trace_chain id, ?_, ?_, ?_, rfl⟩
  · exact (hd.trace_of_climbs hmet).unique (hd.trace_chain id)
  · obtain ⟨rank, hrank⟩ := hd.ranked
    exact (hd.trace_chain id).nodup hrank
  · rw [topmost, chain, List.getLastD_cons, List.getLast?_cons, List.getLastD_eq_getLast?]
  · rw [pathSteps, hclimb, ← List.filterMap_reverse]
    exact forall₂_shows _

/-- A text in a closed shadow tree, whose host is in an open one. -/
theorem Arises.path_chain_nested : ∃ d : Dom, d.Arises ∧
    (∀ met, d.Climbs 7 met ↔ met = [7, 6, 5, 4, 3, 2, 1, 0]) ∧ d.topmost 7 = 0 ∧
    List.Forall₂ d.Shows [1, 2, 3, 4, 5, 6]
      ["section", "div#root1", "#shadow-root", "p#a", "#shadow-root", "b"] := by
  let bold : Snapshot := .element "b" .empty .absent [.text "x"]
  let inner : Snapshot := .element "p" ⟨[("id", "a")], by decide⟩ (.attached .closed [bold]) []
  let outer : Snapshot := .element "div" ⟨[("class", "r"), ("id", "root1")], by decide⟩
    (.attached .opened [inner]) []
  let d : Dom := ⟨#[{ data := .document, children := [1] },
    { data := .element "section" .empty, parent := some 0, children := [2] },
    { data := .element "div" ⟨[("class", "r"), ("id", "root1")], by decide⟩, parent := some 1,
      shadow := some 3 },
    { data := .shadowRoot .opened, host := some 2, children := [4] },
    { data := .element "p" ⟨[("id", "a")], by decide⟩, parent := some 3, shadow := some 5 },
    { data := .shadowRoot .closed, host := some 4, children := [6] },
    { data := .element "b" .empty, parent := some 5, children := [7] },
    { data := .text "x", parent := some 6 }]⟩
  have hd : d.Arises := Or.inl ⟨.document [.element "section" .empty .absent [outer]], .byName, rfl⟩
  obtain ⟨hclimbs, -, -, -, hshows, -⟩ := hd.path_chain 7
  have hchain : d.chain 7 = [7, 6, 5, 4, 3, 2, 1, 0] := by decide +kernel
  have hsteps : d.pathSteps 7 =
      ["section", "div#root1", "#shadow-root", "p#a", "#shadow-root", "b"] := by decide +kernel
  rw [hchain] at hclimbs hshows
  rw [hsteps] at hshows
  exact ⟨d, hd, hclimbs, by decide +kernel, hshows⟩

end Umbra.Dom
