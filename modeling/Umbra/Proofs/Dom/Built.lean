import Umbra.Proofs.Dom.Linked

/-!
# What is built is linked

Each operation keeps `Linked`. For a new child this needs that the child is detached and does not
contain its parent: only then there is a rank again that sinks on the way up.
-/

namespace Umbra.Dom

variable {d : Dom}

theorem linked_new : Linked Dom.new := by
  have node (x : NodeId) : Dom.new.node? x = none ∨ Dom.new.node? x = some { data := .document } := by
    cases x with
    | zero => exact Or.inr rfl
    | succ x => exact Or.inl rfl
  have link {α : Type} (view : Node → Option α) (hv : view { data := .document } = none)
      (x : NodeId) : (Dom.new.node? x).bind view = none := by
    rcases node x with h | h
    · rw [h]; rfl
    · rw [h]; exact hv
  have children (x : NodeId) : Dom.new.children x = [] := by
    rcases node x with h | h <;> simp [Dom.children, h]
  have parent (x : NodeId) : Dom.new.parent? x = none := link Node.parent rfl x
  have host (x : NodeId) : Dom.new.host? x = none := link Node.host rfl x
  have shadow (x : NodeId) : Dom.new.shadow? x = none := link Node.shadow rfl x
  exact {
    mem_children := by simp [children, parent]
    nodup_children := by simp [children]
    next_eq := by simp [children]
    prev_eq := by simp [children]
    alone := fun _ => ⟨link Node.next rfl _, link Node.prev rfl _⟩
    shadow_iff := by simp [host, shadow]
    host_kind := by simp [host]
    child_kind := by simp [parent]
    ranked := ⟨fun _ => 0, fun x y h => by simp [up?, host, parent] at h⟩ }

/-! ## A detached node -/

theorem up?_add {data : NodeData} {x : NodeId} : (d.add data).up? x = d.up? x := by
  by_cases hx : x = d.size
  · have hp : d.parent? x = none := by rw [parent?, node?_eq_none (Nat.le_of_eq hx.symm)]; rfl
    have hh : d.host? x = none := by rw [host?, node?_eq_none (Nat.le_of_eq hx.symm)]; rfl
    simp [up?, parent?_add, host?_add, hp, hh]
  · have hs : (d.add data).isShadowRoot x = d.isShadowRoot x :=
      isShadowRoot_congr (by rw [data?_add, if_neg hx])
    simp [up?, parent?_add, host?_add, hs]

theorem data?_add_of_eq_some {data : NodeData} {x : NodeId} {e : NodeData} (h : d.data? x = some e) :
    (d.add data).data? x = some e := by
  rw [data?_add, if_neg (Nat.ne_of_lt (lt_size_of_data? h)), h]

theorem Linked.add (hd : d.Linked) (data : NodeData) : (d.add data).Linked where
  mem_children := by simp only [children_add, parent?_add]; exact hd.mem_children
  nodup_children p := by rw [children_add]; exact hd.nodup_children p
  next_eq := by simp only [children_add, next?_add]; exact hd.next_eq
  prev_eq := by simp only [children_add, prev?_add]; exact hd.prev_eq
  alone := by simp only [parent?_add, next?_add, prev?_add]; exact hd.alone
  shadow_iff := by simp only [shadow?_add, host?_add]; exact hd.shadow_iff
  host_kind := by
    intro h s hs
    rw [host?_add] at hs
    obtain ⟨he, hr⟩ := hd.host_kind hs
    obtain ⟨tag, attributes, he⟩ := isElement_iff.1 he
    obtain ⟨mode, hr⟩ := isShadowRoot_iff.1 hr
    exact ⟨isElement_iff.2 ⟨tag, attributes, data?_add_of_eq_some he⟩,
      isShadowRoot_iff.2 ⟨mode, data?_add_of_eq_some hr⟩⟩
  child_kind := by
    intro c p hp
    rw [parent?_add] at hp
    obtain ⟨a, ha, hac⟩ := hd.child_kind hp
    exact ⟨a, data?_add_of_eq_some ha, hac⟩
  ranked := by simpa only [up?_add] using hd.ranked

/-! ## A shadow root -/

section AddShadow

variable {h : NodeId} {mode : ShadowMode}

theorem data?_addShadow_of_eq_some {x : NodeId} {e : NodeData} (he : d.data? x = some e) :
    (d.addShadow h mode).data? x = some e := by
  rw [data?_addShadow, if_neg (Nat.ne_of_lt (lt_size_of_data? he)), he]

theorem up?_addShadow {x : NodeId} :
    (d.addShadow h mode).up? x = if x = d.size then some h else d.up? x := by
  by_cases hx : x = d.size
  · have hs : (d.addShadow h mode).isShadowRoot x = true :=
      isShadowRoot_iff.2 ⟨mode, by rw [data?_addShadow, if_pos hx]⟩
    rw [up?_eq_host? hs, host?_addShadow, if_pos hx, if_pos hx]
  · have hs : (d.addShadow h mode).isShadowRoot x = d.isShadowRoot x :=
      isShadowRoot_congr (by rw [data?_addShadow, if_neg hx])
    simp only [up?, parent?_addShadow, host?_addShadow, hs, if_neg hx]

theorem attachShadow_eq_ok {s : NodeId} {d' : Dom} : d.attachShadow h mode = .ok (s, d') ↔
    d.isElement h = true ∧ d.shadow? h = none ∧ s = d.size ∧ d' = d.addShadow h mode := by
  cases he : d.isElement h with
  | false => simp [attachShadow, he]
  | true =>
    cases hs : d.shadow? h with
    | none => simp [attachShadow, he, hs, eq_comm]
    | some r => simp [attachShadow, he, hs]

/-- A new element is never refused a shadow root. -/
theorem attachShadow_add {tag : String} {attributes : AttributeMap} {mode : ShadowMode} :
    (d.add (.element tag attributes)).attachShadow d.size mode =
      .ok (d.size + 1, (d.add (.element tag attributes)).addShadow d.size mode) := by
  refine attachShadow_eq_ok.2 ⟨?_, shadow?_add_self, (size_add d _).symm, rfl⟩
  exact isElement_iff.2 ⟨tag, attributes, by rw [data?_add, if_pos rfl]⟩

theorem Linked.addShadow (hd : d.Linked) (he : d.isElement h = true) (hn : d.shadow? h = none) :
    (d.addShadow h mode).Linked where
  mem_children := by simp only [children_addShadow, parent?_addShadow]; exact hd.mem_children
  nodup_children p := by rw [children_addShadow]; exact hd.nodup_children p
  next_eq := by simp only [children_addShadow, next?_addShadow]; exact hd.next_eq
  prev_eq := by simp only [children_addShadow, prev?_addShadow]; exact hd.prev_eq
  alone := by simp only [parent?_addShadow, next?_addShadow, prev?_addShadow]; exact hd.alone
  shadow_iff := by
    intro g s
    rw [shadow?_addShadow (lt_size_of_isElement he), host?_addShadow]
    by_cases hg : g = h
    · rw [if_pos hg]
      by_cases hs : s = d.size
      · simp [hs, hg]
      · rw [if_neg hs, ← hd.shadow_iff, hg, hn]
        simp [Ne.symm hs]
    · rw [if_neg hg]
      by_cases hs : s = d.size
      · have : d.shadow? g ≠ some d.size := fun hc =>
          Nat.lt_irrefl _ (lt_size_of_host? (hd.shadow_iff.1 hc))
        simp [hs, this, Ne.symm hg]
      · rw [if_neg hs, hd.shadow_iff]
  host_kind := by
    intro g s hs
    have element {g : NodeId} (hg : d.isElement g = true) :
        (d.addShadow h mode).isElement g = true := by
      obtain ⟨tag, attributes, hg⟩ := isElement_iff.1 hg
      exact isElement_iff.2 ⟨tag, attributes, data?_addShadow_of_eq_some hg⟩
    rw [host?_addShadow] at hs
    split at hs
    · rename_i hx
      rw [Option.some.injEq] at hs
      exact ⟨hs ▸ element he, isShadowRoot_iff.2 ⟨mode, by rw [data?_addShadow, if_pos hx]⟩⟩
    · obtain ⟨hg, hr⟩ := hd.host_kind hs
      obtain ⟨m, hr⟩ := isShadowRoot_iff.1 hr
      exact ⟨element hg, isShadowRoot_iff.2 ⟨m, data?_addShadow_of_eq_some hr⟩⟩
  child_kind := by
    intro c p hp
    rw [parent?_addShadow] at hp
    obtain ⟨a, ha, hac⟩ := hd.child_kind hp
    exact ⟨a, data?_addShadow_of_eq_some ha, hac⟩
  ranked := by
    obtain ⟨rank, hrank⟩ := hd.ranked
    refine ⟨fun x => if x = d.size then rank h + 1 else rank x, fun x y hxy => ?_⟩
    rw [up?_addShadow] at hxy
    by_cases hx : x = d.size
    · rw [if_pos hx, Option.some.injEq] at hxy
      have hh : h ≠ d.size := Nat.ne_of_lt (lt_size_of_isElement he)
      simp only [hx, ← hxy, if_neg hh, if_true]
      exact Nat.lt_succ_self _
    · rw [if_neg hx] at hxy
      simp only [if_neg hx, if_neg (Nat.ne_of_lt (hd.up?_lt_size hxy))]
      exact hrank x y hxy

end AddShadow

/-! ## A child -/

section Append

variable {p c : NodeId}

theorem up?_append (hc : d.IsContent c) {x : NodeId} :
    (d.append p c).up? x = if x = c then some p else d.up? x := by
  obtain ⟨data, hdata, _⟩ := id hc
  have hs : (d.append p c).isShadowRoot x = d.isShadowRoot x := isShadowRoot_congr data?_append
  simp only [up?, hs, host?_append, parent?_append (lt_size_of_data? hdata)]
  by_cases hx : x = c
  · simp [hx, hc.not_shadowRoot]
  · simp [hx]

/-- The rank of everything in the new child grows by more than the rank of its parent. -/
theorem ranked_append (hd : d.Linked) (hc : d.IsContent c) (hn : d.parent? c = none)
    (hi : ¬ d.Inside p c) :
    ∃ rank : NodeId → Nat, ∀ x y, (d.append p c).up? x = some y → rank y < rank x := by
  classical
  obtain ⟨rank, hrank⟩ := hd.ranked
  refine ⟨fun x => if d.Inside x c then rank x + rank p + 1 else rank x, fun x y hxy => ?_⟩
  rw [up?_append hc] at hxy
  by_cases hx : x = c
  · rw [if_pos hx, Option.some.injEq] at hxy
    have hcc : d.Inside x c := hx ▸ .refl
    simp only [← hxy, if_neg hi, if_pos hcc]
    omega
  · rw [if_neg hx] at hxy
    have hlt := hrank x y hxy
    by_cases hy : d.Inside y c
    · have hxc : d.Inside x c := .head hxy hy
      simp only [if_pos hy, if_pos hxc]
      omega
    · have hxc : ¬ d.Inside x c := by
        intro hxc
        rcases Relation.ReflTransGen.cases_head hxc with rfl | ⟨z, hz, hzc⟩
        · exact hx rfl
        · rw [hxy, Option.some.injEq] at hz
          exact hy (hz ▸ hzc)
      simp only [if_neg hy, if_neg hxc]
      exact hlt

theorem Linked.next?_append (hd : d.Linked) {x : NodeId} : (d.append p c).next? x =
    if (d.children p).getLast? = some x then some c else d.next? x := by
  cases h : (d.children p).getLast? with
  | none =>
    rw [next?_append_first (List.getLast?_eq_none_iff.1 h)]
    simp
  | some last =>
    have hl : last < d.size :=
      lt_size_of_parent? (hd.mem_children.1 (List.mem_of_getLast? h))
    rw [Dom.next?_append h hl]
    simp only [Option.some.injEq, eq_comm]

theorem Linked.prev?_append (hd : d.Linked) (hc : c < d.size) (hn : d.parent? c = none)
    {x : NodeId} : (d.append p c).prev? x =
    if x = c then (d.children p).getLast? else d.prev? x := by
  cases h : (d.children p).getLast? with
  | none =>
    rw [prev?_append_first (List.getLast?_eq_none_iff.1 h)]
    split
    · rename_i hx
      rw [hx, (hd.alone hn).2]
    · rfl
  | some last => rw [Dom.prev?_append h hc]

/-- A place in a list with one more member at the end is the end or a place before it. -/
theorem append_singleton_split {l before after : List NodeId} {y : NodeId}
    (h : l ++ [c] = before ++ y :: after) :
    (after = [] ∧ y = c ∧ before = l) ∨ ∃ rest, after = rest ++ [c] ∧ l = before ++ y :: rest := by
  rcases List.eq_nil_or_concat after with rfl | ⟨rest, b, rfl⟩
  · obtain ⟨hl, hy⟩ := List.append_inj' h rfl
    exact Or.inl ⟨rfl, by simpa using hy.symm, hl.symm⟩
  · rw [List.concat_eq_append, ← List.cons_append, ← List.append_assoc] at h
    obtain ⟨hl, hb⟩ := List.append_inj' h rfl
    refine Or.inr ⟨rest, ?_, hl⟩
    rw [List.concat_eq_append, hb]

/-- The last child of a node has that node as its parent. -/
theorem Linked.getLast?_children_ne (hd : d.Linked) {y : NodeId} (hy : d.parent? y ≠ some p) :
    (d.children p).getLast? ≠ some y :=
  fun hlast => hy (hd.mem_children.1 (List.mem_of_getLast? hlast))

theorem Linked.next?_of_children_append (hd : d.Linked) (hps : p < d.size) (hn : d.parent? c = none)
    {x y : NodeId} {before after : List NodeId}
    (h : (d.append p c).children x = before ++ y :: after) :
    (d.append p c).next? y = after.head? := by
  rw [children_append hps] at h
  rw [hd.next?_append]
  by_cases hx : x = p
  · rw [if_pos hx] at h
    rcases append_singleton_split h with ⟨rfl, rfl, rfl⟩ | ⟨rest, rfl, hl⟩
    · rw [if_neg (hd.getLast?_children_ne (by simp [hn]))]
      exact (hd.alone hn).1
    · have hnodup := hd.nodup_children p
      rw [hl] at hnodup
      cases rest with
      | nil => simp [hl]
      | cons z rest =>
        have hy : (d.children p).getLast? ≠ some y := by
          intro hy
          have hz : y ∈ z :: rest := by
            rw [hl, List.getLast?_append, List.getLast?_cons_cons] at hy
            exact List.mem_of_getLast? (by simpa using hy)
          exact (List.nodup_cons.1 (List.nodup_append.1 hnodup).2.1).1 hz
        rw [if_neg hy, hd.next_eq hl]
        rfl
  · rw [if_neg hx] at h
    have hy : d.parent? y = some x := hd.mem_children.1 (by simp [h])
    rw [if_neg (hd.getLast?_children_ne (by simp [hy, hx])), hd.next_eq h]

theorem Linked.prev?_of_children_append (hd : d.Linked) (hps : p < d.size) (hc : c < d.size)
    (hn : d.parent? c = none) {x y : NodeId} {before after : List NodeId}
    (h : (d.append p c).children x = before ++ y :: after) :
    (d.append p c).prev? y = before.getLast? := by
  have hfresh (x : NodeId) : c ∉ d.children x := by simp [hd.mem_children, hn]
  rw [children_append hps] at h
  rw [hd.prev?_append hc hn]
  by_cases hx : x = p
  · rw [if_pos hx] at h
    rcases append_singleton_split h with ⟨rfl, rfl, rfl⟩ | ⟨rest, rfl, hl⟩
    · rw [if_pos rfl]
    · have hy : y ≠ c := fun hy => hfresh p (by simp [hl, hy])
      rw [if_neg hy, hd.prev_eq hl]
  · rw [if_neg hx] at h
    have hy : y ≠ c := fun hy => hfresh x (by simp [h, hy])
    rw [if_neg hy, hd.prev_eq h]

theorem Linked.append (hd : d.Linked) (hps : p < d.size) (hc : d.IsContent c)
    (hn : d.parent? c = none) (hi : ¬ d.Inside p c) : (d.append p c).Linked := by
  obtain ⟨cdata, hcd, hck⟩ := id hc
  have hcs := lt_size_of_data? hcd
  have hfresh (x : NodeId) : c ∉ d.children x := by simp [hd.mem_children, hn]
  exact {
    mem_children := by
      intro x y
      rw [children_append hps, parent?_append hcs]
      by_cases hy : y = c
      · subst hy
        by_cases hx : x = p
        · simp [hx]
        · simp [hx, Ne.symm hx, hfresh]
      · by_cases hx : x = p
        · simp [hx, hy, hd.mem_children]
        · simp [hx, hy, hd.mem_children]
    nodup_children := by
      intro x
      rw [children_append hps]
      by_cases hx : x = p
      · rw [if_pos hx]
        refine List.nodup_append.2 ⟨hd.nodup_children p, by simp, ?_⟩
        intro a ha b hb
        rw [List.mem_singleton] at hb
        intro hab
        exact hfresh p (hb ▸ hab ▸ ha)
      · rw [if_neg hx]
        exact hd.nodup_children x
    next_eq := hd.next?_of_children_append hps hn
    prev_eq := hd.prev?_of_children_append hps hcs hn
    alone := by
      intro y hy
      rw [parent?_append hcs] at hy
      by_cases hyc : y = c
      · simp [hyc] at hy
      · rw [if_neg hyc] at hy
        rw [hd.next?_append, hd.prev?_append hcs hn, if_neg hyc,
          if_neg (hd.getLast?_children_ne (by simp [hy]))]
        exact hd.alone hy
    shadow_iff := by simp only [shadow?_append, host?_append]; exact hd.shadow_iff
    host_kind := by
      intro h s hs
      rw [host?_append] at hs
      rw [isElement_congr data?_append, isShadowRoot_congr data?_append]
      exact hd.host_kind hs
    child_kind := by
      intro x y hxy
      rw [parent?_append hcs] at hxy
      simp only [IsContent, data?_append]
      by_cases hx : x = c
      · exact hx ▸ hc
      · rw [if_neg hx] at hxy
        exact hd.child_kind hxy
    ranked := ranked_append hd hc hn hi }

end Append

end Umbra.Dom
