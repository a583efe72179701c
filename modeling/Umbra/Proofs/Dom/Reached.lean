import Umbra.Proofs.Dom.Built

/-!
# Calls that build a document

The calls change a document in place and may be refused. `Reached` says which documents they lead to
when only content without a place is appended, to any node that does not lie in it. Unlike in
`Built`, a call may be refused on the way, and a text may have children.
-/

namespace Umbra.Dom

variable {d : Dom}

/-! ## Calls that change a document in place -/

/-- A call that may be refused. What it has changed before it is refused stays changed. -/
abbrev Call := EStateM ShadowError Dom

namespace Call

/-- Adds a detached node and gives its place. -/
def add (data : NodeData) : Call NodeId := do
  let id := (← get).size
  modify fun d => d.add data
  return id

/-- Attaches a shadow root to an element that has none, and gives its place. -/
def attachShadow (host : NodeId) (mode : ShadowMode) : Call NodeId := do
  let d ← get
  if !d.isElement host then throw (.notAnElement host)
  else if (d.shadow? host).isSome then throw (.alreadyHost host)
  else
    let shadow ← add (.shadowRoot mode)
    modify fun d => d.update shadow fun n => { n with host := some host }
    modify fun d => d.update host fun n => { n with shadow := some shadow }
    return shadow

/-- In place, a shadow root is attached as by `Dom.attachShadow`, and a refusal comes before any
change. -/
theorem run_attachShadow (d : Dom) (host : NodeId) (mode : ShadowMode) :
    (attachShadow host mode).run d = match d.attachShadow host mode with
      | .ok (shadow, d') => .ok shadow d'
      | .error e => .error e d := by
  simp only [attachShadow, Dom.attachShadow, EStateM.run_bind, EStateM.run_get]
  split
  · rfl
  · split
    · rfl
    · rfl

theorem run_attachShadow_eq_ok {host shadow : NodeId} {mode : ShadowMode} {d' : Dom} :
    (attachShadow host mode).run d = .ok shadow d' ↔
      d.attachShadow host mode = .ok (shadow, d') := by
  rw [run_attachShadow]
  cases d.attachShadow host mode <;> simp [Prod.ext_iff]

theorem run_attachShadow_eq_error {host : NodeId} {mode : ShadowMode} {e : ShadowError} {d' : Dom} :
    (attachShadow host mode).run d = .error e d' ↔
      d.attachShadow host mode = .error e ∧ d' = d := by
  rw [run_attachShadow]
  cases d.attachShadow host mode <;> simp [eq_comm]

end Call

/-! ## Documents that calls lead to -/

/-- Documents that calls lead to, from the document node alone. A child is content without a place
that does not contain its new parent. -/
inductive Reached : Dom → Prop
  | new : Reached Dom.new
  | add {d : Dom} (reached : Reached d) (data : NodeData) : Reached (d.add data)
  | attachShadow {d d' : Dom} {host shadow : NodeId} {mode : ShadowMode} (reached : Reached d)
      (attached : (Call.attachShadow host mode).run d = .ok shadow d') : Reached d'
  | refused {d d' : Dom} {host : NodeId} {mode : ShadowMode} {e : ShadowError} (reached : Reached d)
      (refused : (Call.attachShadow host mode).run d = .error e d') : Reached d'
  | append {d d' : Dom} {parent child : NodeId} (reached : Reached d) (content : d.IsContent child)
      (detached : d.parent? child = none) (outside : ¬ d.Inside parent child)
      (appended : d.append? parent child = some d') : Reached d'

theorem Reached.linked (h : d.Reached) : d.Linked := by
  induction h with
  | new => exact linked_new
  | add _ data ih => exact ih.add data
  | attachShadow _ attached ih =>
    rw [Call.run_attachShadow_eq_ok] at attached
    obtain ⟨he, hs, -, rfl⟩ := attachShadow_eq_ok.1 attached
    exact ih.addShadow he hs
  | refused _ refused ih =>
    obtain ⟨-, rfl⟩ := Call.run_attachShadow_eq_error.1 refused
    exact ih
  | append _ content detached outside appended ih =>
    simp only [append?, Option.ite_none_right_eq_some, Option.some.injEq] at appended
    obtain ⟨⟨hp, -⟩, rfl⟩ := appended
    exact ih.append hp content detached outside

theorem Built.reached (h : d.Built) : d.Reached := by
  induction h with
  | new => exact .new
  | add _ data ih => exact .add ih data
  | attachShadow _ attached ih => exact .attachShadow ih (Call.run_attachShadow_eq_ok.2 attached)
  | append _ container content detached outside ih =>
    obtain ⟨_, hp, _⟩ := container
    obtain ⟨_, hc, _⟩ := id content
    refine .append ih content detached outside ?_
    rw [append?, if_pos ⟨lt_size_of_data? hp, lt_size_of_data? hc⟩]

theorem Built.linked (h : d.Built) : d.Linked := h.reached.linked

end Umbra.Dom
