import Umbra.Proofs.Outcome
import Umbra.Proofs.Selector.Scan
import Umbra.Selector.Reader
import Mathlib.Data.List.TakeWhile

/-!
# Readers before white space

White space behind a selector changes nothing in how it is read. The readers see it early, where a
name or an escape ends with the text, but none of them takes it for more than white space. Only an
escape that was cut off at the end of the text would be completed by it, and a text that ends so is
not a selector.

`Follows` says this of one reader. It holds of a sequence of readers when it holds of each of them.
-/

namespace Umbra.Selector

open Text

/-! ## Whole texts -/

/-- A text at whose end no escape is cut off. -/
inductive Whole : List Char → Prop
  | nil : Whole []
  | plain {c : Char} {s : List Char} (hc : c ≠ '\\') (rest : Whole s) : Whole (c :: s)
  | escape {c : Char} {s : List Char} (rest : Whole s) : Whole ('\\' :: c :: s)

namespace Whole

variable {s t : List Char}

theorem append (hs : Whole s) (ht : Whole t) : Whole (s ++ t) := by
  induction hs with
  | nil => exact ht
  | plain hc _ ih => exact .plain hc ih
  | escape _ ih => exact .escape ih

theorem tail {c : Char} (h : Whole (c :: s)) (hc : c ≠ '\\') : Whole s := by
  cases h with
  | plain _ rest => exact rest
  | escape => exact absurd rfl hc

theorem drop_escape {c : Char} (h : Whole ('\\' :: c :: s)) : Whole s := by
  cases h with
  | plain hc _ => exact absurd rfl hc
  | escape rest => exact rest

theorem of_append (hs : Whole s) (h : Whole (s ++ t)) : Whole t := by
  induction hs with
  | nil => exact h
  | plain hc _ ih => exact ih (tail h hc)
  | escape _ ih => exact ih (drop_escape h)

theorem of_forall (h : ∀ c ∈ s, c ≠ '\\') : Whole s := by
  induction s with
  | nil => exact .nil
  | cons c s ih =>
    obtain ⟨hc, hs⟩ := List.forall_mem_cons.1 h
    exact .plain hc (ih hs)

theorem ne_nil (h : Whole ('\\' :: s)) : s ≠ [] := by
  cases h with
  | plain hc _ => exact absurd rfl hc
  | escape _ => exact List.cons_ne_nil _ _

end Whole

/-- A whole text is taken off the front, and `rest` is left. -/
def Leaves (s rest : List Char) : Prop := ∃ taken, Whole taken ∧ s = taken ++ rest

namespace Leaves

variable {s t r : List Char}

theorem refl (s : List Char) : Leaves s s := ⟨[], .nil, rfl⟩

theorem trans (h : Leaves s t) (h' : Leaves t r) : Leaves s r := by
  obtain ⟨taken, hw, rfl⟩ := h
  obtain ⟨taken', hw', rfl⟩ := h'
  exact ⟨taken ++ taken', hw.append hw', (List.append_assoc ..).symm⟩

theorem plain {c : Char} (hc : c ≠ '\\') (h : Leaves s r) : Leaves (c :: s) r := by
  obtain ⟨taken, hw, rfl⟩ := h
  exact ⟨c :: taken, .plain hc hw, rfl⟩

theorem escape {c : Char} (h : Leaves s r) : Leaves ('\\' :: c :: s) r := by
  obtain ⟨taken, hw, rfl⟩ := h
  exact ⟨'\\' :: c :: taken, .escape hw, rfl⟩

theorem whole_rest (h : Leaves s r) (hs : Whole s) : Whole r := by
  obtain ⟨taken, hw, rfl⟩ := h
  exact hw.of_append hs

theorem whole (h : Leaves s r) (hr : Whole r) : Whole s := by
  obtain ⟨taken, hw, rfl⟩ := h
  exact hw.append hr

theorem length_le (h : Leaves s r) : r.length ≤ s.length := by
  obtain ⟨taken, -, rfl⟩ := h
  simp

end Leaves

/-! ## White space -/

def Spaces (s : List Char) : Prop := ∀ c ∈ s, isSpace c = true

theorem isSpace_spec {c : Char} (h : isSpace c = true) :
    c ≠ '\\' ∧ isHexDigit c = false ∧ isNameChar c = false ∧ isPlain c = true ∧ c ≠ ',' := by
  simp only [isSpace, Bool.or_eq_true, beq_iff_eq] at h
  rcases h with (((rfl | rfl) | rfl) | rfl) | rfl <;> decide

namespace Spaces

variable {s t : List Char}

theorem of_suffix (h : Spaces s) (ht : t <:+ s) : Spaces t := fun c hc => h c (ht.subset hc)

theorem whole (h : Spaces s) : Whole s := .of_forall fun c hc => (isSpace_spec (h c hc)).1

theorem balanced {comma : Bool} (h : Spaces s) : Balanced comma s :=
  .of_forall fun c hc => ⟨(isSpace_spec (h c hc)).2.2.2.1, (isSpace_spec (h c hc)).2.2.2.2⟩

theorem skipSpace_eq (h : Spaces s) : skipSpace s = [] := List.dropWhile_eq_nil_iff.2 h

theorem skipSpace_append (h : Spaces s) (t : List Char) : skipSpace (s ++ t) = skipSpace t :=
  List.dropWhile_append_of_pos h

/-- Behind what is left, white space at the end of the text stays or is skipped as well. -/
theorem exists_skipSpace_append (h : Spaces t) (s : List Char) :
    ∃ u, u <:+ t ∧ skipSpace (s ++ t) = skipSpace s ++ u := by
  rw [skipSpace, List.dropWhile_append, ← skipSpace, ← skipSpace]
  by_cases hs : skipSpace s = []
  · rw [if_pos (List.isEmpty_iff.2 hs), hs, h.skipSpace_eq]
    exact ⟨[], List.nil_suffix, rfl⟩
  · rw [if_neg (mt List.isEmpty_iff.1 hs)]
    exact ⟨t, List.suffix_rfl, rfl⟩

/-- Behind white space a name does not go on. -/
theorem continues_append (h : Spaces s) (ht : continues t = false) : continues (s ++ t) = false := by
  cases s with
  | nil => exact ht
  | cons c s =>
    obtain ⟨hslash, -, hname, -⟩ := isSpace_spec (h c (List.mem_cons_self ..))
    simp [continues, hname, atEscape_cons, hslash]

theorem continues_eq (h : Spaces s) : continues s = false := by
  have hnil := h.continues_append (t := []) rfl
  rwa [List.append_nil] at hnil

/-- White space at the end does not bring another character to the front. -/
theorem append_ne_cons (h : Spaces t) {c : Char} (hc : isSpace c = false)
    (hs : ∀ u, s = c :: u → False) : ∀ u, s ++ t = c :: u → False := by
  intro u hu
  cases s with
  | nil =>
    rw [List.nil_append] at hu
    have hspace := h c (by simp [hu])
    rw [hc] at hspace
    cases hspace
  | cons d s =>
    obtain ⟨rfl, -⟩ := List.cons.inj hu
    exact hs s rfl

end Spaces

theorem leaves_skipSpace (s : List Char) : Leaves s (skipSpace s) := by
  refine ⟨s.takeWhile isSpace, ?_, List.takeWhile_append_dropWhile.symm⟩
  exact Spaces.whole fun c hc => List.mem_takeWhile_imp hc

theorem spaces_of_skipSpace {s : List Char} (h : skipSpace s = []) : Spaces s :=
  List.dropWhile_eq_nil_iff.1 h

/-! ## Readers that stop at trailing white space -/

/-- What is read from `s` is read as well when `sp` stands behind it, up to an end of `sp` that is
left with the rest. -/
def Follows {α : Type} (sp s : List Char) (x x' : Read (α × List Char)) : Prop :=
  ∀ a r, x = .ok (a, r) → Leaves s r ∧ (Whole s → ∃ t, t <:+ sp ∧ x' = .ok (a, r ++ t))

namespace Follows

variable {α β : Type} {sp s r : List Char} {x x' : Read (α × List Char)}

theorem error {e : SyntaxError (List Char)} : Follows sp s (.error e) x' := nofun

theorem done {a : α} : Follows sp s (.ok (a, s)) (.ok (a, s ++ sp)) := by
  intro b r h
  cases h
  exact ⟨.refl s, fun _ => ⟨sp, List.suffix_rfl, rfl⟩⟩

theorem pure {p p' : α × List Char} (hleaves : Leaves s p.2)
    (hp : Whole s → ∃ t, t <:+ sp ∧ p' = (p.1, p.2 ++ t)) : Follows sp s (.ok p) (.ok p') := by
  intro a r h
  rw [Except.ok.injEq] at h
  rw [h] at hleaves hp
  refine ⟨hleaves, fun hs => ?_⟩
  obtain ⟨t, ht, heq⟩ := hp hs
  exact ⟨t, ht, congrArg _ heq⟩

theorem after (hleaves : Leaves s r) (h : Follows sp r x x') : Follows sp s x x' := by
  intro a t hx
  obtain ⟨hl, hw⟩ := h a t hx
  exact ⟨hleaves.trans hl, fun hs => hw (hleaves.whole_rest hs)⟩

theorem mapped (k : α → β) (hx : Follows sp s x x') :
    Follows sp s (x.map fun (a, r) => (k a, r)) (x'.map fun (a, r) => (k a, r)) := by
  intro b u hu
  cases x with
  | error e => cases hu
  | ok p =>
    cases hu
    obtain ⟨hl, hw⟩ := hx p.1 p.2 rfl
    refine ⟨hl, fun hs => ?_⟩
    obtain ⟨t, ht, rfl⟩ := hw hs
    exact ⟨t, ht, rfl⟩

variable (hsp : Spaces sp)

include hsp

theorem bind {f g : α × List Char → Read (β × List Char)} (hx : Follows sp s x x')
    (hf : ∀ a r t, Spaces t → Follows t r (f (a, r)) (g (a, r ++ t))) :
    Follows sp s (x >>= f) (x' >>= g) := by
  intro b u hu
  obtain ⟨⟨a, r⟩, hxr, hfr⟩ := bind_eq_ok.1 hu
  obtain ⟨hl, hw⟩ := hx a r hxr
  refine ⟨hl.trans (hf a r [] nofun b u hfr).1, fun hs => ?_⟩
  obtain ⟨t, ht, hx'⟩ := hw hs
  obtain ⟨v, hv, hf'⟩ := (hf a r t (hsp.of_suffix ht) b u hfr).2 (hl.whole_rest hs)
  exact ⟨v, hv.trans ht, bind_eq_ok.2 ⟨_, hx', hf'⟩⟩

/-- A reader may take an escape that is cut off for a character, if nothing is read behind it. -/
theorem bind_of_ne_nil {f g : α × List Char → Read (β × List Char)}
    (hx : ∀ a r, x = .ok (a, r) → r ≠ [] →
      Leaves s r ∧ (Whole s → ∃ t, t <:+ sp ∧ x' = .ok (a, r ++ t)))
    (hnil : ∀ a, ∃ e, f (a, []) = .error e)
    (hf : ∀ a r t, Spaces t → Follows t r (f (a, r)) (g (a, r ++ t))) :
    Follows sp s (x >>= f) (x' >>= g) := by
  intro b u hu
  obtain ⟨⟨a, r⟩, hxr, hfr⟩ := bind_eq_ok.1 hu
  have hr : r ≠ [] := by
    rintro rfl
    obtain ⟨e, he⟩ := hnil a
    rw [he] at hfr
    cases hfr
  have hx : Follows sp s (.ok (a, r)) x' := by
    intro _ _ h
    cases h
    exact hx a r hxr hr
  rw [hxr] at hu
  exact bind hsp hx hf b u hu

theorem next {p p' : α × List Char} {f g : α × List Char → Read (β × List Char)}
    (hp : Follows sp s (.ok p) (.ok p'))
    (hf : ∀ t, Spaces t → Follows t p.2 (f p) (g (p.1, p.2 ++ t))) :
    Follows sp s (f p) (g p') := by
  intro b u hu
  obtain ⟨hl, hw⟩ := hp p.1 p.2 rfl
  refine ⟨hl.trans (hf [] nofun b u hu).1, fun hs => ?_⟩
  obtain ⟨t, ht, hp'⟩ := hw hs
  obtain ⟨v, hv, hg⟩ := (hf t (hsp.of_suffix ht) b u hu).2 (hl.whole_rest hs)
  rw [Except.ok.inj hp']
  exact ⟨v, hv.trans ht, hg⟩

theorem skip (h : ∀ t, Spaces t → skipSpace (s ++ sp) = skipSpace s ++ t →
    Follows t (skipSpace s) x x') : Follows sp s x x' := by
  obtain ⟨t, ht, hskip⟩ := hsp.exists_skipSpace_append s
  intro a r hx
  obtain ⟨hl, hw⟩ := h t (hsp.of_suffix ht) hskip a r hx
  refine ⟨(leaves_skipSpace s).trans hl, fun hs => ?_⟩
  obtain ⟨u, hu, hx'⟩ := hw ((leaves_skipSpace s).whole_rest hs)
  exact ⟨u, hu.trans ht, hx'⟩

theorem map {p p' : α × List Char} (k : α → β) (hp : Follows sp s (.ok p) (.ok p')) :
    Follows sp s (.ok (k p.1, p.2)) (.ok (k p'.1, p'.2)) :=
  next hsp (f := fun q => .ok (k q.1, q.2)) (g := fun q => .ok (k q.1, q.2)) hp
    fun _ _ => .done

end Follows

/-! ## Steps of a sequence -/

/-- What `Follows` says, of a step that there may not be and that gets further if there is one. -/
structure StepFollows {α : Type} (sp s : List Char) (x x' : Read (Option (α × List Char))) :
    Prop where
  stop : x = .ok none → Whole s → x' = .ok none
  step : ∀ a r, x = .ok (some (a, r)) → r.length < s.length ∧ Leaves s r ∧
    (Whole s → ∃ t, t <:+ sp ∧ x' = .ok (some (a, r ++ t)))

section Many

variable {α β : Type} {sp s : List Char}

theorem StepFollows.error {e : SyntaxError (List Char)} {x' : Read (Option (α × List Char))} :
    StepFollows sp s (.error e) x' := ⟨nofun, nofun⟩

/-- A step that starts with a character of its own. -/
theorem Follows.behind {c : Char} (hc : c ≠ '\\') {x x' : Read (α × List Char)}
    (h : Follows sp s x x') (k : α → β) :
    StepFollows sp (c :: s) (x >>= fun p => .ok (some (k p.1, p.2)))
      (x' >>= fun p => .ok (some (k p.1, p.2))) := by
  constructor
  · intro hx
    obtain ⟨p, -, hp⟩ := bind_eq_ok.1 hx
    cases hp
  · intro b r hx
    obtain ⟨⟨a, r⟩, ha, hp⟩ := bind_eq_ok.1 hx
    cases hp
    obtain ⟨hleaves, hw⟩ := h a r ha
    refine ⟨Nat.lt_succ_of_le hleaves.length_le, .plain hc hleaves, fun hs => ?_⟩
    obtain ⟨t, ht, hx'⟩ := hw (hs.tail hc)
    exact ⟨t, ht, bind_eq_ok.2 ⟨_, hx', rfl⟩⟩

variable {step step' : List Char → Read (Option (α × List Char))}

theorem readMany_of_none (h : step s = .ok none) : readMany step s = .ok ([], s) := by
  rw [readMany, h]

theorem readMany_of_some {a : α} {r : List Char} (h : step s = .ok (some (a, r)))
    (hlt : r.length < s.length) {as : List α} {t : List Char} (hr : readMany step r = .ok (as, t)) :
    readMany step s = .ok (a :: as, t) := by
  rw [readMany, h]
  simp only [if_pos hlt, hr]

theorem readMany_follows (hsp : Spaces sp)
    (h : ∀ s t, Spaces t → StepFollows t s (step s) (step' (s ++ t))) (s : List Char) :
    Follows sp s (readMany step s) (readMany step' (s ++ sp)) := by
  fun_induction readMany step s generalizing sp with
  | case1 => exact .error
  | case2 s hstep =>
    intro as r hr
    cases hr
    refine ⟨.refl s, fun hs => ⟨sp, List.suffix_rfl, ?_⟩⟩
    exact readMany_of_none ((h s sp hsp).stop hstep hs)
  | case3 => exact .error
  | case4 s a r hstep hlt as t hr ih =>
    intro _ _ heq
    cases heq
    obtain ⟨-, hleaves, hw⟩ := (h s sp hsp).step a r hstep
    refine ⟨hleaves.trans (ih hsp as t hr).1, fun hs => ?_⟩
    obtain ⟨u, hu, hstep'⟩ := hw hs
    obtain ⟨v, hv, hr'⟩ := (ih (hsp.of_suffix hu) as t hr).2 (hleaves.whole_rest hs)
    have hlt' : (r ++ u).length < (s ++ sp).length := by
      have hle := hu.length_le
      rw [List.length_append, List.length_append]
      omega
    exact ⟨v, hv.trans hu, readMany_of_some hstep' hlt' hr'⟩
  | case5 s a r hstep hlt => exact absurd ((h s sp hsp).step a r hstep).1 hlt

/-- Reading stops where there is no further step. -/
theorem step_eq_none_of_readMany (h : ∀ s a r, step s = .ok (some (a, r)) → r.length < s.length)
    {as : List α} {t : List Char} (ht : readMany step s = .ok (as, t)) : step t = .ok none := by
  fun_induction readMany step s generalizing as t with
  | case1 => cases ht
  | case2 s hstep =>
    cases ht
    exact hstep
  | case3 => cases ht
  | case4 s a r hstep hlt as' t' hr ih =>
    cases ht
    exact ih hr
  | case5 s a r hstep hlt => exact absurd (h s a r hstep) hlt

end Many

end Umbra.Selector
