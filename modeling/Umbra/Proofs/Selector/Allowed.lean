import Umbra.Proofs.Selector.Commas
import Umbra.Proofs.Selector.Shape
import Umbra.Options

/-!
# What options keep out

With some pseudo-classes left out of the options, a text is read as with all of them, or refused if one
of those stands anywhere in what is read. `Restricts` says so of one reader under two options, and
holds of a sequence of readers when it holds of each of them.
-/

namespace Umbra.Selector

open Text

/-! ## The pseudo-classes of a selector -/

mutual

/-- The pseudo-classes in a condition, at every depth. -/
def SimpleSelector.pseudoClasses : SimpleSelector → List PseudoClass
  | .pseudo pseudoClass => pseudoClass.pseudoClasses
  | _ => []

def PseudoClass.pseudoClasses : PseudoClass → List PseudoClass
  | .not alternatives => .not alternatives :: listPseudoClasses alternatives
  | p => [p]

def compoundPseudoClasses : List SimpleSelector → List PseudoClass
  | [] => []
  | s :: rest => s.pseudoClasses ++ compoundPseudoClasses rest

def ComplexSelector.pseudoClasses : ComplexSelector → List PseudoClass
  | .compound subject => compoundPseudoClasses subject
  | .link subject _ left => left.pseudoClasses ++ compoundPseudoClasses subject

def listPseudoClasses : List ComplexSelector → List PseudoClass
  | [] => []
  | c :: rest => c.pseudoClasses ++ listPseudoClasses rest

end

theorem PseudoClass.mem_pseudoClasses (p : PseudoClass) : p ∈ p.pseudoClasses := by
  cases p <;> exact List.mem_cons_self ..

theorem compoundPseudoClasses_eq (c : CompoundSelector) :
    compoundPseudoClasses c = c.flatMap SimpleSelector.pseudoClasses := by
  induction c with
  | nil => rfl
  | cons s rest ih => rw [compoundPseudoClasses, ih, List.flatMap_cons]

theorem listPseudoClasses_eq (alternatives : SelectorList) :
    listPseudoClasses alternatives = alternatives.flatMap ComplexSelector.pseudoClasses := by
  induction alternatives with
  | nil => rfl
  | cons c rest ih => rw [listPseudoClasses, ih, List.flatMap_cons]

theorem pseudoClasses_foldl_extend (steps : List (Combinator × CompoundSelector))
    (c : ComplexSelector) : (steps.foldl .extend c).pseudoClasses =
      c.pseudoClasses ++ steps.flatMap fun step => compoundPseudoClasses step.2 := by
  induction steps generalizing c with
  | nil => simp
  | cons step steps ih =>
    rw [List.foldl_cons, ih, ComplexSelector.extend, ComplexSelector.pseudoClasses,
      List.append_assoc, List.flatMap_cons]

/-- What stands in the parentheses of a pseudo-class. -/
inductive Argument where
  | positions (positions : Nth)
  | alternatives (alternatives : SelectorList)

def PseudoClass.argument? : PseudoClass → Option Argument
  | .nth _ positions => some (.positions positions)
  | .nthLast _ positions => some (.positions positions)
  | .not alternatives => some (.alternatives alternatives)
  | _ => none

theorem PseudoClass.isFunctional_name (p : PseudoClass) :
    p.name.isFunctional = p.argument?.isSome := by cases p <;> rfl

/-- Whether all of the pseudo-classes may be used. -/
def AllAllowed (allows : PseudoClassName → Bool) (l : List PseudoClass) : Prop :=
  ∀ p ∈ l, allows p.name = true

variable {allows : PseudoClassName → Bool}

theorem allAllowed_nil : AllAllowed allows [] := nofun

theorem allAllowed_append {l l' : List PseudoClass} :
    AllAllowed allows (l ++ l') ↔ AllAllowed allows l ∧ AllAllowed allows l' :=
  List.forall_mem_append

theorem allAllowed_flatMap {α : Type} {l : List α} {f : α → List PseudoClass} :
    AllAllowed allows (l.flatMap f) ↔ ∀ a ∈ l, AllAllowed allows (f a) := by
  simp only [AllAllowed, List.mem_flatMap]
  exact ⟨fun h a ha p hp => h p ⟨a, ha, hp⟩, fun h p ⟨a, ha, hp⟩ => h a ha p hp⟩

/-! ## Restricted readers -/

theorem readMany_eq_bind {α : Type} (step : List Char → Read (Option (α × List Char)))
    (s : List Char) : readMany step s = step s >>= fun o => o.elim (.ok ([], s)) fun p =>
      if p.2.length < s.length then readMany step p.2 >>= fun q => .ok (p.1 :: q.1, q.2)
      else .ok ([p.1], p.2) := by
  rw [readMany]
  cases step s with
  | error => rfl
  | ok o =>
    cases o with
    | none => rfl
    | some p =>
      refine if_congr Iff.rfl ?_ rfl
      cases readMany step p.2 <;> rfl

/-- The first reader gives what the second one gives, but no result without `P`. -/
def Restricts {α : Type} (P : α → Prop) (x y : Read α) : Prop := ∀ a, x = .ok a ↔ y = .ok a ∧ P a

namespace Restricts

variable {α β : Type} {P : α → Prop} {Q : β → Prop}

theorem error {e e' : SyntaxError (List Char)} : Restricts P (.error e) (.error e') :=
  fun _ => ⟨nofun, fun h => nomatch h.1⟩

theorem refl {x : Read α} (h : ∀ a, x = .ok a → P a) : Restricts P x x :=
  fun a => ⟨fun ha => ⟨ha, h a ha⟩, And.left⟩

theorem ok {a : α} (h : P a) : Restricts P (.ok a) (.ok a) := by
  refine refl fun b hb => ?_
  cases hb
  exact h

theorem refused {e : SyntaxError (List Char)} {y : Read α} (h : ∀ a, y = .ok a → ¬ P a) :
    Restricts P (.error e) y :=
  fun a => ⟨nofun, fun ha => absurd ha.2 (h a ha.1)⟩

/-- Nothing is read on from a result that is refused to one that is not. -/
theorem bind {x y : Read α} {f g : α → Read β} (hx : Restricts P x y)
    (hf : ∀ a, P a → Restricts Q (f a) (g a))
    (hback : ∀ a b, y = .ok a → g a = .ok b → Q b → P a) : Restricts Q (x >>= f) (y >>= g) := by
  intro b
  rw [bind_eq_ok, bind_eq_ok]
  constructor
  · rintro ⟨a, ha, hb⟩
    obtain ⟨hy, hP⟩ := (hx a).1 ha
    obtain ⟨hg, hQ⟩ := (hf a hP b).1 hb
    exact ⟨⟨a, hy, hg⟩, hQ⟩
  · rintro ⟨⟨a, hy, hg⟩, hQ⟩
    have hP := hback a b hy hg hQ
    exact ⟨a, (hx a).2 ⟨hy, hP⟩, (hf a hP b).2 ⟨hg, hQ⟩⟩

/-- A first step that is the same under both options. -/
theorem bind_same {x : Read α} {f g : α → Read β} (hf : ∀ a, Restricts Q (f a) (g a)) :
    Restricts Q (x >>= f) (x >>= g) :=
  bind (P := fun _ => True) (refl fun _ _ => trivial) (fun a _ => hf a) fun _ _ _ _ _ => trivial

/-- A last step that cannot fail. -/
theorem map {x y : Read α} (hx : Restricts P x y) {k : α → β} (hk : ∀ a, Q (k a) ↔ P a) :
    Restricts Q (x >>= fun a => .ok (k a)) (y >>= fun a => .ok (k a)) := by
  refine hx.bind (fun a ha => ok ((hk a).2 ha)) fun a b _ hb hQ => ?_
  cases hb
  exact (hk a).1 hQ

theorem within {x y : Read α} (h : Restricts P x y) (after : List Char) :
    Restricts P (x.within after) (y.within after) := by
  intro a
  rw [Read.within_eq_ok, Read.within_eq_ok]
  exact h a

theorem mapM {f g : β → Read α} {l : List β} (h : ∀ b ∈ l, Restricts P (f b) (g b)) :
    Restricts (fun as => ∀ a ∈ as, P a) (l.mapM f) (l.mapM g) := by
  induction l with
  | nil => exact ok nofun
  | cons b l ih =>
    obtain ⟨hb, hl⟩ := List.forall_mem_cons.1 h
    rw [List.mapM_cons, List.mapM_cons]
    refine hb.bind (fun a ha => (ih hl).map fun as => ?_) fun a as _ has hall => ?_
    · rw [List.forall_mem_cons]
      exact and_iff_right ha
    · obtain ⟨rest, -, hrest⟩ := bind_eq_ok.1 has
      cases hrest
      exact (List.forall_mem_cons.1 hall).1

/-- A step that is refused is refused with everything that is read behind it. -/
theorem readMany {step step' : List Char → Read (Option (α × List Char))}
    (hstep : ∀ s, Restricts (fun o => ∀ p, o = some p → P p.1) (step s) (step' s))
    (s : List Char) : Restricts (fun p => ∀ a ∈ p.1, P a) (Umbra.readMany step s)
      (Umbra.readMany step' s) := by
  induction hn : s.length using Nat.strongRecOn generalizing s with
  | _ n ih =>
    rw [readMany_eq_bind, readMany_eq_bind]
    refine (hstep s).bind (fun o ho => ?_) fun o p _ hp hall => ?_
    · cases o with
      | none => exact ok nofun
      | some q =>
        have hq := ho q rfl
        dsimp only [Option.elim_some]
        by_cases hlt : q.2.length < s.length
        · rw [if_pos hlt, if_pos hlt]
          refine (ih _ (hn ▸ hlt) q.2 rfl).map fun p => ?_
          rw [List.forall_mem_cons]
          exact and_iff_right hq
        · rw [if_neg hlt, if_neg hlt]
          exact ok (List.forall_mem_singleton.2 hq)
    · rintro q rfl
      rw [Option.elim_some] at hp
      split at hp
      · obtain ⟨p', -, hp'⟩ := bind_eq_ok.1 hp
        cases hp'
        exact (List.forall_mem_cons.1 hall).1
      · cases hp
        exact List.forall_mem_singleton.1 hall

end Restricts

/-! ## Readers -/

/-- A reader of one thing, with the pseudo-classes that are in it. -/
abbrev RestrictsTo {α : Type} (allows : PseudoClassName → Bool) (pseudoClasses : α → List PseudoClass)
    (x y : Read (α × List Char)) : Prop :=
  Restricts (fun p => AllAllowed allows (pseudoClasses p.1)) x y

section Inner

variable {inner inner' : List Char → Read SelectorList}
  (hinner : ∀ argument, Restricts (fun l => AllAllowed allows (listPseudoClasses l)) (inner argument)
    (inner' argument))

theorem name_of_readFunctionalPseudo {name : PseudoClassName} {t : List Char}
    {p : PseudoClass × List Char} (h : readFunctionalPseudo inner name t = .ok p) :
    p.1.name = name ∧ name.isFunctional = true := by
  cases name with
  | nth | nthLast =>
    obtain ⟨_, -, h⟩ := bind_eq_ok.1 h
    cases h
    exact ⟨rfl, rfl⟩
  | not =>
    obtain ⟨_, -, h⟩ := bind_eq_ok.1 h
    obtain ⟨_, -, h⟩ := bind_eq_ok.1 h
    cases h
    exact ⟨rfl, rfl⟩
  | _ => cases h

theorem name_of_readBarePseudo {name : PseudoClassName} {t : List Char}
    {p : PseudoClass × List Char} (h : readBarePseudo name t = .ok p) :
    p.1.name = name ∧ name.isFunctional = false := by
  cases name with
  | nth | nthLast | not => cases h
  | _ =>
    cases h
    exact ⟨rfl, rfl⟩

/-- A pseudo-class has an argument just when it is a functional one. -/
theorem name_of_behindPseudo {name : PseudoClassName} {t : List Char}
    {p : PseudoClass × List Char} (h : behindPseudo inner name t = .ok p) :
    p.1.name = name ∧ (name.isFunctional = true ↔ ∃ u, t = '(' :: u) := by
  fun_cases behindPseudo inner name t with
  | case1 u =>
    obtain ⟨hname, hfunctional⟩ := name_of_readFunctionalPseudo h
    exact ⟨hname, iff_of_true hfunctional ⟨u, rfl⟩⟩
  | case2 t hbare =>
    have hbehind : behindPseudo inner name t = readBarePseudo name t := by
      rw [behindPseudo]
      exact hbare
    obtain ⟨hname, hfunctional⟩ := name_of_readBarePseudo (hbehind ▸ h)
    refine ⟨hname, iff_of_false (by simp [hfunctional]) ?_⟩
    rintro ⟨u, rfl⟩
    exact hbare u rfl

theorem readBarePseudo_restricts {name : PseudoClassName} (hname : allows name = true)
    (t : List Char) : RestrictsTo allows PseudoClass.pseudoClasses (readBarePseudo name t)
      (readBarePseudo name t) := by
  cases name with
  | nth | nthLast | not => exact .error
  | _ => exact .ok (List.forall_mem_singleton.2 hname)

include hinner

theorem readFunctionalPseudo_restricts {name : PseudoClassName} (hname : allows name = true)
    (t : List Char) : RestrictsTo allows PseudoClass.pseudoClasses
      (readFunctionalPseudo inner name t) (readFunctionalPseudo inner' name t) := by
  cases name with
  | nth among => exact .bind_same fun _ => .ok (List.forall_mem_singleton.2 hname)
  | nthLast among => exact .bind_same fun _ => .ok (List.forall_mem_singleton.2 hname)
  | not =>
    refine .bind_same fun p => ((hinner p.1).within _).map fun alternatives => ?_
    exact List.forall_mem_cons.trans (and_iff_right hname)
  | _ => exact .error

theorem behindPseudo_restricts {name : PseudoClassName} (hname : allows name = true)
    (t : List Char) : RestrictsTo allows PseudoClass.pseudoClasses
      (behindPseudo inner name t) (behindPseudo inner' name t) := by
  fun_cases behindPseudo inner name t with
  | case1 t => exact readFunctionalPseudo_restricts hinner hname _
  | case2 t hbare =>
    rw [behindPseudo]
    · exact readBarePseudo_restricts hname t
    · exact hbare

/-- Only here the options are asked. -/
theorem readPseudoClass_restricts (s : List Char) : RestrictsTo allows PseudoClass.pseudoClasses
    (readPseudoClass inner allows s) (readPseudoClass inner' (fun _ => true) s) := by
  by_cases h : ∃ t, s = ':' :: t
  · obtain ⟨t, rfl⟩ := h
    exact .error
  · rw [not_exists] at h
    rw [readPseudoClass_eq h, readPseudoClass_eq h]
    refine .bind_same fun (written, t) => ?_
    dsimp only
    cases hname : PseudoClassName.ofWritten? written with
    | none => exact .error
    | some name =>
      by_cases hallowed : allows name = true
      · simp only [Option.filter_some, hallowed, if_true]
        exact behindPseudo_restricts hinner hallowed t
      · simp only [Option.filter_some, hallowed, if_true]
        refine .refused fun p hp hall => hallowed ?_
        rw [← (name_of_behindPseudo hp).1]
        exact hall _ (PseudoClass.mem_pseudoClasses _)

theorem readCondition_restricts (s : List Char) :
    Restricts (fun o => ∀ p, o = some p → AllAllowed allows p.1.pseudoClasses)
      (readCondition inner allows s) (readCondition inner' (fun _ => true) s) := by
  -- only a pseudo-class has pseudo-classes in it
  have plain {c : SimpleSelector} {r : List Char} (hc : c.pseudoClasses = []) :
      Restricts (fun o => ∀ p, o = some p → AllAllowed allows p.1.pseudoClasses)
        (.ok (some (c, r))) (.ok (some (c, r))) := by
    refine .ok fun p hp => ?_
    cases hp
    rw [hc]
    exact allAllowed_nil
  fun_cases readCondition inner allows s with
  | case1 s => exact .bind_same fun _ => plain rfl
  | case2 s => exact .bind_same fun _ => plain rfl
  | case3 s => exact .bind_same fun _ => plain rfl
  | case4 s =>
    refine (readPseudoClass_restricts hinner s).map fun p => ?_
    simp [SimpleSelector.pseudoClasses]
  | case5 s => exact .error
  | case6 s hid hclass hattribute hpseudo hstar =>
    rw [readCondition]
    · exact .ok fun p hp => by cases hp
    all_goals assumption

omit hinner in
theorem pseudoClasses_readHead_append (s : List Char) (c : CompoundSelector) :
    compoundPseudoClasses ((readHead s).1 ++ c) = c.flatMap SimpleSelector.pseudoClasses := by
  have hhead : compoundPseudoClasses (readHead s).1 = [] := by
    rw [readHead.eq_def]
    split
    · rfl
    · split <;> rfl
  rw [compoundPseudoClasses_eq] at hhead
  rw [compoundPseudoClasses_eq, List.flatMap_append, hhead, List.nil_append]

theorem readCompound_restricts (s : List Char) : RestrictsTo allows compoundPseudoClasses
    (readCompound inner allows s) (readCompound inner' (fun _ => true) s) := by
  refine (Restricts.readMany (P := fun c => AllAllowed allows c.pseudoClasses)
    (readCondition_restricts hinner) (readHead s).2).map fun p => ?_
  have hall := congrArg (AllAllowed allows) (pseudoClasses_readHead_append s p.1)
  exact (iff_of_eq hall).trans allAllowed_flatMap

theorem readStep_restricts (s : List Char) :
    Restricts (fun o => ∀ p, o = some p → AllAllowed allows (compoundPseudoClasses p.1.2))
      (readStep inner allows s) (readStep inner' (fun _ => true) s) := by
  refine .bind_same fun found => ?_
  cases found with
  | none => exact .ok nofun
  | some p =>
    refine (readCompound_restricts hinner p.2).bind (fun q hq => ?_) fun q o _ ho hall => ?_
    · dsimp only
      split
      · exact .error
      · refine .ok fun r hr => ?_
        cases hr
        exact hq
    · dsimp only at ho
      split at ho
      · cases ho
      · cases ho
        exact hall _ rfl

theorem readComplex_restricts (s : List Char) :
    Restricts (fun c => AllAllowed allows c.pseudoClasses) (readComplex inner allows s)
      (readComplex inner' (fun _ => true) s) := by
  refine (readCompound_restricts hinner (skipSpace s)).bind (fun p hp => ?_) fun p c _ hc hall => ?_
  · dsimp only
    split
    · exact .error
    · refine (Restricts.readMany (P := fun step => AllAllowed allows (compoundPseudoClasses step.2))
        (readStep_restricts hinner) p.2).map fun q => ?_
      rw [pseudoClasses_foldl_extend, allAllowed_append, allAllowed_flatMap]
      exact and_iff_right hp
  · dsimp only at hc
    split at hc
    · cases hc
    · obtain ⟨q, -, hq⟩ := bind_eq_ok.1 hc
      cases hq
      rw [pseudoClasses_foldl_extend, allAllowed_append] at hall
      exact hall.1

theorem readAlternatives_restricts (s : List Char) :
    Restricts (fun l => AllAllowed allows (listPseudoClasses l)) (readAlternatives inner allows s)
      (readAlternatives inner' (fun _ => true) s) := by
  simp only [listPseudoClasses_eq, allAllowed_flatMap]
  exact .bind_same fun segments => .mapM fun segment _ =>
    (readComplex_restricts hinner segment.text).within segment.after

end Inner

theorem readSelectorList_restricts (s : List Char) :
    Restricts (fun l => AllAllowed allows (listPseudoClasses l)) (readSelectorList allows s)
      (readSelectorList (fun _ => true) s) := by
  induction hn : s.length using Nat.strongRecOn generalizing s with
  | _ n ih =>
    rw [readSelectorList, readSelectorList]
    refine readAlternatives_restricts (fun argument => ?_) s
    split
    · rename_i hlt
      exact ih _ (hn ▸ hlt) argument rfl
    · exact .error

/-- A pseudo-class is read just when its name is known and allowed, with an argument just when it is a
functional one. -/
theorem name_of_readPseudoClass {inner : List Char → Read SelectorList} {s rest : List Char}
    {p : PseudoClass} (h : readPseudoClass inner allows s = .ok (p, rest)) :
    ∃ written t, expectName .pseudoClassName s = .ok (written, t) ∧
      PseudoClassName.ofWritten? written = some p.name ∧
      (p.name.isFunctional = true ↔ ∃ u, t = '(' :: u) := by
  by_cases hcolon : ∃ t, s = ':' :: t
  · obtain ⟨t, rfl⟩ := hcolon
    cases h
  · rw [readPseudoClass_eq fun t ht => hcolon ⟨t, ht⟩, bind_eq_ok] at h
    obtain ⟨⟨written, t⟩, hwritten, h⟩ := h
    dsimp only at h
    split at h
    · cases h
    · rename_i name hname
      obtain ⟨rfl, hargument⟩ := name_of_behindPseudo h
      exact ⟨written, t, hwritten, (Option.filter_eq_some_iff.1 hname).1, hargument⟩

/-- Under any options a text is read as with all pseudo-classes, if the options allow each one in what is
read, and else it is refused. What is read has the shape of a selector, and of the pseudo-classes in
it the functional ones have arguments, for which a parenthesis stands behind the name. -/
theorem readSelectorList_allowed (o : Options) (offset : Nat) (s : List Char) :
    (∀ alternatives, (readSelectorList o.allows s).at offset s = .ok alternatives ↔
      (readSelectorList Options.default.allows s).at offset s = .ok alternatives ∧
        ∀ p ∈ listPseudoClasses alternatives, o.allows p.name = true) ∧
    (∀ alternatives, (readSelectorList o.allows s).at offset s = .ok alternatives →
      alternatives ≠ [] ∧ shapedList Options.default.allows alternatives ∧
        ∀ p ∈ listPseudoClasses alternatives, p.name.isFunctional = p.argument?.isSome) ∧
    ∀ inner t p rest, readPseudoClass inner o.allows t = .ok (p, rest) →
      ∃ written u, expectName .pseudoClassName t = .ok (written, u) ∧
        PseudoClassName.ofWritten? written = some p.name ∧
        (p.name.isFunctional = true ↔ ∃ v, u = '(' :: v) := by
  have hrestricts := @readSelectorList_restricts o.allows s
  refine ⟨fun alternatives => ?_, fun alternatives h => ?_, fun _ _ _ _ => name_of_readPseudoClass⟩
  · rw [Read.at_eq_ok, Read.at_eq_ok]
    exact hrestricts alternatives
  · have hall := ((hrestricts alternatives).1 (Read.at_eq_ok.1 h)).1
    obtain ⟨hne, hshaped⟩ := shaped_readSelectorList hall
    exact ⟨hne, hshaped, fun p _ => p.isFunctional_name⟩

theorem readSelectorList_allowed_nested :
    ∃ alternatives : SelectorList,
      (readSelectorList (Options.default.withoutPseudoClass .scope).allows ":NOT(b:root)".toList).at 4
        ":NOT(b:root)".toList = .ok alternatives ∧
      alternatives ≠ [] ∧ shapedList Options.default.allows alternatives ∧
      (∀ p ∈ listPseudoClasses alternatives, p.name.isFunctional = p.argument?.isSome) ∧
      (readSelectorList (Options.default.withoutPseudoClass .root).allows ":NOT(b:root)".toList).at 4
        ":NOT(b:root)".toList ≠ .ok alternatives := by
  let alternatives : SelectorList :=
    [.compound [.pseudo (.not [.compound [.type "b", .pseudo .root]])]]
  have hread : readSelectorList (fun _ => true) ":NOT(b:root)".toList = .ok alternatives := by
    with_unfolding_all rfl
  have hall : (readSelectorList (fun _ => true) ":NOT(b:root)".toList).at 4
      ":NOT(b:root)".toList = .ok alternatives := Read.at_eq_ok.2 hread
  have hscope := readSelectorList_allowed (Options.default.withoutPseudoClass .scope) 4
    ":NOT(b:root)".toList
  have hroot := readSelectorList_allowed (Options.default.withoutPseudoClass .root) 4
    ":NOT(b:root)".toList
  have hread := (hscope.1 alternatives).2
    ⟨hall, List.forall_mem_cons.2 ⟨rfl, List.forall_mem_singleton.2 rfl⟩⟩
  obtain ⟨hne, hshaped, harguments⟩ := hscope.2.1 alternatives hread
  refine ⟨alternatives, hread, hne, hshaped, harguments, fun h => ?_⟩
  have hallowed := ((hroot.1 alternatives).1 h).2 .root
    (List.mem_cons_of_mem _ (List.mem_singleton_self _))
  cases hallowed

end Umbra.Selector
