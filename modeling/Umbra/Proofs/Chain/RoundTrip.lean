import Umbra.Proofs.Selector.ReadBack
import Umbra.Proofs.Text.Trim
import Umbra.Chain.Basic
import Umbra.Regex.Library
import Mathlib.Data.List.Forall2

/-!
# Chains read back

A chain of selectors is read back from its written form, with its null characters scrubbed. The
reader cuts white space off the ends of every clause. A clause must not lose more by that than the
space that ends an escape by code point.
-/

namespace Umbra

open Selector Text

/-- Whether a clause keeps its ends: it does not start with white space, and does not end with any but
the space of an escape by code point. -/
def Sealed (w : List Char) : Prop :=
  w.head?.any isBlank = false ∧
    (w.getLast?.any isBlank = true → ∃ t, w = t ++ [' '] ∧ t.getLast?.any isHexDigit = true)

/-! ## White space around a clause -/

theorem not_isBlank_of_toNat {c : Char} (hlo : 33 ≤ c.toNat) (hhi : c.toNat ≤ 126) :
    isBlank c = false := by
  simp only [isBlank, Bool.or_eq_false_iff, Bool.and_eq_false_imp, decide_eq_true_eq,
    decide_eq_false_iff_not, beq_eq_false_iff_ne]
  omega

theorem not_isBlank_of_isHexDigit {c : Char} (h : isHexDigit c = true) : isBlank c = false := by
  have hrange : 48 ≤ c.toNat ∧ c.toNat ≤ 102 := by
    rcases isHexDigit_cases h with ⟨hlo, hhi⟩ | ⟨hlo, hhi⟩ | ⟨hlo, hhi⟩
    · have hlo : 48 ≤ c.toNat := hlo
      have hhi : c.toNat ≤ 57 := hhi
      omega
    · have hlo : 97 ≤ c.toNat := hlo
      have hhi : c.toNat ≤ 102 := hhi
      omega
    · have hlo : 65 ≤ c.toNat := hlo
      have hhi : c.toNat ≤ 70 := hhi
      omega
  exact not_isBlank_of_toNat (by omega) (by omega)

/-- What the reader keeps of a clause with white space behind it. -/
theorem Sealed.written {w space : List Char} (h : Sealed w) (hspace : space.all isBlank = true) :
    Written w [] (trimEnd (w ++ space)) := by
  by_cases hlast : w.getLast?.any isBlank = true
  · obtain ⟨t, rfl, hex⟩ := h.2 hlast
    have ht : t.getLast?.any isBlank = false := by
      rw [Option.any_eq_true] at hex
      obtain ⟨c, hc, hhex⟩ := hex
      rw [hc]
      exact not_isBlank_of_isHexDigit hhex
    rw [List.append_assoc, trimEnd_append (by simpa [isBlank_space] using hspace) ht]
    exact .bare rfl hex
  · rw [trimEnd_append hspace (by simpa using hlast)]
    exact .self w

/-! ## Names of engines, and parts -/

theorem readEngineName?_name (engine : Engine) (rest : List Char) :
    Part.readEngineName? (engine.name.toList ++ '=' :: rest) = some (engine.name.toList, rest) := by
  cases engine <;> rfl

theorem all_isBlank_of_spacing {space : List Char} (h : Spacing space) : space.all isBlank = true := by
  rcases h with rfl | rfl <;> rfl

theorem trimStart_spacing {space s : List Char} (h : Spacing space)
    (hs : s.head?.any isBlank = false) : trimStart (space ++ s) = s := by
  rcases h with rfl | rfl
  · exact trimStart_of_head hs
  · exact trimStart_of_head hs

theorem exists_name (engine : Engine) :
    ∃ c s, engine.name.toList = c :: s ∧ isBlank c = false ∧ c ≠ '*' := by
  cases engine <;> exact ⟨_, _, rfl, by decide, by decide⟩

theorem readAll_ne_nil {defaultEngine : Engine} {whole s : List Char} {parts : List Part}
    (h : Part.readAll defaultEngine whole s = .ok parts) : parts ≠ [] := by
  rw [Part.readAll] at h
  split at h
  · cases h
  · simp only [bind_eq_ok, pure_eq_ok] at h
    obtain ⟨part, -, rfl⟩ := h
    exact List.cons_ne_nil _ _
  · simp only [bind_eq_ok] at h
    obtain ⟨part, -, h⟩ := h
    split at h
    · simp only [bind_eq_ok, pure_eq_ok] at h
      obtain ⟨rest, -, rfl⟩ := h
      exact List.cons_ne_nil _ _
    · cases h
      exact List.cons_ne_nil _ _

theorem Part.split_eq_ok {defaultEngine : Engine} {chain : List Char} {parts : List Part} :
    Part.split defaultEngine chain = .ok parts ↔ (trim chain).isEmpty = false ∧
      readAll defaultEngine chain chain = .ok parts ∧ parts.countP Part.captured ≤ 1 := by
  rw [split, Read.at_eq_ok]
  split
  · simp_all
  · rename_i hblank
    rw [bind_eq_ok]
    constructor
    · rintro ⟨parts', hparts, h⟩
      split at h
      · cases h
      · rename_i hcount
        cases h
        exact ⟨by simpa using hblank, hparts, Nat.not_lt.1 hcount⟩
    · rintro ⟨-, hparts, hcount⟩
      refine ⟨parts, hparts, ?_⟩
      rw [if_neg (Nat.not_lt.2 hcount)]
      rfl

section Library

variable [RegexLibrary]

/-! ## Stages -/

def Clause.scrubbed : Clause → Clause
  | css alternatives => css (scrubbedList alternatives)
  | text pattern => text pattern

/-- The names of types and of attributes in a clause. -/
def Clause.names : Clause → List String
  | css alternatives => listNames alternatives
  | text _ => []

def Stage.scrubbed (s : Stage) : Stage := { s with clause := s.clause.scrubbed }

def Chain.scrubbed (c : Chain) : Chain := ⟨c.stages.map Stage.scrubbed⟩

/-- A part of selectors that can be read back. -/
structure Stage.Recoverable (o : Options) (s : Stage) : Prop where
  isText : s.engine.isText = false
  shaped : ∃ alternatives, s.clause = .css alternatives ∧ alternatives ≠ [] ∧
    shapedList o.allows alternatives
  names : "-" ∉ s.clause.names
  ends : Sealed s.clause.write

/-- A part that was cut off says what a stage says, but for the ends of its clause. -/
structure Stage.Quotes (s : Stage) (p : Part) : Prop where
  engine : p.engine = s.engine
  captured : p.captured = s.captured
  clause : Written s.clause.write [] p.clause.toList

theorem readHead_write {stage : Stage} (hne : stage.clause.write ≠ [])
    (hsealed : Sealed stage.clause.write) {space : List Char} (hspace : Spacing space)
    (rest : List Char) : Part.readHead (space ++ (stage.write ++ rest)) =
      ⟨stage.captured, some stage.engine.name.toList, stage.clause.write ++ rest⟩ := by
  obtain ⟨engine, clause, captured⟩ := stage
  have hclause : trimStart (clause.write ++ rest) = clause.write ++ rest := by
    refine trimStart_of_head ?_
    rw [List.head?_append_of_ne_nil _ hne]
    exact hsealed.1
  have hread := readEngineName?_name engine (clause.write ++ rest)
  obtain ⟨c, s, hname, hblank, hstar⟩ := exists_name engine
  cases captured with
  | true =>
    have htext : (Stage.mk engine clause true).write ++ rest =
        '*' :: (engine.name.toList ++ '=' :: (clause.write ++ rest)) := by simp [Stage.write]
    rw [htext, Part.readHead, trimStart_spacing hspace rfl]
    simp only [hread, Option.isSome_some, if_true, hclause]
  | false =>
    have htext : (Stage.mk engine clause false).write ++ rest =
        engine.name.toList ++ '=' :: (clause.write ++ rest) := by simp [Stage.write]
    rw [hname] at hread
    rw [htext, hname, Part.readHead, trimStart_spacing hspace (by simpa using hblank)]
    rw [List.cons_append] at hread ⊢
    have hmark : ∀ t, c :: (s ++ '=' :: (clause.write ++ rest)) = '*' :: t → False :=
      fun t h => hstar (List.cons.inj h).1
    simp only [hread, hclause]

section Recoverable

variable {o : Options} {stage : Stage} (h : stage.Recoverable o)

include h

theorem Stage.Recoverable.starts : Starts stage.clause.write := by
  obtain ⟨alternatives, hclause, hne, hshaped⟩ := h.shaped
  rw [hclause]
  exact starts_writeList hne hshaped

theorem Stage.Recoverable.balanced : Balanced true stage.write := by
  obtain ⟨alternatives, hclause, -, -⟩ := h.shaped
  have hlist := balanced_writeList alternatives
  rw [Stage.write, hclause]
  refine .append (.append ?_ ?_) (.plain rfl (fun h => absurd h (by decide)) hlist)
  · split
    · exact .of_all rfl
    · exact .nil
  · cases stage.engine <;> exact .of_all rfl

theorem Stage.Recoverable.engine?_readHead {before : List Char} (hbefore : Spacing before)
    (rest : List Char) (defaultEngine : Engine) :
    (Part.readHead (before ++ (stage.write ++ rest))).engine? defaultEngine = some stage.engine := by
  rw [readHead_write h.starts.ne.1 h.ends hbefore]
  simp only [Part.Head.engine?, String.ofList_toList, Engine.ofName?_name]

theorem Stage.Recoverable.cutFirst {before : List Char} (hbefore : Spacing before)
    (rest : List Char) (defaultEngine : Engine) :
    Part.cutFirst defaultEngine (before ++ (stage.write ++ rest)) =
      findTopLevel Part.separator (before ++ (stage.write ++ rest)) := by
  rw [Part.cutFirst, h.engine?_readHead hbefore]
  simp only [Option.any_some, h.isText]
  rfl

theorem Stage.Recoverable.ofSegment {before behind : List Char} (hbefore : Spacing before)
    (hbehind : Spacing behind) (defaultEngine : Engine) (whole after : List Char) :
    ∃ part, Part.ofSegment defaultEngine whole ⟨before ++ (stage.write ++ behind), after⟩ = .ok part ∧
      stage.Quotes part := by
  have hengine := h.engine?_readHead hbefore behind defaultEngine
  have hhead := readHead_write h.starts.ne.1 h.ends hbefore behind
  have hwritten := h.ends.written (all_isBlank_of_spacing hbehind)
  have hne : (trimEnd (stage.clause.write ++ behind)).isEmpty = false := by
    have hne := hwritten.ne_nil h.starts.ne.1
    cases ht : trimEnd (stage.clause.write ++ behind) with
    | nil => exact absurd ht hne
    | cons => rfl
  rw [Part.ofSegment, hengine, hhead]
  simp only [hne]
  refine ⟨_, rfl, rfl, rfl, ?_⟩
  rw [String.toList_ofList]
  exact hwritten

end Recoverable

/-- The stages of a chain as they are written. -/
def writeStages (stages : List Stage) : List Char :=
  [' ', '>', '>', ' '].intercalate (stages.map Stage.write)

theorem writeStages_cons_cons (s t : Stage) (rest : List Stage) :
    writeStages (s :: t :: rest) =
      s.write ++ ([' '] ++ (Part.separator ++ ([' '] ++ writeStages (t :: rest)))) := by
  simp [writeStages, Part.separator]

theorem readAll_writeStages {o : Options} {stages : List Stage} (hne : stages ≠ [])
    (h : ∀ stage ∈ stages, stage.Recoverable o) {before : List Char} (hbefore : Spacing before)
    (defaultEngine : Engine) (whole : List Char) :
    ∃ parts, Part.readAll defaultEngine whole (before ++ writeStages stages) = .ok parts ∧
      List.Forall₂ Stage.Quotes stages parts := by
  induction stages generalizing before with
  | nil => exact absurd rfl hne
  | cons s rest ih =>
    obtain ⟨hs, hrest⟩ := List.forall_mem_cons.1 h
    have hbalanced {behind : List Char} (hbehind : Spacing behind) :
        Balanced true (before ++ (s.write ++ behind)) :=
      hbefore.balanced.append (hs.balanced.append hbehind.balanced)
    have hpasses : Passes Part.separator [] true := Or.inr (Or.inr rfl)
    cases rest with
    | nil =>
      obtain ⟨part, hpart, hquotes⟩ := hs.ofSegment hbefore (Or.inl rfl) defaultEngine whole []
      have hwrite : writeStages [s] = s.write ++ [] := by simp [writeStages]
      rw [hwrite, Part.readAll, hs.cutFirst hbefore,
        findTopLevel_balanced (hbalanced (Or.inl rfl)) hpasses]
      simp only [hpart, bind, Except.bind]
      exact ⟨[part], rfl, .cons hquotes .nil⟩
    | cons t rest =>
      obtain ⟨parts, hparts, hall⟩ := ih (List.cons_ne_nil t rest) hrest (Or.inr rfl)
      generalize hafter : [' '] ++ writeStages (t :: rest) = after at hparts
      obtain ⟨part, hpart, hquotes⟩ :=
        hs.ofSegment hbefore (Or.inr rfl) defaultEngine whole (Part.separator ++ after)
      have hcut := findTopLevel_append (hbalanced (Or.inr rfl)) hpasses after
      have htext : before ++ (s.write ++ [' ']) ++ Part.separator ++ after =
          before ++ writeStages (s :: t :: rest) := by
        simp only [writeStages_cons_cons, hafter, List.append_assoc]
      have hlt : after.length < (before ++ writeStages (s :: t :: rest)).length := by
        rw [← htext]
        simp only [List.length_append, List.length_singleton]
        omega
      rw [htext] at hcut
      refine ⟨part :: parts, ?_, .cons hquotes hall⟩
      rw [Part.readAll, writeStages_cons_cons, hs.cutFirst hbefore, ← writeStages_cons_cons, hcut]
      simp only [hpart, bind, Except.bind, List.drop_left, dif_pos hlt, hparts]
      rfl

/-! ## Chains -/

theorem Stage.of_ofPart {o : Options} {p : Part} {s : Stage} (h : Stage.ofPart o p = .ok s) :
    p.engine = s.engine ∧ p.captured = s.captured ∧ (s.engine.isText = false →
      ∃ alternatives, s.clause = .css alternatives ∧ alternatives ≠ [] ∧
        shapedList o.allows alternatives) := by
  rw [Stage.ofPart, bind_eq_ok] at h
  obtain ⟨clause, hclause, h⟩ := h
  cases h
  refine ⟨rfl, rfl, fun htext => ?_⟩
  rw [Clause.parse, if_neg (by simpa using htext)] at hclause
  cases hread : (readSelectorList o.allows p.clause.toList).at p.offset p.clause.toList with
  | error e =>
    rw [hread] at hclause
    cases hclause
  | ok alternatives =>
    rw [hread] at hclause
    cases hclause
    obtain ⟨hne, hshaped⟩ := shaped_readSelectorList (Read.at_eq_ok.1 hread)
    exact ⟨alternatives, rfl, hne, hshaped⟩

theorem Stage.Recoverable.ofPart {o : Options} {s : Stage} (h : s.Recoverable o) {p : Part}
    (hp : s.Quotes p) : Stage.ofPart o p = .ok s.scrubbed := by
  obtain ⟨alternatives, hclause, hne, hshaped⟩ := h.shaped
  have hnames := h.names
  have hwritten := hp.clause
  rw [hclause] at hnames hwritten
  have hread := readSelectorList_written hne hshaped hnames hwritten
  rw [Stage.ofPart, Clause.parse, hp.engine, if_neg (by simp [h.isText]), Read.at_eq_ok.2 hread,
    hp.captured, Stage.scrubbed, hclause]
  rfl

theorem exists_writeStages {stages : List Stage} (hne : stages ≠ []) :
    ∃ c t, writeStages stages = c :: t ∧ isBlank c = false := by
  have hwrite (s : Stage) : ∃ c t, s.write = c :: t ∧ isBlank c = false := by
    obtain ⟨c, t, hname, hblank, -⟩ := exists_name s.engine
    rw [Stage.write, hname]
    cases s.captured with
    | true => exact ⟨'*', _, rfl, by decide⟩
    | false => exact ⟨c, _, rfl, hblank⟩
  match stages, hne with
  | [s], _ =>
    obtain ⟨c, t, hs, hblank⟩ := hwrite s
    exact ⟨c, t, by simp [writeStages, hs], hblank⟩
  | s :: u :: rest, _ =>
    obtain ⟨c, t, hs, hblank⟩ := hwrite s
    rw [writeStages_cons_cons, hs]
    exact ⟨c, _, rfl, hblank⟩

namespace Chain

/-- What was read as a chain has stages, at most one of them captured, and the selectors in it have the
shape of selectors. -/
theorem of_parse {o : Options} {s : List Char} {c : Chain} (h : Chain.parse o s = .ok c) :
    c.stages ≠ [] ∧ c.stages.countP Stage.captured ≤ 1 ∧
      ∀ stage ∈ c.stages, stage.engine.isText = false → ∃ alternatives,
        stage.clause = .css alternatives ∧ alternatives ≠ [] ∧ shapedList o.allows alternatives := by
  simp only [Chain.parse, bind_eq_ok, pure_eq_ok] at h
  obtain ⟨parts, hparts, stages, hstages, rfl⟩ := h
  rw [mapM_eq_ok] at hstages
  obtain ⟨-, hread, hcount⟩ := Part.split_eq_ok.1 hparts
  refine ⟨?_, ?_, fun stage hstage => ?_⟩
  · rintro rfl
    exact readAll_ne_nil hread (List.forall₂_nil_right_iff.1 hstages)
  · rwa [← countP_eq_of_forall₂ hstages fun p s hs => (Stage.of_ofPart hs).2.1]
  · obtain ⟨p, -, hp⟩ := exists_of_forall₂ hstages hstage
    exact (Stage.of_ofPart hp).2.2

/-- A chain of selectors is read back from its written form with the same parts, in which replacement
characters stand for the null characters. No type and no attribute may have a hyphen for its name, and
every clause has to keep its ends. -/
theorem parse_write {o : Options} {s : List Char} {c : Chain} (h : Chain.parse o s = .ok c)
    (hselectors : ∀ stage ∈ c.stages, stage.engine.isText = false)
    (hnames : ∀ stage ∈ c.stages, "-" ∉ stage.clause.names)
    (hends : ∀ stage ∈ c.stages, Sealed stage.clause.write) :
    Chain.parse o c.write = .ok c.scrubbed := by
  obtain ⟨hne, hcount, hshaped⟩ := of_parse h
  have hrecoverable : ∀ stage ∈ c.stages, stage.Recoverable o := fun stage hstage =>
    ⟨hselectors stage hstage, hshaped stage hstage (hselectors stage hstage), hnames stage hstage,
      hends stage hstage⟩
  obtain ⟨parts, hparts, hquotes⟩ :=
    readAll_writeStages hne hrecoverable (Or.inl rfl) o.defaultEngine c.write
  have hcaptured : parts.countP Part.captured ≤ 1 := by
    rwa [← countP_eq_of_forall₂ hquotes fun s p hp => hp.captured.symm]
  have hblank : (trim c.write).isEmpty = false := by
    obtain ⟨d, t, hd, hblank⟩ := exists_writeStages hne
    exact (congrArg (fun s => (trim s).isEmpty) hd).trans (trim_ne_nil hblank)
  have hstages : List.Forall₂ (fun p s => Stage.ofPart o p = .ok s) parts
      (c.stages.map Stage.scrubbed) := by
    have hboth := (List.forall₂_and_left c.stages parts).2 ⟨hrecoverable, hquotes⟩
    rw [List.forall₂_map_right_iff]
    exact (hboth.imp fun _ _ hs => hs.1.ofPart hs.2).flip
  rw [Chain.parse, Part.split_eq_ok.2 ⟨hblank, hparts, hcaptured⟩]
  simp only [bind, Except.bind, mapM_eq_ok.2 hstages]
  rfl

end Chain

end Library

namespace Chain

/-- The second part is captured, and its clause loses the space of the escape at its end. -/
theorem parse_write_captured :
    Chain.parse .default "css=[a=\"\uFFFD\"] >> *css:light=b > .\\7f ".toList =
      .ok ⟨[⟨.css, .css [.compound [.attribute ⟨"a", .compare .equals "\uFFFD" .plain⟩]], false⟩,
        ⟨.cssLight, .css [.link [.className "\x7f"] .child (.compound [.type "b"])], true⟩]⟩ := by
  refine parse_write (s := "[a=\x00]>>*css:light=b>.\\7f".toList)
    (c := ⟨[⟨.css, .css [.compound [.attribute ⟨"a", .compare .equals "\x00" .plain⟩]], false⟩,
      ⟨.cssLight, .css [.link [.className "\x7f"] .child (.compound [.type "b"])], true⟩]⟩)
    (by with_unfolding_all rfl) (by simp [Engine.isText]) (by decide) ?_
  rw [List.forall_mem_cons, List.forall_mem_singleton]
  refine ⟨⟨by decide, fun h => absurd h (by decide)⟩, by decide, fun _ => ?_⟩
  exact ⟨"b > .\\7f".toList, by decide, by decide⟩

/-- Whether a text is read as a chain of selectors that does not come back as it was. -/
def Altered (s : String) : Prop :=
  ∃ c, Chain.parse .default s.toList = .ok c ∧ (∀ stage ∈ c.stages, stage.engine.isText = false) ∧
    Chain.parse .default c.write ≠ .ok c

theorem altered_of_parse {s : String} (condition : SimpleSelector)
    (again : Except (SyntaxError Nat) Chain)
    (h : Chain.parse .default s.toList = .ok ⟨[⟨.css, .css [.compound [condition]], false⟩]⟩)
    (hagain : Chain.parse .default (write ⟨[⟨.css, .css [.compound [condition]], false⟩]⟩) = again)
    (hne : again ≠ .ok ⟨[⟨.css, .css [.compound [condition]], false⟩]⟩) : Altered s :=
  ⟨_, h, List.forall_mem_singleton.2 rfl, hagain ▸ hne⟩

/-- A null character, a hyphen for a name, and white space of a name at the start and at the end of a
clause. -/
theorem not_parse_write_same : Altered "[a=\"\x00\"]" ∧ Altered "\\2d" ∧ Altered "\\3000 a" ∧
    Altered ".a\\20 " := by
  refine ⟨altered_of_parse (.attribute ⟨"a", .compare .equals "\x00" .plain⟩)
      (.ok ⟨[⟨.css, .css [.compound [.attribute ⟨"a", .compare .equals "\uFFFD" .plain⟩]], false⟩]⟩)
      ?_ ?_ (by simp),
    altered_of_parse (.type "-") (.error (.unexpectedCharacter '-' 4)) ?_ ?_ nofun,
    altered_of_parse (.type "\u3000a")
      (.ok ⟨[⟨.css, .css [.compound [.type "a"]], false⟩]⟩) ?_ ?_ (by simp),
    altered_of_parse (.className "a ") (.error (.unexpectedCharacter '\\' 6)) ?_ ?_ nofun⟩
  all_goals with_unfolding_all rfl

end Chain

end Umbra
