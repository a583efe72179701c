import Umbra.Proofs.Chain.Places
import Umbra.Proofs.Selector.Boundaries

/-!
# Cutting a chain at byte indices

The search for the end of a part and the head of a part, with places as numbers of bytes. A place is
the sum of the lengths that were counted on the way: white space, a star, a name, an equals sign, a
literal. All of these sums are character boundaries.
-/

namespace Umbra

open Selector Text

namespace Part

namespace Bytes

/-- How many bytes of white space a text starts with. -/
def blanks (s : List Char) : Nat := byteLength s - byteLength (trimStart s)

/-- The name of an engine and the number of bytes up to behind its equals sign. -/
def engineName? (s : List Char) : Except Halt (Option (List Char × Nat)) := do
  let length := byteLength (s.takeWhile isEngineChar)
  let name ← checked (sliceTo? length s)
  if name.head?.any isAsciiLetter then
    let after ← checked (sliceFrom? length s)
    let tail ← checked (sliceFrom? (blanks after) after)
    return if tail.head? = some '=' then some (name, length + blanks after + 1) else none
  else return none

/-- What a part says before its clause, and where the clause starts. -/
structure Mark where
  captured : Bool
  engineName : Option (List Char)
  clauseStart : Nat

def Mark.engine? (defaultEngine : Engine) (m : Mark) : Option Engine :=
  match m.engineName with
  | none => some defaultEngine
  | some name => Engine.ofName? (String.ofList name)

/-- Whether a text starts with a star in front of the name of an engine. -/
def isStarred (text : List Char) : Except Halt Bool :=
  match text with
  | '*' :: rest => do return (← engineName? rest).isSome
  | _ => return false

/-- The mark of a part from behind its star on, where the byte `start` is. -/
def readNamed (captured : Bool) (start : Nat) (s : List Char) : Except Halt Mark := do
  match ← engineName? s with
  | some (name, consumed) =>
    let after ← checked (sliceFrom? consumed s)
    return ⟨captured, some name, start + consumed + blanks after⟩
  | none => return ⟨captured, none, start⟩

def readMark (s : List Char) : Except Halt Mark := do
  if ← isStarred (trimStart s) then readNamed true (blanks s + 1) ((trimStart s).drop 1)
  else readNamed false (blanks s) (trimStart s)

/-- The index behind the literal that ends in `s`, where the byte `i` is. -/
def literalEnd? (delimiter : Char) (i : Nat) : List Char → Option Nat
  | [] => none
  | '\\' :: c :: s => literalEnd? delimiter (i + '\\'.utf8Size + c.utf8Size) s
  | c :: s =>
    if c = delimiter then some (i + 1) else literalEnd? delimiter (i + c.utf8Size) s

/-- The index behind the literal that a clause starts with, or zero. -/
def literalEnd (clauseStart : Nat) (clause : List Char) : Except Halt Nat :=
  match clause with
  | [] => .ok 0
  | c :: s =>
    if c = '"' || c = '\'' || c = '/' then
      match literalEnd? c c.utf8Size s with
      | some i => .ok i
      | none => if c = '/' then .ok 0 else .error (.refused (.unterminatedString clauseStart))
    else .ok 0

/-- The byte index of the first occurrence. -/
def find? (needle s : List Char) : Option Nat := (cutBefore? needle s).map fun q => byteLength q.1

/-- The index of the separator that ends a text part. -/
def textEnd (s : List Char) (clauseStart : Nat) : Except Halt (Option Nat) := do
  let clause ← checked (sliceFrom? clauseStart s)
  let literal ← literalEnd clauseStart clause
  let searched := clauseStart + literal
  let tail ← checked (sliceFrom? searched s)
  return (find? separator tail).map (searched + ·)

def partEnd (defaultEngine : Engine) (s : List Char) : Except Halt (Option Nat) := do
  let mark ← readMark s
  if (mark.engine? defaultEngine).any Engine.isText then textEnd s mark.clauseStart
  else Selector.Bytes.findTopLevel separator s

/-- Reads the part with the text `s`, whose place in the chain is `start`. -/
def readPart (defaultEngine : Engine) (start : Nat) (s : List Char) : Except Halt Part := do
  let mark ← readMark s
  match mark.engine? defaultEngine with
  | none => .error (.refused (.unknownEngine (String.ofList (mark.engineName.getD []))))
  | some engine =>
    let clause := trimEnd (← checked (sliceFrom? mark.clauseStart s))
    if clause.isEmpty then .error (.refused .emptySelector)
    else return ⟨engine, String.ofList clause, start + mark.clauseStart, mark.captured⟩

/-- Reads the parts of a chain from the byte `start` on. -/
def readFrom (defaultEngine : Engine) (chain : List Char) : Nat → Nat → Except Halt (List Part)
  | 0, _ => .error .endless
  | n + 1, start => do
    let s ← checked (sliceFrom? start chain)
    match ← shifted start (partEnd defaultEngine s) with
    | some stop =>
      let part ← readPart defaultEngine start (← checked (sliceTo? stop s))
      let others ← readFrom defaultEngine chain n (start + (stop + byteLength separator))
      return part :: others
    | none => return [← readPart defaultEngine start s]

/-- Cuts a chain into its parts, in at most `n` steps. -/
def split (n : Nat) (defaultEngine : Engine) (chain : List Char) : Except Halt (List Part) :=
  if (trim chain).isEmpty then .error (.refused .emptySelector)
  else do
    let parts ← readFrom defaultEngine chain n 0
    if 1 < parts.countP Part.captured then .error (.refused .duplicateCapture) else return parts

end Bytes

variable {s t whole : List Char} {n : Nat} {defaultEngine : Engine}

/-! ## Heads -/

theorem slice_trimStart (s : List Char) :
    checked (sliceFrom? (Bytes.blanks s) s) = .ok (trimStart s) :=
  checked_sliceFrom? (trimStart_isSuffix s)

theorem engineName?_eq (s : List Char) : Bytes.engineName? s =
    .ok ((readEngineName? s).map fun q => (q.1, Text.offset s q.2)) := by
  have hs : s = s.takeWhile isEngineChar ++ s.drop (s.takeWhile isEngineChar).length :=
    (List.prefix_iff_eq_append.1 (List.takeWhile_prefix _)).symm
  have hname : sliceTo? (byteLength (s.takeWhile isEngineChar)) s =
      some (s.takeWhile isEngineChar) := (congrArg (sliceTo? _) hs).trans (sliceTo?_append ..)
  have hafter : sliceFrom? (byteLength (s.takeWhile isEngineChar)) s =
      some (s.drop (s.takeWhile isEngineChar).length) :=
    (congrArg (sliceFrom? _) hs).trans (sliceFrom?_append ..)
  unfold Bytes.engineName? readEngineName?
  simp only [hname, hafter]
  generalize s.takeWhile isEngineChar = name at hs ⊢
  generalize s.drop name.length = after at hs ⊢
  change (if name.head?.any isAsciiLetter = true then
    checked (sliceFrom? (Bytes.blanks after) after) >>= _ else _) = _
  rw [slice_trimStart]
  split
  · cases htail : trimStart after with
    | nil => rfl
    | cons c rest =>
      by_cases hc : c = '='
      · subst hc
        have hle := byteLength_le_of_suffix (htail ▸ trimStart_isSuffix after)
        have hequals : '='.utf8Size = 1 := by decide
        have hlength : byteLength name + Bytes.blanks after + 1 = Text.offset s rest := by
          simp only [byteLength, hequals] at hle
          simp only [hs, Bytes.blanks, htail, Text.offset, byteLength_append, byteLength, hequals]
          omega
        change Except.ok (some (name, byteLength name + Bytes.blanks after + 1)) = _
        rw [hlength]
        rfl
      · simp [hc]
  · rfl

theorem suffix_of_readEngineName? {name rest : List Char}
    (h : readEngineName? s = some (name, rest)) : rest <:+ s := by
  obtain ⟨-, -, space, -, rfl⟩ := readEngineName?_iff.1 h
  exact ⟨name ++ (space ++ ['=']), by simp⟩

/-- The head of a part, with the start of the clause as a place. -/
def Head.mark (s : List Char) (h : Head) : Bytes.Mark :=
  ⟨h.captured, h.engineName, Text.offset s h.clause⟩

theorem Head.engine?_mark (h : Head) :
    (h.mark s).engine? defaultEngine = h.engine? defaultEngine := rfl

theorem readNamed_eq (captured : Bool) (hs : s <:+ whole) :
    Bytes.readNamed captured (Text.offset whole s) s = .ok (Head.mark whole
      (match readEngineName? s with
        | some (name, after) => ⟨captured, some name, trimStart after⟩
        | none => ⟨captured, none, s⟩)) := by
  unfold Bytes.readNamed
  rw [engineName?_eq]
  cases hname : readEngineName? s with
  | none => rfl
  | some p =>
    obtain ⟨name, rest⟩ := p
    have hrest := suffix_of_readEngineName? hname
    have hplace : Text.offset whole s + Text.offset s rest + Bytes.blanks rest =
        Text.offset whole (trimStart rest) := by
      rw [offset_trans hs hrest]
      exact offset_trans (hrest.trans hs) (trimStart_isSuffix rest)
    change (checked (sliceFrom? (Text.offset s rest) s) >>= _) = _
    rw [checked_sliceFrom? hrest]
    change Except.ok (Bytes.Mark.mk _ _ _) = _
    rw [hplace]
    rfl

theorem isStarred_of_unmarked (hstar : ∀ t, s = '*' :: t → readEngineName? t = none) :
    Bytes.isStarred s = .ok false := by
  unfold Bytes.isStarred
  split
  · rename_i t
    rw [engineName?_eq, hstar t rfl]
    rfl
  · rfl

theorem readMark_eq (s : List Char) : Bytes.readMark s = .ok ((readHead s).mark s) := by
  have htext := trimStart_isSuffix s
  unfold Bytes.readMark
  by_cases hstar : ∀ t, trimStart s = '*' :: t → readEngineName? t = none
  · rw [isStarred_of_unmarked hstar, readHead_unmarked hstar]
    exact readNamed_eq false htext
  · simp only [not_forall] at hstar
    obtain ⟨t, ht, hname⟩ := hstar
    obtain ⟨p, hname⟩ := Option.ne_none_iff_exists'.1 hname
    have hstarred : Bytes.isStarred (trimStart s) = .ok true := by
      rw [ht, Bytes.isStarred, engineName?_eq, hname]
      rfl
    have hplace : Bytes.blanks s + 1 = Text.offset s t := by
      rw [ht] at htext
      rw [Bytes.blanks, ht]
      exact offset_cons htext
    rw [hstarred, readHead_starred ht hname, hplace, ht]
    have hread := readNamed_eq true (((List.suffix_cons '*' t).trans (ht ▸ htext)))
    rw [hname] at hread
    exact hread

/-! ## Ends of parts -/

theorem suffix_of_skipLiteral? {delimiter : Char} {rest : List Char}
    (h : skipLiteral? delimiter s = some rest) : rest <:+ s := by
  fun_induction skipLiteral? delimiter s with
  | case1 => cases h
  | case2 c s ih => exact ((ih h).trans (List.suffix_cons c s)).trans (List.suffix_cons _ _)
  | case3 s =>
    cases h
    exact List.suffix_cons _ _
  | case4 c s _ _ ih => exact (ih h).trans (List.suffix_cons c s)

/-- A delimiter has one byte, so what is behind it starts one byte after it. -/
theorem literalEnd?_eq {delimiter : Char} (hd : delimiter.utf8Size = 1) (s : List Char) (i : Nat) :
    Bytes.literalEnd? delimiter i s =
      (skipLiteral? delimiter s).map fun rest => i + Text.offset s rest := by
  fun_induction skipLiteral? delimiter s generalizing i with
  | case1 => rfl
  | case2 c s ih =>
    rw [Bytes.literalEnd?, ih]
    refine Option.map_congr fun rest hrest => ?_
    have hsuffix := suffix_of_skipLiteral? hrest
    rw [offset_cons_of_suffix _ (hsuffix.trans (List.suffix_cons c s)),
      offset_cons_of_suffix c hsuffix, Nat.add_assoc, Nat.add_assoc]
  | case3 s hslash =>
    rw [Bytes.literalEnd?, if_pos rfl, Option.map_some]
    · rw [offset_cons_of_suffix _ List.suffix_rfl, offset_self, hd]
    · exact hslash
  | case4 c s hslash hc ih =>
    rw [Bytes.literalEnd?, if_neg hc, ih]
    · refine Option.map_congr fun rest hrest => ?_
      rw [offset_cons_of_suffix c (suffix_of_skipLiteral? hrest), Nat.add_assoc]
    · exact hslash

theorem Delimiter.utf8Size_eq {c : Char} (h : Delimiter c) : c.utf8Size = 1 := by
  cases h <;> decide

theorem gives_literalEnd {clause : List Char} (h : clause <:+ s) :
    Gives (Bytes.literalEnd (Text.offset s clause) clause) 0 s
      ((skipStart clause).map (Text.offset clause)) := by
  cases clause with
  | nil => exact .ok _
  | cons c t =>
    have hquoted (hd : Delimiter c) : Bytes.literalEnd? c c.utf8Size t =
        (skipLiteral? c t).map (Text.offset (c :: t)) := by
      rw [literalEnd?_eq hd.utf8Size_eq]
      refine Option.map_congr fun rest hrest => ?_
      rw [offset_cons_of_suffix c (suffix_of_skipLiteral? hrest)]
    rw [Bytes.literalEnd, skipStart]
    by_cases hquote : (c = '"' || c = '\'') = true
    · have hne : c ≠ '/' := by
        rintro rfl
        cases hquote
      rw [hquote, Bool.true_or, if_pos rfl, if_pos rfl, hquoted (delimiter_iff.2 (Or.inl hquote))]
      cases skipLiteral? c t with
      | some rest => exact .ok _
      | none =>
        simp only [Option.map_none, if_neg hne]
        refine .refuse (fun place hplace => ?_) (by rw [SyntaxError.map, Nat.zero_add])
        cases hplace
        exact h
    · rw [Bool.eq_false_iff.2 hquote, Bool.false_or, if_neg Bool.false_ne_true]
      by_cases hslash : c = '/'
      · subst hslash
        simp only [decide_true, if_true, hquoted .slash]
        cases skipLiteral? '/' t with
        | some rest => exact .ok _
        | none =>
          change Gives (.ok 0) 0 s (.ok (Text.offset ('/' :: t) ('/' :: t)))
          rw [offset_self]
          exact .ok 0
      · simp only [decide_eq_false hslash, if_neg hslash, if_neg Bool.false_ne_true]
        change Gives (.ok 0) 0 s (.ok (Text.offset (c :: t) (c :: t)))
        rw [offset_self]
        exact .ok 0

theorem gives_textEnd {clause : List Char} (h : clause <:+ s) :
    Gives (Bytes.textEnd s (Text.offset s clause)) 0 s
      ((cutText s clause).map (Option.map fun q => Text.offset s q.2)) := by
  refine .next (checked_sliceFrom? h) ?_
  have hliteral := gives_literalEnd h
  unfold cutText
  cases hskip : skipStart clause with
  | error e =>
    rw [hskip] at hliteral
    exact hliteral.error
  | ok rest =>
    rw [hskip] at hliteral
    obtain ⟨literal, hclause, -, -⟩ := (skipStart_iff.1 hskip).exists_literal
    have hrest : rest <:+ clause := ⟨literal, hclause.symm⟩
    refine .next hliteral ?_
    simp only [offset_trans h hrest]
    refine .next (checked_sliceFrom? (hrest.trans h)) ?_
    change Except.ok (Option.map _ (Option.map _ _)) = Except.ok (Option.map _ (Option.map _ _))
    rw [Option.map_map, Option.map_map]
    refine congrArg Except.ok (Option.map_congr fun q hq => ?_)
    have hsplit := append_of_cutBefore? hq
    have hsuffix : q.1 ++ q.2 <:+ s := hsplit ▸ hrest.trans h
    simp only [Function.comp_apply]
    rw [← hsplit, offset_add hsuffix]

theorem gives_partEnd (defaultEngine : Engine) (s : List Char) :
    Gives (Bytes.partEnd defaultEngine s) 0 s
      ((cutFirst defaultEngine s).map (Option.map fun q => Text.offset s q.2)) := by
  have hclause := suffix_of_readHead s []
  rw [List.append_nil, List.append_nil] at hclause
  refine .next (readMark_eq s) ?_
  rw [Head.engine?_mark]
  split
  · rename_i htext
    rw [cutFirst_of_text htext]
    exact gives_textEnd hclause
  · rename_i htext
    rw [cutFirst_of_not_text htext]
    exact gives_findTopLevel separator s

/-! ## Parts -/

theorem gives_readPart (defaultEngine : Engine) (h : s ++ t <:+ whole) :
    Gives (Bytes.readPart defaultEngine (Text.offset whole (s ++ t)) s) 0 whole
      (ofSegment defaultEngine whole ⟨s, t⟩) := by
  have hclause := suffix_of_readHead s []
  rw [List.append_nil, List.append_nil] at hclause
  have hplace : Text.offset whole (s ++ t) + Text.offset s (readHead s).clause =
      Text.offset whole ((readHead s).clause ++ t) := by
    rw [← offset_trans h (suffix_of_readHead s t)]
    simp only [Text.offset, byteLength_append]
    omega
  refine .next (readMark_eq s) ?_
  unfold ofSegment
  rw [Head.engine?_mark]
  dsimp only
  cases (readHead s).engine? defaultEngine with
  | none => exact .unplaced rfl rfl
  | some engine =>
    refine .next (checked_sliceFrom? hclause) ?_
    simp only [Head.mark, hplace]
    split
    · exact .unplaced rfl rfl
    · exact .ok _

theorem gives_readFrom (defaultEngine : Engine) (h : s <:+ whole) (hn : s.length < n) :
    Gives (Bytes.readFrom defaultEngine whole n (Text.offset whole s)) 0 whole
      (readAll defaultEngine whole s) := by
  induction n generalizing s with
  | zero => cases hn
  | succ n ih =>
    have hend : Gives _ 0 whole _ := .of_suffix h ((gives_partEnd defaultEngine s).shifted)
    rw [Nat.zero_add] at hend
    refine .next (checked_sliceFrom? h) ?_
    rw [readAll]
    cases hcut : cutFirst defaultEngine s with
    | error e =>
      rw [hcut] at hend
      exact hend.error
    | ok found =>
      rw [hcut] at hend
      refine .next hend ?_
      cases found with
      | none =>
        have hs : s ++ [] <:+ whole := by rwa [List.append_nil]
        have hpart := gives_readPart defaultEngine hs
        rw [List.append_nil] at hpart
        exact hpart.bind fun _ _ => .ok _
      | some found =>
        obtain ⟨text, after⟩ := found
        obtain ⟨rest, rfl, rfl⟩ := exists_of_cutFirst hcut
        have hslice : checked (sliceTo? (Text.offset (text ++ (separator ++ rest))
            (separator ++ rest)) (text ++ (separator ++ rest))) = .ok text := by
          rw [offset_append, sliceTo?_append]
          rfl
        have hbehind : separator ++ rest <:+ whole := (List.suffix_append ..).trans h
        have hstart : Text.offset whole (text ++ (separator ++ rest)) +
            (Text.offset (text ++ (separator ++ rest)) (separator ++ rest) + byteLength separator) =
              Text.offset whole rest := by
          rw [← Nat.add_assoc, offset_trans h (List.suffix_append ..), offset_add hbehind]
        have hrest : rest <:+ whole := (List.suffix_append ..).trans hbehind
        have hlt := length_behind_lt text rest
        rw [List.drop_left] at hlt
        refine .next hslice ((gives_readPart defaultEngine h).bind fun part _ => ?_)
        simp only [List.drop_left, dif_pos hlt, hstart]
        exact (ih hrest (by omega)).bind fun _ _ => .ok _

/-- A chain is cut as by the reader: neither inside a character nor without end. -/
theorem gives_split (defaultEngine : Engine) (hn : s.length < n) :
    Gives (Bytes.split n defaultEngine s) 0 s
      (if (trim s).isEmpty then .error .emptySelector
      else do
        let parts ← readAll defaultEngine s s
        if 1 < parts.countP Part.captured then .error .duplicateCapture else return parts) := by
  have hread := gives_readFrom defaultEngine (List.suffix_rfl : s <:+ s) hn
  rw [offset_self] at hread
  unfold Bytes.split
  split
  · exact .unplaced rfl rfl
  · refine hread.bind fun parts _ => ?_
    split
    · exact .unplaced rfl rfl
    · exact .ok _

end Part
end Umbra
