import Umbra.Proofs.Chain.Indices

/-!
# Chains on character boundaries

Reading a chain by byte positions comes to what the readers come to. So it never cuts a text inside
a character or beyond its end, and every loop ends within as many steps as the text has characters,
and one more.
-/

namespace Umbra

open Selector Text

/-! ## Text patterns -/

namespace TextPattern.Bytes

variable [RegexLibrary]

/-- Reads a pattern in quotes. -/
def exact (n : Nat) : Scan TextPattern := do
  let text ← Scan.string n
  let _ ← Scan.skipWhitespace n
  if ← Scan.isEof then return .exact (String.ofList (collapse text))
  else Scan.unexpected .argument

/-- Reads a pattern. One without quotes is not read by positions. -/
def parse (n : Nat) (clause : List Char) : Except Halt TextPattern :=
  match clause with
  | [] => ((TextPattern.parse []).at 0 []).mapError .refused
  | c :: s =>
    if c = '"' || c = '\'' then (exact n).run ⟨c :: s, 0, 0⟩
    else ((TextPattern.parse (c :: s)).at 0 (c :: s)).mapError .refused

end TextPattern.Bytes

theorem Selector.Gives.of_locates {α : Type} {s : List Char} {r : Read α} (h : Locates s r) :
    Gives ((r.at 0 s).mapError .refused) 0 s r := by
  cases r with
  | ok a => exact .ok a
  | error e =>
    refine .refuse (fun place hplace => ?_) rfl
    obtain ⟨c, t, rfl, hleaves, -⟩ := h e rfl place hplace
    exact hleaves.suffix

variable {n : Nat} {s : List Char}

theorem reads_exact [RegexLibrary] {c : Char} (hn : (c :: s).length < n) :
    (TextPattern.Bytes.exact n).Reads (c :: s) 0 (c :: s)
      ((TextPattern.readExact (c :: s)).map fun p => (p, [])) := by
  have h : c :: s <:+ c :: s := List.suffix_rfl
  have hstring : Scan.Reads (Scan.string n) (c :: s) 0 (c :: s) _ :=
    Scan.reads_string h (Nat.lt_of_succ_lt hn)
  unfold TextPattern.readExact
  cases hread : readQuoted (c :: s) with
  | error e =>
    rw [hread] at hstring
    exact hstring.error
  | ok q =>
    rw [hread] at hstring
    refine hstring.next fun hq => ?_
    refine (Scan.reads_skipWhitespace hq (Nat.lt_of_le_of_lt hq.length_le hn)).next fun hrest => ?_
    have hrest := hrest.trans hq
    refine (Scan.reads_isEof hrest).next fun _ => ?_
    change Scan.Reads _ _ _ _ (Except.map _ (match skipSpace q.2 with
      | [] => _
      | d :: t => _))
    cases hskip : skipSpace q.2 with
    | nil => exact .pure _
    | cons d t =>
      rw [hskip] at hrest
      exact Scan.reads_unexpected hrest .argument

theorem gives_textPattern [RegexLibrary] (hn : s.length < n) :
    Gives (TextPattern.Bytes.parse n s) 0 s (TextPattern.parse s) := by
  cases s with
  | nil => exact .of_locates (Part.locates_parse [])
  | cons c s =>
    rw [TextPattern.Bytes.parse]
    split
    · rename_i hquote
      rw [TextPattern.parse, if_pos hquote]
      exact (reads_exact hn).run
    · exact .of_locates (Part.locates_parse (c :: s))

/-! ## Chains -/

section

variable [RegexLibrary]

/-- Reads a clause by byte positions, with at most `n` steps of every loop. -/
def Clause.Bytes.parse (n : Nat) (engine : Engine) (o : Options) (offset : Nat) (s : List Char) :
    Except Halt Clause :=
  if engine.isText then (TextPattern.Bytes.parse n s).map .text
  else (Selector.Bytes.selectorList o.allows n offset s).map .css

def Stage.Bytes.ofPart (n : Nat) (o : Options) (p : Part) : Except Halt Stage := do
  let clause ← Clause.Bytes.parse n p.engine o p.offset p.clause.toList
  return ⟨p.engine, clause, p.captured⟩

def Chain.Bytes.parse (n : Nat) (o : Options) (s : List Char) : Except Halt Chain := do
  let parts ← Part.Bytes.split n o.defaultEngine s
  let stages ← parts.mapM (Stage.Bytes.ofPart n o)
  return ⟨stages⟩

end

section Refused

variable {α β ε ε' : Type} {k : ε → ε'}

theorem mapError_map (x : Except ε α) (f : α → β) :
    (x.mapError k).map f = (x.map f).mapError k := by cases x <;> rfl

theorem mapError_bind (x : Except ε α) (f : α → Except ε β) :
    (x >>= f).mapError k = x.mapError k >>= fun a => (f a).mapError k := by cases x <;> rfl

theorem mapM_mapError {f : α → Except ε' β} {g : α → Except ε β} {as : List α}
    (h : ∀ a ∈ as, f a = (g a).mapError k) : as.mapM f = (as.mapM g).mapError k := by
  induction as with
  | nil => rfl
  | cons a as ih =>
    obtain ⟨ha, has⟩ := List.forall_mem_cons.1 h
    rw [List.mapM_cons, List.mapM_cons, mapError_bind, ha, ih has]
    congr
    funext b
    rw [mapError_bind]
    rfl

end Refused

theorem splitTopLevel_eq {separator : List Char} (hsep : separator ≠ []) (hn : s.length < n) :
    Selector.Bytes.splitTopLevel n separator s =
      (((splitTopLevel separator s).at 0 s).map (List.map (Segment.placed s))).mapError
        .refused := by
  rw [(gives_splitTopLevel hsep hn).eq, Read.at, Read.at, mapError_map]

theorem clause_parse_eq [RegexLibrary] (engine : Engine) (o : Options) (offset : Nat)
    (hn : s.length < n) : Clause.Bytes.parse n engine o offset s =
      (Clause.parse engine o offset s).mapError .refused := by
  unfold Clause.Bytes.parse Clause.parse
  split
  · rw [(gives_textPattern hn).eq, mapError_map]
  · rw [(gives_selectorList o.allows hn).eq, mapError_map]

theorem split_eq (engine : Engine) (hn : s.length < n) :
    Part.Bytes.split n engine s = (Part.split engine s).mapError .refused :=
  (Part.gives_split engine hn).eq

/-- The clauses of a chain are not longer than the chain. -/
theorem length_clause_le {engine : Engine} {parts : List Part} (h : Part.split engine s = .ok parts)
    {part : Part} (hpart : part ∈ parts) : part.clause.toList.length ≤ s.length := by
  obtain ⟨-, hread, -⟩ := Part.split_eq_ok.1 h
  obtain ⟨front, behind, hs, -⟩ :=
    (Part.readAll_eq_ok.1 hread).exists_append List.suffix_rfl hpart
  have hlength := congrArg List.length hs
  rw [List.length_append, List.length_append] at hlength
  omega

theorem chain_parse_eq [RegexLibrary] (o : Options) (hn : s.length < n) :
    Chain.Bytes.parse n o s = (Chain.parse o s).mapError .refused := by
  unfold Chain.Bytes.parse Chain.parse
  rw [split_eq o.defaultEngine hn]
  cases hsplit : Part.split o.defaultEngine s with
  | error e => rfl
  | ok parts =>
    have hstages : parts.mapM (Stage.Bytes.ofPart n o) =
        (parts.mapM (Stage.ofPart o)).mapError .refused := by
      refine mapM_mapError fun part hpart => ?_
      have hle := length_clause_le hsplit hpart
      unfold Stage.Bytes.ofPart Stage.ofPart
      rw [clause_parse_eq part.engine o part.offset (by omega), mapError_bind]
      rfl
    change (parts.mapM (Stage.Bytes.ofPart n o) >>= _) =
      Except.mapError _ (parts.mapM (Stage.ofPart o) >>= _)
    rw [hstages, mapError_bind]
    rfl

namespace Chain

/-- Cutting a chain, reading a clause and reading a whole chain by byte positions give what the
readers give, and so does cutting any text at the separators outside quotes and brackets. No error
but a refusal is left, so no slice is off the character boundaries and no loop is without end. Every
operation on a cursor keeps it on a boundary of its text. -/
theorem reads_onBoundaries [RegexLibrary] :
    (∀ (engine : Engine) (chain : List Char) (n : Nat), chain.length < n →
      Part.Bytes.split n engine chain = (Part.split engine chain).mapError .refused) ∧
    (∀ (engine : Engine) (o : Options) (offset : Nat) (clause : List Char) (n : Nat),
      clause.length < n → Clause.Bytes.parse n engine o offset clause =
        (Clause.parse engine o offset clause).mapError .refused) ∧
    (∀ (o : Options) (chain : List Char) (n : Nat), chain.length < n →
      Bytes.parse n o chain = (parse o chain).mapError .refused) ∧
    (∀ (separator text : List Char) (n : Nat), separator ≠ [] → text.length < n →
      Selector.Bytes.splitTopLevel n separator text =
        (((splitTopLevel separator text).at 0 text).map (List.map (Segment.placed text))).mapError
          .refused) ∧
    (∀ (operation : Operation) (c : Cursor) (n : Nat), c.OnBoundary → c.input.length < n →
      (operation.scan n).Keeps c) :=
  ⟨fun engine _ _ hn => split_eq engine hn,
    fun engine o offset _ _ hn => clause_parse_eq engine o offset hn,
    fun o _ _ hn => chain_parse_eq o hn,
    fun _ _ _ hsep hn => splitTopLevel_eq hsep hn,
    fun operation _ _ hc hn => operation.keeps hc hn⟩

theorem reads_onBoundaries_accents :
    Part.Bytes.split 40 .css "é >>*text = \"\\é>>\" >> [ñ=\\e9\u00A0]".toList = .ok
        [⟨.css, "é", 0, false⟩, ⟨.text, "\"\\é>>\"", 13, true⟩,
          ⟨.css, "[ñ=\\e9\u00A0]", 24, false⟩] ∧
      Clause.Bytes.parse 20 .text Options.default 6 "'ö".toList =
        .error (.refused (.unterminatedString 0)) ∧
      Bytes.parse 20 Options.default "é >> ü:not(b, ö!)".toList =
        .error (.refused (.unexpectedCharacter '!' 18)) ∧
      Selector.Bytes.splitTopLevel 12 ['ü'] "é[ü]üñ".toList = .ok [(0, "é[ü]".toList), (8, ['ñ'])] ∧
      (Operation.escapedCodePoint.scan 5).Keeps ⟨['\\', 'é', 'x'], 1, 7⟩ := by
  have hsplit : Part.split .css "é >>*text = \"\\é>>\" >> [ñ=\\e9\u00A0]".toList = .ok
      [⟨.css, "é", 0, false⟩, ⟨.text, "\"\\é>>\"", 13, true⟩,
        ⟨.css, "[ñ=\\e9\u00A0]", 24, false⟩] := by
    decide +kernel
  have hclause : Clause.parse .text Options.default 6 "'ö".toList =
      .error (.unterminatedString 0) := by with_unfolding_all rfl
  have hchain : parse Options.default "é >> ü:not(b, ö!)".toList =
      .error (.unexpectedCharacter '!' 18) := by with_unfolding_all rfl
  have htext : ((splitTopLevel ['ü'] "é[ü]üñ".toList).at 0 "é[ü]üñ".toList).map
      (List.map (Segment.placed "é[ü]üñ".toList)) = .ok [(0, "é[ü]".toList), (8, ['ñ'])] := by
    decide +kernel
  have hboundary : Cursor.OnBoundary ⟨['\\', 'é', 'x'], 1, 7⟩ :=
    isSome_sliceFrom?_iff.1 (by decide)
  obtain ⟨hparts, hclauses, hchains, htexts, hcursors⟩ := reads_onBoundaries
  refine ⟨?_, ?_, ?_, ?_, hcursors _ _ 5 hboundary (by decide)⟩
  · rw [hparts .css _ 40 (by decide), hsplit]
    rfl
  · rw [hclauses .text _ 6 _ 20 (by decide), hclause]
    rfl
  · rw [hchains _ _ 20 (by decide), hchain]
    rfl
  · rw [htexts ['ü'] _ 12 (by decide) (by decide), htext]
    rfl

end Chain

end Umbra
