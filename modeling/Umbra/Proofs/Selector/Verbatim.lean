import Umbra.Proofs.Selector.Name

/-!
# Names and strings that come back as they are

Only the null character has no written form, and only a text that goes on like a name takes part in a
name in front of it. So a written name and a written string are read back as they are, with what
stands behind them left over, just if there is no null character in them and, behind a name, the text
does not go on like one.
-/

namespace Umbra.Selector

open Text

/-- A name that goes on has at least one character more. -/
theorem continues_eq_false_iff {s : List Char} : continues s = false ↔ readName s = ([], s) := by
  constructor
  · exact readName_of_not_continues
  · intro h
    by_contra hc
    rw [Bool.not_eq_false] at hc
    have hname : (readName s).1 ≠ [] := by
      cases s with
      | nil => cases hc
      | cons c t =>
        by_cases hchar : isNameChar c = true
        · rw [readName_of_isNameChar hchar]
          exact List.cons_ne_nil _ _
        · have hescape : atEscape (c :: t) = true := by simpa [continues, hchar] using hc
          rw [readName, if_neg hchar, if_pos hescape]
          exact List.cons_ne_nil _ _
    exact hname (congrArg Prod.fst h)

/-- Behind a written name the reader of names goes on with what follows. -/
theorem readName_writeName_append (name rest : List Char) :
    readName (writeName name ++ rest) = (scrubbed name ++ (readName rest).1, (readName rest).2) := by
  have hmarked (cs : List (Bool × Char)) : readName (writeMarked cs ++ rest) =
      (scrubbed (cs.map Prod.snd) ++ (readName rest).1, (readName rest).2) := by
    induction cs with
    | nil => rfl
    | cons p cs ih =>
      rw [writeMarked_cons, List.append_assoc, readName_writeNameChar, ih]
      rfl
  rw [writeName_eq, hmarked, map_snd_marked]

/-- A written name is read back with the text behind it left over just if the name has no null
character and the text starts with neither a name character nor an escape. A written string is read
back with whatever stands behind it just if it has no null character. -/
theorem read_written_iff :
    (∀ name rest, readName (writeName name ++ rest) = (name, rest) ↔
      '\x00' ∉ name ∧ continues rest = false) ∧
    ∀ value rest, readQuoted (writeString value ++ rest) = .ok (value, rest) ↔ '\x00' ∉ value := by
  refine ⟨fun name rest => ?_, fun value rest => ?_⟩
  · rw [readName_writeName_append, Prod.mk.injEq, continues_eq_false_iff, Prod.ext_iff,
      ← scrubbed_eq_iff]
    constructor
    · rintro ⟨hname, hrest⟩
      have hlength := congrArg List.length hname
      rw [List.length_append, scrubbed, List.length_map] at hlength
      have hnil : (readName rest).1 = [] := List.length_eq_zero_iff.1 (by omega)
      rw [hnil, List.append_nil] at hname
      exact ⟨hname, hnil, hrest⟩
    · rintro ⟨hname, hnil, hrest⟩
      rw [hname, hnil, List.append_nil]
      exact ⟨rfl, hrest⟩
  · rw [readQuoted_writeString, Except.ok.injEq, Prod.mk.injEq, and_iff_left rfl, scrubbed_eq_iff]

/-- A digit behind a hyphen is escaped by its code point, which the next hexadecimal digit does not
join. A hexadecimal digit behind the name joins the name. -/
theorem read_written_iff_hyphen :
    readName (writeName "-1a b".toList ++ " c".toList) = ("-1a b".toList, " c".toList) ∧
    readName (writeName "-1a b".toList ++ "c".toList) ≠ ("-1a b".toList, "c".toList) ∧
    readQuoted (writeString "\"\\\nf".toList ++ "f".toList) = .ok ("\"\\\nf".toList, "f".toList) ∧
    readQuoted (writeString "\x00".toList) ≠ .ok ("\x00".toList, []) := by
  obtain ⟨hname, hstring⟩ := read_written_iff
  refine ⟨(hname _ _).2 (by decide), fun h => ?_, (hstring _ _).2 (by decide), fun h => ?_⟩
  · exact absurd ((hname _ _).1 h).2 (by decide)
  · rw [← List.append_nil (writeString _)] at h
    exact absurd ((hstring _ _).1 h) (by decide)

end Umbra.Selector
