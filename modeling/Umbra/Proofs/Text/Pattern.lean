import Umbra.Proofs.Text.Lowercase
import Umbra.Proofs.Selector.Scrubbed
import Umbra.Proofs.Chain.Literal
import Umbra.Regex.Library

/-!
# Text patterns read back

A text pattern that was written is read back, with the replacement character for a null character in
a text that was quoted. A text that is looked for stands without quotes, so it must not have the form
of a text in quotes or of a regular expression. It gets that form where white space stood before or
behind it, or a capital letter behind its last slash.
-/

namespace Umbra.TextPattern

open Selector Text

/-! ## The forms of a clause -/

/-- A clause that is not looked for as it stands: it begins with a quote, or stands between slashes
but for flags. -/
inductive Formed : List Char → Prop
  | quoted {quote : Char} (hquote : quote = '"' ∨ quote = '\'') (s : List Char) :
    Formed (quote :: s)
  | slashed (source : List Char) {flags : List Char} (hflags : ∀ c ∈ flags, isFlag c = true) :
    Formed ('/' :: source ++ '/' :: flags)

theorem splitFlags?_eq_some {s source flags : List Char} :
    splitFlags? s = some (source, flags) ↔
      s = source ++ '/' :: flags ∧ ∀ c ∈ flags, isFlag c = true := by
  rw [splitFlags?, Option.filter_eq_some_iff, List.all_eq_true]
  constructor
  · rintro ⟨hsplit, hflags⟩
    exact ⟨(append_of_splitLast? hsplit).symm, hflags⟩
  · rintro ⟨rfl, hflags⟩
    have hslash : '/' ∉ flags := fun hmem => absurd (hflags _ hmem) (by decide)
    exact ⟨splitLast?_append source hslash, hflags⟩

/-! ## White space in what is read back -/

theorem not_isBlank_scrubbedChar {c : Char} (hc : isBlank c = false) :
    isBlank (scrubbedChar c) = false := by
  rw [scrubbedChar]
  split
  · decide
  · exact hc

theorem collapsed_scrubbed {s : List Char} (h : Collapsed s) : Collapsed (Selector.scrubbed s) := by
  induction h with
  | last hc => exact .last (not_isBlank_scrubbedChar hc)
  | next hc _ ih => exact .next (not_isBlank_scrubbedChar hc) ih
  | space hc _ ih => exact .space (not_isBlank_scrubbedChar hc) ih

theorem collapse_scrubbed_collapse (s : List Char) :
    collapse (Selector.scrubbed (collapse s)) = Selector.scrubbed (collapse s) := by
  rcases collapse_cases s with h | h
  · rw [h]
    rfl
  · exact (collapsed_scrubbed h).collapse_eq

section Library

variable [RegexLibrary]

/-! ## What is looked for as it stands -/

/-- A clause is looked for as it stands if it has none of the other forms. -/
theorem parse_eq_lowered_iff {s : List Char} : parse s = .ok (lowered s) ↔ ¬ Formed s := by
  constructor
  · intro h hformed
    have hreads := Part.readsAs_of_parse h
    cases hformed with
    | quoted hquote s =>
      rcases hquote with rfl | rfl
      · exact absurd (hreads.of_substring .double).1 (by decide)
      · exact absurd (hreads.of_substring .single).1 (by decide)
    | @slashed source flags hflags =>
      have hsplit : splitFlags? (source ++ '/' :: flags) = some (source, flags) :=
        splitFlags?_eq_some.2 ⟨rfl, hflags⟩
      cases hsplit.symm.trans (hreads.of_substring .slash).2
  · intro hformed
    cases s with
    | nil => rfl
    | cons c s =>
      rw [parse]
      split
      · rename_i hquote
        rw [Bool.or_eq_true, decide_eq_true_eq, decide_eq_true_eq] at hquote
        exact absurd (.quoted hquote s) hformed
      · split
        · rename_i hslash
          subst hslash
          cases hsplit : splitFlags? s with
          | none => rfl
          | some q =>
            obtain ⟨rfl, hflags⟩ := splitFlags?_eq_some.1 hsplit
            exact absurd (.slashed q.1 hflags) hformed
        · rfl

/-! ## Written patterns -/

/-- What comes back of a pattern. -/
def scrubbed : TextPattern → TextPattern
  | substring needle => substring needle
  | exact text => exact (scrubbedText text)
  | regex source flags program => regex source flags program

theorem lowered_write (clause : List Char) : lowered (lowered clause).write = lowered clause := by
  simp only [lowered, write, String.toList_ofList]
  rw [collapse_lowercase_collapse, lowercase_lowercase]

theorem parse_writeString (text : List Char) :
    parse (writeString text) = .ok (.exact (String.ofList (collapse (Selector.scrubbed text)))) := by
  have hread := readQuoted_writeString text []
  rw [List.append_nil] at hread
  have hparse : parse (writeString text) = readExact (writeString text) := rfl
  rw [hparse, readExact, hread]
  rfl

/-- A pattern is read back from what is written for it, unless a text to look for has the form of
another pattern. -/
theorem parse_written {clause : List Char} {p : TextPattern} (h : parse clause = .ok p)
    (hplain : ∀ needle, p = .substring needle → ¬ Formed needle.toList) :
    parse p.write = .ok p.scrubbed := by
  have lowered_back (s : List Char) (hp : p = lowered s) : parse p.write = .ok p.scrubbed := by
    subst hp
    have hback := parse_eq_lowered_iff.2 (hplain _ rfl)
    rwa [← write, ← lowered, lowered_write] at hback
  cases Part.readsAs_of_parse h with
  | @exact c s value rest =>
    rw [write, String.toList_ofList, parse_writeString, collapse_scrubbed_collapse, scrubbed,
      scrubbedText, String.toList_ofList]
  | @regex s source flags program hs =>
    obtain ⟨rfl, -⟩ := splitFlags?_eq_some.1 hs
    rw [write, String.toList_ofList, String.toList_ofList]
    exact h
  | slash => exact lowered_back _ rfl
  | plain => exact lowered_back _ rfl

end Library

/-- A clause with slashes, capital letters and a sigma at its end. -/
theorem parse_written_slashes :
    parse "/usr/Bin  ΑΣ".toList = .ok (.substring "/usr/bin ας") ∧
      ¬ Formed "/usr/bin ας".toList ∧
      parse "/usr/bin ας".toList = .ok (.substring "/usr/bin ας") := by
  have hread : parse "/usr/Bin  ΑΣ".toList = .ok (.substring "/usr/bin ας") := by decide +kernel
  have hformed : ¬ Formed "/usr/bin ας".toList := parse_eq_lowered_iff.1 (by decide +kernel)
  refine ⟨hread, hformed, parse_written hread fun needle hneedle => ?_⟩
  cases hneedle
  exact hformed

/-- A clause whose pattern is not read back the same. -/
def Altered (clause : String) : Prop := ∃ p, parse clause.toList = .ok p ∧ parse p.write ≠ .ok p

/-- A null character, a capital letter behind the last slash, and white space in front of a quote. -/
theorem not_parse_written_same : Altered "\"\x00\"" ∧ Altered "/a/I" ∧ Altered " \"a\"" := by
  have hflags : ∀ c ∈ ['i'], isFlag c = true := List.forall_mem_singleton.2 rfl
  refine ⟨⟨.exact "\x00", by decide +kernel, by decide +kernel⟩,
    ⟨.substring "/a/i", by decide +kernel, fun h => ?_⟩,
    ⟨.substring "\"a\"", by decide +kernel, by decide +kernel⟩⟩
  exact parse_eq_lowered_iff.1 h (.slashed ['a'] hflags)

end Umbra.TextPattern
