import Umbra.Proofs.Text.Pattern
import Umbra.Proofs.Text.Sigma
import Umbra.Query.Matcher

/-!
# Elements by their text

A text that is looked for is lowered alone, and the text of an element as a whole. So what stands in
the text of an element is found in it where that keeps the capital sigmas of the part, in particular
if it is the whole text.
-/

namespace Umbra

open Text

theorem TextPattern.needle_of_parse [RegexLibrary] {clause : List Char} {needle : String}
    (h : TextPattern.parse clause = .ok (.substring needle)) :
    needle.toList = lowercase (collapse clause) := by
  cases Part.readsAs_of_parse h with
  | slash | plain => exact String.toList_ofList

/-- What stands in the text of an element is found there if the text keeps its sigmas, always if it
has no capital sigma, and an element is found by its whole text. -/
theorem TextPattern.finds_substring [RegexLibrary] {clause : List Char} {needle : String}
    (h : TextPattern.parse clause = .ok (.substring needle)) :
    (∀ ownText front rest, collapse ownText = front ++ collapse clause ++ rest →
      SigmaKept front (collapse clause) rest → (substring needle).fits ownText = true) ∧
    ('Σ' ∉ clause → ∀ ownText, collapse clause <:+: collapse ownText →
      (substring needle).fits ownText = true) ∧
    ∀ (m : Matcher) (id : NodeId), id ∈ m.dom.descendants m.pierce m.scope →
      m.dom.isElement id = true → collapse (m.dom.ownText id) = collapse clause →
        id ∈ m.select (.text (.substring needle)) := by
  have hfits (ownText front rest : List Char)
      (htext : collapse ownText = front ++ collapse clause ++ rest)
      (hkept : SigmaKept front (collapse clause) rest) :
      (substring needle).fits ownText = true := by
    rw [fits, needle_of_parse h, htext, occursIn_iff]
    exact hkept.lowercase_infix
  refine ⟨hfits, ?_, ?_⟩
  · intro hsigma ownText hinfix
    obtain ⟨front, rest, htext⟩ := hinfix
    refine hfits ownText front rest htext.symm (.of_not_mem fun hmem => ?_)
    rcases mem_of_mem_collapse hmem with hspace | hclause
    · cases hspace
    · exact hsigma hclause
  · intro m id hbelow helement htext
    have hwhole : (substring needle).fits (m.dom.ownText id) = true :=
      hfits _ [] [] (by simp [htext]) (.of_not_meetsCased rfl rfl)
    rw [Matcher.select, List.mem_filter, Bool.and_eq_true]
    exact ⟨hbelow, helement, hwhole⟩

/-- A text that goes on behind the sigma, and one that has a word behind it. -/
theorem TextPattern.finds_substring_sigma :
    TextPattern.parse "ΑΣ".toList = .ok (.substring "ας") ∧
    (substring "ας").fits "ΑΣΑ".toList = false ∧ (substring "ας").fits "ΑΣ  Α".toList = true := by
  have hread : TextPattern.parse "ΑΣ".toList = .ok (.substring "ας") := by decide +kernel
  have hkept : SigmaKept [] (collapse "ΑΣ".toList) " Α".toList :=
    .of_not_meetsCased rfl (by decide +kernel)
  exact ⟨hread, by decide +kernel,
    (finds_substring hread).1 _ [] " Α".toList (by decide +kernel) hkept⟩

end Umbra
