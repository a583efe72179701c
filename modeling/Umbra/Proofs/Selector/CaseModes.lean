import Umbra.Proofs.Text.Sigma
import Umbra.Selector.Attribute

/-!
# Tests without regard to case

What passes a test with regard to case passes the same test without, except for a capital sigma. The
operators that look at a part of the value find the part lowered as a part of the value, and the
expected value lowered alone, where a sigma may have the other form.
-/

namespace Umbra.Selector

open Text

namespace AttributeOperator

/-- The operators that look at the whole value, at a word or at what stands before a hyphen. -/
def looksAtWhole : AttributeOperator → Bool
  | equals | includes | dashMatch => true
  | startsWith | endsWith | contains => false

/-- Where an operator that looks at a part of the value finds it. -/
inductive FindsAt : AttributeOperator → List Char → List Char → Prop
  | startsWith (rest : List Char) : FindsAt startsWith [] rest
  | endsWith (front : List Char) : FindsAt endsWith front []
  | contains (front rest : List Char) : FindsAt contains front rest

section Lowercase

variable {op : AttributeOperator} {actual expected front rest : List Char}

theorem relates_includes_lowercase (h : includes.relates actual expected = true) :
    includes.relates (lowercase actual) (lowercase expected) = true := by
  simp only [relates, Bool.and_eq_true, Bool.not_eq_true', List.any_eq_false,
    Bool.not_eq_true, List.contains_iff_mem] at h ⊢
  obtain ⟨⟨hne, hblank⟩, hword⟩ := h
  refine ⟨⟨by rw [isEmpty_lowercase, hne], not_isBlank_lowercaseFrom hblank []⟩, ?_⟩
  rw [words_lowercase]
  exact List.mem_map_of_mem hword

theorem relates_dashMatch_lowercase (h : dashMatch.relates actual expected = true) :
    dashMatch.relates (lowercase actual) (lowercase expected) = true := by
  simp only [relates, Bool.or_eq_true, beq_iff_eq, List.isPrefixOf_iff_prefix] at h ⊢
  rcases h with rfl | ⟨rest, rfl⟩
  · exact Or.inl rfl
  · have hrest : meetsCased ('-' :: rest) = false :=
      meetsCased_cons (by decide +kernel) (by decide +kernel) rest
    have hkept : SigmaKept [] expected ('-' :: rest) := .of_not_meetsCased rfl hrest
    have hhyphen : lowerIn expected.reverse '-' rest = ['-'] := by
      have hsimple : lowerSimple '-' = '-' := by decide +kernel
      rw [lowerIn, if_neg (by decide), if_neg (by decide), hsimple]
    refine Or.inr ⟨lowercaseFrom ('-' :: expected.reverse) rest, ?_⟩
    rw [List.append_assoc _ _ rest, List.singleton_append, hkept.lowercase_append, lowercaseFrom,
      hhyphen, List.append_assoc]

theorem relates_lowercase (hop : op.looksAtWhole = true)
    (h : op.relates actual expected = true) :
    op.relates (lowercase actual) (lowercase expected) = true := by
  cases op with
  | equals =>
    obtain rfl := beq_iff_eq.1 h
    exact beq_self_eq_true _
  | includes => exact relates_includes_lowercase h
  | dashMatch => exact relates_dashMatch_lowercase h
  | startsWith | endsWith | contains => cases hop

theorem exists_findsAt (hop : op.looksAtWhole = false) (h : op.relates actual expected = true) :
    expected.isEmpty = false ∧ ∃ front rest, op.FindsAt front rest ∧
      actual = front ++ expected ++ rest := by
  cases op with
  | equals | includes | dashMatch => cases hop
  | startsWith =>
    simp only [relates, Bool.and_eq_true, Bool.not_eq_true', List.isPrefixOf_iff_prefix] at h
    obtain ⟨hne, rest, rfl⟩ := h
    exact ⟨hne, [], rest, .startsWith rest, rfl⟩
  | endsWith =>
    simp only [relates, Bool.and_eq_true, Bool.not_eq_true', List.isSuffixOf_iff_suffix] at h
    obtain ⟨hne, front, rfl⟩ := h
    exact ⟨hne, front, [], .endsWith front, (List.append_nil _).symm⟩
  | contains =>
    simp only [relates, Bool.and_eq_true, Bool.not_eq_true', occursIn_iff] at h
    obtain ⟨hne, front, rest, rfl⟩ := h
    exact ⟨hne, front, rest, .contains front rest, rfl⟩

theorem FindsAt.relates_lowercase (h : op.FindsAt front rest) (hne : expected.isEmpty = false)
    (hkept : SigmaKept front expected rest) :
    op.relates (lowercase (front ++ expected ++ rest)) (lowercase expected) = true := by
  have hlowered : (lowercase expected).isEmpty = false := by rw [isEmpty_lowercase, hne]
  cases h with
  | startsWith =>
    simp only [relates, hlowered, Bool.not_false, Bool.true_and, List.isPrefixOf_iff_prefix]
    exact lowercase_prefix_iff.2 hkept
  | endsWith =>
    simp only [relates, hlowered, Bool.not_false, Bool.true_and, List.isSuffixOf_iff_suffix,
      List.append_nil]
    exact lowercase_suffix_iff.2 hkept
  | contains =>
    simp only [relates, hlowered, Bool.not_false, Bool.true_and, occursIn_iff]
    exact hkept.lowercase_infix

/-- At the beginning and at the end of the value the lowered text can stand at one place only. -/
theorem FindsAt.sigmaKept (h : op.FindsAt front rest) (hop : op ≠ .contains)
    (hrelates : op.relates (lowercase (front ++ expected ++ rest)) (lowercase expected) = true) :
    SigmaKept front expected rest := by
  cases h with
  | startsWith =>
    simp only [relates, Bool.and_eq_true, List.isPrefixOf_iff_prefix] at hrelates
    exact lowercase_prefix_iff.1 hrelates.2
  | endsWith =>
    simp only [relates, Bool.and_eq_true, List.isSuffixOf_iff_suffix, List.append_nil] at hrelates
    exact lowercase_suffix_iff.1 hrelates.2
  | contains => exact absurd rfl hop

end Lowercase

end AttributeOperator

/-- A value that passes a test with regard to case passes the same test without if the operator
looks at the whole value, a word or what stands before a hyphen, or if no capital sigma is expected.
Else the value passes if a place where the operator finds what is expected keeps the sigmas there;
at the beginning or at the end of the value only then. -/
theorem AttributePredicate.holds_insensitive {name expected actual : String}
    {op : AttributeOperator} {mode : CaseMode} (hmode : mode ≠ .insensitive)
    (h : (make name (.compare op expected mode)).holds (some actual) = true) :
    (op.looksAtWhole = true ∨ 'Σ' ∉ expected.toList →
      (make name (.compare op expected .insensitive)).holds (some actual) = true) ∧
    ∀ front rest, op.FindsAt front rest → actual.toList = front ++ expected.toList ++ rest →
      (SigmaKept front expected.toList rest →
        (make name (.compare op expected .insensitive)).holds (some actual) = true) ∧
      (op ≠ .contains →
        (make name (.compare op expected .insensitive)).holds (some actual) = true →
          SigmaKept front expected.toList rest) := by
  have hsensitive : op.relates actual.toList expected.toList = true := by
    cases mode with
    | insensitive => exact absurd rfl hmode
    | plain | sensitive => exact h
  have hinsensitive : (make name (.compare op expected .insensitive)).holds (some actual) =
    op.relates (lowercase actual.toList) (lowercase expected.toList) := rfl
  rw [hinsensitive]
  cases hop : op.looksAtWhole with
  | true =>
    have hlowered := AttributeOperator.relates_lowercase hop hsensitive
    refine ⟨fun _ => hlowered, ?_⟩
    intro front rest hfinds
    cases hfinds <;> cases hop
  | false =>
    obtain ⟨hne, front, rest, hfinds, hactual⟩ := AttributeOperator.exists_findsAt hop hsensitive
    refine ⟨?_, ?_⟩
    · rintro (hwhole | hsigma)
      · cases hwhole
      · rw [hactual]
        exact hfinds.relates_lowercase hne (.of_not_mem hsigma)
    · intro front rest hfinds hactual
      rw [hactual]
      exact ⟨hfinds.relates_lowercase hne, hfinds.sigmaKept⟩

/-- A sigma at the end of a word, which a value goes on behind. -/
theorem AttributePredicate.holds_insensitive_sigma :
    (make "a" (.compare .startsWith "ΑΣ" .plain)).holds (some "ΑΣΑ") = true ∧
    (make "a" (.compare .startsWith "ΑΣ" .insensitive)).holds (some "ΑΣΑ") = false ∧
    (make "a" (.compare .startsWith "ΑΣ" .plain)).holds (some "ΑΣ Α") = true ∧
    (make "a" (.compare .startsWith "ΑΣ" .insensitive)).holds (some "ΑΣ Α") = true := by
  have hspace : SigmaKept [] "ΑΣ".toList " Α".toList :=
    .of_not_meetsCased rfl (by decide +kernel)
  have hholds : (make "a" (.compare .startsWith "ΑΣ" .plain)).holds (some "ΑΣ Α") = true := by
    decide +kernel
  exact ⟨by decide +kernel, by decide +kernel, hholds,
    ((holds_insensitive (by decide) hholds).2 [] _ (.startsWith _) rfl).1 hspace⟩

end Umbra.Selector
