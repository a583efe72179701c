import Umbra.Proofs.Chain.Joined
import Umbra.Proofs.Chain.Undivided
import Umbra.Proofs.Selector.Unpadding

/-!
# Chains of one clause

Behind the name of its engine, a selector list is read as it is read by itself. But a part of a chain
is trimmed of white space as Unicode has it, which can be the end of an escape or a character of a
name. And a bare quote may open for the cut what it does not open for the readers, so that the part
ends at a separator within quotes.
-/

namespace Umbra

open Selector Text

/-- What the ends of a text are trimmed of is white space between tokens, and none of it escaped. -/
def TrimsSpaces (s : List Char) : Prop :=
  ∃ left right, s = left ++ trim s ++ right ∧ Spaces left ∧ Spaces right ∧ Whole (trim s)

namespace Part

theorem readHead_css (s : List Char) :
    readHead ("css=".toList ++ s) = ⟨false, some "css".toList, trimStart s⟩ := by
  have hname : readEngineName? ("css=".toList ++ s) = some ("css".toList, s) :=
    readEngineName?_name .css s
  have htrim : trimStart ("css=".toList ++ s) = "css=".toList ++ s := rfl
  have hstar (t : List Char) (ht : "css=".toList ++ s = '*' :: t) : readEngineName? t = none := by
    cases ht
  rw [readHead_unmarked (htrim ▸ hstar), htrim, hname]

theorem cutFirst_css (defaultEngine : Engine) {s : List Char}
    (h : findTopLevel separator s = .ok none) :
    cutFirst defaultEngine ("css=".toList ++ s) = .ok none := by
  have htext : ¬ ReadAsText defaultEngine ("css=".toList ++ s) := by
    rw [ReadAsText, readHead_css]
    exact Bool.false_ne_true
  have hname : Balanced false "css=".toList := .of_all rfl
  have hpass : Passes separator [] false := Or.inr (Or.inr rfl)
  rw [cutFirst_of_not_text htext, findTopLevel, findFrom_balanced hname hpass, ← findTopLevel, h]
  rfl

/-- A clause without separators is the one part of a chain. -/
theorem split_css (defaultEngine : Engine) {s : List Char} (hne : trim s ≠ [])
    (h : findTopLevel separator s = .ok none) : split defaultEngine ("css=".toList ++ s) =
      .ok [⟨.css, String.ofList (trim s), Text.offset ("css=".toList ++ s) (trimStart s), false⟩] := by
  have hblank : (trim ("css=".toList ++ s)).isEmpty = false := trim_ne_nil (by decide)
  have hcut := cutFirst_css defaultEngine h
  refine split_eq_ok.2 ⟨hblank, readAll_eq_ok.2 (.last hcut ?_), Nat.zero_le 1⟩
  rw [ofSegment_eq_ok, readHead_css, List.append_nil]
  exact ⟨rfl, hne, rfl, rfl, rfl⟩

end Part

namespace Chain

theorem readSelectorList_nil (allows : PseudoClassName → Bool) :
    readSelectorList allows [] = .error (.unexpectedEnd .selector) := by
  with_unfolding_all rfl

/-- Behind the name of its engine a selector list is read alike, in a part of its own. No white space
may be trimmed that belongs to a name or an escape, and there are no bare quotes or no separators. -/
theorem parse_css [RegexLibrary] {o : Options} {s : List Char} {alternatives : SelectorList}
    (h : readSelectorList o.allows s = .ok alternatives) (hends : TrimsSpaces s)
    (hquotes : bareList o.allows s = false ∨ ¬ Part.separator <:+: s) :
    Chain.parse o ("css=".toList ++ s) = .ok ⟨[⟨.css, .css alternatives, false⟩]⟩ := by
  obtain ⟨left, right, hs, hleft, hright, hwhole⟩ := hends
  have hclause : readSelectorList o.allows (trim s) = .ok alternatives :=
    readSelectorList_unpadded hleft hright hwhole (hs ▸ h)
  have hne : trim s ≠ [] := by
    intro hnil
    rw [hnil, readSelectorList_nil] at hclause
    cases hclause
  have hsplit := Part.split_css o.defaultEngine hne (findTopLevel_separator h hquotes)
  have hstage (offset : Nat) : Stage.ofPart o ⟨.css, String.ofList (trim s), offset, false⟩ =
      .ok ⟨.css, .css alternatives, false⟩ := by
    refine bind_eq_ok.2 ⟨.css alternatives, ?_, rfl⟩
    rw [Clause.parse, if_neg (by simp [Engine.isText]), String.toList_ofList,
      Read.at_eq_ok.2 hclause]
    rfl
  exact bind_eq_ok.2 ⟨_, hsplit, bind_eq_ok.2 ⟨_, mapM_eq_ok.2 (.cons (hstage _) .nil), rfl⟩⟩

/-- The separator is quoted, and the space at the end belongs to an escape by code point. -/
theorem parse_css_trimmed :
    Chain.parse .default ("css=".toList ++ " [a='>>'].\\31 ".toList) =
      .ok ⟨[⟨.css, .css [.compound [.attribute ⟨"a", .compare .equals ">>" .plain⟩,
        .className "1"]], false⟩]⟩ := by
  have htrim : trim " [a='>>'].\\31 ".toList =
      ['[', 'a', '=', '\'', '>', '>', '\'', ']', '.'] ++ ['\\', '3', '1'] := by decide +kernel
  have hwhole : Whole (trim " [a='>>'].\\31 ".toList) := by
    rw [htrim]
    exact .append (.of_forall (by simp)) (.escape (.plain (by decide) .nil))
  have hspace : Spaces [' '] := List.forall_mem_singleton.2 rfl
  refine parse_css (by with_unfolding_all rfl) ⟨[' '], [' '], ?_, hspace, hspace, hwhole⟩ (Or.inl (by decide +kernel))
  rw [htrim]
  rfl

/-- The space at the end is escaped, and the one at the start is a character of the name. -/
example : Chain.parse .default "css=.a\\ ".toList = .error (.unexpectedCharacter '\\' 6) ∧
    Chain.parse .default "css=\u3000a".toList =
      .ok ⟨[⟨.css, .css [.compound [.type "a"]], false⟩]⟩ :=
  ⟨by with_unfolding_all rfl, by with_unfolding_all rfl⟩

end Chain

end Umbra
