import Umbra.Proofs.Selector.Name
import Umbra.Selector.Basic

/-!
# Scrubbed selectors

What comes back of a selector that was written: the null characters in its names and values are
replacement characters. The names that types and attributes have are the ones that a reader takes
for names only if they look like one, so they are gathered here as well.
-/

namespace Umbra.Selector

open Text

def scrubbedText (s : String) : String := String.ofList (scrubbed s.toList)

@[simp]
theorem toList_scrubbedText (s : String) : (scrubbedText s).toList = scrubbed s.toList :=
  String.toList_ofList

/-- Folding touches neither the null character nor the replacement character. -/
theorem toLower_scrubbedChar (c : Char) : (scrubbedChar c).toLower = scrubbedChar c.toLower := by
  by_cases h0 : c = '\x00'
  · subst h0
    decide
  · have hlower : c.toLower ≠ '\x00' := by
      intro h
      rcases toLower_cases c with ⟨-, -, hc⟩ | ⟨-, hc⟩
      · rw [h] at hc
        have hnull : '\x00'.toNat = 0 := rfl
        omega
      · exact h0 (hc ▸ h)
    rw [scrubbedChar, scrubbedChar, if_neg h0, if_neg hlower]

theorem asciiLower_scrubbed (s : List Char) : asciiLower (scrubbed s) = scrubbed (asciiLower s) := by
  simp only [asciiLower, scrubbed, List.map_map]
  exact List.map_congr_left fun c _ => toLower_scrubbedChar c

theorem asciiLowered_scrubbedText (s : String) :
    asciiLowered (scrubbedText s) = scrubbedText (asciiLowered s) := by
  simp [asciiLowered, scrubbedText, asciiLower_scrubbed]

def AttributeTest.scrubbed : AttributeTest → AttributeTest
  | present => present
  | compare operator expected mode => compare operator (scrubbedText expected) mode

def AttributePredicate.scrubbed (p : AttributePredicate) : AttributePredicate :=
  ⟨scrubbedText p.name, p.test.scrubbed⟩

mutual

def SimpleSelector.scrubbed : SimpleSelector → SimpleSelector
  | .type name => .type (scrubbedText name)
  | .universal => .universal
  | .id name => .id (scrubbedText name)
  | .className name => .className (scrubbedText name)
  | .attribute predicate => .attribute predicate.scrubbed
  | .pseudo pseudoClass => .pseudo pseudoClass.scrubbed

def PseudoClass.scrubbed : PseudoClass → PseudoClass
  | .not alternatives => .not (scrubbedList alternatives)
  | .root => .root
  | .scope => .scope
  | .empty => .empty
  | .first among => .first among
  | .last among => .last among
  | .only among => .only among
  | .nth among positions => .nth among positions
  | .nthLast among positions => .nthLast among positions

def scrubbedCompound : List SimpleSelector → List SimpleSelector
  | [] => []
  | s :: rest => s.scrubbed :: scrubbedCompound rest

def ComplexSelector.scrubbed : ComplexSelector → ComplexSelector
  | .compound subject => .compound (scrubbedCompound subject)
  | .link subject combinator left => .link (scrubbedCompound subject) combinator left.scrubbed

def scrubbedList : List ComplexSelector → List ComplexSelector
  | [] => []
  | c :: rest => c.scrubbed :: scrubbedList rest

end

mutual

/-- The names of types and of attributes, at every depth. -/
def SimpleSelector.names : SimpleSelector → List String
  | .type name => [name]
  | .attribute predicate => [predicate.name]
  | .pseudo pseudoClass => pseudoClass.names
  | .universal => []
  | .id _ => []
  | .className _ => []

def PseudoClass.names : PseudoClass → List String
  | .not alternatives => listNames alternatives
  | _ => []

def compoundNames : List SimpleSelector → List String
  | [] => []
  | s :: rest => s.names ++ compoundNames rest

def ComplexSelector.names : ComplexSelector → List String
  | .compound subject => compoundNames subject
  | .link subject _ left => left.names ++ compoundNames subject

def listNames : List ComplexSelector → List String
  | [] => []
  | c :: rest => c.names ++ listNames rest

end

/-! ## Selectors without null characters -/

def AttributePredicate.texts (p : AttributePredicate) : List String :=
  match p.test with
  | .present => [p.name]
  | .compare _ expected _ => [p.name, expected]

mutual

/-- All names and all values of attributes, at every depth. -/
def SimpleSelector.texts : SimpleSelector → List String
  | .type name => [name]
  | .universal => []
  | .id name => [name]
  | .className name => [name]
  | .attribute predicate => predicate.texts
  | .pseudo pseudoClass => pseudoClass.texts

def PseudoClass.texts : PseudoClass → List String
  | .not alternatives => listTexts alternatives
  | _ => []

def compoundTexts : List SimpleSelector → List String
  | [] => []
  | s :: rest => s.texts ++ compoundTexts rest

def ComplexSelector.texts : ComplexSelector → List String
  | .compound subject => compoundTexts subject
  | .link subject _ left => left.texts ++ compoundTexts subject

def listTexts : List ComplexSelector → List String
  | [] => []
  | c :: rest => c.texts ++ listTexts rest

end

/-- There is no null character in any of the texts. -/
def NullFree (texts : List String) : Prop := ∀ text ∈ texts, '\x00' ∉ text.toList

theorem NullFree.append_iff {texts texts' : List String} :
    NullFree (texts ++ texts') ↔ NullFree texts ∧ NullFree texts' :=
  List.forall_mem_append

theorem scrubbedText_eq {text : String} (h : '\x00' ∉ text.toList) : scrubbedText text = text := by
  rw [scrubbedText, scrubbed_eq_iff.2 h, String.ofList_toList]

theorem AttributePredicate.scrubbed_eq {p : AttributePredicate} (h : NullFree p.texts) :
    p.scrubbed = p := by
  obtain ⟨name, test⟩ := p
  cases test with
  | present =>
    rw [scrubbed, AttributeTest.scrubbed, scrubbedText_eq (h name (List.mem_singleton_self name))]
  | compare operator expected mode =>
    obtain ⟨hname, hexpected⟩ := List.forall_mem_cons.1 h
    rw [scrubbed, AttributeTest.scrubbed, scrubbedText_eq hname,
      scrubbedText_eq (hexpected expected (List.mem_singleton_self expected))]

mutual

theorem SimpleSelector.scrubbed_eq : (s : SimpleSelector) → NullFree s.texts → s.scrubbed = s
  | .type name, h | .id name, h | .className name, h => by
    rw [SimpleSelector.scrubbed, scrubbedText_eq (h name (List.mem_singleton_self name))]
  | .universal, _ => rfl
  | .attribute predicate, h => by rw [SimpleSelector.scrubbed, predicate.scrubbed_eq h]
  | .pseudo p, h => by rw [SimpleSelector.scrubbed, PseudoClass.scrubbed_eq p h]

theorem PseudoClass.scrubbed_eq : (p : PseudoClass) → NullFree p.texts → p.scrubbed = p
  | .not alternatives, h => by rw [PseudoClass.scrubbed, scrubbedList_eq alternatives h]
  | .root, _ | .scope, _ | .empty, _ => rfl
  | .first _, _ | .last _, _ | .only _, _ => rfl
  | .nth _ _, _ | .nthLast _ _, _ => rfl

theorem scrubbedCompound_eq : (c : List SimpleSelector) → NullFree (compoundTexts c) →
    scrubbedCompound c = c
  | [], _ => rfl
  | s :: rest, h => by
    obtain ⟨hs, hrest⟩ := NullFree.append_iff.1 h
    rw [scrubbedCompound, SimpleSelector.scrubbed_eq s hs, scrubbedCompound_eq rest hrest]

theorem ComplexSelector.scrubbed_eq : (c : ComplexSelector) → NullFree c.texts → c.scrubbed = c
  | .compound subject, h => by rw [ComplexSelector.scrubbed, scrubbedCompound_eq subject h]
  | .link subject _ left, h => by
    obtain ⟨hleft, hsubject⟩ := NullFree.append_iff.1 h
    rw [ComplexSelector.scrubbed, ComplexSelector.scrubbed_eq left hleft,
      scrubbedCompound_eq subject hsubject]

theorem scrubbedList_eq : (alternatives : List ComplexSelector) →
    NullFree (listTexts alternatives) → scrubbedList alternatives = alternatives
  | [], _ => rfl
  | c :: rest, h => by
    obtain ⟨hc, hrest⟩ := NullFree.append_iff.1 h
    rw [scrubbedList, ComplexSelector.scrubbed_eq c hc, scrubbedList_eq rest hrest]

end

end Umbra.Selector
