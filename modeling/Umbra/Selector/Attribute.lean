import Umbra.Text.Blank
import Umbra.Text.Search
import Umbra.Text.Casing.Lowercase
import Umbra.Selector.Name

/-! Tests on the attributes of an element, as they stand between square brackets. -/

namespace Umbra.Selector

inductive AttributeOperator where
  | equals
  | includes
  | dashMatch
  | startsWith
  | endsWith
  | contains
  deriving DecidableEq

namespace AttributeOperator

def all : List AttributeOperator := [equals, includes, dashMatch, startsWith, endsWith, contains]

/-- The character before the equals sign, where there is one. -/
def mark? : AttributeOperator → Option Char
  | equals => none
  | includes => some '~'
  | dashMatch => some '|'
  | startsWith => some '^'
  | endsWith => some '$'
  | contains => some '*'

def ofMark? (c : Char) : Option AttributeOperator := all.find? fun op => op.mark? = some c

def write (op : AttributeOperator) : List Char := op.mark?.toList ++ ['=']

/-- Whether an attribute's value stands in the relation to the expected value. Except for equality
and the dash match, an empty expected value is never found. -/
def relates (op : AttributeOperator) (actual expected : List Char) : Bool :=
  match op with
  | equals => actual == expected
  | includes =>
    !expected.isEmpty && !expected.any Text.isBlank && (Text.words actual).contains expected
  | dashMatch => actual == expected || (expected ++ ['-']).isPrefixOf actual
  | startsWith => !expected.isEmpty && expected.isPrefixOf actual
  | endsWith => !expected.isEmpty && expected.isSuffixOf actual
  | contains => !expected.isEmpty && Text.occursIn expected actual

end AttributeOperator

/-- What is written behind the value: nothing, `i` or `s`. -/
inductive CaseMode where
  | plain
  | insensitive
  | sensitive
  deriving DecidableEq

def CaseMode.write : CaseMode → List Char
  | plain => []
  | insensitive => [' ', 'i']
  | sensitive => [' ', 's']

def CaseMode.ofModifier? (modifier : List Char) : Option CaseMode :=
  if modifier = ['i'] || modifier = ['I'] then some insensitive
  else if modifier = ['s'] || modifier = ['S'] then some sensitive
  else none

inductive AttributeTest where
  | present
  | compare (operator : AttributeOperator) (expected : String) (mode : CaseMode)
  deriving DecidableEq

structure AttributePredicate where
  name : String
  test : AttributeTest
  deriving DecidableEq

namespace AttributePredicate

/-- The name is kept in ASCII lower case. -/
def make (name : String) (test : AttributeTest) : AttributePredicate :=
  ⟨Text.asciiLowered name, test⟩

/-- Tests the value of the named attribute; a missing attribute passes no test. -/
def holds (p : AttributePredicate) : Option String → Bool
  | none => false
  | some actual =>
    match p.test with
    | .present => true
    | .compare operator expected .insensitive =>
      operator.relates (Text.lowercase actual.toList) (Text.lowercase expected.toList)
    | .compare operator expected _ => operator.relates actual.toList expected.toList

def write (p : AttributePredicate) : List Char :=
  '[' :: writeName p.name.toList ++
    (match p.test with
      | .present => []
      | .compare operator expected mode =>
        operator.write ++ writeString expected.toList ++ mode.write) ++ [']']

end AttributePredicate

end Umbra.Selector
