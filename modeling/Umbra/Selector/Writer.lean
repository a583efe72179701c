import Umbra.Selector.Basic

/-! The written form of selectors. -/

namespace Umbra.Selector

def Combinator.write : Combinator → List Char
  | .descendant => [' ']
  | .child => [' ', '>', ' ']
  | .nextSibling => [' ', '+', ' ']
  | .subsequentSibling => [' ', '~', ' ']

mutual

def SimpleSelector.write : SimpleSelector → List Char
  | .type name => writeName name.toList
  | .universal => ['*']
  | .id name => '#' :: writeName name.toList
  | .className name => '.' :: writeName name.toList
  | .attribute predicate => predicate.write
  | .pseudo pseudoClass => ':' :: pseudoClass.write

def PseudoClass.write : PseudoClass → List Char
  | .nth among positions =>
    (PseudoClassName.nth among).text.toList ++ '(' :: positions.write ++ [')']
  | .nthLast among positions =>
    (PseudoClassName.nthLast among).text.toList ++ '(' :: positions.write ++ [')']
  | .not alternatives => PseudoClassName.not.text.toList ++ '(' :: writeList alternatives ++ [')']
  | .root => PseudoClassName.root.text.toList
  | .scope => PseudoClassName.scope.text.toList
  | .empty => PseudoClassName.empty.text.toList
  | .first among => (PseudoClassName.first among).text.toList
  | .last among => (PseudoClassName.last among).text.toList
  | .only among => (PseudoClassName.only among).text.toList

def writeCompound : List SimpleSelector → List Char
  | [] => []
  | s :: rest => s.write ++ writeCompound rest

def ComplexSelector.write : ComplexSelector → List Char
  | .compound subject => writeCompound subject
  | .link subject combinator left => left.write ++ combinator.write ++ writeCompound subject

def writeList : List ComplexSelector → List Char
  | [] => []
  | [c] => c.write
  | c :: rest => c.write ++ [',', ' '] ++ writeList rest

end

end Umbra.Selector
