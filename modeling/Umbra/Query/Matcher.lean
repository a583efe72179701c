import Umbra.Dom.Walk
import Umbra.Chain.Basic

/-!
Which elements a clause selects below a scope. Candidates are the nodes below the scope, and a
combinator leads up to the scope but never past it.

With piercing, what lies in an open shadow root counts as lying in its host. Pseudo-classes look at
the true siblings of an element, wherever the scope is.
-/

namespace Umbra

open Selector

/-- The elements of a list up to the first `last`, which is among them. -/
def through (last : NodeId) : List NodeId → List NodeId
  | [] => []
  | id :: rest => if id = last then [id] else id :: through last rest

/-- The place of an element among those that are counted. -/
def placeBehind (counted : List NodeId) : Int32 := 1 + Int32.ofNat counted.length

namespace Dom

/-- Whether `other` is counted among the siblings of `id`. -/
def counts (d : Dom) (among : Siblings) (id other : NodeId) : Bool :=
  match among with
  | .all => true
  | .sameType =>
    match d.tag? other, d.tag? id with
    | some s, some t => Text.asciiEqual s t
    | _, _ => false

def countedBefore (d : Dom) (among : Siblings) (id : NodeId) : List NodeId :=
  (d.prevElements id).filter (d.counts among id)

def countedAfter (d : Dom) (among : Siblings) (id : NodeId) : List NodeId :=
  (d.nextElements id).filter (d.counts among id)

/-- Whether a node keeps its parent from being empty: an element, or a text that is not blank. -/
def fills (d : Dom) (id : NodeId) : Bool :=
  d.isElement id || (d.text? id).any fun t => !t.toList.all Text.isBlank

end Dom

structure Matcher where
  dom : Dom
  scope : NodeId
  pierce : Bool

namespace Matcher

/-- The parent that a combinator leads to. -/
def parent? (m : Matcher) (id : NodeId) : Option NodeId :=
  if id = m.scope then none
  else
    match m.dom.parent? id with
    | none => none
    | some p =>
      if p ≠ m.scope ∧ m.dom.isShadowRoot p then
        if m.pierce then m.dom.host? p else none
      else some p

def ancestors (m : Matcher) (id : NodeId) : List NodeId :=
  follow m.parent? m.dom.size (m.parent? id)

/-- The elements before a node that a combinator leads to, nearest first. -/
def prevElements (m : Matcher) (id : NodeId) : List NodeId :=
  if id = m.scope then [] else through m.scope (m.dom.prevElements id)

/-- The nodes that a combinator leads to from the element on its right. -/
def related (m : Matcher) (id : NodeId) : Combinator → List NodeId
  | .descendant => m.ancestors id
  | .child => (m.parent? id).toList
  | .nextSibling => (m.prevElements id).head?.toList
  | .subsequentSibling => m.prevElements id

def isRoot (m : Matcher) (id : NodeId) : Bool := (m.dom.parent? id).any m.dom.isDocument

/-- With the document as the scope, its children are meant. -/
def isScope (m : Matcher) (id : NodeId) : Bool :=
  id == m.scope || (m.dom.isDocument m.scope && m.dom.parent? id == some m.scope)

def isEmpty (m : Matcher) (id : NodeId) : Bool := !(m.dom.linkedChildren id).any m.dom.fills

def hasClass (m : Matcher) (id : NodeId) (name : String) : Bool :=
  (m.dom.attribute? id "class").any fun value =>
    (Text.words value.toList).contains name.toList

mutual

def holdsSimple (m : Matcher) : SimpleSelector → NodeId → Bool
  | .type name, id => (m.dom.tag? id).any fun tag => Text.asciiEqual tag name
  | .universal, _ => true
  | .id name, id => m.dom.attribute? id "id" == some name
  | .className name, id => m.hasClass id name
  | .attribute predicate, id => predicate.holds (m.dom.attribute? id predicate.name)
  | .pseudo pseudoClass, id => m.holdsPseudo pseudoClass id

def holdsPseudo (m : Matcher) : PseudoClass → NodeId → Bool
  | .root, id => m.isRoot id
  | .scope, id => m.isScope id
  | .empty, id => m.isEmpty id
  | .first among, id => (m.dom.countedBefore among id).isEmpty
  | .last among, id => (m.dom.countedAfter among id).isEmpty
  | .only among, id =>
    (m.dom.countedBefore among id).isEmpty && (m.dom.countedAfter among id).isEmpty
  | .nth among positions, id => positions.holds (placeBehind (m.dom.countedBefore among id))
  | .nthLast among positions, id => positions.holds (placeBehind (m.dom.countedAfter among id))
  | .not alternatives, id => !m.holdsAny alternatives id

def holdsEvery (m : Matcher) : List SimpleSelector → NodeId → Bool
  | [], _ => true
  | s :: rest, id => m.holdsSimple s id && m.holdsEvery rest id

/-- Whether a node is an element that satisfies the subject of a selector and from which its
combinators lead on. -/
def holds (m : Matcher) : ComplexSelector → NodeId → Bool
  | .compound subject, id => m.dom.isElement id && m.holdsEvery subject id
  | .link subject combinator left, id =>
    m.dom.isElement id && m.holdsEvery subject id &&
      (m.related id combinator).any fun next => m.holds left next

def holdsAny (m : Matcher) : List ComplexSelector → NodeId → Bool
  | [], _ => false
  | c :: rest, id => m.holds c id || m.holdsAny rest id

end

def holdsClause [RegexLibrary] (m : Matcher) (id : NodeId) : Clause → Bool
  | .css alternatives => m.holdsAny alternatives id
  | .text pattern => pattern.fits (m.dom.ownText id)

/-- The elements below the scope that a clause selects, in the order of the walk. -/
def select [RegexLibrary] (m : Matcher) (clause : Clause) : List NodeId :=
  (m.dom.descendants m.pierce m.scope).filter fun id =>
    m.dom.isElement id && m.holdsClause id clause

end Matcher

end Umbra
