import Umbra.Query.Matcher
import Umbra.Query.DocumentOrder

/-!
Running a chain. The first stage starts from the root, every later one from what the stage before
it selected, and the answer is what the captured stage selected.
-/

namespace Umbra

variable [RegexLibrary]

def Stage.select (s : Stage) (d : Dom) (context : NodeId) : List NodeId :=
  (Matcher.mk d context s.engine.piercesShadow).select s.clause

/-- What a stage selects from several contexts. From a single context it is in document order
already. -/
def Stage.selectAll (s : Stage) (d : Dom) (root : NodeId) : List NodeId → List NodeId
  | [context] => s.select d context
  | contexts => (DocumentOrder.ofDom d root).merge (contexts.map (s.select d))

/-- What each stage selects, from the given contexts on. -/
def Stage.selections (d : Dom) (root : NodeId) : List Stage → List NodeId → List (List NodeId)
  | [], _ => []
  | s :: rest, contexts =>
    let selected := s.selectAll d root contexts
    selected :: selections d root rest selected

namespace Chain

/-- Everything that a chain selects below the root, in document order. -/
def selectAll (c : Chain) (d : Dom) (root : NodeId) : List NodeId :=
  (Stage.selections d root c.stages [root])[c.answerIndex]?.getD []

def selectFirst? (c : Chain) (d : Dom) (root : NodeId) : Option NodeId :=
  (c.selectAll d root).head?

end Chain

end Umbra
