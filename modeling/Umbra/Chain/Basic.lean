import Umbra.Chain.Part
import Umbra.Options
import Umbra.TextPattern
import Umbra.Selector.Reader
import Umbra.Selector.Writer

/-! Chains that have been read, ready to be run, and how they are written. -/

namespace Umbra

variable [RegexLibrary]

inductive Clause where
  | css (alternatives : Selector.SelectorList)
  | text (pattern : TextPattern)

namespace Clause

/-- Reads a clause that stands at a byte offset of a longer text. Places in a selector are counted
from the start of that text, places in a text pattern from the start of the clause. -/
def parse (engine : Engine) (options : Options) (offset : Nat) (s : List Char) :
    Except (SyntaxError Nat) Clause :=
  if engine.isText then ((TextPattern.parse s).at 0 s).map .text
  else ((Selector.readSelectorList options.allows s).at offset s).map .css

def write : Clause → List Char
  | css alternatives => Selector.writeList alternatives
  | text pattern => pattern.write

end Clause

/-- One step of a chain. -/
structure Stage where
  engine : Engine
  clause : Clause
  captured : Bool

def Stage.ofPart (options : Options) (p : Part) : Except (SyntaxError Nat) Stage := do
  let clause ← Clause.parse p.engine options p.offset p.clause.toList
  return ⟨p.engine, clause, p.captured⟩

def Stage.write (s : Stage) : List Char :=
  (if s.captured then ['*'] else []) ++ s.engine.name.toList ++ '=' :: s.clause.write

structure Chain where
  stages : List Stage

namespace Chain

/-- Reads a chain. It is cut into parts before the first of them is read. -/
def parse (options : Options) (s : List Char) : Except (SyntaxError Nat) Chain := do
  let parts ← Part.split options.defaultEngine s
  let stages ← parts.mapM (Stage.ofPart options)
  return ⟨stages⟩

def write (c : Chain) : List Char := [' ', '>', '>', ' '].intercalate (c.stages.map Stage.write)

/-- The place of the stage whose matches are the answer: the captured one, or else the last. -/
def answerIndex (c : Chain) : Nat :=
  (c.stages.findIdx? Stage.captured).getD (c.stages.length - 1)

end Chain

end Umbra
