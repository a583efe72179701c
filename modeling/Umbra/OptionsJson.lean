import Umbra.Dom.SnapshotJson
import Umbra.Options

/-!
The JSON form of options: an object of two fields, or an array of their values in order. What is
missing has its default, and other fields are passed over.
-/

namespace Umbra

open Selector (PseudoClassName)

/-- A name alone, or an object that gives the name the value null. -/
def Json.name? (j : Json) : Option String :=
  j.caseName? fun
    | .null => true
    | _ => false

def Engine.ofJson? (j : Json) : Option Engine := j.name?.bind ofName?

def Selector.PseudoClassName.ofJson? (j : Json) : Option PseudoClassName := j.name?.bind ofText?

namespace Options

def pseudoClassesOfJson? : Json → Option (List PseudoClassName)
  | .array items => items.mapM PseudoClassName.ofJson?
  | _ => none

/-- The options from the values of their fields. -/
def ofFields? : List (Option Json) → Option Options
  | [engine, names] => do
    let engine ← match engine with
      | none => some default.defaultEngine
      | some j => Engine.ofJson? j
    let names ← match names with
      | none => some default.pseudoClasses
      | some j => pseudoClassesOfJson? j
    return ofPseudoClasses engine names
  | _ => none

def ofJson? : Json → Option Options
  | .object members => do
    if members.all fun m => m.1.isSome then
      ofFields? (← fieldsOfMembers? ["defaultEngine", "pseudoClasses"] members)
    else none
  | .array items => do ofFields? (← fieldsOfItems? 2 items)
  | _ => none

/-- Values that are passed over may be nested as deep as the text has characters. -/
def parse? (text : String) : Option Options :=
  (Json.read? false text.length text).bind ofJson?

def toJson (o : Options) : Json :=
  .object [(some "defaultEngine", .string (some o.defaultEngine.name)),
    (some "pseudoClasses", .array (o.pseudoClasses.map fun n => .string (some n.text)))]

end Options

end Umbra
