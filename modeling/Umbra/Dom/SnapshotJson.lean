import Umbra.Json.Reader
import Umbra.Dom.Snapshot

/-!
The JSON form of snapshots. A node is an object whose `type` names its kind, or an array that
starts with the kind and gives the fields in order; fields that may be missing have their defaults,
and fields that no such node has are passed over. A field that the node has may stand only once.
-/

namespace Umbra

namespace Json

/-- The value of a field: `none` when it stands more than once, `some none` when it is missing. -/
def field? (name : String) (members : List (Option String × Json)) : Option (Option Json) :=
  match members.filter fun m => m.1 = some name with
  | [] => some none
  | [m] => some (some m.2)
  | _ => none

def text? : Json → Option String
  | .string text => text
  | _ => none

/-- The name of a case that carries nothing, written alone or with a value that says so. -/
def caseName? (carriesNothing : Json → Bool) : Json → Option String
  | .string name => name
  | .object [(name, value)] => if carriesNothing value then name else none
  | _ => none

end Json

inductive SnapshotKind where
  | document
  | element
  | text
  | comment

namespace SnapshotKind

def name : SnapshotKind → String
  | .document => "document"
  | .element => "element"
  | .text => "text"
  | .comment => "comment"

def all : List SnapshotKind := [.document, .element, .text, .comment]

def ofName? (name : String) : Option SnapshotKind := all.find? fun k => k.name = name

/-- Below the top a kind may also be given by its number. -/
def ofJson? (top : Bool) : Json → Option SnapshotKind
  | .string name => name.bind ofName?
  | .number n => if top then none else n.natural?.bind fun i => all[i]?
  | _ => none

def fields : SnapshotKind → List String
  | .document => ["children"]
  | .element => ["tagName", "attributes", "children", "shadowRoot"]
  | .text => ["content"]
  | .comment => ["content"]

end SnapshotKind

/-- The values of the named fields, from an object's members. -/
def fieldsOfMembers? (names : List String) (members : List (Option String × Json)) :
    Option (List (Option Json)) :=
  names.mapM fun name => Json.field? name members

/-- The values of fields that are given in order; the last ones may be missing. -/
def fieldsOfItems? (count : Nat) (items : List Json) : Option (List (Option Json)) :=
  if items.length ≤ count then
    some (items.map some ++ List.replicate (count - items.length) none)
  else none

def Attributes.ofJson? : Option Json → Option Attributes
  | none => some .empty
  | some (.object members) =>
    members.foldlM (fun as (name, value) => do return as.set (← name) (← value.text?)) .empty
  | some _ => none

def ShadowMode.ofJson? : Option Json → Option ShadowMode
  | none => some .opened
  | some j =>
    (j.caseName? fun
      | .null => true
      | .object [] => true
      | _ => false).bind ShadowMode.ofName?

def Snapshot.listOfJson? (node : Json → Option Snapshot) : Option Json → Option (List Snapshot)
  | none => some []
  | some (.array items) => items.mapM node
  | some _ => none

def ShadowSnapshot.ofJson? (node : Json → Option Snapshot) :
    Option Json → Option ShadowSnapshot
  | none => some .absent
  | some .null => some .absent
  | some (.object members) => do attach (← fieldsOfMembers? ["mode", "children"] members)
  | some (.array items) => do attach (← fieldsOfItems? 2 items)
  | some _ => none
where
  attach : List (Option Json) → Option ShadowSnapshot
    | [mode, children] => do
      return .attached (← ShadowMode.ofJson? mode) (← Snapshot.listOfJson? node children)
    | _ => none

/-- A node of the given kind from the values of its fields. -/
def Snapshot.ofFields? (node : Json → Option Snapshot) :
    SnapshotKind → List (Option Json) → Option Snapshot
  | .document, [children] => do return .document (← listOfJson? node children)
  | .element, [tag, attributes, children, shadow] => do
    return .element (← (← tag).text?) (← Attributes.ofJson? attributes)
      (← ShadowSnapshot.ofJson? node shadow) (← listOfJson? node children)
  | .text, [content] => do return .text (← (← content).text?)
  | .comment, [content] => do return .comment (← (← content).text?)
  | _, _ => none

/-- Reads a node in which values are nested at most `depth` deep. -/
def Snapshot.ofJson? (top : Bool) : Nat → Json → Option Snapshot
  | 0, _ => none
  | depth + 1, .object members => do
    let kind ← SnapshotKind.ofJson? top (← (← Json.field? "type" members))
    ofFields? (ofJson? false depth) kind (← fieldsOfMembers? kind.fields members)
  | depth + 1, .array (first :: items) => do
    let kind ← SnapshotKind.ofJson? top first
    ofFields? (ofJson? false depth) kind (← fieldsOfItems? kind.fields.length items)
  | _ + 1, _ => none

/-- How deep the arrays and objects of a snapshot may be nested. -/
def Snapshot.nestingLimit : Nat := 127

def Snapshot.parse? (text : String) : Option Snapshot :=
  (Json.read? true nestingLimit text).bind (ofJson? true nestingLimit)

def Dom.ofText (text : String) (orders : MapOrders := .byName) : Except LoadError Dom :=
  match Snapshot.parse? text with
  | some s => s.load orders
  | none => .error .malformed

mutual

/-- Every field is written, but for the shadow root that an element does not have. -/
def Snapshot.toJson : Snapshot → Json
  | .document children => node .document [("children", .array (listToJson children))]
  | .element tag attributes shadow children =>
    node .element <|
      [("tagName", text tag),
        ("attributes", .object (attributes.entries.map fun (n, v) => (some n, text v))),
        ("children", .array (listToJson children))] ++ shadow.toMembers
  | .text content => node .text [("content", text content)]
  | .comment content => node .comment [("content", text content)]
where
  text (s : String) : Json := .string (some s)
  node (kind : SnapshotKind) (members : List (String × Json)) : Json :=
    .object ((some "type", text kind.name) :: members.map fun (n, v) => (some n, v))

def ShadowSnapshot.toMembers : ShadowSnapshot → List (String × Json)
  | .absent => []
  | .attached mode children =>
    [("shadowRoot", .object [(some "mode", .string (some mode.name)),
      (some "children", .array (listToJson children))])]

def listToJson : List Snapshot → List Json
  | [] => []
  | s :: rest => s.toJson :: listToJson rest

end

end Umbra
