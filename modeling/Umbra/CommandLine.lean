import Umbra.Dom.Path
import Umbra.Json.Pretty
import Umbra.OptionsJson
import Umbra.Query.Answer
import Umbra.Regex.Library

/-!
The command line: a selector is run on a snapshot, and what it selects is printed. What is printed
depends only on the arguments, on the files they name, and on the orders in which the maps of the
document are gone through, so `run` is a function of these.
-/

namespace Umbra.CommandLine

structure Arguments where
  snapshot : String
  selector : String
  /-- Whether every match is printed, or only the first. -/
  all : Bool := false
  /-- Whether matches are printed as JSON. -/
  json : Bool := false
  /-- The selector whose first match is the root of the query. -/
  scope : Option String := none
  config : Option String := none

/-- What a file holds, or why it cannot be read. -/
abbrev Content := Except String String

structure Outcome where
  code : Nat
  out : String
  err : String

/-- What a file is read for. -/
inductive FileRole where
  | snapshot
  | config

def FileRole.noun : FileRole → String
  | .snapshot => "snapshot"
  | .config => "config"

/-- What a selector is run for. -/
inductive SelectorRole where
  | query
  | scope

def SelectorRole.noun : SelectorRole → String
  | .query => "selector"
  | .scope => "scope selector"

inductive Failure where
  | unreadable (role : FileRole) (path cause : String)
  | invalid (role : FileRole) (path : String) (cause : Option String)
  | selector (role : SelectorRole) (text : String) (error : SyntaxError Nat)
  | noScope (scope : String)

/-! ## Arguments -/

/-- The value of an option that is given in the same argument, behind an equals sign. -/
def valueOf? (name argument : String) : Option String :=
  let start := name.toList ++ ['=']
  if start.isPrefixOf argument.toList then
    some (String.ofList (argument.toList.drop start.length))
  else none

/-- The arguments without options, the last one first: the selector and the snapshot. -/
def Arguments.complete? (a : Arguments) : List String → Option Arguments
  | [selector, snapshot] => some { a with snapshot, selector }
  | _ => none

/-- Reads the arguments: options in any order, and between or behind them the snapshot and the
selector. Behind two hyphens there are no options. -/
def readArguments (a : Arguments) (plain : List String) : List String → Option Arguments
  | [] => a.complete? plain
  | "--" :: rest => a.complete? (rest.reverse ++ plain)
  | "--all" :: rest => readArguments { a with all := true } plain rest
  | "-a" :: rest => readArguments { a with all := true } plain rest
  | "--json" :: rest => readArguments { a with json := true } plain rest
  | "--scope" :: scope :: rest => readArguments { a with scope := some scope } plain rest
  | "--config" :: path :: rest => readArguments { a with config := some path } plain rest
  | argument :: rest =>
    match valueOf? "--scope" argument, valueOf? "--config" argument with
    | some scope, _ => readArguments { a with scope := some scope } plain rest
    | none, some path => readArguments { a with config := some path } plain rest
    | none, none =>
      if argument.toList.head? = some '-' ∧ argument ≠ "-" then none
      else readArguments a (argument :: plain) rest

def Arguments.parse? (arguments : List String) : Option Arguments :=
  readArguments { snapshot := "", selector := "" } [] arguments

/-! ## Printing -/

/-- Text between two terminal codes. -/
def styled (on off : Nat) (text : String) : String :=
  "\x1b[" ++ toString on ++ "m" ++ text ++ "\x1b[" ++ toString off ++ "m"

def bold (text : String) : String := styled 1 0 text

def dimmed (text : String) : String := styled 2 0 text

def red (text : String) : String := styled 31 39 text

def green (text : String) : String := styled 32 39 text

def cyan (text : String) : String := styled 36 39 text

/-- The opening tag of an element, with its attributes by name. An attribute without a value is its
name alone. -/
def startTag (d : Dom) (id : NodeId) : String :=
  match d.element? id with
  | none => ""
  | some (tag, attributes) =>
    "<" ++ tag ++ String.join (attributes.sorted.entries.map fun (name, value) =>
      if value.isEmpty then " " ++ name else " " ++ name ++ "=\"" ++ value ++ "\"") ++ ">"

/-- A match over two or three lines: its number and path, its opening tag, and its text. -/
def printMatch (d : Dom) (index : Nat) (id : NodeId) : String :=
  let text := Text.collapse (d.textContent id).toList
  dimmed ("[" ++ toString index ++ "]") ++ " " ++ d.path id ++ "\n" ++
    "    " ++ cyan (startTag d id) ++ "\n" ++
    if text.isEmpty then "" else "    " ++ green ("\"" ++ String.ofList text ++ "\"") ++ "\n"

def printMatches (d : Dom) (ids : List NodeId) : String :=
  String.join (ids.mapIdx (printMatch d))

def printJson (d : Dom) (ids : List NodeId) : String :=
  String.ofList ((Json.array (ids.map fun id => (d.snapshot id).toJson)).pretty 0) ++ "\n"

/-- An error message with the cause below it, every line of the cause indented. -/
def report (message : String) (cause : Option String) : String :=
  "Error: " ++ message ++
    (match cause with
      | none => ""
      | some text => "\n\nCaused by:\n    " ++
        String.ofList (text.toList.flatMap fun c => if c = '\n' then "\n    ".toList else [c])) ++
    "\n"

def quoted (text : String) : String := "\x60" ++ text ++ "\x60"

def Failure.outcome : Failure → Outcome
  | unreadable role path cause =>
    ⟨1, "", report ("failed to read " ++ role.noun ++ " " ++ path) cause⟩
  | invalid role path cause => ⟨1, "", report ("invalid " ++ role.noun ++ " " ++ path) cause⟩
  | selector role text error =>
    ⟨1, "", report ("invalid " ++ role.noun ++ " " ++ quoted text) error.message⟩
  | noScope scope =>
    ⟨2, "", bold (red "error:") ++ " scope " ++ quoted scope ++ " matched nothing\n"⟩

/-! ## Running -/

def loadSnapshot (orders : MapOrders) (path : String) : Content → Except Failure Dom
  | .error cause => .error (.unreadable .snapshot path cause)
  | .ok text => (Dom.ofText text orders).mapError fun e => .invalid .snapshot path e.message?

def loadOptions (path : String) : Content → Except Failure Options
  | .error cause => .error (.unreadable .config path cause)
  | .ok text =>
    match Options.parse? text with
    | some options => .ok options
    | none => .error (.invalid .config path none)

def compile (role : SelectorRole) (text : String) (options : Options) : Except Failure Chain :=
  (Chain.parse options text.toList).mapError fun e => .selector role text e

/-- The node below which the query runs. -/
def findScope (d : Dom) (options : Options) : Option String → Except Failure NodeId
  | none => .ok Dom.root
  | some scope => do
    let chain ← compile .scope scope options
    match chain.selectFirst? d Dom.root with
    | some id => .ok id
    | none => .error (.noScope scope)

/-- The document and what is selected in it. -/
def query (a : Arguments) (snapshot : Content) (config : Option (String × Content))
    (orders : MapOrders) : Except Failure (Dom × List NodeId) := do
  let d ← loadSnapshot orders a.snapshot snapshot
  let options ← match config with
    | none => .ok Options.default
    | some (path, content) => loadOptions path content
  let scope ← findScope d options a.scope
  let chain ← compile .query a.selector options
  let ids := chain.selectAll d scope
  return (d, if a.all then ids else ids.take 1)

/-- Everything that is printed, and the exit code: one where nothing is selected. -/
def run (a : Arguments) (snapshot : Content) (config : Option (String × Content))
    (orders : MapOrders := .byName) : Outcome :=
  match query a snapshot config orders with
  | .error failure => failure.outcome
  | .ok (d, ids) =>
    if a.json then ⟨if ids.isEmpty then 1 else 0, printJson d ids, ""⟩
    else if ids.isEmpty then ⟨1, "", dimmed "no matches" ++ "\n"⟩
    else ⟨0, printMatches d ids, ""⟩

def usage : String := "usage: [--all] [--json] [--scope SELECTOR] [--config FILE] SNAPSHOT SELECTOR\n"

end Umbra.CommandLine
