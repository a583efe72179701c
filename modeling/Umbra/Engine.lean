/-! The engines that can evaluate a part of a chain. -/

namespace Umbra

/-- An engine reads its clauses as selectors or as text patterns. The light ones stay out of shadow
trees. -/
inductive Engine where
  | css
  | cssLight
  | text
  | textLight
  deriving DecidableEq

namespace Engine

def all : List Engine := [css, cssLight, text, textLight]

def name : Engine → String
  | css => "css"
  | cssLight => "css:light"
  | text => "text"
  | textLight => "text:light"

def ofName? (name : String) : Option Engine := all.find? fun e => e.name = name

def piercesShadow : Engine → Bool
  | css => true
  | text => true
  | _ => false

def isText : Engine → Bool
  | text => true
  | textLight => true
  | _ => false

theorem ofName?_name (e : Engine) : ofName? e.name = some e := by
  cases e <;> decide

end Engine

end Umbra
