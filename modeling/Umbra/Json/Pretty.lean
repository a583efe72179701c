import Umbra.Json.Basic

/-!
JSON over several lines: two spaces of indentation for each level, one item to a line, and nothing
between the brackets of an empty array or object.
-/

namespace Umbra.Json

def writeChar (c : Char) : List Char :=
  match c with
  | '"' => ['\\', '"']
  | '\\' => ['\\', '\\']
  | '\x08' => ['\\', 'b']
  | '\x0C' => ['\\', 'f']
  | '\n' => ['\\', 'n']
  | '\r' => ['\\', 'r']
  | '\t' => ['\\', 't']
  | _ =>
    if c.toNat < 0x20 then
      '\\' :: 'u' :: '0' :: '0' :: (if c.toNat < 0x10 then ['0'] else []) ++ Text.hexDigits c.toNat
    else [c]

def writeString (s : String) : List Char := '"' :: s.toList.flatMap writeChar ++ ['"']

/-- A line break and the indentation of the given level. -/
def newLine (level : Nat) : List Char := '\n' :: List.replicate (2 * level) ' '

mutual

/-- Writes a value whose own brackets stand at the given level. A string without a text is written
as an empty one. -/
def pretty (level : Nat) : Json → List Char
  | .null => "null".toList
  | .bool true => "true".toList
  | .bool false => "false".toList
  | .number n => n.write
  | .string text => writeString (text.getD "")
  | .array [] => ['[', ']']
  | .array (j :: js) => '[' :: prettyItems (level + 1) (j :: js) ++ newLine level ++ [']']
  | .object [] => ['{', '}']
  | .object (m :: ms) => '{' :: prettyMembers (level + 1) (m :: ms) ++ newLine level ++ ['}']

def prettyItems (level : Nat) : List Json → List Char
  | [] => []
  | [j] => newLine level ++ pretty level j
  | j :: js => newLine level ++ pretty level j ++ [','] ++ prettyItems level js

def prettyMembers (level : Nat) : List (Option String × Json) → List Char
  | [] => []
  | [(name, j)] => newLine level ++ writeString (name.getD "") ++ [':', ' '] ++ pretty level j
  | (name, j) :: ms =>
    newLine level ++ writeString (name.getD "") ++ [':', ' '] ++ pretty level j ++ [','] ++
      prettyMembers level ms

end

end Umbra.Json
