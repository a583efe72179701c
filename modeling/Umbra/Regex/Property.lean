import Umbra.Text.Ascii
import Umbra.Regex.CharSet
import Umbra.Unicode.Categories
import Umbra.Unicode.Scripts
import Umbra.Unicode.Properties
import Umbra.Unicode.Ages
import Umbra.Unicode.Breaks

/-!
The sets of characters that Unicode properties name. Names are compared without regard to ASCII
case, spaces, hyphens, underscores and a leading `is`.
-/

namespace Umbra.CharSet

open Unicode

def categoryPlaces : List (Nat × String) := places categoryText

def scriptPlaces : List (Nat × String) := places scriptText

def agePlaces : List (Nat × String) := places ageText

def graphemeBreakPlaces : List (Nat × String) := places graphemeBreakText

def wordBreakPlaces : List (Nat × String) := places wordBreakText

def sentenceBreakPlaces : List (Nat × String) := places sentenceBreakText

/-- The characters with a label in a partition. -/
def labelled (places : List (Nat × String)) (label : String) : CharSet :=
  ofTable (stretchesWhere (· = label) places)

/-- A general category, or a group of them by its first letter; `LC` are the cased letters. -/
def category (name : String) : CharSet :=
  let chosen (label : String) : Bool :=
    if name = "LC" then label = "Lu" || label = "Ll" || label = "Lt"
    else name.toList.isPrefixOf label.toList
  ofTable (stretchesWhere chosen categoryPlaces)

def script (name : String) : CharSet := labelled scriptPlaces name

def scriptExtension (name : String) : CharSet :=
  match scriptExtensionChanges.lookup name with
  | some text => (script name).symmetricDifference (ofTable (Unicode.stretches (places text)))
  | none => script name

/-- The characters of a version of the standard and of those before it. -/
def age (version : String) : CharSet :=
  let names := ageNames.map Prod.fst
  let versions := names.take (names.idxOf version + 1)
  ofTable (stretchesWhere versions.contains agePlaces)

/-- A name without the differences that do not count. The abbreviation `isc` stands for a property
of its own and is left as it is. -/
def plainName (name : List Char) : List Char :=
  let lowered := Text.asciiLower name
  let marked := ['i', 's'].isPrefixOf lowered
  let body := if marked then lowered.drop 2 else lowered
  let plain := body.filter fun c => Text.isAscii c && c != ' ' && c != '_' && c != '-'
  if marked && plain = ['c'] then ['i', 's', 'c'] else plain

def namedBy (plain : List Char) (names : List String) : Bool :=
  names.any fun n => plainName n.toList = plain

/-- The short name of what is named, if it has one in the list. -/
def shortName? (plain : List Char) (names : List (String × List String)) : Option String :=
  (names.find? fun (short, long) => namedBy plain (short :: long)).map Prod.fst

def categoryNamed? (plain : List Char) : Option CharSet :=
  if plain = "any".toList then some all
  else if plain = "ascii".toList then some (range '\x00' '\x7F')
  else if plain = "assigned".toList then some (category "Cn").complement
  else (shortName? plain categoryNames).map category

def scriptNamed? (plain : List Char) : Option CharSet :=
  (shortName? plain scriptNames).map script

def binaryNamed? (plain : List Char) : Option CharSet :=
  (binaryProperties.find? fun (short, long, _) => namedBy plain (short :: long)).map
    fun (_, _, text) => ofTable (Unicode.stretches (places text))

/-- A property named alone: a binary property, a general category or a script. -/
def named? (name : List Char) : Option CharSet :=
  let plain := plainName name
  match binaryNamed? plain with
  | some s => some s
  | none =>
    match categoryNamed? plain with
    | some s => some s
    | none => scriptNamed? plain

/-- A property given as a kind and a value of that kind. -/
def valued? (kind value : List Char) : Option CharSet :=
  let kind := plainName kind
  let value := plainName value
  if namedBy kind ["gc", "General_Category"] then categoryNamed? value
  else if namedBy kind ["sc", "Script"] then scriptNamed? value
  else if namedBy kind ["scx", "Script_Extensions"] then
    (shortName? value scriptNames).map scriptExtension
  else if namedBy kind ["age"] then (shortName? value ageNames).map age
  else if namedBy kind ["gcb", "Grapheme_Cluster_Break"] then
    (shortName? value graphemeBreakNames).map (labelled graphemeBreakPlaces)
  else if namedBy kind ["wb", "Word_Break"] then
    (shortName? value wordBreakNames).map (labelled wordBreakPlaces)
  else if namedBy kind ["sb", "Sentence_Break"] then
    (shortName? value sentenceBreakNames).map (labelled sentenceBreakPlaces)
  else none

def binary (name : String) : CharSet := (binaryNamed? (plainName name.toList)).getD empty

/-- The characters of a word: letters in a wide sense, marks, digits, connectors and joiners. -/
def word : CharSet :=
  unions [binary "Alphabetic", category "M", category "Nd", category "Pc", binary "Join_Control"]

def digit : CharSet := category "Nd"

def blank : CharSet := binary "White_Space"

def isWordChar (c : Char) : Bool := word.mem c

end Umbra.CharSet
