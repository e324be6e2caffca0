import RuleRouting.Regex.CharSet
import RuleRouting.Regex.Flags
import RuleRouting.Text.Word
import RuleRouting.Text.Blank
import RuleRouting.Text.Letter
import RuleRouting.Text.Lowercase
import RuleRouting.Text.Category
import RuleRouting.Text.Script
import RuleRouting.Text.BinaryProperty

/-!
# Named Unicode classes

The classes a regular expression names with `\p{…}` or `\p{name=value}`. Names compare
loosely (`symbolicName`). A bare name is looked up as a binary property, then as a general
category, then as a script; `cf`, `sc` and `lc` skip the binary properties, because as
properties they are case folding, script and lowercase mapping, while as categories they are
`Format`, `Currency_Symbol` and `Cased_Letter`. A `name=value` query supports the general
category (`gc`), the script (`sc`) and the script extensions (`scx`).

An unknown name is `unicodePropertyNotFound`; a known property with an unknown or unsupported
value is `unicodePropertyValueNotFound`.
-/

namespace RuleRouting.Regex

/-- A property name or value in the loose form names are compared in: a leading `is` (in any
case) is dropped, then blanks, `_`, `-` and non-ASCII characters, and ASCII letters are
lowercased. `isc` stays `isc`: it is an abbreviation of its own, not `is` + `c`. -/
def symbolicName (s : String) : String :=
  let cs := s.toList
  let prefixed := match cs with
    | a :: b :: _ => (a = 'i' || a = 'I') && (b = 's' || b = 'S')
    | _ => false
  let body := if prefixed then cs.drop 2 else cs
  let kept := (body.filter fun c => c.toNat < 0x80 && !(c = ' ' || c = '_' || c = '-')).map Char.toLower
  if prefixed && kept = ['c'] then "isc" else String.ofList kept

/-- The class of a general category or group named loosely, or of `any`, `assigned` (every
code point not `Cn`) or `ascii`. -/
def categoryClass? (name : String) : Option CharSet :=
  match name with
  | "any" => some (CharSet.ofRanges [(0, maxCodePoint)])
  | "assigned" => some (CharSet.ofRanges (Text.categoryRanges ["Cn"]).toList).complement
  | "ascii" => some (CharSet.ofRanges [(0, 0x7F)])
  | _ => (Text.categoryCodesNamed? name).map fun codes => CharSet.ofRanges (Text.categoryRanges codes).toList

/-- The class of the script named loosely, read through `ranges` (the script's own code points
or its extensions). A script with no code points of its own is known but has no class. -/
def scriptClass? (ranges : Nat → Array (Nat × Nat)) (name : String) :
    Option (Except ErrorKind CharSet) :=
  match Text.scriptIndex? name with
  | some i => some (.ok (CharSet.ofRanges (ranges i).toList))
  | none =>
    if Text.unlistedScriptNames.contains name then some (.error .unicodePropertyValueNotFound)
    else none

/-- The ranges of a binary property kept with the text rules. -/
def textPropertyRanges : String → Array (Nat × Nat)
  | "Alphabetic" => Text.alphabeticRanges.ranges
  | "White_Space" => Text.whiteSpaceRanges.ranges
  | "Cased" => Text.casedRanges.ranges
  | _ => Text.caseIgnorableRanges.ranges

/-- The class of the binary property named loosely. -/
def binaryClass? (name : String) : Option CharSet :=
  match Text.binaryProperties.find? (fun e => e.1.contains name) with
  | some e => some ⟨e.2⟩
  | none => (Text.textPropertyNames.find? fun e => e.2.contains name).map fun e => ⟨textPropertyRanges e.1⟩

/-- The class a bare `\p{name}` (or one-letter `\pL`) denotes. -/
def namedClass (name : String) : Except ErrorKind CharSet :=
  let n := symbolicName name
  let binary := if n = "cf" || n = "sc" || n = "lc" then none else binaryClass? n
  match binary with
  | some s => .ok s
  | none =>
    match categoryClass? n with
    | some s => .ok s
    | none => (scriptClass? Text.scriptRanges n).getD (.error .unicodePropertyNotFound)

/-- The class a `\p{name=value}` query denotes. -/
def valueClass (name value : String) : Except ErrorKind CharSet :=
  let n := symbolicName name
  let v := symbolicName value
  let missing : Except ErrorKind CharSet := .error .unicodePropertyValueNotFound
  if n = "gc" || n = "generalcategory" then
    match categoryClass? v with
    | some s => .ok s
    | none => missing
  else if n = "sc" || n = "script" then (scriptClass? Text.scriptRanges v).getD missing
  else if n = "scx" || n = "scriptextensions" then (scriptClass? Text.extensionRanges v).getD missing
  else if Text.propertyNames.contains n then missing
  else .error .unicodePropertyNotFound

end RuleRouting.Regex
