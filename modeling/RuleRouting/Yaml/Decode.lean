import RuleRouting.Yaml.Parse

/-!
# Reading records from YAML

Configuration records are read field by field from a document. Two disciplines apply:

* `loose`, for fields read straight from the document: a text field takes any scalar's
  text (`port: 80` as text is `"80"`), and a number or boolean field needs a plain scalar of
  that type;
* `typed`, for fields that are first gathered as typed values and read afterwards: every
  scalar is typed first (plain text by the core schema, quoted text as text), so a text field
  refuses `5` or `true`, and an integer wider than 64 bits is refused outright.

In both, an optional field is absent when it is a plain null (`~`, `null`, empty). A record
is a mapping whose keys name its fields (unknown keys are ignored, a repeated field is an
error); an empty plain scalar reads as a record with no fields.
-/

namespace RuleRouting.Yaml

/-- The result of reading a value: the value or why it does not fit. -/
abbrev Decoded := Except String

/-- How strictly scalars are read. -/
inductive Strictness where
  | loose
  | typed
  deriving DecidableEq

mutual
/-- Whether a node can be gathered as a typed value: no integer wider than 64 bits. -/
def gatherable : Node → Bool
  | .scalar t .plain => typePlain t ≠ .wide
  | .scalar _ _ => true
  | .seq items => gatherableItems items
  | .map entries => gatherableEntries entries

/-- Whether every item can be gathered. -/
def gatherableItems : List Node → Bool
  | [] => true
  | n :: ns => gatherable n && gatherableItems ns

/-- Whether every key and value can be gathered. -/
def gatherableEntries : List (Node × Node) → Bool
  | [] => true
  | (k, v) :: es => gatherable k && gatherable v && gatherableEntries es
end

/-- Reads text. -/
def readText (m : Strictness) : Node → Decoded String
  | .scalar t .plain =>
    match m with
    | .loose => pure t
    | .typed => if typePlain t = .text then pure t else throw "invalid type, expected a string"
  | .scalar t _ => pure t
  | _ => throw "invalid type, expected a string"

/-- Reads an optional value: a plain null is absent. -/
def readOptional {α : Type} (read : Node → Decoded α) : Node → Decoded (Option α)
  | .scalar t .plain => if isNullText t then pure none else (read (.scalar t .plain)).map some
  | n => (read n).map some

/-- Reads a non-negative integer no greater than `bound` from a plain scalar. -/
def readNat (bound : Nat) : Node → Decoded Nat
  | .scalar t .plain =>
    match typePlain t with
    | .nat n => if n ≤ bound then pure n else throw "invalid value, integer out of range"
    | _ => throw "invalid type, expected an integer"
  | _ => throw "invalid type, expected an integer"

/-- Reads a boolean from a plain scalar. -/
def readBool : Node → Decoded Bool
  | .scalar t .plain =>
    match boolText? t with
    | some b => pure b
    | none => throw "invalid type, expected a boolean"
  | _ => throw "invalid type, expected a boolean"

/-- Reads a single character from any scalar. -/
def readChar : Node → Decoded Char
  | .scalar t _ =>
    match t.toList with
    | [c] => pure c
    | _ => throw "invalid value, expected a character"
  | _ => throw "invalid type, expected a character"

/-- Reads a sequence; an empty plain scalar is the empty sequence. -/
def readSeq {α : Type} (read : Node → Decoded α) : Node → Decoded (List α)
  | .seq items => items.mapM read
  | .scalar "" .plain => pure []
  | _ => throw "invalid type, expected a sequence"

/-- The entries of a mapping with text keys; an empty plain scalar has none. -/
def mapEntries : Node → Decoded (List (String × Node))
  | .map entries => entries.mapM fun (k, v) => do
    let key ← match k with
      | .scalar t _ => pure t
      | _ => throw "invalid type, expected a string key"
    return (key, v)
  | .scalar "" .plain => pure []
  | _ => throw "invalid type, expected a mapping"

/-- The fields of a record: the entries of a mapping, or, when `positional` allows it, the
items of a sequence taken as the fields in order. -/
def recordFields (names : List String) (positional : Bool) : Node → Decoded (List (String × Node))
  | .seq items =>
    if !positional then throw "invalid type, expected a mapping"
    else if items.length > names.length then throw "invalid length, expected fewer elements"
    else pure (names.zip items)
  | n => mapEntries n

/-- The value of a field given at most once. -/
def fieldValue (fields : List (String × Node)) (name : String) : Decoded (Option Node) :=
  match fields.filter (·.1 = name) with
  | [] => pure none
  | [(_, v)] => pure (some v)
  | _ => throw ("duplicate field " ++ name)

/-- A field that must be given. -/
def required {α : Type} (fields : List (String × Node)) (name : String)
    (read : Node → Decoded α) : Decoded α := do
  match ← fieldValue fields name with
  | some v => read v
  | none => throw ("missing field " ++ name)

/-- A field with a default when absent. -/
def withDefault {α : Type} (fields : List (String × Node)) (name : String) (default : α)
    (read : Node → Decoded α) : Decoded α := do
  match ← fieldValue fields name with
  | some v => read v
  | none => pure default

/-- An optional field: absent when missing or null. -/
def optionalField {α : Type} (fields : List (String × Node)) (name : String)
    (read : Node → Decoded α) : Decoded (Option α) :=
  withDefault fields name none (readOptional read)

/-- The entries a record leaves to a record embedded in it: those not named by `own`. Each
is gathered as a typed value. -/
def leftover (fields : List (String × Node)) (own : List String) :
    Decoded (List (String × Node)) := do
  let rest := fields.filter fun e => !own.contains e.1
  for e in rest do
    if !gatherable e.2 then throw "integer too wide to gather"
  return rest

end RuleRouting.Yaml
