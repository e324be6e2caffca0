import RuleRouting.Regex.Parse
import RuleRouting.Regex.Search

/-!
# Compiled regular expressions

`compile` reads a pattern and builds its program; `Compiled.captures` finds the leftmost-first
match in a text and reports every capture group's text, `none` for a group that took no
part in the match.
-/

namespace RuleRouting.Regex

/-- A regular expression ready to search with. -/
structure Compiled where
  program : Program
  groups : Nat

/-- The states a pattern's program takes towards the size limit: those of the expression,
the whole-match group, the final state, and the two states of the loop that lets a match
start anywhere. -/
def programStates (node : Node) : Nat := node.programSize + 5

/-- Reads `pattern` under `flags` and builds its program; a program over `sizeLimit` is
refused before it is built. -/
def compile (pattern : String) (flags : Flags) : Except Error Compiled := do
  let p ← parse pattern flags
  if programStates p.node * stateBytes > sizeLimit then
    throw { kind := .compiledTooBig, start := 0, stop := 0 }
  return { program := Program.ofNode p.node p.groups, groups := p.groups }

/-- The text of a group from its two slots. -/
def groupText (text : Array Char) (slots : Array (Option Nat)) (g : Nat) : Option String :=
  match slots.getD (2 * g) none, slots.getD (2 * g + 1) none with
  | some a, some b => some (String.ofList (text.extract a b).toList)
  | _, _ => none

/-- The groups of the leftmost-first match: group 0 is the whole match. -/
def Compiled.captures (r : Compiled) (text : String) : Option (List (Option String)) :=
  let chars := text.toList.toArray
  (r.program.search chars).map fun slots =>
    (List.range (r.groups + 1)).map (groupText chars slots)

end RuleRouting.Regex
