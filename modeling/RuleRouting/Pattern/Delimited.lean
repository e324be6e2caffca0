import RuleRouting.Regex.Compiled
import RuleRouting.Error
import RuleRouting.Text.Utf8

/-!
# Delimited regular-expression patterns

A rule written `/body/flags` is a regular expression: the body sits between the first `/`
and the last one, `\/` in it stands for `/`, and each character after the last `/` is a
flag (`i`, `m`, `s`, `x`, `U` or `u`). A match reports every group's text.
-/

namespace RuleRouting

/-- Whether the pattern opens with `/` and has a second `/` that closes it. -/
def isDelimited (pattern : String) : Bool :=
  match pattern.toList with
  | '/' :: rest => rest.contains '/'
  | _ => false

/-- Replaces each `\/` by `/`, scanning left to right. -/
def unescapeSlashes : List Char → List Char
  | '\\' :: '/' :: rest => '/' :: unescapeSlashes rest
  | c :: rest => c :: unescapeSlashes rest
  | [] => []

/-- Splits at the last `/`: what stands before it and what follows it. -/
def splitAtLastSlash (cs : List Char) : List Char × List Char :=
  let rev := cs.reverse
  let after := rev.takeWhile (· ≠ '/')
  ((rev.drop (after.length + 1)).reverse, after.reverse)

/-- Applies one flag letter, or returns `none` for a letter that is not a flag. -/
def applyPatternFlag (flags : Regex.Flags) : Char → Option Regex.Flags
  | 'i' => some { flags with caseInsensitive := true }
  | 'm' => some { flags with multiLine := true }
  | 's' => some { flags with dotAll := true }
  | 'x' => some { flags with ignoreWhitespace := true }
  | 'U' => some { flags with swapGreed := true }
  | 'u' => some { flags with unicode := true }
  | _ => none

/-- Applies the flag letters in order; the first letter that is not a flag is the error. -/
def applyPatternFlags (flags : Regex.Flags) : List Char → Except Char Regex.Flags
  | [] => .ok flags
  | c :: cs =>
    match applyPatternFlag flags c with
    | some f => applyPatternFlags f cs
    | none => .error c

/-- A regular-expression rule pattern. -/
structure RegexPattern where
  source : String
  regex : Regex.Compiled

/-- The groups of a regular-expression match; group 0 is the whole match. -/
structure RegexMatch where
  groups : List (Option String)

/-- The length in bytes of the whole match. -/
def RegexMatch.matchedLen (m : RegexMatch) : Nat :=
  match m.groups with
  | some whole :: _ => whole.utf8ByteSize
  | _ => 0

/-- Reads a delimited pattern: its body and its flags. -/
def RegexPattern.parse (pattern : String) : Except RoutingError RegexPattern := do
  if !isDelimited pattern then throw (.invalidRegexFlag pattern '/')
  let (front, flagChars) := splitAtLastSlash pattern.toList
  let body := String.ofList (unescapeSlashes (front.drop 1))
  match applyPatternFlags {} flagChars with
  | .error c => throw (.invalidRegexFlag pattern c)
  | .ok flags =>
    match Regex.compile body flags with
    | .error e => throw (.invalidRegex pattern body e)
    | .ok regex => return { source := pattern, regex }

/-- Matches a path: the groups of the leftmost-first match, if any. -/
def RegexPattern.matchPath (p : RegexPattern) (path : String) : Option RegexMatch :=
  (p.regex.captures path).map RegexMatch.mk

end RuleRouting
