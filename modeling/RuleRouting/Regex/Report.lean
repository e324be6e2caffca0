import RuleRouting.Regex.Flags

/-!
# Reporting refused patterns

A refused pattern is reported on several lines: a heading, the pattern with carets under the
spans of the error (the span where it was found, and the first occurrence for a duplicate),
and the reason. A pattern of several lines is framed by rules of `~` and numbered; a span
that crosses lines is described by its line and column numbers instead of carets. Columns
count characters from 1.
-/

namespace RuleRouting.Regex

/-- The reason of a refusal, as reported. -/
def ErrorKind.message : ErrorKind → String
  | .captureLimitExceeded => "exceeded the maximum number of capturing groups (4294967295)"
  | .classEscapeInvalid => "invalid escape sequence found in character class"
  | .classRangeInvalid => "invalid character class range, the start must be <= the end"
  | .classRangeLiteral => "invalid range boundary, must be a literal"
  | .classUnclosed => "unclosed character class"
  | .decimalEmpty => "decimal literal empty"
  | .decimalInvalid => "decimal literal invalid"
  | .escapeHexEmpty => "hexadecimal literal empty"
  | .escapeHexInvalid => "hexadecimal literal is not a Unicode scalar value"
  | .escapeHexInvalidDigit => "invalid hexadecimal digit"
  | .escapeUnexpectedEof => "incomplete escape sequence, reached end of pattern prematurely"
  | .escapeUnrecognized => "unrecognized escape sequence"
  | .flagDanglingNegation => "dangling flag negation operator"
  | .flagDuplicate => "duplicate flag"
  | .flagRepeatedNegation => "flag negation operator repeated"
  | .flagUnexpectedEof => "expected flag but got end of regex"
  | .flagUnrecognized => "unrecognized flag"
  | .groupNameDuplicate => "duplicate capture group name"
  | .groupNameEmpty => "empty capture group name"
  | .groupNameInvalid => "invalid capture group character"
  | .groupNameUnexpectedEof => "unclosed capture group name"
  | .groupUnclosed => "unclosed group"
  | .groupUnopened => "unopened group"
  | .nestLimitExceeded => "exceed the maximum number of nested parentheses/brackets (250)"
  | .repetitionCountInvalid => "invalid repetition count range, the start must be <= the end"
  | .repetitionCountDecimalEmpty => "repetition quantifier expects a valid decimal"
  | .repetitionCountUnclosed => "unclosed counted repetition"
  | .repetitionMissing => "repetition operator missing expression"
  | .specialWordBoundaryUnclosed =>
    "special word boundary assertion is either unclosed or contains an invalid character"
  | .specialWordBoundaryUnrecognized =>
    "unrecognized special word boundary assertion, valid choices are: start, end, start-half or end-half"
  | .specialWordOrRepetitionUnexpectedEof =>
    "found either the beginning of a special word boundary or a bounded repetition on a \\b " ++
    "with an opening brace, but no closing brace"
  | .unicodeClassInvalid => "invalid Unicode character class"
  | .unsupportedBackreference => "backreferences are not supported"
  | .unsupportedLookAround =>
    "look-around, including look-ahead and look-behind, is not supported"
  | .unicodeNotAllowed => "Unicode not allowed here"
  | .invalidUtf8 => "pattern can match invalid UTF-8"
  | .unicodePropertyNotFound => "Unicode property not found"
  | .unicodePropertyValueNotFound => "Unicode property value not found"
  | .compiledTooBig => "Compiled regex exceeds size limit of " ++ toString sizeLimit ++ " bytes."

/-- A place in the pattern: line and column, both from 1. -/
structure Place where
  line : Nat
  column : Nat
  deriving DecidableEq

/-- The place of a character offset. -/
def placeOf (pattern : List Char) (offset : Nat) : Place :=
  (pattern.take offset).foldl (fun p c =>
    if c = '\n' then ⟨p.line + 1, 1⟩ else ⟨p.line, p.column + 1⟩) ⟨1, 1⟩

/-- A span as two places. -/
structure PlacedSpan where
  first : Place
  last : Place

/-- The lines of a pattern: split at line feeds, each without a final carriage return, and
without the empty line after a final line feed. -/
def patternLines (pattern : String) : List String :=
  let parts := pattern.splitOn "\n"
  let parts := if pattern.endsWith "\n" then parts.dropLast else parts
  let parts := if pattern.isEmpty then [] else parts
  parts.map fun l => if l.endsWith "\r" then String.ofList l.toList.dropLast else l

/-- The carets under one line for the spans on it, after `pad` spaces. -/
def caretLine (pad : Nat) (spans : List PlacedSpan) : String :=
  let (text, _) := spans.foldl (fun (acc : String × Nat) s =>
    let (out, pos) := acc
    let gap := (s.first.column - 1) - pos
    let width := max 1 (s.last.column - s.first.column)
    (out ++ String.ofList (List.replicate gap ' ') ++ String.ofList (List.replicate width '^'),
     max pos (s.first.column - 1) + width)) ("", 0)
  String.ofList (List.replicate pad ' ') ++ text

/-- Orders spans by where they start. -/
def PlacedSpan.before (a b : PlacedSpan) : Bool :=
  a.first.line < b.first.line || (a.first.line = b.first.line &&
    (a.first.column < b.first.column || (a.first.column = b.first.column &&
      (a.last.line < b.last.line || (a.last.line = b.last.line && a.last.column ≤ b.last.column)))))

/-- Inserts a span in order. -/
def insertSpan (s : PlacedSpan) : List PlacedSpan → List PlacedSpan
  | [] => [s]
  | t :: ts => if s.before t then s :: t :: ts else t :: insertSpan s ts

/-- The report of a refused pattern. A pattern whose program is too big is reported by the
reason alone: it was read without fault. -/
def Error.report (pattern : String) (e : Error) : String :=
  if e.kind = .compiledTooBig then e.kind.message else
  let chars := pattern.toList
  let place := fun (a b : Nat) => (⟨placeOf chars a, placeOf chars b⟩ : PlacedSpan)
  let spans := (place e.start e.stop) :: (e.original.map fun (a, b) => place a b).toList
  let spans := spans.foldl (fun acc s => insertSpan s acc) []
  let lines := patternLines pattern
  let lineCount := lines.length + (if pattern.endsWith "\n" then 1 else 0)
  let width := if lineCount ≤ 1 then 0 else (toString lineCount).length
  let pad := if width = 0 then 4 else 2 + width
  let oneLine := spans.filter fun s => s.first.line = s.last.line
  let multi := spans.filter fun s => s.first.line ≠ s.last.line
  let notated := String.join ((lines.zipIdx).map fun (line, i) =>
    let number := if width = 0 then "    "
      else let n := toString (i + 1)
        String.ofList (List.replicate (width - n.length) ' ') ++ n ++ ": "
    let here := oneLine.filter fun s => s.first.line = i + 1
    number ++ line ++ "\n" ++ (if here.isEmpty then "" else caretLine pad here ++ "\n"))
  if chars.contains '\n' then
    let rule := String.ofList (List.replicate 79 '~')
    let notes := multi.map fun s =>
      "on line " ++ toString s.first.line ++ " (column " ++ toString s.first.column ++
      ") through line " ++ toString s.last.line ++ " (column " ++ toString (s.last.column - 1) ++ ")"
    "regex parse error:\n" ++ rule ++ "\n" ++ notated ++ rule ++ "\n" ++
      (if notes.isEmpty then "" else "\n".intercalate notes ++ "\n") ++
      "error: " ++ e.kind.message
  else
    "regex parse error:\n" ++ notated ++ "error: " ++ e.kind.message

end RuleRouting.Regex
