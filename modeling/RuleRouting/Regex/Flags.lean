/-!
# Flags and errors of regular expressions

The flags of a regular expression (`i`, `m`, `s`, `U`, `u`, `R`, `x`), set for the whole
expression when it is built and changed inside it by `(?flags)` and `(?flags:…)`. A refused
pattern carries the reason and the character offset where it was found.
-/

namespace RuleRouting.Regex

/-- The flags in force at a point of a regular expression. -/
structure Flags where
  /-- `i`: letters match their case variants. -/
  caseInsensitive : Bool := false
  /-- `m`: `^` and `$` match at line ends too. -/
  multiLine : Bool := false
  /-- `s`: `.` matches `\n` too. -/
  dotAll : Bool := false
  /-- `U`: repetitions are lazy unless marked with `?`. -/
  swapGreed : Bool := false
  /-- `u`: classes and case folding follow Unicode (on by default). -/
  unicode : Bool := true
  /-- `R`: `\r\n` is a line end for `^`, `$` and `.`. -/
  crlf : Bool := false
  /-- `x`: blanks and `#` comments in the pattern are ignored. -/
  ignoreWhitespace : Bool := false
  deriving Repr, DecidableEq, Inhabited

namespace Flags

/-- Sets one flag by its letter; `none` for a letter that names no flag. -/
def set (f : Flags) (letter : Char) (on : Bool) : Option Flags :=
  match letter with
  | 'i' => some { f with caseInsensitive := on }
  | 'm' => some { f with multiLine := on }
  | 's' => some { f with dotAll := on }
  | 'U' => some { f with swapGreed := on }
  | 'u' => some { f with unicode := on }
  | 'R' => some { f with crlf := on }
  | 'x' => some { f with ignoreWhitespace := on }
  | _ => none

end Flags

/-- The most memory, in bytes, a compiled program may take. -/
def sizeLimit : Nat := 10 * 1024 * 1024

/-- The memory, in bytes, that one state of a compiled program takes towards `sizeLimit`. -/
def stateBytes : Nat := 32

/-- Why a pattern is refused. -/
inductive ErrorKind where
  | captureLimitExceeded
  | classEscapeInvalid
  | classRangeInvalid
  | classRangeLiteral
  | classUnclosed
  | decimalEmpty
  | decimalInvalid
  | escapeHexEmpty
  | escapeHexInvalid
  | escapeHexInvalidDigit
  | escapeUnexpectedEof
  | escapeUnrecognized
  | flagDanglingNegation
  | flagDuplicate
  | flagRepeatedNegation
  | flagUnexpectedEof
  | flagUnrecognized
  | groupNameDuplicate
  | groupNameEmpty
  | groupNameInvalid
  | groupNameUnexpectedEof
  | groupUnclosed
  | groupUnopened
  | nestLimitExceeded
  | repetitionCountInvalid
  | repetitionCountDecimalEmpty
  | repetitionCountUnclosed
  | repetitionMissing
  | specialWordBoundaryUnclosed
  | specialWordBoundaryUnrecognized
  | specialWordOrRepetitionUnexpectedEof
  | unicodeClassInvalid
  | unsupportedBackreference
  | unsupportedLookAround
  | unicodeNotAllowed
  | invalidUtf8
  | unicodePropertyNotFound
  | unicodePropertyValueNotFound
  | compiledTooBig
  deriving Repr, DecidableEq, Inhabited

/-- A refused pattern: the reason, the span (character offsets, end excluded) where it was
found, and for a duplicate the span of the first occurrence. -/
structure Error where
  kind : ErrorKind
  start : Nat
  stop : Nat
  original : Option (Nat × Nat) := none
  deriving Repr, Inhabited

end RuleRouting.Regex
