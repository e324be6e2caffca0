import RuleRouting.Regex.CharSet

/-!
# Regular expressions

The meaning of a parsed regular expression, with its flags already applied: case-insensitive
literals are sets of their case variants, `.` is a set, and `^`/`$` are anchors of the kind the
multi-line flag chose. A capture group carries its index; group 0 is the whole match.
-/

namespace RuleRouting.Regex

/-- Zero-width assertions. -/
inductive Look where
  /-- The start of the text. -/
  | start
  /-- The end of the text. -/
  | finish
  /-- The start of a line (after `\n`). -/
  | startLine
  /-- The end of a line (before `\n`). -/
  | endLine
  /-- The start of a line, `\r\n` and `\r` counting as line ends too. -/
  | startLineCrlf
  /-- The end of a line, `\r\n` and `\r` counting as line ends too. -/
  | endLineCrlf
  /-- A word boundary; `unicode` chooses Unicode or ASCII word characters. -/
  | wordBoundary (unicode : Bool)
  /-- Not a word boundary. -/
  | notWordBoundary (unicode : Bool)
  /-- The start of a word. -/
  | wordStart (unicode : Bool)
  /-- The end of a word. -/
  | wordEnd (unicode : Bool)
  /-- No word character before. -/
  | wordStartHalf (unicode : Bool)
  /-- No word character after. -/
  | wordEndHalf (unicode : Bool)
  deriving Repr, DecidableEq, Inhabited

/-- A regular expression. -/
inductive Node where
  /-- Matches the empty text. -/
  | empty
  /-- One character of the set. -/
  | chars (set : CharSet)
  /-- A zero-width assertion. -/
  | look (l : Look)
  /-- A capture group with its index. -/
  | capture (index : Nat) (body : Node)
  /-- The parts one after another. -/
  | concat (parts : List Node)
  /-- The first branch that leads to a match, in order. -/
  | alt (branches : List Node)
  /-- `body` repeated between `min` and `max` times (no bound when `max` is `none`). -/
  | «repeat» (body : Node) (min : Nat) (max : Option Nat) (greedy : Bool)
  deriving Inhabited

namespace Node

mutual
/-- The fewest characters a match can have; `none` when some part matches nothing. -/
def minLength : Node → Option Nat
  | .empty => some 0
  | .chars s => if s.isEmpty then none else some 1
  | .look _ => some 0
  | .capture _ b => minLength b
  | .concat parts => minLengthSum parts
  | .alt [] => none
  | .alt (b :: bs) => minLengthLeast (minLength b) bs
  | .repeat b min _ _ => (minLength b).map (· * min)

/-- The sum of the fewest lengths of the parts. -/
def minLengthSum : List Node → Option Nat
  | [] => some 0
  | p :: ps => do let a ← minLength p; let b ← minLengthSum ps; pure (a + b)

/-- The least of `acc` and the fewest lengths of the branches. -/
def minLengthLeast (acc : Option Nat) : List Node → Option Nat
  | [] => acc
  | b :: bs => minLengthLeast (do let a ← acc; let x ← minLength b; pure (Nat.min a x)) bs
end

mutual
/-- The most characters a match can have; `none` when unbounded or when some part matches
nothing. -/
def maxLength : Node → Option Nat
  | .empty => some 0
  | .chars s => if s.isEmpty then none else some 1
  | .look _ => some 0
  | .capture _ b => maxLength b
  | .concat parts => maxLengthSum parts
  | .alt [] => none
  | .alt (b :: bs) => maxLengthMost (maxLength b) bs
  | .repeat b _ max _ => do let m ← max; let l ← maxLength b; pure (l * m)

/-- The sum of the most lengths of the parts. -/
def maxLengthSum : List Node → Option Nat
  | [] => some 0
  | p :: ps => do let a ← maxLength p; let b ← maxLengthSum ps; pure (a + b)

/-- The greatest of `acc` and the most lengths of the branches. -/
def maxLengthMost (acc : Option Nat) : List Node → Option Nat
  | [] => acc
  | b :: bs => maxLengthMost (do let a ← acc; let x ← maxLength b; pure (Nat.max a x)) bs
end

/-- A repetition, simplified: a body that only matches the empty text is repeated at most
once, `{0}` is the empty expression and `{1}` the body itself. -/
def mkRepeat (body : Node) (min : Nat) (max : Option Nat) (greedy : Bool) : Node :=
  let (min, max) :=
    if body.maxLength = some 0 then (Nat.min min 1, some (match max with | some m => Nat.min m 1 | none => 1))
    else (min, max)
  if min = 0 && max = some 0 then .empty
  else if min = 1 && max = some 1 then body
  else .repeat body min max greedy

end Node

end RuleRouting.Regex
