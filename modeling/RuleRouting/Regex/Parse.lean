import RuleRouting.Regex.Syntax
import RuleRouting.Regex.Flags
import RuleRouting.Regex.Property
import RuleRouting.Text.Blank
import RuleRouting.Text.Letter
import RuleRouting.Text.Word

/-!
# Reading regular expressions

The pattern grammar: literals and escapes, `.`, `^`, `$`, bracketed classes with ranges,
nested classes, `[:ascii:]` classes and the set operations `&&`, `--`, `~~`; groups
(capturing, named with `(?P<n>…)` or `(?<n>…)`, non-capturing, with flags); alternation;
the repetitions `?`, `*`, `+`, `{n}`, `{n,}`, `{n,m}`, each lazy when followed by `?`.
Look-around and back-references are refused. The flags in force are applied while reading:
a case-insensitive literal becomes the set of its case variants, and `^`/`$` become line or
text anchors.

The reader walks the pattern once, left to right, keeping the open groups on a stack; every
step consumes at least one character.
-/

namespace RuleRouting.Regex

/-- The reader's position: what is left of the pattern, the offset, the flags in force, the
capture groups opened so far with the names given (and where), the offsets of the open class
brackets, and the first refusal found while translating (reported only when the pattern's form
is sound). -/
structure Reader where
  rest : List Char
  pos : Nat
  flags : Flags
  groups : Nat := 0
  names : List (String × Nat × Nat) := []
  brackets : List Nat := []
  deferred : Option Error := none

/-- A step of the reader. -/
abbrev ReadM := StateT Reader (Except Error)

namespace Reader

/-- Refuses the pattern at the current offset. -/
def fail {α : Type} (k : ErrorKind) : ReadM α := do
  let r ← get
  throw { kind := k, start := r.pos, stop := r.pos }

/-- Refuses the pattern for a span. -/
def failSpan {α : Type} (k : ErrorKind) (start stop : Nat) : ReadM α :=
  throw { kind := k, start, stop }

/-- Refuses a class left open, at the innermost open bracket. -/
def failUnclosedClass {α : Type} : ReadM α := do
  let r ← get
  match r.brackets with
  | b :: _ => throw { kind := .classUnclosed, start := b, stop := b + 1 }
  | [] => throw { kind := .classUnclosed, start := r.pos, stop := r.pos }

/-- Records a refusal found while translating; the first one is kept. -/
def defer (k : ErrorKind) (start stop : Nat) : ReadM Unit :=
  modify fun r => match r.deferred with
    | some _ => r
    | none => { r with deferred := some { kind := k, start, stop } }

/-- The current character. -/
def peek : ReadM (Option Char) := return (← get).rest.head?

/-- The character after the current one. -/
def peek2 : ReadM (Option Char) := return ((← get).rest.drop 1).head?

/-- Whether the whole pattern has been read. -/
def atEnd : ReadM Bool := return (← get).rest.isEmpty

/-- Moves past the current character; true when a character follows. -/
def bump : ReadM Bool := do
  modify fun r => match r.rest with
    | _ :: rest => { r with rest, pos := r.pos + 1 }
    | [] => r
  return !(← get).rest.isEmpty

/-- Moves past `s` when the pattern goes on with it. -/
def bumpIf (s : String) : ReadM Bool := do
  let r ← get
  if s.toList.isPrefixOf r.rest then
    set { r with rest := r.rest.drop s.length, pos := r.pos + s.length }
    return true
  else return false

/-- Skips blanks, and `#` comments through the end of their line, from `cs` on. -/
def skipBlank (inComment : Bool) : List Char → Nat → List Char × Nat
  | [], n => ([], n)
  | c :: r, n =>
    if inComment then skipBlank (c ≠ '\n') r (n + 1)
    else if Text.isBlank c then skipBlank false r (n + 1)
    else if c = '#' then skipBlank true r (n + 1)
    else (c :: r, n)

/-- Skips blanks and comments when the `x` flag is on. -/
def bumpSpace : ReadM Unit := do
  let r ← get
  if r.flags.ignoreWhitespace then
    let (rest, n) := skipBlank false r.rest 0
    set { r with rest, pos := r.pos + n }

/-- Moves past the current character and skips blanks; true when a character follows. -/
def bumpAndBumpSpace : ReadM Bool := do
  if !(← bump) then return false
  bumpSpace
  return !(← atEnd)

/-- The first character after the current one that is neither a blank nor the `#` opening
a comment, when the `x` flag is on (the immediate next one when there is none). -/
def peekSpace : ReadM (Option Char) := do
  let r ← get
  if !r.flags.ignoreWhitespace then return (r.rest.drop 1).head?
  match r.rest with
  | [] => return none
  | _ :: after =>
    let rec scan (inComment : Bool) : List Char → Option Char
      | [] => after.head?
      | c :: cs =>
        if Text.isBlank c then scan inComment cs
        else if !inComment && c = '#' then scan true cs
        else if inComment && c = '\n' then scan false cs
        else some c
    return scan false after

end Reader

open Reader

/-- An item of a sequence being read: an expression, or a `(?flags)` that changed the flags. -/
inductive Item where
  | node (n : Node)
  | setFlags

/-- An open construct: a group (with the sequence before it, its capture index, the flags to
restore when it closes, and the offset of its parenthesis), or the finished branches of an
alternation. -/
inductive Frame where
  | group (prior : List Item) (index : Option Nat) (saved : Flags) (openAt : Nat)
  | alternation (branches : List Node)

/-- The expression of a sequence of items (kept newest first). -/
def sequenceNode (items : List Item) : Node :=
  match items.reverse.filterMap (fun | .node n => some n | .setFlags => none) with
  | [] => .empty
  | [n] => n
  | ns => .concat ns

/-- A literal under the flags: a set of its case variants when case is ignored. -/
def literalNode (flags : Flags) (c : Char) : Node :=
  if flags.caseInsensitive then
    if flags.unicode then .chars (CharSet.single c).caseFold
    else .chars (CharSet.single c).asciiCaseFold
  else .chars (CharSet.single c)

/-- The set of a Perl class `\d`, `\s` or `\w`. -/
def perlSet (unicode : Bool) (kind : Char) : CharSet :=
  if unicode then
    match kind with
    | 'd' => ⟨Text.decimalDigitRanges.ranges⟩
    | 's' => ⟨Text.whiteSpaceRanges.ranges⟩
    | _ => ⟨Text.wordRanges.ranges⟩
  else
    match kind with
    | 'd' => CharSet.range '0' '9'
    | 's' => CharSet.ofRanges [(9, 13), (32, 32)]
    | _ => CharSet.ofRanges [(48, 57), (65, 90), (95, 95), (97, 122)]

/-- The set of a `[:name:]` class, if the name is known. -/
def asciiClass? (name : String) : Option CharSet :=
  match name with
  | "alnum" => some (CharSet.ofRanges [(48, 57), (65, 90), (97, 122)])
  | "alpha" => some (CharSet.ofRanges [(65, 90), (97, 122)])
  | "ascii" => some (CharSet.ofRanges [(0, 127)])
  | "blank" => some (CharSet.ofRanges [(9, 9), (32, 32)])
  | "cntrl" => some (CharSet.ofRanges [(0, 31), (127, 127)])
  | "digit" => some (CharSet.ofRanges [(48, 57)])
  | "graph" => some (CharSet.ofRanges [(33, 126)])
  | "lower" => some (CharSet.ofRanges [(97, 122)])
  | "print" => some (CharSet.ofRanges [(32, 126)])
  | "punct" => some (CharSet.ofRanges [(33, 47), (58, 64), (91, 96), (123, 126)])
  | "space" => some (CharSet.ofRanges [(9, 13), (32, 32)])
  | "upper" => some (CharSet.ofRanges [(65, 90)])
  | "word" => some (CharSet.ofRanges [(48, 57), (65, 90), (95, 95), (97, 122)])
  | "xdigit" => some (CharSet.ofRanges [(48, 57), (65, 70), (97, 102)])
  | _ => none

/-- What an escape stands for. -/
inductive Escaped where
  /-- A character; `byte` when it was written `\xHH`. -/
  | literal (c : Char) (byte : Bool)
  /-- A class. -/
  | set (s : CharSet)
  /-- A zero-width assertion. -/
  | look (l : Look)

/-- Whether `c` is one of the characters with a meaning in patterns. -/
def isMeta (c : Char) : Bool :=
  "\\.+*?()|[]{}^$#&-~".toList.contains c

/-- Whether `\c` stands for `c` itself. -/
def isEscapable (c : Char) : Bool :=
  isMeta c || (c.toNat < 128 && !c.isAlphanum && c ≠ '<' && c ≠ '>')

/-- Whether `c` may stand in a capture name (`first`: at its start). -/
def isCaptureChar (c : Char) (first : Bool) : Bool :=
  if first then c = '_' || Text.isAlphabetic c
  else c = '_' || c = '.' || c = '[' || c = ']' || Text.isAlphanumeric c

/-- The value of a hexadecimal digit. -/
def hexDigit? (c : Char) : Option Nat :=
  if '0' ≤ c && c ≤ '9' then some (c.toNat - '0'.toNat)
  else if 'a' ≤ c && c ≤ 'f' then some (c.toNat - 'a'.toNat + 10)
  else if 'A' ≤ c && c ≤ 'F' then some (c.toNat - 'A'.toNat + 10)
  else none

/-- The number written by hex digits. -/
def hexValue (ds : List Nat) : Nat := ds.foldl (fun acc d => acc * 16 + d) 0

/-- The character with code point `n`, if it is a Unicode scalar value. -/
def scalar? (n : Nat) : Option Char :=
  if n < 0xD800 || (0xDFFF < n && n ≤ maxCodePoint) then some (Char.ofNat n) else none

/-- Reads hex digits after `\x`, `\u` or `\U`: a fixed count, or any number in braces. -/
def readHex (fixed : Nat) (byteKind : Bool) : ReadM Escaped := do
  if !(← bumpAndBumpSpace) then fail .escapeUnexpectedEof
  if (← peek) = some '{' then
    let brace := (← get).pos
    let rec loop : Nat → List Nat → ReadM (List Nat)
      | 0, acc => return acc
      | fuel + 1, acc => do
        if !(← bumpAndBumpSpace) then return acc
        match ← peek with
        | some '}' => return acc
        | some c =>
          match hexDigit? c with
          | some d => loop fuel (acc ++ [d])
          | none => fail .escapeHexInvalidDigit
        | none => return acc
    let ds ← loop ((← get).rest.length + 1) []
    if ← atEnd then failSpan .escapeUnexpectedEof brace (← get).pos
    let close := (← get).pos
    let _ ← bumpAndBumpSpace
    if ds.isEmpty then failSpan .escapeHexEmpty brace (← get).pos
    if hexValue ds ≥ Nat.pow 2 32 then failSpan .escapeHexInvalid (brace + 1) close
    match scalar? (hexValue ds) with
    | some c => return .literal c false
    | none => failSpan .escapeHexInvalid (brace + 1) close
  else
    let rec digits : Nat → List Nat → ReadM (List Nat)
      | 0, acc => return acc
      | k + 1, acc => do
        if !acc.isEmpty then
          if !(← bumpAndBumpSpace) then fail .escapeUnexpectedEof
        match ← peek with
        | some c =>
          match hexDigit? c with
          | some d => digits k (acc ++ [d])
          | none => fail .escapeHexInvalidDigit
        | none => fail .escapeUnexpectedEof
    let first := (← get).pos
    let ds ← digits fixed []
    let _ ← bumpAndBumpSpace
    match scalar? (hexValue ds) with
    | some c => return .literal c byteKind
    | none => failSpan .escapeHexInvalid first (← get).pos

/-- Splits a braced class name into a query: `name!=value` (which negates), `name:value`,
`name=value` or a bare name, tried in that order. -/
def classQuery (name : String) : Bool × Except ErrorKind CharSet :=
  let cs := name.toList
  let rec findPair : Nat → List Char → Option Nat
    | _, [] => none
    | i, '!' :: '=' :: _ => some i
    | i, _ :: rest => findPair (i + 1) rest
  let split (i skip : Nat) : String × String :=
    (String.ofList (cs.take i), String.ofList (cs.drop (i + skip)))
  match findPair 0 cs with
  | some i => let (n, v) := split i 2; (true, valueClass n v)
  | none =>
    match cs.findIdx? (· = ':') with
    | some i => let (n, v) := split i 1; (false, valueClass n v)
    | none =>
      match cs.findIdx? (· = '=') with
      | some i => let (n, v) := split i 1; (false, valueClass n v)
      | none => (false, namedClass name)

/-- Reads a `\p` or `\P` class name and looks it up; `start` is the offset of the backslash. -/
def readUnicodeClass (start : Nat) (negated : Bool) : ReadM CharSet := do
  if !(← bumpAndBumpSpace) then fail .escapeUnexpectedEof
  let query ← do
    if (← peek) = some '{' then
      let rec loop : Nat → List Char → ReadM (List Char)
        | 0, acc => return acc
        | fuel + 1, acc => do
          if !(← bumpAndBumpSpace) then return acc
          match ← peek with
          | some '}' => return acc
          | some c => loop fuel (acc ++ [c])
          | none => return acc
      let cs ← loop ((← get).rest.length + 1) []
      if ← atEnd then fail .escapeUnexpectedEof
      let _ ← bump
      pure (classQuery (String.ofList cs))
    else
      match ← peek with
      | some '\\' => failSpan .unicodeClassInvalid (← get).pos ((← get).pos + 1)
      | some c =>
        let _ ← bumpAndBumpSpace
        pure (false, namedClass (String.singleton c))
      | none => fail .escapeUnexpectedEof
  let flags := (← get).flags
  let stop := (← get).pos
  if !flags.unicode then
    defer .unicodeNotAllowed start stop
    return CharSet.empty
  match query.2 with
  | .ok s =>
    let s := if flags.caseInsensitive then s.caseFold else s
    return if negated != query.1 then s.complement else s
  | .error kind =>
    defer kind start stop
    return CharSet.empty

/-- Reads the name of a special word boundary `\b{start}`, `\b{end}`, `\b{start-half}` or
`\b{end-half}`; `none` (and nothing consumed) when the brace opens a repetition instead. -/
def readSpecialWordBoundary (start : Nat) (unicode : Bool) : ReadM (Option Look) := do
  let saved ← get
  if !(← bumpAndBumpSpace) then failSpan .specialWordOrRepetitionUnexpectedEof start (← get).pos
  let isNameChar (c : Char) : Bool := c.isAlpha || c = '-'
  match ← peek with
  | some c =>
    if !isNameChar c then
      set saved
      return none
  | none => pure ()
  let rec loop : Nat → List Char → ReadM (List Char)
    | 0, acc => return acc
    | fuel + 1, acc => do
      match ← peek with
      | some c =>
        if isNameChar c then
          let _ ← bumpAndBumpSpace
          loop fuel (acc ++ [c])
        else return acc
      | none => return acc
  let contents := saved.pos + 1
  let name ← loop ((← get).rest.length + 1) []
  if (← peek) ≠ some '}' then failSpan .specialWordBoundaryUnclosed saved.pos (← get).pos
  let close := (← get).pos
  let _ ← bump
  match String.ofList name with
  | "start" => return some (.wordStart unicode)
  | "end" => return some (.wordEnd unicode)
  | "start-half" => return some (.wordStartHalf unicode)
  | "end-half" => return some (.wordEndHalf unicode)
  | _ => failSpan .specialWordBoundaryUnrecognized contents close

/-- Reads an escape; the current character is the backslash. -/
def readEscape : ReadM Escaped := do
  let start := (← get).pos
  if !(← bump) then failSpan .escapeUnexpectedEof start (start + 1)
  let some c ← peek | failSpan .escapeUnexpectedEof start (start + 1)
  let flags := (← get).flags
  if '0' ≤ c && c ≤ '9' then failSpan .unsupportedBackreference start (start + 2)
  match c with
  | 'x' => readHex 2 true
  | 'u' => readHex 4 false
  | 'U' => readHex 8 false
  | 'p' => return .set (← readUnicodeClass start false)
  | 'P' => return .set (← readUnicodeClass start true)
  | 'd' | 's' | 'w' =>
    let _ ← bump
    return .set (perlSet flags.unicode c)
  | 'D' | 'S' | 'W' =>
    let _ ← bump
    let s := (perlSet flags.unicode c.toLower).complement
    if !flags.unicode then defer .invalidUtf8 start (start + 2)
    return .set s
  | _ =>
    let _ ← bump
    if isEscapable c then return .literal c false
    match c with
    | 'a' => return .literal (Char.ofNat 7) false
    | 'f' => return .literal (Char.ofNat 12) false
    | 't' => return .literal '\t' false
    | 'n' => return .literal '\n' false
    | 'r' => return .literal '\r' false
    | 'v' => return .literal (Char.ofNat 11) false
    | 'A' => return .look .start
    | 'z' => return .look .finish
    | 'b' =>
      if (← peek) = some '{' then
        match ← readSpecialWordBoundary start flags.unicode with
        | some l => return .look l
        | none => return .look (.wordBoundary flags.unicode)
      else return .look (.wordBoundary flags.unicode)
    | 'B' => return .look (.notWordBoundary flags.unicode)
    | '<' => return .look (.wordStart flags.unicode)
    | '>' => return .look (.wordEnd flags.unicode)
    | _ => failSpan .escapeUnrecognized start (← get).pos

/-- A set operation between classes. -/
inductive SetOp where
  | inter
  | diff
  | symmDiff

/-- An open bracket or a pending set operation inside a class. -/
inductive ClassFrame where
  /-- An open bracket: the union of the enclosing bracket so far, and whether this one is
  negated. -/
  | bracket (parent : CharSet) (negated : Bool)
  /-- A set operation waiting for its right side. -/
  | op (kind : SetOp) (lhs : CharSet)

/-- Applies a set operation; both sides are folded first when case is ignored. -/
def applySetOp (flags : Flags) (kind : SetOp) (lhs rhs : CharSet) : CharSet :=
  let fold (s : CharSet) : CharSet :=
    if flags.caseInsensitive then (if flags.unicode then s.caseFold else s.asciiCaseFold) else s
  let lhs := fold lhs
  let rhs := fold rhs
  match kind with
  | .inter => lhs.inter rhs
  | .diff => lhs.diff rhs
  | .symmDiff => lhs.symmDiff rhs

/-- Combines `rhs` with a pending set operation on top of the stack, if there is one. -/
def popClassOp (flags : Flags) (rhs : CharSet) : List ClassFrame → CharSet × List ClassFrame
  | .op kind lhs :: rest => (applySetOp flags kind lhs rhs, rest)
  | stack => (rhs, stack)

/-- The set of a closed bracket (opened at `start`; the current character is its `]`):
folded when case is ignored, then negated. Without Unicode, a class reaching past ASCII is
refused. -/
def closeBracket (flags : Flags) (s : CharSet) (negated : Bool) (start : Nat) : ReadM CharSet := do
  let _ ← bump
  let s := if flags.caseInsensitive then (if flags.unicode then s.caseFold else s.asciiCaseFold) else s
  let s := if negated then s.complement else s
  if !flags.unicode && s.hasNonAscii then defer .invalidUtf8 start (← get).pos
  modify fun r => { r with brackets := r.brackets.drop 1 }
  return s

/-- Reads the opening of a bracket (the current character is `[`): a `^`, leading `-` and a
leading `]` are part of it. Returns the negation and the first members. -/
def openBracket : ReadM (Bool × CharSet) := do
  modify fun r => { r with brackets := r.pos :: r.brackets }
  if !(← bumpAndBumpSpace) then failUnclosedClass
  let negated ← do
    if (← peek) = some '^' then
      if !(← bumpAndBumpSpace) then failUnclosedClass
      pure true
    else pure false
  let rec dashes : Nat → CharSet → ReadM CharSet
    | 0, s => return s
    | fuel + 1, s => do
      if (← peek) = some '-' then
        if !(← bumpAndBumpSpace) then failUnclosedClass
        dashes fuel (s.union (CharSet.single '-'))
      else return s
  let s ← dashes ((← get).rest.length + 1) CharSet.empty
  if s.isEmpty && (← peek) = some ']' then
    if !(← bumpAndBumpSpace) then failUnclosedClass
    return (negated, CharSet.single ']')
  return (negated, s)

/-- Tries to read `[:name:]` or `[:^name:]`; nothing is consumed when it is not one. -/
def tryAsciiClass : ReadM (Option CharSet) := do
  let saved ← get
  let r := saved.rest
  match r with
  | '[' :: ':' :: after =>
    let (negated, body) := match after with
      | '^' :: b => (true, b)
      | b => (false, b)
    let name := body.takeWhile (· ≠ ':')
    let tail := body.dropWhile (· ≠ ':')
    match tail with
    | ':' :: ']' :: rest =>
      match asciiClass? (String.ofList name) with
      | some s =>
        set { saved with rest, pos := saved.pos + (r.length - rest.length) }
        return some (if negated then s.complement else s)
      | none => return none
    | _ => return none
  | _ => return none

/-- A member of a class as written, with its span. -/
structure Member where
  escaped : Escaped
  start : Nat
  stop : Nat

/-- Checks a literal of a class without Unicode: a byte past ASCII cannot be matched as
text, and a character past ASCII has no place in a class of bytes. -/
def checkByteLiteral (flags : Flags) (m : Member) : ReadM Unit := do
  match m.escaped with
  | .literal c byte =>
    if !flags.unicode && c.toNat ≥ 0x80 then
      defer (if byte then .invalidUtf8 else .unicodeNotAllowed) m.start m.stop
  | _ => pure ()

/-- Turns a member of a class into a set; assertions have no place there. -/
def escapedSet (flags : Flags) (m : Member) : ReadM CharSet := do
  match m.escaped with
  | .literal c _ =>
    checkByteLiteral flags m
    return CharSet.single c
  | .set s => return s
  | .look _ => failSpan .classEscapeInvalid m.start m.stop

/-- A single member of a class, as written: an escape, or a character. -/
def readClassMember : ReadM Member := do
  let start := (← get).pos
  match ← peek with
  | some '\\' =>
    let e ← readEscape
    return ⟨e, start, (← get).pos⟩
  | some c =>
    let _ ← bump
    return ⟨.literal c false, start, start + 1⟩
  | none => failUnclosedClass

/-- Reads a class member or a range `a-z`. -/
def readClassRange : ReadM CharSet := do
  let flags := (← get).flags
  let first ← readClassMember
  bumpSpace
  if ← atEnd then failUnclosedClass
  let next ← peek
  let after ← peekSpace
  if next ≠ some '-' || after = some ']' || after = some '-' then
    escapedSet flags first
  else
    if !(← bumpAndBumpSpace) then failUnclosedClass
    let second ← readClassMember
    match first.escaped, second.escaped with
    | .literal a _, .literal b _ =>
      if b < a then failSpan .classRangeInvalid first.start second.stop
      checkByteLiteral flags first
      checkByteLiteral flags second
      return CharSet.range a b
    | .literal _ _, _ => failSpan .classRangeLiteral second.start second.stop
    | _, _ => failSpan .classRangeLiteral first.start first.stop

/-- Reads a bracketed class; the current character is `[`. -/
def readClass : ReadM CharSet := do
  let flags := (← get).flags
  let (negated, first) ← openBracket
  let rec loop : Nat → CharSet → List ClassFrame → ReadM CharSet
    | 0, _, _ => failUnclosedClass
    | fuel + 1, union, stack => do
      bumpSpace
      match ← peek with
      | none => failUnclosedClass
      | some '[' =>
        match ← tryAsciiClass with
        | some s => loop fuel (union.union s) stack
        | none =>
          let (neg, s) ← openBracket
          loop fuel s (.bracket union neg :: stack)
      | some ']' =>
        let (set, stack) := popClassOp flags union stack
        match stack with
        | .bracket parent neg :: rest =>
          let start := ((← get).brackets.head?).getD (← get).pos
          let closed ← closeBracket flags set neg start
          match rest with
          | [] => return closed
          | _ => loop fuel (parent.union closed) rest
        | _ => failUnclosedClass
      | some c =>
        let two ← peek2
        if (c = '&' && two = some '&') || (c = '-' && two = some '-') || (c = '~' && two = some '~') then
          let _ ← bump
          let _ ← bump
          let kind := if c = '&' then SetOp.inter else if c = '-' then .diff else .symmDiff
          let (lhs, stack) := popClassOp flags union stack
          loop fuel CharSet.empty (.op kind lhs :: stack)
        else
          let s ← readClassRange
          loop fuel (union.union s) stack
  loop ((← get).rest.length + 1) first [.bracket CharSet.empty negated]

/-- Reads a decimal number of a counted repetition; blanks around it are skipped. The number,
or the refusal (empty, or too large), which the caller raises only if it needs the number. -/
def readDecimal : ReadM (Except Error Nat) := do
  let rec blanks : Nat → ReadM Unit
    | 0 => return
    | fuel + 1 => do
      match ← peek with
      | some c =>
        if Text.isBlank c then
          let _ ← bump
          blanks fuel
        else return
      | none => return
  let rec digits : Nat → List Nat → ReadM (List Nat)
    | 0, acc => return acc
    | fuel + 1, acc => do
      match ← peek with
      | some c =>
        if c.isDigit then
          let _ ← bumpAndBumpSpace
          digits fuel (acc ++ [c.toNat - '0'.toNat])
        else return acc
      | none => return acc
  blanks ((← get).rest.length + 1)
  let start := (← get).pos
  let ds ← digits ((← get).rest.length + 1) []
  let stop := (← get).pos
  blanks ((← get).rest.length + 1)
  if ds.isEmpty then return .error { kind := .repetitionCountDecimalEmpty, start, stop }
  let n := ds.foldl (fun acc d => acc * 10 + d) 0
  if n ≥ Nat.pow 2 32 then return .error { kind := .decimalInvalid, start, stop }
  return .ok n

/-- Wraps the last item of a sequence in a repetition; a sequence that ends in nothing
repeatable is refused. -/
def repeatLast (items : List Item) (min : Nat) (max : Option Nat) (greedy : Bool) :
    ReadM (List Item) := do
  match items with
  | .node n :: rest =>
    let flags := (← get).flags
    let greedy := if flags.swapGreed then !greedy else greedy
    return .node (Node.mkRepeat n min max greedy) :: rest
  | _ => fail .repetitionMissing

/-- Reads `?`, `*` or `+` and an optional `?` making it lazy. -/
def readUncounted (items : List Item) (min : Nat) (max : Option Nat) : ReadM (List Item) := do
  match items with
  | .node _ :: _ => pure ()
  | _ => fail .repetitionMissing
  let lazy ← do
    if (← bump) && (← peek) = some '?' then
      let _ ← bump
      pure true
    else pure false
  repeatLast items min max !lazy

/-- The number read, or its refusal raised. -/
def needDecimal (d : Except Error Nat) : ReadM Nat :=
  match d with
  | .ok n => pure n
  | .error e => throw e

/-- Reads `{n}`, `{n,}` or `{n,m}` and an optional `?` making it lazy. -/
def readCounted (items : List Item) : ReadM (List Item) := do
  match items with
  | .node _ :: _ => pure ()
  | _ => fail .repetitionMissing
  let start := (← get).pos
  let unclosed {α : Type} : ReadM α := do failSpan .repetitionCountUnclosed start (← get).pos
  if !(← bumpAndBumpSpace) then unclosed
  let low ← readDecimal
  if ← atEnd then unclosed
  let (min, max) ← do
    if (← peek) = some ',' then
      if !(← bumpAndBumpSpace) then unclosed
      if (← peek) ≠ some '}' then
        let lo ← needDecimal low
        let hi ← needDecimal (← readDecimal)
        pure (lo, some hi)
      else pure (← needDecimal low, none)
    else
      let n ← needDecimal low
      pure (n, some n)
  if (← atEnd) || (← peek) ≠ some '}' then unclosed
  let lazy ← do
    if (← bumpAndBumpSpace) && (← peek) = some '?' then
      let _ ← bumpAndBumpSpace
      pure true
    else pure false
  match max with
  | some h => if h < min then failSpan .repetitionCountInvalid start (← get).pos
  | none => pure ()
  repeatLast items min max !lazy

/-- Reads the flags of `(?flags)` or `(?flags:`, up to the `)` or `:`; returns them applied
to `base`, and whether anything was written. -/
def readFlags (base : Flags) : ReadM (Flags × Bool) := do
  let rec loop : Nat → Flags → Bool → Option Nat → Option Nat → List (Char × Nat) → Bool →
      ReadM (Flags × Bool)
    | 0, f, _, _, _, _, any => return (f, any)
    | fuel + 1, f, on, negAt, lastNeg, seen, any => do
      let here := (← get).pos
      match ← peek with
      | some ':' | some ')' =>
        if let some p := lastNeg then failSpan .flagDanglingNegation p (p + 1)
        return (f, any)
      | some '-' =>
        if let some first := negAt then
          throw { kind := .flagRepeatedNegation, start := here, stop := here + 1,
                  original := some (first, first + 1) }
        if !(← bump) then fail .flagUnexpectedEof
        loop fuel f false (some here) (some here) seen true
      | some c =>
        match f.set c on with
        | some f' =>
          if let some (_, first) := seen.find? (·.1 = c) then
            throw { kind := .flagDuplicate, start := here, stop := here + 1,
                    original := some (first, first + 1) }
          if !(← bump) then fail .flagUnexpectedEof
          loop fuel f' on negAt none (seen ++ [(c, here)]) true
        | none => failSpan .flagUnrecognized here (here + 1)
      | none => fail .flagUnexpectedEof
  loop ((← get).rest.length + 1) base true none none [] false

/-- Reads a capture name up to its `>`; the name is checked and recorded. -/
def readCaptureName : ReadM String := do
  if ← atEnd then fail .groupNameUnexpectedEof
  let start := (← get).pos
  let rec loop : Nat → List Char → ReadM (List Char)
    | 0, acc => return acc
    | fuel + 1, acc => do
      match ← peek with
      | some '>' => return acc
      | some c =>
        if !isCaptureChar c acc.isEmpty then fail .groupNameInvalid
        if !(← bump) then return acc ++ [c]
        loop fuel (acc ++ [c])
      | none => return acc
  let name ← loop ((← get).rest.length + 1) []
  let stop := (← get).pos
  if ← atEnd then failSpan .groupNameUnexpectedEof start stop
  let _ ← bump
  if name.isEmpty then failSpan .groupNameEmpty start start
  let name := String.ofList name
  let r ← get
  if let some (_, a, b) := r.names.find? (·.1 = name) then
    throw { kind := .groupNameDuplicate, start, stop, original := some (a, b) }
  set { r with names := r.names ++ [(name, start, stop)] }
  return name

/-- The next capture index. -/
def nextCapture : ReadM Nat := do
  let r ← get
  set { r with groups := r.groups + 1 }
  return r.groups + 1

/-- Reads what follows `(`: either a flag setting `(?flags)`, which changes the flags in force,
or the opening of a group, which is pushed with the sequence before it. -/
def openGroup (items : List Item) (stack : List Frame) : ReadM (List Item × List Frame) := do
  let openAt := (← get).pos
  let _ ← bump
  bumpSpace
  let inner := (← get).pos
  if (← bumpIf "?=") || (← bumpIf "?!") || (← bumpIf "?<=") || (← bumpIf "?<!") then
    failSpan .unsupportedLookAround openAt (← get).pos
  let saved := (← get).flags
  if (← bumpIf "?P<") || (← bumpIf "?<") then
    let index ← nextCapture
    let _ ← readCaptureName
    return ([], .group items (some index) saved openAt :: stack)
  else if ← bumpIf "?" then
    if ← atEnd then failSpan .groupUnclosed openAt (openAt + 1)
    let (flags, written) ← readFlags saved
    let some close ← peek | fail .flagUnexpectedEof
    let _ ← bump
    if close = ')' then
      if !written then failSpan .repetitionMissing inner inner
      modify fun r => { r with flags }
      return (.setFlags :: items, stack)
    else
      modify fun r => { r with flags }
      return ([], .group items none saved openAt :: stack)
  else
    let index ← nextCapture
    return ([], .group items (some index) saved openAt :: stack)

/-- Closes the innermost group at `)`. -/
def closeGroup (items : List Item) (stack : List Frame) : ReadM (List Item × List Frame) := do
  let (body, stack) ← match stack with
    | .group prior index saved openAt :: rest =>
      pure (sequenceNode items, Frame.group prior index saved openAt :: rest)
    | .alternation branches :: rest => pure (Node.alt (branches ++ [sequenceNode items]), rest)
    | [] => fail .groupUnopened
  match stack with
  | .group prior index saved _ :: rest =>
    let _ ← bump
    modify fun r => { r with flags := saved }
    let node := match index with
      | some i => Node.capture i body
      | none => body
    return (.node node :: prior, rest)
  | _ => fail .groupUnopened

/-- Ends the current branch at `|`. -/
def pushAlternate (items : List Item) (stack : List Frame) : ReadM (List Item × List Frame) := do
  let _ ← bump
  let branch := sequenceNode items
  match stack with
  | .alternation branches :: rest => return ([], .alternation (branches ++ [branch]) :: rest)
  | _ => return ([], .alternation [branch] :: stack)

/-- Finishes the pattern at its end; an open group is refused at its parenthesis (the
innermost one). -/
def finishPattern (items : List Item) (stack : List Frame) : ReadM Node := do
  match stack with
  | [] => return sequenceNode items
  | [.alternation branches] => return .alt (branches ++ [sequenceNode items])
  | .group _ _ _ openAt :: _ => failSpan .groupUnclosed openAt (openAt + 1)
  | .alternation _ :: .group _ _ _ openAt :: _ => failSpan .groupUnclosed openAt (openAt + 1)
  | _ => fail .groupUnclosed

/-- The anchor `^` or `$` stands for under the flags. -/
def lineAnchor (flags : Flags) (atStart : Bool) : Look :=
  if flags.multiLine then
    if flags.crlf then (if atStart then .startLineCrlf else .endLineCrlf)
    else (if atStart then .startLine else .endLine)
  else (if atStart then .start else .finish)

/-- The set `.` stands for under the flags; without Unicode it is refused, since it would
match single bytes. -/
def dotNode (flags : Flags) : ReadM Node := do
  if !flags.unicode then
    let p := (← get).pos
    defer .invalidUtf8 (p - 1) p
  if flags.dotAll then return .chars (CharSet.ofRanges [(0, maxCodePoint)])
  else if flags.crlf then return .chars (CharSet.ofRanges [(10, 10), (13, 13)]).complement
  else return .chars (CharSet.single '\n').complement

/-- Reads a literal, an escape, `.`, `^` or `$`. -/
def readPrimitive : ReadM Node := do
  let flags := (← get).flags
  let start := (← get).pos
  match ← peek with
  | some '\\' =>
    match ← readEscape with
    | .literal c byte =>
      if !flags.unicode && byte && c.toNat ≥ 0x80 then defer .invalidUtf8 start (← get).pos
      return literalNode flags c
    | .set s => return .chars s
    | .look l => return .look l
  | some '.' =>
    let _ ← bump
    dotNode flags
  | some '^' =>
    let _ ← bump
    return .look (lineAnchor flags true)
  | some '$' =>
    let _ ← bump
    return .look (lineAnchor flags false)
  | some c =>
    let _ ← bump
    return literalNode flags c
  | none => fail .escapeUnexpectedEof

/-- Reads the pattern from the current position to its end. -/
def readLoop : Nat → List Item → List Frame → ReadM Node
  | 0, _, _ => fail .nestLimitExceeded
  | fuel + 1, items, stack => do
    bumpSpace
    match ← peek with
    | none => finishPattern items stack
    | some '(' =>
      let (items, stack) ← openGroup items stack
      readLoop fuel items stack
    | some ')' =>
      let (items, stack) ← closeGroup items stack
      readLoop fuel items stack
    | some '|' =>
      let (items, stack) ← pushAlternate items stack
      readLoop fuel items stack
    | some '[' =>
      let s ← readClass
      readLoop fuel (.node (.chars s) :: items) stack
    | some '?' => readLoop fuel (← readUncounted items 0 (some 1)) stack
    | some '*' => readLoop fuel (← readUncounted items 0 none) stack
    | some '+' => readLoop fuel (← readUncounted items 1 none) stack
    | some '{' => readLoop fuel (← readCounted items) stack
    | some _ => readLoop fuel (.node (← readPrimitive) :: items) stack

/-- A parsed pattern: its expression and the number of capture groups (group 0 aside). -/
structure Parsed where
  node : Node
  groups : Nat

/-- Reads a pattern under the given flags. -/
def parse (pattern : String) (flags : Flags) : Except Error Parsed := do
  let start : Reader := { rest := pattern.toList, pos := 0, flags }
  let (node, r) ← (readLoop (pattern.length + 1) [] []).run start
  match r.deferred with
  | some e => throw e
  | none => return { node, groups := r.groups }

end RuleRouting.Regex
