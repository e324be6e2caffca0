import RuleRouting.Yaml.Node

/-!
# Reading YAML text

A recursive-descent reader for the YAML that configuration files use: block mappings and
sequences laid out by indentation, flow collections `[…]` and `{…}`, plain, single-quoted,
double-quoted and block (`|`, `>`) scalars, comments, anchors and aliases, and `---`/`...`
document markers.

Block structure follows the column of each node's first character. A mapping at column `c`
takes every following line that starts at column `c` as its next key; a value on the lines
below a key is indented further, except that a sequence may stand at the key's own column.
A plain scalar continues on following lines that are indented further than its enclosing
collection; the lines are joined by a space, and each empty line between them becomes a line
break. A stream holds at most one document; an empty stream holds none.

Every loop of the reader consumes input or stops. The nested readers share one fuel
budget, four steps per character of input, which each level of nesting and each entry of a
collection spends at most once per character it consumes; so the reader is total.
-/

namespace RuleRouting.Yaml

/-- The reader's position in the text and the anchors defined so far. -/
structure Cursor where
  src : Array Char
  pos : Nat := 0
  anchors : List (String × Node) := []

/-- Reading steps: they move the cursor and may fail with a description. -/
abbrev ReadM := StateT Cursor (Except String)

/-- The character `k` places ahead. -/
def peekAt (k : Nat) : ReadM (Option Char) := do
  let c ← get
  return c.src[c.pos + k]?

/-- The current character. -/
def current : ReadM (Option Char) := peekAt 0

/-- Moves `k` characters ahead. -/
def advance (k : Nat) : ReadM Unit :=
  modify fun c => { c with pos := c.pos + k }

/-- Whether a character is a space or a tab. -/
def isBlank (c : Char) : Bool := c = ' ' || c = '\t'

/-- Whether a character opens or closes a flow collection or separates its entries. -/
def isFlowIndicator (c : Char) : Bool :=
  c = ',' || c = '[' || c = ']' || c = '{' || c = '}'

/-- Whether the character ends a token: a blank, a line break or the end of the text. -/
def endsToken : Option Char → Bool
  | none => true
  | some c => isBlank c || c = '\n'

/-- The start of the line holding position `p`. -/
def lineStart (src : Array Char) : Nat → Nat
  | 0 => 0
  | p + 1 => if src[p]? = some '\n' then p + 1 else lineStart src p

/-- The column of the current position. -/
def column : ReadM Nat := do
  let c ← get
  return c.pos - lineStart c.src c.pos

/-- Whether only spaces stand between the line start and the current position. -/
def onlySpacesBefore : ReadM Bool := do
  let c ← get
  let start := lineStart c.src c.pos
  return ((c.src.extract start c.pos).toList.all (· = ' '))

/-- The number of characters from `pos` on that satisfy `p`. -/
def countFrom (src : Array Char) (p : Char → Bool) (pos : Nat) : Nat → Nat
  | 0 => 0
  | n + 1 =>
    match src[pos]? with
    | some c => if p c then countFrom src p (pos + 1) n + 1 else 0
    | none => 0

/-- Skips the characters that satisfy `p`. -/
def skipWhile (p : Char → Bool) : ReadM Unit := do
  let c ← get
  set { c with pos := c.pos + countFrom c.src p c.pos c.src.size }

/-- Skips blanks, comments and line breaks up to the next content. -/
def skipToContentFor : Nat → ReadM Unit
  | 0 => pure ()
  | n + 1 => do
    skipWhile isBlank
    match ← current with
    | some '#' =>
      skipWhile (· ≠ '\n')
      skipToContentFor n
    | some '\n' =>
      advance 1
      skipToContentFor n
    | _ => pure ()

/-- Skips blanks, comments and line breaks up to the next content. -/
def skipToContent : ReadM Unit := do
  let c ← get
  skipToContentFor (c.src.size - c.pos + 1)

/-- Skips blanks and a comment on the current line. -/
def skipLineRest : ReadM Unit := do
  skipWhile isBlank
  if (← current) = some '#' then skipWhile (· ≠ '\n')

/-- The document marker (`---` or `...`) at the current position, if it is at a line start. -/
def documentMarker : ReadM (Option Char) := do
  if (← column) ≠ 0 then return none
  let a ← peekAt 0
  let b ← peekAt 1
  let c ← peekAt 2
  let d ← peekAt 3
  if (a = some '-' && b = some '-' && c = some '-' || a = some '.' && b = some '.' && c = some '.')
      && endsToken d then
    return a
  else return none

/-- Whether a `:` at `p` is a value indicator: followed by a blank, a line break, the end, or
in flow context a flow indicator. -/
def valueIndicatorAt (src : Array Char) (flow : Bool) (p : Nat) : Bool :=
  src[p]? = some ':' &&
    match src[p + 1]? with
    | none => true
    | some d => isBlank d || d = '\n' || (flow && isFlowIndicator d)

/-- The end of the plain text on this line starting at `p`: before a value indicator, a
comment, the line end, and in flow context a flow indicator. -/
def plainEnd (src : Array Char) (flow : Bool) : Nat → Nat → Nat
  | 0, p => p
  | n + 1, p =>
    match src[p]? with
    | none => p
    | some c =>
      if c = '\n' then p
      else if valueIndicatorAt src flow p then p
      else if c = '#' && p > 0 && (src[p - 1]?.map isBlank).getD false then p
      else if flow && isFlowIndicator c then p
      else plainEnd src flow n (p + 1)

/-- The characters from `a` to `b` without trailing blanks. -/
def trimmedSpan (src : Array Char) (a b : Nat) : List Char :=
  ((src.extract a b).toList.reverse.dropWhile isBlank).reverse

/-- Whether a plain scalar may start with `c` followed by `next`. -/
def canStartPlain (flow : Bool) (c : Char) (next : Option Char) : Bool :=
  if "[]\x7b\x7d,#&*!|>'\"%@`".toList.contains c then false
  else if c = '-' || c = '?' || c = ':' then
    match next with
    | none => false
    | some d => !(isBlank d || d = '\n' || (flow && isFlowIndicator d))
  else true

/-- Reads the plain text on the current line. -/
def plainLine (flow : Bool) : ReadM String := do
  let c ← get
  let stop := plainEnd c.src flow c.src.size c.pos
  let text := trimmedSpan c.src c.pos stop
  set { c with pos := c.pos + text.length }
  return String.ofList text

/-- Line breaks standing for `k` empty lines in folded text, or a space when there are none. -/
def foldBreaks (k : Nat) : String :=
  if k = 0 then " " else String.ofList (List.replicate k '\n')

/-- The number of empty lines from `p` on (lines holding only blanks), and the position of the
first character of the next non-empty line after its leading blanks. -/
def emptyLinesFrom (src : Array Char) : Nat → Nat → Nat → Nat × Nat
  | 0, p, k => (k, p)
  | n + 1, p, k =>
    let q := p + countFrom src isBlank p src.size
    match src[q]? with
    | some '\n' => emptyLinesFrom src n (q + 1) (k + 1)
    | _ => (k, q)

/-- Continues a plain scalar in block context over following lines indented more than
`parent`. The cursor is at the line break after the text read so far. -/
def plainMoreLines (parent : Int) : Nat → String → ReadM String
  | 0, acc => pure acc
  | n + 1, acc => do
    let c ← get
    if c.src[c.pos]? ≠ some '\n' then return acc
    let (k, q) := emptyLinesFrom c.src (c.src.size + 1) (c.pos + 1) 0
    let col := q - lineStart c.src q
    match c.src[q]? with
    | none => return acc
    | some ch =>
      let marker := col = 0 && (ch = '-' || ch = '.') &&
        c.src[q + 1]? = some ch && c.src[q + 2]? = some ch && endsToken c.src[q + 3]?
      if (col : Int) ≤ parent || ch = '#' || marker then return acc
      set { c with pos := q }
      let text ← plainLine false
      if valueIndicatorAt c.src false (q + text.length) then
        throw "mapping values are not allowed in this context"
      plainMoreLines parent n (acc ++ foldBreaks k ++ text)

/-- Continues a plain scalar in flow context over following lines. -/
def flowPlainMoreLines : Nat → String → ReadM String
  | 0, acc => pure acc
  | n + 1, acc => do
    let c ← get
    if c.src[c.pos]? ≠ some '\n' then return acc
    let (k, q) := emptyLinesFrom c.src (c.src.size + 1) (c.pos + 1) 0
    match c.src[q]? with
    | none => return acc
    | some ch =>
      if isFlowIndicator ch || ch = '#' || valueIndicatorAt c.src true q then return acc
      set { c with pos := q }
      let text ← plainLine true
      flowPlainMoreLines n (acc ++ foldBreaks k ++ text)

/-- The value of hex digits. -/
def hexValue? (cs : List Char) : Option Nat := digitsIn 16 cs

/-- Reads the text of a quoted scalar after its opening quote, up to the closing quote.
Line breaks fold: blanks before a break are dropped, the next line's leading blanks are
skipped, and the break becomes a space, or a line break per empty line. -/
def quotedBody (double : Bool) : Nat → String → String → ReadM String
  | 0, _, _ => throw "found unexpected end of stream"
  | n + 1, acc, blanks => do
    match ← current with
    | none => throw "found unexpected end of stream while scanning a quoted scalar"
    | some c =>
      if c = '\n' then
        let cur ← get
        let (k, q) := emptyLinesFrom cur.src (cur.src.size + 1) (cur.pos + 1) 0
        set { cur with pos := q }
        if (← documentMarker).isSome then throw "found unexpected document indicator"
        quotedBody double n (acc ++ foldBreaks k) ""
      else if isBlank c then
        advance 1
        quotedBody double n acc (blanks.push c)
      else if !double && c = '\'' then
        if (← peekAt 1) = some '\'' then
          advance 2
          quotedBody double n (acc ++ blanks ++ "'") ""
        else
          advance 1
          return acc ++ blanks
      else if double && c = '"' then
        advance 1
        return acc ++ blanks
      else if double && c = '\\' then
        match ← peekAt 1 with
        | none => throw "found unexpected end of stream"
        | some '\n' =>
          let cur ← get
          let (k, q) := emptyLinesFrom cur.src (cur.src.size + 1) (cur.pos + 2) 0
          set { cur with pos := q }
          quotedBody double n (acc ++ blanks ++ String.ofList (List.replicate k '\n')) ""
        | some e =>
          let simple : Option Char := match e with
            | '0' => some '\x00' | 'a' => some '\x07' | 'b' => some '\x08'
            | 't' => some '\t' | '\t' => some '\t' | 'n' => some '\n'
            | 'v' => some '\x0B' | 'f' => some '\x0C' | 'r' => some '\r'
            | 'e' => some '\x1B' | ' ' => some ' ' | '"' => some '"'
            | '/' => some '/' | '\\' => some '\\' | 'N' => some (Char.ofNat 0x85)
            | '_' => some (Char.ofNat 0xA0) | 'L' => some (Char.ofNat 0x2028)
            | 'P' => some (Char.ofNat 0x2029)
            | _ => none
          match simple with
          | some ch =>
            advance 2
            quotedBody double n (acc ++ blanks ++ ch.toString) ""
          | none =>
            let width := if e = 'x' then 2 else if e = 'u' then 4 else if e = 'U' then 8 else 0
            if width = 0 then throw "found unknown escape character while parsing a quoted scalar"
            let cur ← get
            let digits := (cur.src.extract (cur.pos + 2) (cur.pos + 2 + width)).toList
            match (if digits.length = width then hexValue? digits else none) with
            | some v =>
              if v ≥ 0xD800 && v ≤ 0xDFFF || v > 0x10FFFF then
                throw "found invalid Unicode character escape code"
              advance (2 + width)
              quotedBody double n (acc ++ blanks ++ (Char.ofNat v).toString) ""
            | none => throw "did not find expected hexdecimal number"
      else
        advance 1
        quotedBody double n (acc ++ blanks ++ c.toString) ""

/-- Reads a quoted scalar starting at its opening quote. -/
def quoted : ReadM Node := do
  let double := (← current) = some '"'
  advance 1
  let c ← get
  let text ← quotedBody double (c.src.size + 1) "" ""
  return .scalar text .quoted

/-- Reads an anchor or alias name. -/
def anchorName : ReadM String := do
  let c ← get
  let n := countFrom c.src (fun ch => !(isBlank ch || ch = '\n' || isFlowIndicator ch)) c.pos
    c.src.size
  if n = 0 then throw "did not find expected alphabetic or numeric character"
  set { c with pos := c.pos + n }
  return String.ofList (c.src.extract c.pos (c.pos + n)).toList

/-- Reads an alias `*name` and returns the node it names. -/
def aliasNode : ReadM Node := do
  advance 1
  let name ← anchorName
  match (← get).anchors.lookup name with
  | some node => return node
  | none => throw "found undefined alias"

/-- Records an anchor. -/
def defineAnchor (name : String) (node : Node) : ReadM Unit :=
  modify fun c => { c with anchors := (name, node) :: c.anchors }

/-- The header of a block scalar: chomping (`+` keep, `-` strip, else clip) and an explicit
indentation. -/
structure BlockHeader where
  chomp : Option Bool
  indent : Option Nat

/-- Reads a block scalar header after `|` or `>`. -/
def blockHeader : ReadM BlockHeader := do
  let readOne (h : BlockHeader) : ReadM (Option BlockHeader) := do
    match ← current with
    | some '+' => if h.chomp.isSome then throw "bad block scalar header" else
        advance 1; return some { h with chomp := some true }
    | some '-' => if h.chomp.isSome then throw "bad block scalar header" else
        advance 1; return some { h with chomp := some false }
    | some d =>
      if d.isDigit && h.indent.isNone then
        if d = '0' then throw "found an indentation indicator equal to 0"
        advance 1; return some { h with indent := some (d.toNat - '0'.toNat) }
      else return none
    | none => return none
  let h0 : BlockHeader := { chomp := none, indent := none }
  let h1 := (← readOne h0).getD h0
  let h2 := (← readOne h1).getD h1
  skipLineRest
  match ← current with
  | none => return h2
  | some '\n' => return h2
  | some _ => throw "did not find expected comment or line break"

/-- The lines of a block scalar's body: each line after the header whose indentation is at
least `indent`, or that is empty, with `indent` columns removed. Stops at the first line with
less indentation. Returns the lines and the position after them. -/
def blockLines (src : Array Char) (indent : Nat) : Nat → Nat → List String → List String × Nat
  | 0, p, acc => (acc.reverse, p)
  | n + 1, p, acc =>
    if p ≥ src.size then (acc.reverse, p)
    else
      let spaces := countFrom src (· = ' ') p src.size
      let lineEnd := p + countFrom src (· ≠ '\n') p src.size
      let blankLine := (src.extract p lineEnd).toList.all (· = ' ')
      if blankLine then
        let next := if lineEnd < src.size then lineEnd + 1 else lineEnd
        blockLines src indent n next ("" :: acc)
      else if spaces < indent then (acc.reverse, p)
      else
        let text := String.ofList (src.extract (p + indent) lineEnd).toList
        let next := if lineEnd < src.size then lineEnd + 1 else lineEnd
        blockLines src indent n next (text :: acc)

/-- Folds block lines: a break between two lines that do not start with a blank becomes a
space, unless empty lines stand between them; other breaks are kept. -/
def foldLines : List String → String
  | [] => ""
  | first :: rest =>
    let step : String × String × Bool → String → String × String × Bool :=
      fun (acc, prev, prevEmpty) line =>
        let lineMore := match line.toList with
          | c :: _ => isBlank c
          | [] => false
        let prevMore := match prev.toList with
          | c :: _ => isBlank c
          | [] => false
        if line.isEmpty then (acc ++ "\n", line, true)
        else if prevEmpty || prevMore || lineMore || prev.isEmpty then
          (acc ++ (if prevEmpty && !prevMore && !lineMore then "" else "\n") ++ line, line, false)
        else (acc ++ " " ++ line, line, false)
    (rest.foldl step (first, first, first.isEmpty)).1

/-- Reads a block scalar (`|` literal or `>` folded) inside a collection indented at
`parent`. -/
def blockScalar (parent : Int) : ReadM Node := do
  let literal := (← current) = some '|'
  advance 1
  let h ← blockHeader
  let c ← get
  let bodyStart := if c.pos < c.src.size then c.pos + 1 else c.pos
  let base : Nat := if parent < 0 then 0 else parent.toNat + 1
  let indent ← match h.indent with
    | some m => pure (if parent < 0 then m else parent.toNat + m)
    | none =>
      let (_, q) := emptyLinesFrom c.src (c.src.size + 1) bodyStart 0
      let firstIndent := q - lineStart c.src q
      pure (Nat.max (Nat.max firstIndent base) 1)
  let (lines, stop) := blockLines c.src indent (c.src.size + 1) bodyStart []
  let content := lines.reverse.dropWhile (·.isEmpty) |>.reverse
  let trailing := lines.length - content.length
  let text := if literal then String.intercalate "\n" content else foldLines content
  let text := match h.chomp with
    | some false => text
    | some true => if content.isEmpty then String.ofList (List.replicate trailing '\n')
        else text ++ "\n" ++ String.ofList (List.replicate trailing '\n')
    | none => if content.isEmpty then "" else text ++ "\n"
  set { c with pos := if stop > 0 && stop ≤ c.src.size && c.src[stop - 1]? = some '\n' then stop - 1 else stop }
  return .scalar text .block

/-- Skips blanks, line breaks and comments inside a flow collection. -/
def skipFlowSpace : ReadM Unit := skipToContent

mutual

/-- Reads a node inside a flow collection. -/
def flowNode : Nat → ReadM Node
  | 0 => throw "the document nests too deeply"
  | fuel + 1 => do
    skipFlowSpace
    match ← current, ← peekAt 1 with
    | none, _ => throw "found unexpected end of stream"
    | some '[', _ => flowSeq fuel
    | some '{', _ => flowMap fuel
    | some '"', _ => quoted
    | some '\'', _ => quoted
    | some '*', _ => aliasNode
    | some '&', _ => do
      advance 1
      let name ← anchorName
      let node ← flowNode fuel
      defineAnchor name node
      return node
    | some c, next =>
      if canStartPlain true c next then
        let first ← plainLine true
        let text ← flowPlainMoreLines ((← get).src.size + 1) first
        return .scalar text .plain
      else throw "did not find expected node content"

/-- Reads the entries of a flow sequence after its `[`. -/
def flowSeqItems : Nat → List Node → ReadM (List Node)
  | 0, _ => throw "the document nests too deeply"
  | fuel + 1, acc => do
    skipFlowSpace
    if (← current) = some ']' then
      advance 1
      return acc.reverse
    let item ← flowNode fuel
    skipFlowSpace
    let c ← get
    let item ← if c.src[c.pos]? = some ':' && valueIndicatorAt c.src true c.pos then do
        advance 1
        skipFlowSpace
        let v ← match ← current with
          | some ',' => pure Node.empty
          | some ']' => pure Node.empty
          | _ => flowNode fuel
        skipFlowSpace
        pure (Node.map [(item, v)])
      else pure item
    match ← current with
    | some ',' =>
      advance 1
      flowSeqItems fuel (item :: acc)
    | some ']' =>
      advance 1
      return (item :: acc).reverse
    | _ => throw "did not find expected ',' or ']'"

/-- Reads a flow sequence at its `[`. -/
def flowSeq : Nat → ReadM Node
  | 0 => throw "the document nests too deeply"
  | fuel + 1 => do
    advance 1
    let items ← flowSeqItems fuel []
    return .seq items

/-- Reads the entries of a flow mapping after its `{`. -/
def flowMapEntries : Nat → List (Node × Node) → ReadM (List (Node × Node))
  | 0, _ => throw "the document nests too deeply"
  | fuel + 1, acc => do
    skipFlowSpace
    if (← current) = some '}' then
      advance 1
      return acc.reverse
    let c ← get
    let key ← if valueIndicatorAt c.src true c.pos then pure Node.empty else flowNode fuel
    skipFlowSpace
    let value ← if (← current) = some ':' then do
        advance 1
        skipFlowSpace
        match ← current with
        | some ',' => pure Node.empty
        | some '}' => pure Node.empty
        | _ => flowNode fuel
      else pure Node.empty
    skipFlowSpace
    match ← current with
    | some ',' =>
      advance 1
      flowMapEntries fuel ((key, value) :: acc)
    | some '}' =>
      advance 1
      return ((key, value) :: acc).reverse
    | _ => throw "did not find expected ',' or '\x7d'"

/-- Reads a flow mapping at its `{`. -/
def flowMap : Nat → ReadM Node
  | 0 => throw "the document nests too deeply"
  | fuel + 1 => do
    advance 1
    let entries ← flowMapEntries fuel []
    return .map entries

end

/-- Whether a block mapping key starts at `p`: a plain or quoted scalar on this line followed
by a value indicator. -/
def keyAhead (src : Array Char) (p : Nat) : Bool :=
  match src[p]? with
  | none => false
  | some c =>
    if c = '"' || c = '\'' then
      let close : Option Nat :=
        let rec find : Nat → Nat → Option Nat
          | 0, _ => none
          | n + 1, q =>
            match src[q]? with
            | none => none
            | some '\n' => none
            | some d =>
              if c = '\'' && d = '\'' then
                if src[q + 1]? = some '\'' then find n (q + 2) else some q
              else if c = '"' && d = '\\' then find n (q + 2)
              else if c = '"' && d = '"' then some q
              else find n (q + 1)
        find src.size (p + 1)
      match close with
      | some q =>
        let r := q + 1 + countFrom src isBlank (q + 1) src.size
        valueIndicatorAt src false r
      | none => false
    else if canStartPlain false c src[p + 1]? then
      valueIndicatorAt src false (plainEnd src false src.size p)
    else false

/-- Reads a block mapping key and its `:`. -/
def blockKey : ReadM Node := do
  let c ← get
  if !keyAhead c.src c.pos then throw "could not find expected ':'"
  let key ← match ← current with
    | some '"' => quoted
    | some '\'' => quoted
    | _ => do pure (Node.scalar (← plainLine false) .plain)
  skipWhile isBlank
  advance 1
  return key

/-- Whether a sequence entry `- ` starts at the current position. -/
def atSeqEntry : ReadM Bool := do
  return (← current) = some '-' && endsToken (← peekAt 1)

mutual

/-- Reads a node whose first character is at the current position. `parent` is the column of
the enclosing block collection (−1 at the top). `compact` allows a block collection to open
on this line: at a line start or after `- `. -/
def blockNode : Nat → Int → Bool → ReadM Node
  | 0, _, _ => throw "the document nests too deeply"
  | fuel + 1, parent, compact => do
    let col ← column
    let c ← get
    match ← current, ← peekAt 1 with
    | none, _ => return Node.empty
    | some '-', next =>
      if endsToken next then
        if compact then blockSeq fuel col
        else throw "block sequence entries are not allowed in this context"
      else plainOrMap fuel parent compact col
    | some '[', _ => flowInBlock fuel
    | some '{', _ => flowInBlock fuel
    | some '|', _ => blockScalar parent
    | some '>', _ => blockScalar parent
    | some '*', _ => aliasNode
    | some '&', _ => do
      advance 1
      let name ← anchorName
      skipLineRest
      let node ← match ← current with
        | none => pure Node.empty
        | some '\n' => valueBelow fuel parent
        | _ => blockNode fuel parent compact
      defineAnchor name node
      return node
    | some '!', _ => throw "tags are not supported"
    | some '?', next =>
      if endsToken next then throw "complex mapping keys are not supported"
      else plainOrMap fuel parent compact col
    | some ch, next =>
      if keyAhead c.src c.pos then
        if compact then blockMap fuel col
        else throw "mapping values are not allowed in this context"
      else if ch = '"' || ch = '\'' then quoted
      else if canStartPlain false ch next then plainOrMap fuel parent compact col
      else throw "found character that cannot start any token"

/-- Reads a plain scalar, or a mapping when a key starts here. -/
def plainOrMap : Nat → Int → Bool → Nat → ReadM Node
  | 0, _, _, _ => throw "the document nests too deeply"
  | fuel + 1, parent, compact, col => do
    let c ← get
    if keyAhead c.src c.pos then
      if compact then blockMap fuel col
      else throw "mapping values are not allowed in this context"
    else
      let first ← plainLine false
      let text ← plainMoreLines parent ((← get).src.size + 1) first
      return .scalar text .plain

/-- Reads a flow collection standing in block context. -/
def flowInBlock : Nat → ReadM Node
  | 0 => throw "the document nests too deeply"
  | fuel + 1 => do
    let node ← flowNode fuel
    let c ← get
    let r := c.pos + countFrom c.src isBlank c.pos c.src.size
    if valueIndicatorAt c.src false r then throw "complex mapping keys are not supported"
    return node

/-- Reads the node on the lines below a key or an entry of a collection at column `parent`,
or the empty scalar when nothing is indented further. -/
def valueBelow : Nat → Int → ReadM Node
  | 0, _ => throw "the document nests too deeply"
  | fuel + 1, parent => do
    skipToContent
    if (← current).isNone || (← documentMarker).isSome then return Node.empty
    let col ← column
    if (col : Int) > parent then blockNode fuel parent true
    else return Node.empty

/-- Reads the value after a key's `:` in a mapping at column `col`. -/
def mapValue : Nat → Nat → ReadM Node
  | 0, _ => throw "the document nests too deeply"
  | fuel + 1, col => do
    skipLineRest
    match ← current with
    | none => return Node.empty
    | some '\n' =>
      skipToContent
      if (← current).isNone || (← documentMarker).isSome then return Node.empty
      let c2 ← column
      if c2 > col then blockNode fuel col true
      else if c2 = col && (← atSeqEntry) then blockSeq fuel col
      else return Node.empty
    | some _ => blockNode fuel col false

/-- Reads the entries of a block mapping at column `col`, starting at a key. -/
def blockMapEntries : Nat → Nat → List (Node × Node) → ReadM (List (Node × Node))
  | 0, _, _ => throw "the document nests too deeply"
  | fuel + 1, col, acc => do
    let key ← blockKey
    let value ← mapValue fuel col
    let acc := (key, value) :: acc
    skipToContent
    if (← current).isNone || (← documentMarker).isSome then return acc.reverse
    if !(← onlySpacesBefore) then throw "did not find expected key"
    let c3 ← column
    if c3 = col then blockMapEntries fuel col acc
    else if c3 < col then return acc.reverse
    else throw "mapping values are not allowed in this context"

/-- Reads a block mapping at column `col`. -/
def blockMap : Nat → Nat → ReadM Node
  | 0, _ => throw "the document nests too deeply"
  | fuel + 1, col => do
    let entries ← blockMapEntries fuel col []
    return .map entries

/-- Reads the entries of a block sequence at column `col`, starting at a `-`. -/
def blockSeqItems : Nat → Nat → List Node → ReadM (List Node)
  | 0, _, _ => throw "the document nests too deeply"
  | fuel + 1, col, acc => do
    advance 1
    skipLineRest
    let item ← match ← current with
      | none => pure Node.empty
      | some '\n' => valueBelow fuel col
      | some _ => blockNode fuel col true
    let acc := item :: acc
    skipToContent
    if (← current).isNone || (← documentMarker).isSome then return acc.reverse
    if !(← onlySpacesBefore) then throw "did not find expected '-' indicator"
    let c3 ← column
    if c3 = col && (← atSeqEntry) then blockSeqItems fuel col acc
    else if c3 ≤ col then return acc.reverse
    else throw "did not find expected '-' indicator"

/-- Reads a block sequence at column `col`. -/
def blockSeq : Nat → Nat → ReadM Node
  | 0, _ => throw "the document nests too deeply"
  | fuel + 1, col => do
    let items ← blockSeqItems fuel col []
    return .seq items

end

/-- Reads a whole stream: `none` when it holds no document, the document otherwise. A second
document is an error. -/
def stream : ReadM (Option Node) := do
  skipToContent
  if (← current).isNone then return none
  let fuel := 4 * (← get).src.size + 16
  let root ← match ← documentMarker with
    | some '-' => do
      advance 3
      skipLineRest
      match ← current with
      | none => pure Node.empty
      | some '\n' => valueBelow fuel (-1)
      | some _ => blockNode fuel (-1) false
    | some _ => throw "did not find expected node content"
    | none => blockNode fuel (-1) true
  skipToContent
  if (← current).isNone then return some root
  match ← documentMarker with
  | some '.' =>
    advance 3
    skipToContent
    if (← current).isNone then return some root
    throw "deserializing from YAML containing more than one document is not supported"
  | some _ => throw "deserializing from YAML containing more than one document is not supported"
  | none => throw "did not find expected <document start>"

/-- Line breaks normalized: `\r\n` and a lone `\r` become `\n`; a leading byte order mark is
dropped. -/
def normalizeBreaks : List Char → List Char
  | '\r' :: '\n' :: rest => '\n' :: normalizeBreaks rest
  | '\r' :: rest => '\n' :: normalizeBreaks rest
  | c :: rest => c :: normalizeBreaks rest
  | [] => []

/-- Reads YAML text: `none` for an empty stream, the single document otherwise. -/
def parse (text : String) : Except String (Option Node) :=
  let cs := match text.toList with
    | '﻿' :: rest => rest
    | cs => cs
  (stream.run { src := (normalizeBreaks cs).toArray }).map (·.1)

end RuleRouting.Yaml
