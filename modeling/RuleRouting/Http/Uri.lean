import RuleRouting.Text.Utf8
import RuleRouting.Text.Split

/-!
# Request targets

The target of an HTTP request line, read as a URI:

* `/path?query` (origin form): the path may hold visible ASCII except `#`, `<`, `>` and the
  backquote, plus `"`, braces and any non-ASCII byte; the query may hold visible ASCII except
  `"`, `<`, `>` and `#`, plus any non-ASCII byte; a `#` starts a fragment, which is dropped;
* `scheme://authority/path?query` (absolute form), where the scheme is `http`, `https` (in
  any case) or letters, digits, `+`, `-`, `.` before `://`; an empty path reads as `/`;
* a bare authority (authority form), which has an empty path; and `*`.

An authority is `[userinfo@]host[:port]`: URI characters only (a `%` only in the userinfo),
at most one port colon outside brackets, balanced IPv6 brackets, and something after an `@`.
Its host drops the userinfo and the port.
-/

namespace RuleRouting.Http

/-- Whether a byte is a URI character: `! # $ & ' ( ) * + , - . / 0-9 : ; = ? @ A-Z [ ] _
a-z ~`. -/
def isUriChar (b : Nat) : Bool :=
  b = 0x21 || b = 0x23 || b = 0x24 || (0x26 ≤ b && b ≤ 0x3B) || b = 0x3D ||
    (0x3F ≤ b && b ≤ 0x5B) || b = 0x5D || b = 0x5F || (0x61 ≤ b && b ≤ 0x7A) || b = 0x7E

/-- What the authority scan has seen so far. -/
structure AuthorityScan where
  colons : Nat := 0
  openBracket : Bool := false
  closeBracket : Bool := false
  percent : Bool := false
  atSign : Option Nat := none

/-- Scans an authority's characters up to the first `/`, `?` or `#`; returns where it ends,
or `none` when it is malformed. -/
def scanAuthority (cs : List Char) : Option Nat :=
  let rec go : List Char → Nat → AuthorityScan → Option (Nat × AuthorityScan)
    | [], i, s => some (i, s)
    | c :: rest, i, s =>
      let b := c.toNat
      if c = '/' || c = '?' || c = '#' then some (i, s)
      else if c = ':' then
        if s.colons ≥ 8 then none else go rest (i + 1) { s with colons := s.colons + 1 }
      else if c = '[' then
        if s.percent || s.openBracket then none else go rest (i + 1) { s with openBracket := true }
      else if c = ']' then
        if !s.openBracket || s.closeBracket then none
        else go rest (i + 1) { s with closeBracket := true, colons := 0, percent := false }
      else if c = '@' then go rest (i + 1) { s with atSign := some i, colons := 0, percent := false }
      else if c = '%' then go rest (i + 1) { s with percent := true }
      else if isUriChar b then go rest (i + 1) s
      else none
  match go cs 0 {} with
  | none => none
  | some (stop, s) =>
    if s.openBracket != s.closeBracket then none
    else if s.colons > 1 then none
    else if stop > 0 && s.atSign = some (stop - 1) then none
    else if s.percent then none
    else some stop

/-- Reads a whole text as an authority: non-empty, and scanned to its end. -/
def parseAuthority (s : String) : Option String :=
  let cs := s.toList
  if cs.isEmpty then none
  else match scanAuthority cs with
    | some stop => if stop = cs.length then some s else none
    | none => none

/-- The host of an authority: after the last `@`, and before the port. -/
def authorityHost (authority : String) : String :=
  let hostPort := ((Text.split authority '@').getLastD "").toList
  match hostPort with
  | '[' :: _ => String.ofList (hostPort.takeWhile (· ≠ ']') ++ [']'])
  | _ => String.ofList (hostPort.takeWhile (· ≠ ':'))

/-- Whether a byte may stand in a path unescaped. -/
def isPathByte (b : Nat) : Bool :=
  b = 0x21 || b = 0x22 || (0x24 ≤ b && b ≤ 0x3B) || b = 0x3D || (0x40 ≤ b && b ≤ 0x5F) ||
    (0x61 ≤ b && b ≤ 0x7E) || b ≥ 0x7F

/-- Whether a byte may stand in a query unescaped. -/
def isQueryByte (b : Nat) : Bool :=
  b = 0x21 || (0x24 ≤ b && b ≤ 0x3B) || b = 0x3D || (0x3F ≤ b && b ≤ 0x7E) || b ≥ 0x7F

/-- Whether every byte of a character passes a byte test. -/
def charBytesAll (p : Nat → Bool) (c : Char) : Bool :=
  (Text.encodeChar c).all fun b => p b.toNat

/-- A path and query: the path, and the query after `?` if there is one. -/
structure PathAndQuery where
  path : String
  query : Option String

/-- Reads a path-and-query; a fragment after `#` is dropped. -/
def parsePathAndQuery (cs : List Char) : Option PathAndQuery :=
  let path := cs.takeWhile fun c => c ≠ '?' && c ≠ '#'
  let rest := cs.drop path.length
  if !path.all (charBytesAll isPathByte) then none
  else match rest with
    | '?' :: q =>
      let query := q.takeWhile (· ≠ '#')
      if !query.all (charBytesAll isQueryByte) then none
      else some ⟨String.ofList path, some (String.ofList query)⟩
    | _ => some ⟨String.ofList path, none⟩

/-- A request target read as a URI. -/
structure Uri where
  scheme : Option String
  authority : Option String
  path : String
  query : Option String

/-- Whether a character may stand in a scheme. -/
def isSchemeChar (c : Char) : Bool :=
  c.isAlphanum || c = '+' || c = '-' || c = '.'

/-- The scheme of an absolute target and the rest after `://`. -/
def splitScheme (cs : List Char) : Option (String × List Char) :=
  let lower := cs.map Char.toLower
  if (lower.take 7) = "http://".toList then some ("http", cs.drop 7)
  else if (lower.take 8) = "https://".toList then some ("https", cs.drop 8)
  else if cs.length > 3 then
    let name := cs.takeWhile isSchemeChar
    match cs.drop name.length with
    | ':' :: '/' :: '/' :: rest =>
      if name.isEmpty || name.length > 64 then none else some (String.ofList name, rest)
    | _ => none
  else none

/-- Reads a request target. -/
def parseTarget (target : String) : Option Uri :=
  let cs := target.toList
  match cs with
  | [] => none
  | ['/'] => some ⟨none, none, "/", none⟩
  | ['*'] => some ⟨none, none, "*", none⟩
  | '/' :: _ => (parsePathAndQuery cs).map fun pq => ⟨none, none, pq.path, pq.query⟩
  | _ =>
    match splitScheme cs with
    | none => (parseAuthority target).map fun a => ⟨none, some a, "", none⟩
    | some (scheme, rest) =>
      match scanAuthority rest with
      | none => none
      | some 0 => none
      | some stop =>
        (parsePathAndQuery (rest.drop stop)).map fun pq =>
          ⟨some scheme, some (String.ofList (rest.take stop)),
           if pq.path.isEmpty then "/" else pq.path, pq.query⟩

end RuleRouting.Http
