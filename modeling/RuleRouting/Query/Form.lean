import RuleRouting.Query.Basic
import RuleRouting.Text.Utf8

/-!
# Form-encoded query strings

A query string `a=1&b=x+y&c=%C3%A9` is read as form-urlencoded data: an optional leading `?`
is dropped, the text is split on `&` (empty pieces are skipped), each piece at its first `=`
(a piece without `=` has an empty value), `+` stands for a space and `%` with two hex digits
for a byte. A `%` not followed by two hex digits stands for itself. The bytes are then read as
UTF-8, each ill-formed part becoming U+FFFD.
-/

namespace RuleRouting.Query

open RuleRouting.Text

/-- The value of a hexadecimal digit. -/
def hexValue (c : Char) : Option Nat :=
  if '0' ≤ c && c ≤ '9' then some (c.toNat - '0'.toNat)
  else if 'a' ≤ c && c ≤ 'f' then some (c.toNat - 'a'.toNat + 10)
  else if 'A' ≤ c && c ≤ 'F' then some (c.toNat - 'A'.toNat + 10)
  else none

/-- The bytes that a form-encoded text stands for: `+` is a space, `%` and two hex digits
a byte, and every other character its UTF-8 bytes. -/
def formBytes : List Char → List UInt8
  | [] => []
  | '%' :: h :: l :: rest =>
    match hexValue h, hexValue l with
    | some a, some b => (a * 16 + b).toUInt8 :: formBytes rest
    | _, _ => 0x25 :: formBytes (h :: l :: rest)
  | '+' :: rest => 0x20 :: formBytes rest
  | c :: rest => encodeChar c ++ formBytes rest

/-- Decodes one form-encoded component. -/
def decodeComponent (cs : List Char) : String :=
  String.ofList (decodeLossy (formBytes cs))

/-- Splits a list at every occurrence of `sep`. -/
def splitAt (sep : Char) : List Char → List (List Char)
  | [] => [[]]
  | c :: rest =>
    if c = sep then [] :: splitAt sep rest
    else match splitAt sep rest with
      | first :: more => (c :: first) :: more
      | [] => [[c]]

/-- One piece of a form-encoded text, decoded: the name before its first `=` and the value
after it. An empty piece gives nothing. -/
def formPair (piece : List Char) : Option (String × String) :=
  if piece.isEmpty then none
  else
    let name := piece.takeWhile (· ≠ '=')
    let value := (piece.dropWhile (· ≠ '=')).drop 1
    some (decodeComponent name, decodeComponent value)

/-- The decoded `(name, value)` pairs of a form-encoded text, in order, repeats included. -/
def formPairs (cs : List Char) : List (String × String) :=
  (splitAt '&' cs).filterMap formPair

/-- A query string without the `?` it may start with. -/
def dropQuestion : List Char → List Char
  | '?' :: rest => rest
  | cs => cs

/-- Reads a query string; a leading `?` is dropped, and a repeated name keeps its first
position and its last value. -/
def parse (s : String) : Query :=
  OrderedMap.ofList (formPairs (dropQuestion s.toList))

end RuleRouting.Query
