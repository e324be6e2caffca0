import RuleRouting.Text.Number

/-!
# YAML documents

A parsed YAML document is a tree of scalars, sequences and mappings. A scalar remembers
whether it was written plain: only plain scalars are typed by their text (`~` is null, `true`
a boolean, `12` an integer); quoted and block scalars are always text.

Plain scalars follow the YAML 1.2 core schema:

* null: empty, `~`, `null`, `Null`, `NULL`;
* booleans: `true`, `True`, `TRUE`, `false`, `False`, `FALSE`;
* integers: decimal with an optional `+` (a leading zero followed by more digits is text),
  `0x`, `0o` and `0b` forms, and negative forms with `-`; integers are read as 64-bit values
  first and as 128-bit values next (`wide`), and wider ones fall through to floats;
* floats: a finite decimal number, or `.inf`, `-.inf`, `.nan` in their three spellings;
* anything else is text.
-/

namespace RuleRouting.Yaml

/-- How a scalar was written. -/
inductive Style where
  | plain
  | quoted
  | block
  deriving Repr, DecidableEq, Inhabited

/-- A YAML node. -/
inductive Node where
  | scalar (text : String) (style : Style)
  | seq (items : List Node)
  | map (entries : List (Node × Node))
  deriving Repr, Inhabited

/-- The plain empty scalar: what a missing value reads as. -/
def Node.empty : Node := .scalar "" .plain

/-- The type a plain scalar's text gives it. -/
inductive Typed where
  | null
  | bool (b : Bool)
  /-- A non-negative integer. -/
  | nat (n : Nat)
  /-- A negative integer. -/
  | neg (i : Int)
  /-- An integer too wide for 64 bits that still fits in 128. -/
  | wide
  | float
  | text
  deriving Repr, DecidableEq

/-- Whether the text is a null. -/
def isNullText (s : String) : Bool :=
  s.isEmpty || s = "~" || s = "null" || s = "Null" || s = "NULL"

/-- The boolean the text spells, if any. -/
def boolText? (s : String) : Option Bool :=
  if s = "true" || s = "True" || s = "TRUE" then some true
  else if s = "false" || s = "False" || s = "FALSE" then some false
  else none

/-- The value of a digit in a radix, if it is one. -/
def digitIn (radix : Nat) (c : Char) : Option Nat :=
  let v := if c.isDigit then some (c.toNat - '0'.toNat)
    else if 'a' ≤ c && c ≤ 'z' then some (c.toNat - 'a'.toNat + 10)
    else if 'A' ≤ c && c ≤ 'Z' then some (c.toNat - 'A'.toNat + 10)
    else none
  v.filter (· < radix)

/-- The value of a non-empty list of digits in a radix. -/
def digitsIn (radix : Nat) (cs : List Char) : Option Nat :=
  if cs.isEmpty then none
  else cs.foldlM (fun acc c => (digitIn radix c).map fun d => acc * radix + d) 0

/-- Reads a number the way integer parsing in a radix does: an optional sign, then digits.
The result is signed. -/
def radixValue (radix : Nat) : List Char → Option Int
  | '+' :: rest => (digitsIn radix rest).map Int.ofNat
  | '-' :: rest => (digitsIn radix rest).map fun n => -Int.ofNat n
  | cs => (digitsIn radix cs).map Int.ofNat

/-- Leading zeros followed by more digits: text in YAML 1.2, not a number. -/
def digitsButNotNumber (s : String) : Bool :=
  let cs := match s.toList with
    | '-' :: rest => rest
    | '+' :: rest => rest
    | cs => cs
  match cs with
  | '0' :: rest => !rest.isEmpty && rest.all Char.isDigit
  | _ => false

/-- Drops a leading two-character marker such as `0x`. -/
def afterMarker (a b : Char) : List Char → Option (List Char)
  | x :: y :: rest => if x = a && y = b then some rest else none
  | _ => none

/-- A non-negative integer in one of the unsigned forms. -/
def unsignedInt? (s : String) : Option Nat :=
  let cs := s.toList
  let unpositive := match cs with
    | '+' :: rest => rest
    | _ => cs
  let signed (r : List Char) : Bool := match r with
    | '+' :: _ => true
    | '-' :: _ => true
    | _ => false
  let inRadix (marker : Char) (radix : Nat) : Option Nat :=
    match afterMarker '0' marker unpositive with
    | some rest => if signed rest then none else
        match radixValue radix rest with
        | some v => if v ≥ 0 then some v.toNat else none
        | none => none
    | none => none
  match inRadix 'x' 16 with
  | some v => some v
  | none => match inRadix 'o' 8 with
    | some v => some v
    | none => match inRadix 'b' 2 with
      | some v => some v
      | none =>
        if signed unpositive || digitsButNotNumber s then none
        else match radixValue 10 unpositive with
          | some v => if v ≥ 0 then some v.toNat else none
          | none => none

/-- A negative (or signed) integer in one of the signed forms. -/
def negativeInt? (s : String) : Option Int :=
  let cs := s.toList
  let inRadix (marker : Char) (radix : Nat) : Option Int :=
    match cs with
    | '-' :: rest => (afterMarker '0' marker rest).bind fun r => radixValue radix ('-' :: r)
    | _ => none
  match inRadix 'x' 16 with
  | some v => some v
  | none => match inRadix 'o' 8 with
    | some v => some v
    | none => match inRadix 'b' 2 with
      | some v => some v
      | none => if digitsButNotNumber s then none else radixValue 10 cs

/-- Whether the characters are one or more ASCII digits. -/
def allDigits (cs : List Char) : Bool := !cs.isEmpty && cs.all Char.isDigit

/-- Whether the text is a decimal floating-point number: digits with an optional fraction,
or a fraction alone, then an optional exponent. -/
def decimalShape (cs : List Char) : Bool :=
  let mantissa := cs.takeWhile fun c => c ≠ 'e' && c ≠ 'E'
  let exponent := cs.drop mantissa.length
  let intPart := mantissa.takeWhile (· ≠ '.')
  let afterInt := mantissa.drop intPart.length
  let mantissaOk := match afterInt with
    | [] => allDigits intPart
    | _ :: frac => (intPart.all Char.isDigit && frac.all Char.isDigit) &&
        (!intPart.isEmpty || !frac.isEmpty)
  let exponentOk := match exponent with
    | [] => true
    | _ :: rest => match rest with
      | '+' :: ds => allDigits ds
      | '-' :: ds => allDigits ds
      | ds => allDigits ds
  mantissaOk && exponentOk

/-- The decimal exponent of the leading digit of a decimal number, an estimate of its size. -/
def decimalMagnitude (cs : List Char) : Int :=
  let mantissa := cs.takeWhile fun c => c ≠ 'e' && c ≠ 'E'
  let exponent := (cs.drop (mantissa.length + 1))
  let expValue : Int := match exponent with
    | '-' :: ds => -Int.ofNat ((digitsIn 10 ds).getD 0)
    | '+' :: ds => Int.ofNat ((digitsIn 10 ds).getD 0)
    | ds => Int.ofNat ((digitsIn 10 ds).getD 0)
  let intPart := (mantissa.takeWhile (· ≠ '.')).dropWhile (· = '0')
  if !intPart.isEmpty then expValue + intPart.length - 1
  else
    let frac := (mantissa.dropWhile (· ≠ '.')).drop 1
    if frac.all (· = '0') then 0  -- zero
    else expValue - Int.ofNat ((frac.takeWhile (· = '0')).length) - 1

/-- Whether the text is a float: a finite decimal number, or one of the spelled infinities
and not-a-numbers. -/
def isFloatText (s : String) : Bool :=
  let cs := s.toList
  let unpositive := match cs with
    | '+' :: rest => rest
    | _ => cs
  let doubleSigned := match cs with
    | '+' :: '+' :: _ => true
    | '+' :: '-' :: _ => true
    | _ => false
  if doubleSigned then false
  else
    let u := String.ofList unpositive
    if u = ".inf" || u = ".Inf" || u = ".INF" then true
    else if s = "-.inf" || s = "-.Inf" || s = "-.INF" then true
    else if s = ".nan" || s = ".NaN" || s = ".NAN" then true
    else
      let body := match unpositive with
        | '-' :: rest => rest
        | '+' :: rest => rest
        | r => r
      decimalShape body && decimalMagnitude body ≤ 308

/-- The type of a plain scalar's text when it is not an integer. -/
def typeNonInteger (s : String) : Typed :=
  if !digitsButNotNumber s && isFloatText s then .float else .text

/-- The type of a plain scalar's text. -/
def typePlain (s : String) : Typed :=
  if isNullText s then .null
  else match boolText? s with
    | some b => .bool b
    | none =>
      match unsignedInt? s, negativeInt? s with
      | some n, _ =>
        if n < Nat.pow 2 64 then .nat n else if n < Nat.pow 2 128 then .wide
        else match negativeInt? s with
          | some i => if i ≥ -(Int.pow 2 127) && i < 0 then .wide else typeNonInteger s
          | none => typeNonInteger s
      | none, some i =>
        if i ≥ 0 then (if i < Int.pow 2 63 then .nat i.toNat else if i < Int.pow 2 127 then .wide
          else typeNonInteger s)
        else if i ≥ -(Int.pow 2 63) then .neg i
        else if i ≥ -(Int.pow 2 127) then .wide
        else typeNonInteger s
      | none, none => typeNonInteger s

end RuleRouting.Yaml
