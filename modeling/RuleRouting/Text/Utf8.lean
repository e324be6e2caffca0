/-!
# UTF-8

Characters as UTF-8 bytes, and bytes back as characters. Reading is lossy: each maximal
subpart of an ill-formed sequence (a lead byte that no character starts with, or a lead byte
with only some of its continuation bytes) becomes one replacement character U+FFFD, as the
Unicode standard recommends, and reading goes on after it.
-/

namespace RuleRouting.Text

/-- The replacement character U+FFFD. -/
def replacementChar : Char := Char.ofNat 0xFFFD

/-- The UTF-8 bytes of one character. -/
def encodeChar (c : Char) : List UInt8 :=
  let n := c.toNat
  if n < 0x80 then [n.toUInt8]
  else if n < 0x800 then [(0xC0 + n / 64).toUInt8, (0x80 + n % 64).toUInt8]
  else if n < 0x10000 then
    [(0xE0 + n / 4096).toUInt8, (0x80 + n / 64 % 64).toUInt8, (0x80 + n % 64).toUInt8]
  else
    [(0xF0 + n / 262144).toUInt8, (0x80 + n / 4096 % 64).toUInt8,
      (0x80 + n / 64 % 64).toUInt8, (0x80 + n % 64).toUInt8]

/-- The UTF-8 bytes of a character list. -/
def encode (cs : List Char) : List UInt8 :=
  cs.flatMap encodeChar

/-- Whether `b` is a continuation byte `10xxxxxx`. -/
def isContinuation (b : UInt8) : Bool :=
  0x80 ≤ b.toNat && b.toNat ≤ 0xBF

/-- The bounds of the second byte after a three-byte lead: no overlong forms and no
surrogates. -/
def secondOfThree (lead : Nat) : Nat × Nat :=
  if lead = 0xE0 then (0xA0, 0xBF) else if lead = 0xED then (0x80, 0x9F) else (0x80, 0xBF)

/-- The bounds of the second byte after a four-byte lead: no overlong forms and nothing past
U+10FFFF. -/
def secondOfFour (lead : Nat) : Nat × Nat :=
  if lead = 0xF0 then (0x90, 0xBF) else if lead = 0xF4 then (0x80, 0x8F) else (0x80, 0xBF)

/-- Whether `b` lies in the closed interval `r`. -/
def inBounds (r : Nat × Nat) (b : UInt8) : Bool :=
  r.1 ≤ b.toNat && b.toNat ≤ r.2

/-- Reads UTF-8 bytes, replacing each maximal ill-formed subpart by U+FFFD. -/
def decodeLossy : List UInt8 → List Char
  | [] => []
  | b :: rest =>
    let n := b.toNat
    if n < 0x80 then Char.ofNat n :: decodeLossy rest
    else if 0xC2 ≤ n && n ≤ 0xDF then
      match h1 : rest with
      | c :: rest' =>
        if isContinuation c then
          Char.ofNat ((n - 0xC0) * 64 + (c.toNat - 0x80)) :: decodeLossy rest'
        else replacementChar :: decodeLossy rest
      | [] => [replacementChar]
    else if 0xE0 ≤ n && n ≤ 0xEF then
      match h1 : rest with
      | c1 :: rest1 =>
        if inBounds (secondOfThree n) c1 then
          match h2 : rest1 with
          | c2 :: rest2 =>
            if isContinuation c2 then
              Char.ofNat ((n - 0xE0) * 4096 + (c1.toNat - 0x80) * 64 + (c2.toNat - 0x80))
                :: decodeLossy rest2
            else replacementChar :: decodeLossy rest1
          | [] => [replacementChar]
        else replacementChar :: decodeLossy rest
      | [] => [replacementChar]
    else if 0xF0 ≤ n && n ≤ 0xF4 then
      match h1 : rest with
      | c1 :: rest1 =>
        if inBounds (secondOfFour n) c1 then
          match h2 : rest1 with
          | c2 :: rest2 =>
            if isContinuation c2 then
              match h3 : rest2 with
              | c3 :: rest3 =>
                if isContinuation c3 then
                  Char.ofNat ((n - 0xF0) * 262144 + (c1.toNat - 0x80) * 4096
                    + (c2.toNat - 0x80) * 64 + (c3.toNat - 0x80)) :: decodeLossy rest3
                else replacementChar :: decodeLossy rest2
              | [] => [replacementChar]
            else replacementChar :: decodeLossy rest1
          | [] => [replacementChar]
        else replacementChar :: decodeLossy rest
      | [] => [replacementChar]
    else replacementChar :: decodeLossy rest
termination_by l => l.length

/-- The number of UTF-8 bytes of a character list. -/
def byteLength (cs : List Char) : Nat :=
  (cs.map Char.utf8Size).foldr (· + ·) 0

/-- The characters after the first `n` bytes, when `n` falls on a character boundary. -/
def dropBytes : List Char → Nat → Option (List Char)
  | cs, 0 => some cs
  | [], _ + 1 => none
  | c :: cs, n + 1 => if c.utf8Size ≤ n + 1 then dropBytes cs (n + 1 - c.utf8Size) else none

end RuleRouting.Text
