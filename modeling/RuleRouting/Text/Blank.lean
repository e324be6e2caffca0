import RuleRouting.Text.CodeRanges

/-!
# Blank characters

The White_Space property of the Unicode standard: the characters that trimming removes and
that separate numbers in a counted repetition of a regular expression.
-/

namespace RuleRouting.Text

/-- Characters with the White_Space property. -/
def whiteSpaceRanges : CodeRanges := ⟨#[
  (0x9, 0xD), (0x20, 0x20), (0x85, 0x85), (0xA0, 0xA0), (0x1680, 0x1680), (0x2000, 0x200A),
  (0x2028, 0x2029), (0x202F, 0x202F), (0x205F, 0x205F), (0x3000, 0x3000)]⟩

/-- Whether `c` is a blank (White_Space) character. -/
def isBlank (c : Char) : Bool :=
  whiteSpaceRanges.contains c

/-- Drops blank characters from both ends. -/
def trimBlank (cs : List Char) : List Char :=
  ((cs.dropWhile isBlank).reverse.dropWhile isBlank).reverse

/-- Drops blank characters from both ends of a string. -/
def trimBlankString (s : String) : String :=
  String.ofList (trimBlank s.toList)

end RuleRouting.Text
