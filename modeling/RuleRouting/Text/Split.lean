/-!
# Splitting and joining on a separator

`split s c` cuts `s` at every `c` and always gives at least one piece, so `""` gives `[""]`
and `"a//b"` gives `["a", "", "b"]`; `join` glues the pieces back with the separator between
them, so joining the pieces of a split gives the text back.
-/

namespace RuleRouting.Text

/-- The pieces of `s` between occurrences of `sep`. -/
def split (s : String) (sep : Char) : List String :=
  (s.toList.splitOn sep).map String.ofList

/-- The pieces, with `sep` between each two. -/
def join (pieces : List String) (sep : Char) : String :=
  String.intercalate (String.singleton sep) pieces

/-- The text before the first `sep` and the text after it, if `sep` occurs. -/
def splitOnce (s : String) (sep : Char) : Option (String × String) :=
  let cs := s.toList
  if cs.contains sep then
    some (String.ofList (cs.takeWhile (· ≠ sep)), String.ofList ((cs.dropWhile (· ≠ sep)).drop 1))
  else none

/-- The text before the last `sep` and the text after it, if `sep` occurs. -/
def splitOnceRight (s : String) (sep : Char) : Option (String × String) :=
  let rs := s.toList.reverse
  if rs.contains sep then
    some (String.ofList ((rs.dropWhile (· ≠ sep)).drop 1).reverse,
      String.ofList (rs.takeWhile (· ≠ sep)).reverse)
  else none

/-- ASCII lowercase: `A`–`Z` become `a`–`z`, every other character stays. -/
def asciiLowercase (s : String) : String :=
  String.ofList (s.toList.map Char.toLower)

/-- ASCII uppercase: `a`–`z` become `A`–`Z`, every other character stays. -/
def asciiUppercase (s : String) : String :=
  String.ofList (s.toList.map Char.toUpper)

/-- Equality up to ASCII case. -/
def eqIgnoreAsciiCase (a b : String) : Bool :=
  a.toList.map Char.toLower == b.toList.map Char.toLower

/-- Drops every trailing `c`. -/
def trimEndChar (s : String) (c : Char) : String :=
  String.ofList (s.toList.reverse.dropWhile (· = c)).reverse

/-- Drops every leading and trailing `c`. -/
def trimChar (s : String) (c : Char) : String :=
  String.ofList ((s.toList.dropWhile (· = c)).reverse.dropWhile (· = c)).reverse

/-- What follows `lead` in `cs`, if `cs` starts with `lead`. -/
def afterLeading : List Char → List Char → Option (List Char)
  | [], cs => some cs
  | _ :: _, [] => none
  | l :: ls, c :: cs => if l = c then afterLeading ls cs else none

/-- Replaces every `c` by `d`. -/
def replaceChar (s : String) (c d : Char) : String :=
  String.ofList (s.toList.map fun x => if x = c then d else x)

end RuleRouting.Text
