import RuleRouting.Query.Basic
import RuleRouting.Text.Word
import RuleRouting.Text.Lowercase

/-!
# Parameters written in a path

The tail of a path such as `Page/2/sort/<b>asc</b>/x` carries `key/value` pairs. A pair is a
maximal run of word characters (the key) followed by `/` and a run of characters other than
`/` (the value); pairs are taken left to right without overlapping, so a run that is not
followed by `/` and a value is skipped. This is the left-to-right, non-overlapping reading
of the pattern `(\w+)/([^/]+)`. Keys are lowercased, and HTML tags are removed from values:
a `<` removes everything through the next `>`, or to the end when none follows.
-/

namespace RuleRouting.Query

open RuleRouting.Text

/-- Removes tags; `inTag` says whether a `<` is open. -/
def stripTagsFrom (inTag : Bool) : List Char → List Char
  | [] => []
  | c :: rest =>
    if inTag then stripTagsFrom (c ≠ '>') rest
    else if c = '<' then stripTagsFrom true rest
    else c :: stripTagsFrom false rest

/-- Removes every tag: a `<` and everything through the next `>`, or to the end. -/
def stripTags (cs : List Char) : List Char := stripTagsFrom false cs

/-- Where the reading of path pairs stands. Keys and values are kept reversed. -/
inductive PairScan where
  /-- Outside any key: at the start, or after a character that ends no key. -/
  | between
  /-- Inside a run of word characters. -/
  | key (k : List Char)
  /-- A key and the `/` after it have been read. -/
  | slash (k : List Char)
  /-- Inside the value of a key. -/
  | value (k v : List Char)

/-- Reads path pairs from `st` on: each pair is a key and a value, both in reading order. -/
def scanPairs : PairScan → List Char → List (List Char × List Char)
  | .value k v, [] => [(k.reverse, v.reverse)]
  | _, [] => []
  | .between, c :: rest =>
    if isWordChar c then scanPairs (.key [c]) rest else scanPairs .between rest
  | .key k, c :: rest =>
    if isWordChar c then scanPairs (.key (c :: k)) rest
    else if c = '/' then scanPairs (.slash k) rest
    else scanPairs .between rest
  | .slash k, c :: rest =>
    if c = '/' then scanPairs .between rest else scanPairs (.value k [c]) rest
  | .value k v, c :: rest =>
    if c = '/' then (k.reverse, v.reverse) :: scanPairs .between rest
    else scanPairs (.value k (c :: v)) rest

/-- The `key/value` pairs of a path tail, in order, repeats included: keys lowercased, tags
stripped from values. -/
def pathPairs (cs : List Char) : List (String × String) :=
  (scanPairs .between cs).map fun p =>
    (toLowercase (String.ofList p.1), String.ofList (stripTags p.2))

/-- The parameters written in a path tail; a repeated key keeps its first position and its
last value. -/
def fromPathPairs (path : String) : Query :=
  OrderedMap.ofList (pathPairs path.toList)

end RuleRouting.Query
