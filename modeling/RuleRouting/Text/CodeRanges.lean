/-!
# Sets of code points as sorted ranges

A character property of the Unicode standard is a union of closed code point intervals. The
tables of this library list them sorted and disjoint, and membership is a binary search.
-/

namespace RuleRouting

/-- Closed code point intervals `(lo, hi)`, sorted and disjoint. -/
structure CodeRanges where
  ranges : Array (Nat × Nat)

namespace CodeRanges

/-- Binary search for an interval containing `n` among the entries `lo ≤ i < hi`. -/
def searchFrom (t : Array (Nat × Nat)) (n : Nat) (lo hi : Nat) : Bool :=
  if h : lo < hi then
    let mid := (lo + hi) / 2
    let r := t.getD mid (0, 0)
    if n < r.1 then searchFrom t n lo mid
    else if r.2 < n then searchFrom t n (mid + 1) hi
    else true
  else false
termination_by hi - lo

/-- Whether the code point `n` lies in one of the intervals. -/
def containsNat (s : CodeRanges) (n : Nat) : Bool :=
  searchFrom s.ranges n 0 s.ranges.size

/-- Whether the character `c` lies in one of the intervals. -/
def contains (s : CodeRanges) (c : Char) : Bool :=
  s.containsNat c.toNat

end CodeRanges

/-- The index of the first pair of `t` whose first component is at least `n`, searching the
entries `lo ≤ i < hi` of a table sorted by first components. -/
def lowerBoundFrom (t : Array (Nat × Nat)) (n : Nat) (lo hi : Nat) : Nat :=
  if h : lo < hi then
    let mid := (lo + hi) / 2
    if (t.getD mid (0, 0)).1 < n then lowerBoundFrom t n (mid + 1) hi
    else lowerBoundFrom t n lo mid
  else lo
termination_by hi - lo

/-- The index of the first pair of `t` whose first component is at least `n`. -/
def lowerBound (t : Array (Nat × Nat)) (n : Nat) : Nat :=
  lowerBoundFrom t n 0 t.size

/-- The second component of the first pair whose first component is `n`, in a table sorted
by first components. -/
def lookupSorted (t : Array (Nat × Nat)) (n : Nat) : Option Nat :=
  match t[lowerBound t n]? with
  | some p => if p.1 = n then some p.2 else none
  | none => none

/-- The second components of all pairs whose first component is `n`, in table order. -/
def lookupAllSorted (t : Array (Nat × Nat)) (n : Nat) : List Nat :=
  ((t.toList.drop (lowerBound t n)).takeWhile (fun p => p.1 = n)).map (·.2)

end RuleRouting
