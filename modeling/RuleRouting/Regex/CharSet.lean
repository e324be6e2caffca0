import RuleRouting.Text.CodeRanges
import RuleRouting.Text.CaseFold

/-!
# Character sets

A character class of a regular expression denotes a set of code points, kept as sorted,
disjoint, non-adjacent closed intervals. Unions, intersections, differences and complements
(within `0 … 0x10FFFF`) keep that form, and case folding adds every character that folds
together with a member.
-/

namespace RuleRouting.Regex

/-- The largest code point. -/
def maxCodePoint : Nat := 0x10FFFF

/-- A set of code points as sorted, disjoint, non-adjacent closed intervals. -/
structure CharSet where
  ranges : Array (Nat × Nat)
  deriving Inhabited

namespace CharSet

/-- Glues sorted intervals that overlap or touch. -/
def coalesce : List (Nat × Nat) → List (Nat × Nat)
  | [] => []
  | [r] => [r]
  | r :: s :: rest =>
    if s.1 ≤ r.2 + 1 then coalesce ((r.1, max r.2 s.2) :: rest)
    else r :: coalesce (s :: rest)
termination_by l => l.length

/-- The set of the given intervals, in any order; empty intervals are dropped. -/
def ofRanges (rs : List (Nat × Nat)) : CharSet :=
  let rs := (rs.filter fun r => r.1 ≤ r.2).mergeSort fun a b => a.1 ≤ b.1
  ⟨(coalesce rs).toArray⟩

/-- The empty set. -/
def empty : CharSet := ⟨#[]⟩

/-- One character. -/
def single (c : Char) : CharSet := ⟨#[(c.toNat, c.toNat)]⟩

/-- The characters from `lo` to `hi`. -/
def range (lo hi : Char) : CharSet := ofRanges [(lo.toNat, hi.toNat)]

/-- Whether `c` is a member. -/
def contains (s : CharSet) (c : Char) : Bool :=
  (CodeRanges.mk s.ranges).contains c

/-- Whether the set has no member. -/
def isEmpty (s : CharSet) : Bool := s.ranges.isEmpty

/-- The members of either set. -/
def union (a b : CharSet) : CharSet := ofRanges (a.ranges.toList ++ b.ranges.toList)

/-- The gaps between sorted intervals, from `start` up to `maxCodePoint`. -/
def gaps (start : Nat) : List (Nat × Nat) → List (Nat × Nat)
  | [] => if start ≤ maxCodePoint then [(start, maxCodePoint)] else []
  | r :: rest =>
    let here := if start < r.1 then [(start, r.1 - 1)] else []
    here ++ gaps (r.2 + 1) rest

/-- The code points not in the set. -/
def complement (s : CharSet) : CharSet := ⟨(gaps 0 s.ranges.toList).toArray⟩

/-- The members of both sets. -/
def inter (a b : CharSet) : CharSet := (a.complement.union b.complement).complement

/-- The members of `a` not in `b`. -/
def diff (a b : CharSet) : CharSet := a.inter b.complement

/-- The members of exactly one of the sets. -/
def symmDiff (a b : CharSet) : CharSet := (a.union b).diff (a.inter b)

/-- Whether some member is outside ASCII. -/
def hasNonAscii (s : CharSet) : Bool := s.ranges.any fun r => r.2 ≥ 0x80

/-- The folding partners of the code points in `[lo, hi]`, as one-point intervals. -/
def foldPartners (lo hi : Nat) : List (Nat × Nat) :=
  let t := Text.caseFoldPairs
  ((t.toList.drop (lowerBound t lo)).takeWhile (fun p => p.1 ≤ hi)).map fun p => (p.2, p.2)

/-- Adds every character that folds together with a member (simple case folding). -/
def caseFold (s : CharSet) : CharSet :=
  ofRanges (s.ranges.toList ++ s.ranges.toList.flatMap fun r => foldPartners r.1 r.2)

/-- Adds the other ASCII case of every ASCII letter. -/
def asciiCaseFold (s : CharSet) : CharSet :=
  let upper := (range 'A' 'Z').inter s
  let lower := (range 'a' 'z').inter s
  let shift (d : Int) (r : Nat × Nat) : Nat × Nat := ((r.1 + d).toNat, (r.2 + d).toNat)
  ofRanges (s.ranges.toList ++ upper.ranges.toList.map (shift 32)
    ++ lower.ranges.toList.map (shift (-32)))

end CharSet

end RuleRouting.Regex
