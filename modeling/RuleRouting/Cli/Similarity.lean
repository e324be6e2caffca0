/-!
# Jaro similarity

The Jaro similarity of two words counts the characters they share within a window of half
the longer length (less one), and the shared characters that come in a different order
(transpositions, halved). With `m` shared characters, `t` transpositions and lengths `a`, `b`,
the score is `(m/a + m/b + (m - t)/m) / 3`. Scores are kept as exact fractions, so comparing
them, or comparing one with the threshold `7/10`, is plain arithmetic on natural numbers.
-/

namespace RuleRouting.Cli

/-- A score as a fraction `num / den` with a positive denominator. -/
structure Score where
  num : Nat
  den : Nat

/-- Whether one score is below another. -/
def Score.lt (x y : Score) : Bool := x.num * y.den < y.num * x.den

/-- Marks the first unmarked position of `b` within `[lo, hi)` holding `c`. -/
def claim (c : Char) (lo hi : Nat) : List (Char × Bool) → Nat → Option (List (Char × Bool))
  | [], _ => none
  | (d, used) :: rest, j =>
    if j ≥ hi then none
    else if lo ≤ j && d = c && !used then some ((d, true) :: rest)
    else ((claim c lo hi rest (j + 1)).map fun r => (d, used) :: r)

/-- Walks `a`, claiming its shared characters in `b`; returns which characters of `a` were
shared and the marked `b`. -/
def claimAll (window : Nat) : List Char → Nat → List (Char × Bool) → List (Char × Bool) × List (Char × Bool)
  | [], _, marks => ([], marks)
  | c :: rest, i, marks =>
    let lo := i - window
    let hi := min marks.length (i + window + 1)
    match claim c lo hi marks 0 with
    | some marks' =>
      let (shared, final) := claimAll window rest (i + 1) marks'
      ((c, true) :: shared, final)
    | none =>
      let (shared, final) := claimAll window rest (i + 1) marks
      ((c, false) :: shared, final)

/-- The number of positions where the shared characters of the two words, in order, differ. -/
def mismatches : List Char → List Char → Nat
  | c :: cs, d :: ds => (if c = d then 0 else 1) + mismatches cs ds
  | _, _ => 0

/-- The Jaro score of two words. -/
def jaro (a b : String) : Score :=
  let xs := a.toList
  let ys := b.toList
  if xs.isEmpty && ys.isEmpty then ⟨1, 1⟩
  else if xs.isEmpty || ys.isEmpty then ⟨0, 1⟩
  else
    let window := max xs.length ys.length / 2 - 1
    let (shared, marks) := claimAll window xs 0 (ys.map fun c => (c, false))
    let fromA := (shared.filter (·.2)).map (·.1)
    let fromB := (marks.filter (·.2)).map (·.1)
    let m := fromA.length
    let t := mismatches fromA fromB / 2
    if m = 0 then ⟨0, 1⟩
    else
      let la := xs.length
      let lb := ys.length
      ⟨m * m * lb + m * m * la + (m - t) * la * lb, 3 * la * lb * m⟩

/-- Whether two words are similar: their score is above `7/10`. -/
def similar (a b : String) : Bool :=
  (Score.lt ⟨7, 10⟩ (jaro a b))

/-- Inserts a scored word after every word of no greater score. -/
def insertByScore (x : Score × String) : List (Score × String) → List (Score × String)
  | [] => [x]
  | y :: ys => if Score.lt x.1 y.1 then x :: y :: ys else y :: insertByScore x ys

/-- The words similar to `word`, from the least to the most similar; equally similar words
keep their order. -/
def suggestions (word : String) (choices : List String) : List String :=
  let scored := (choices.map fun c => (jaro word c, c)).filter fun p => Score.lt ⟨7, 10⟩ p.1
  (scored.foldl (fun acc x => insertByScore x acc) []).map (·.2)

end RuleRouting.Cli
