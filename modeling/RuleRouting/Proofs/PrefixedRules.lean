import Mathlib.Data.List.TakeWhile
import RuleRouting.Route.Table

/-!
# A rule pattern under a prefix

A group with scope `p` hands its children the path below `p`; a rule written `p/c` matches the
whole path. This module relates the two on the pattern side.

* `RulePattern.parse_prefixed` — when `p` has no segment starting with `:` and `c`, before its
  exactness mark, has a character other than `/`, the pattern `p/c` is `p`'s segments as
  literals followed by `c`'s segments, exact when `c` is;
* `RulePattern.matchPath_prefixed` — on a path `p/rest` it matches as `c` matches `rest`;
* `RulePattern.matchPath_prefixed_of_leadsFolded` — it matches nothing when the path's first
  segments are not `p`'s, even up to ASCII case;
* `RuleGroup.below_prefixed`, `RuleGroup.eq_of_below` — the path below the scope is `rest`
  exactly for `p/rest` and for `p` itself (with an empty rest).
-/

namespace RuleRouting

/-! ## Splitting and trimming a prefixed text -/

namespace Text

@[simp] theorem toList_slash : "/".toList = ['/'] := rfl

/-- Splitting at the separator after a prefix splits the prefix and the rest apart. -/
theorem split_prefixed (p s : String) : split (p ++ "/" ++ s) '/' = split p '/' ++ split s '/' := by
  have h : (p ++ "/" ++ s).toList = p.toList ++ '/' :: s.toList := by simp
  rw [split, h, List.splitOn_append_cons_self, List.map_append]
  rfl

/-- Trailing separators of a prefixed text come from the rest, when the rest has something
else. -/
theorem trimEndChar_prefixed {p s : String} (hs : ∃ c ∈ s.toList, c ≠ '/') :
    trimEndChar (p ++ "/" ++ s) '/' = p ++ "/" ++ trimEndChar s '/' := by
  have hdrop : (s.toList.reverse.dropWhile (· = '/')).isEmpty = false := by
    obtain ⟨c, hc, hne⟩ := hs
    rw [Bool.eq_false_iff]
    intro h
    have hall := List.dropWhile_eq_nil_iff.mp (List.isEmpty_iff.mp h) c (List.mem_reverse.mpr hc)
    exact hne (of_decide_eq_true hall)
  apply String.ext
  simp only [trimEndChar, String.toList_append, toList_slash, String.toList_ofList,
    List.reverse_append, List.append_assoc, List.dropWhile_append, hdrop]
  simp

/-- What follows a list that is a prefix. -/
theorem afterLeading_append (l r : List Char) : afterLeading l (l ++ r) = some r := by
  induction l with
  | nil => rfl
  | cons c l ih => simp [afterLeading, ih]

theorem eq_append_of_afterLeading {l cs r : List Char} (h : afterLeading l cs = some r) :
    cs = l ++ r := by
  induction l generalizing cs with
  | nil => cases h; rfl
  | cons c l ih =>
    cases cs with
    | nil => cases h
    | cons d cs =>
      simp only [afterLeading] at h
      split at h
      · rename_i hcd
        rw [hcd, ih h]
        rfl
      · cases h

/-- A text compares equal to itself up to ASCII case. -/
@[simp] theorem eqIgnoreAsciiCase_self (s : String) : eqIgnoreAsciiCase s s = true := by
  simp [eqIgnoreAsciiCase]

end Text

/-! ## The prefixed pattern -/

/-- Whether the first parts are the given ones, each up to ASCII case. -/
def leadsFolded : List String → List String → Bool
  | [], _ => true
  | _ :: _, [] => false
  | l :: ls, part :: parts => Text.eqIgnoreAsciiCase l part && leadsFolded ls parts

namespace RulePattern

/-- The pattern before its exactness mark, and whether it has one. -/
def bodyOf (pattern : String) : String × Bool :=
  match pattern.toList.reverse with
  | '$' :: rest => (String.ofList rest.reverse, true)
  | _ => (pattern, false)

theorem parse_eq_bodyOf (pattern : String) :
    parse pattern =
      { source := pattern,
        segments := (Text.split (Text.trimEndChar (bodyOf pattern).1 '/') '/').map Segment.parse,
        exact := (bodyOf pattern).2 } :=
  rfl

theorem toList_ne_nil_of_bodyOf {c : String} (hc : ∃ ch ∈ (bodyOf c).1.toList, ch ≠ '/') :
    c.toList ≠ [] := by
  intro h
  have hbody : bodyOf c = (c, false) := by simp [bodyOf, h]
  obtain ⟨ch, hch, -⟩ := hc
  simp [hbody, h] at hch

/-- The exactness mark of `p/c` is `c`'s. -/
theorem bodyOf_prefixed (p : String) {c : String} (hc : c.toList ≠ []) :
    bodyOf (p ++ "/" ++ c) = (p ++ "/" ++ (bodyOf c).1, (bodyOf c).2) := by
  have hrev : (p ++ "/" ++ c).toList.reverse = c.toList.reverse ++ '/' :: p.toList.reverse := by
    simp
  unfold bodyOf
  rw [hrev]
  cases hr : c.toList.reverse with
  | nil => simp_all
  | cons x rest =>
    by_cases hx : x = '$'
    · subst hx
      simp only [List.cons_append, Prod.mk.injEq, and_true]
      apply String.ext
      simp
    · simp [hx]

/-- A segment that does not start with `:` is a literal. -/
theorem Segment.parse_of_head {s : String} (h : s.toList.head? ≠ some ':') :
    Segment.parse s = .literal s := by
  unfold Segment.parse
  split
  · rename_i spec hs
    simp [hs] at h
  · rfl

/-- Literal segments accept themselves. -/
theorem matchSegments_literals_append (ls : List String) (segs : List Segment)
    (parts : List String) (acc : OrderedMap String) :
    matchSegments (ls.map .literal ++ segs) (ls ++ parts) acc = matchSegments segs parts acc := by
  induction ls with
  | nil => rfl
  | cons l ls ih => simp [matchSegments, ih]

/-- Literal segments refuse parts that differ from them beyond ASCII case. -/
theorem matchSegments_literals_of_leadsFolded {ls parts : List String}
    (h : leadsFolded ls parts = false) (segs : List Segment) (acc : OrderedMap String) :
    matchSegments (ls.map .literal ++ segs) parts acc = none := by
  induction ls generalizing parts with
  | nil => simp [leadsFolded] at h
  | cons l ls ih =>
    cases parts with
    | nil => rfl
    | cons part parts =>
      simp only [leadsFolded, Bool.and_eq_false_iff] at h
      simp only [List.map_cons, List.cons_append, matchSegments]
      by_cases he : Text.eqIgnoreAsciiCase l part
      · rw [if_pos he]
        exact ih (h.resolve_left (by simp [he]))
      · rw [if_neg he]

section Prefixed

variable {p c : String}

/-- **`p/c` is `p`'s segments as literals, then `c`'s**, exact when `c` is. -/
theorem parse_prefixed (hp : ∀ seg ∈ Text.split p '/', seg.toList.head? ≠ some ':')
    (hc : ∃ ch ∈ (bodyOf c).1.toList, ch ≠ '/') :
    (parse (p ++ "/" ++ c)).segments = (Text.split p '/').map .literal ++ (parse c).segments ∧
      (parse (p ++ "/" ++ c)).exact = (parse c).exact := by
  rw [parse_eq_bodyOf, parse_eq_bodyOf c, bodyOf_prefixed p (toList_ne_nil_of_bodyOf hc)]
  refine ⟨?_, rfl⟩
  simp only [Text.trimEndChar_prefixed hc, Text.split_prefixed, List.map_append]
  congr 1
  exact List.map_congr_left fun seg hseg => Segment.parse_of_head (hp seg hseg)

/-- **On a path `p/rest`, the pattern `p/c` matches as `c` matches `rest`.** -/
theorem matchPath_prefixed (hp : ∀ seg ∈ Text.split p '/', seg.toList.head? ≠ some ':')
    (hc : ∃ ch ∈ (bodyOf c).1.toList, ch ≠ '/') (rest : String) :
    (parse (p ++ "/" ++ c)).matchPath (p ++ "/" ++ rest) = (parse c).matchPath rest := by
  obtain ⟨hseg, hexact⟩ := parse_prefixed hp hc
  have hdrop : (Text.split p '/').drop ((Text.split p '/').length + (parse c).segments.length) =
      [] := List.drop_eq_nil_of_le (by omega)
  unfold matchPath
  simp only [hseg, hexact, Text.split_prefixed, List.length_append, List.length_map,
    matchSegments_literals_append, Nat.add_lt_add_iff_left]
  simp [List.drop_append, hdrop]

/-- The pattern `p/c` matches no path whose first segments are not `p`'s up to ASCII case. -/
theorem matchPath_prefixed_of_leadsFolded
    (hp : ∀ seg ∈ Text.split p '/', seg.toList.head? ≠ some ':')
    (hc : ∃ ch ∈ (bodyOf c).1.toList, ch ≠ '/') {path : String}
    (h : leadsFolded (Text.split p '/') (Text.split path '/') = false) :
    (parse (p ++ "/" ++ c)).matchPath path = none := by
  obtain ⟨hseg, -⟩ := parse_prefixed hp hc
  unfold matchPath
  simp [hseg, matchSegments_literals_of_leadsFolded h]

end Prefixed

end RulePattern

/-! ## The path below a group's scope -/

/-- A text with no leading or trailing `c` is its own trim. -/
theorem Text.trimChar_of_ends {s : String} {c : Char} (hhead : s.toList.head? ≠ some c)
    (hlast : s.toList.getLast? ≠ some c) : Text.trimChar s c = s := by
  have hfront : s.toList.dropWhile (· = c) = s.toList := by
    cases h : s.toList with
    | nil => rfl
    | cons x xs =>
      have hx : x ≠ c := fun hx => hhead (by simp [h, hx])
      simp [hx]
  have hback : s.toList.reverse.dropWhile (· = c) = s.toList.reverse := by
    cases h : s.toList.reverse with
    | nil => rfl
    | cons x xs =>
      have hx : x ≠ c := fun hx => hlast (by rw [← List.head?_reverse, h, hx]; rfl)
      simp [hx]
  apply String.ext
  simp [Text.trimChar, hfront, hback]

namespace RuleGroup

/-- The path below the scope of `scope/rest` is `rest`. -/
theorem below_prefixed (g : RuleGroup) (rest : String) :
    g.below (g.scope ++ "/" ++ rest) = some rest := by
  have h : (g.scope ++ "/" ++ rest).toList = g.scope.toList ++ '/' :: rest.toList := by simp
  unfold below
  rw [h, Text.afterLeading_append]
  simp

/-- A path has something below the scope only when it is the scope followed by `/` and that,
or the scope itself. -/
theorem eq_of_below {g : RuleGroup} {path rest : String} (h : g.below path = some rest) :
    path = g.scope ++ "/" ++ rest ∨ (path = g.scope ∧ rest = "") := by
  unfold below at h
  split at h
  · rename_i hl
    cases h
    refine .inr ⟨String.ext ?_, rfl⟩
    simp [Text.eq_append_of_afterLeading hl]
  · rename_i r hl
    cases h
    refine .inl (String.ext ?_)
    simp [Text.eq_append_of_afterLeading hl]
  · cases h

end RuleGroup

end RuleRouting
