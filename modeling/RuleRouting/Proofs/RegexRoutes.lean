import Mathlib.Data.List.TakeWhile
import RuleRouting.Proofs.Slicing
import RuleRouting.Proofs.PathPairs

/-!
# How a regular-expression match resolves a route

A rule-syntax match and a regular-expression match resolve a route target differently.

The parameters a regular-expression match reads off the rest of the path are those after as
many bytes as the whole match is long (`resolveRegex_route`). That is the text after the
match when the match starts the path (`resolveRegex_pairs_after_match_at_start`), and not
otherwise: `/b/` matches `ab/x/y` at `b`, and the parameters are read off `b/x/y`, not off
`/x/y` (`regex_pairs_after_match_length`).
-/

namespace RuleRouting

/-! ## Splicing text into an address -/

/-- Whether a text holds a back-reference token: a `:` followed by a decimal digit. -/
def hasReference : List Char → Bool
  | ':' :: d :: rest => Text.isDecimalDigit d || hasReference (d :: rest)
  | _ :: rest => hasReference rest
  | [] => false

theorem hasReference_colon {rest : List Char} (h : hasReference (':' :: rest) = false) :
    (rest.takeWhile Text.isDecimalDigit).isEmpty ∧ hasReference rest = false := by
  cases rest with
  | nil => simp [hasReference]
  | cons d rest =>
    simp only [hasReference, Bool.or_eq_false_iff] at h
    simp [h.1, h.2]

theorem hasReference_cons {c : Char} {rest : List Char} (h : hasReference (c :: rest) = false) :
    hasReference rest = false := by
  by_cases hc : c = ':'
  · subst hc
    exact (hasReference_colon h).2
  · cases rest with
    | nil => rfl
    | cons d rest => simpa [hasReference, hc] using h

theorem substituteChars_of_hasReference {lookup : Nat → Option String} {cs : List Char}
    (h : hasReference cs = false) : substituteChars lookup cs = cs := by
  fun_induction substituteChars lookup cs with
  | case1 => rfl
  | case2 rest digits hempty ih => rw [ih (hasReference_colon h).2]
  | case3 rest digits hdigits ih => exact absurd (hasReference_colon h).1 hdigits
  | case4 c rest hc ih => rw [ih (hasReference_cons h)]

theorem substitute_of_hasReference {lookup : Nat → Option String} {template : String}
    (h : hasReference template.toList = false) : substitute template lookup = template := by
  rw [substitute, substituteChars_of_hasReference h, String.ofList_toList]

open Query in
/-- The pairs of `b/x/y`: `b` with `x`, and `y` left alone. -/
theorem pathPairs_bxy : pathPairs "b/x/y".toList = [(Text.toLowercase "b", "x")] := by
  have hchars : "b/x/y".toList = ['b'] ++ '/' :: (['x'] ++ ['/', 'y']) := rfl
  have hb : ∀ c ∈ ['b'], Text.isWordChar c = true := by
    simp only [List.mem_singleton, forall_eq]
    decide
  have hscan : scanPairs .between "b/x/y".toList = [(['b'], ['x'])] := by
    rw [hchars, scanPairs_pair _ (by simp) hb (by simp) (by simp)]
    simp [scanPairs]
  rw [pathPairs, hscan]
  rfl

open Query in
/-- The pairs of `/x/y`: `x` with `y`. -/
theorem pathPairs_xy : pathPairs "/x/y".toList = [(Text.toLowercase "x", "y")] := by
  have hchars : "/x/y".toList = '/' :: (['x'] ++ '/' :: (['y'] ++ [])) := rfl
  have hx : ∀ c ∈ ['x'], Text.isWordChar c = true := by
    simp only [List.mem_singleton, forall_eq]
    decide
  have hscan : scanPairs .between "/x/y".toList = [(['x'], ['y'])] := by
    rw [hchars, scanPairs, isWordChar_slash, if_neg Bool.false_ne_true,
      scanPairs_pair _ (by simp) hx (by simp) (by simp)]
    simp [scanPairs]
  rw [pathPairs, hscan]
  rfl

/-! ## The parameters after a match -/

/-- **A regular-expression match on a route target**: the address with the groups spliced in
gives the route and its parameters, then come the pairs read after as many bytes as the whole
match is long, then the extra query. -/
theorem resolveRegex_route (m : RegexMatch) (path address : String) (extra : Option Query)
    (req : RouteRequest) (st : DispatchState) :
    resolveRegex m path (.route address extra) req st =
      some (st.resolved (parseRoute (substitute address fun i => (m.groups[i]?).join) req.method).1
        (((parseRoute (substitute address fun i => (m.groups[i]?).join) req.method).2.merge
          (Query.fromPathPairs (afterBytes path m.matchedLen))).merge
            (extra.getD OrderedMap.empty))) :=
  rfl

/-- The groups of a match are read off the slots the search reports. -/
theorem RegexPattern.matchPath_of_search {p : RegexPattern} {path : String}
    {slots : Array (Option Nat)} (h : p.regex.program.search path.toList.toArray = some slots) :
    p.matchPath path =
      some ⟨(List.range (p.regex.groups + 1)).map (Regex.groupText path.toList.toArray slots)⟩ := by
  simp [RegexPattern.matchPath, Regex.Compiled.captures, h]

/-- A match that starts the path at position 0 and ends at `stop` is cut after its end: the
text after its length is the path from `stop` on. -/
theorem afterBytes_matchedLen_of_start {p : RegexPattern} {path : String} {m : RegexMatch}
    {slots : Array (Option Nat)} {stop : Nat} (hm : p.matchPath path = some m)
    (hsearch : p.regex.program.search path.toList.toArray = some slots)
    (hstart : slots.getD 0 none = some 0) (hstop : slots.getD 1 none = some stop) :
    afterBytes path m.matchedLen = String.ofList (path.toList.drop stop) := by
  rw [RegexPattern.matchPath_of_search hsearch, Option.some.injEq] at hm
  subst hm
  have hwhole : Regex.groupText path.toList.toArray slots 0 =
      some (String.ofList (path.toList.take stop)) := by
    simp [Regex.groupText, hstart, hstop, List.extract_eq_take_drop]
  have hcut : Text.dropBytes path.toList (Text.byteLength (path.toList.take stop)) =
      some (path.toList.drop stop) := by
    have h := Text.dropBytes_append (path.toList.take stop) (path.toList.drop stop)
    rwa [List.take_append_drop] at h
  simp only [RegexMatch.matchedLen, List.range_succ_eq_map, List.map_cons, hwhole]
  rw [afterBytes, ← Text.byteLength_toList, String.toList_ofList, hcut, Option.getD_some]

/-- **When a regular-expression match starts the path, the parameters are read off what
follows the match.** The search reports the whole match at positions `0` to `stop`; the
pairs merged into the route's parameters are those of the path from `stop` on. -/
theorem resolveRegex_pairs_after_match_at_start {p : RegexPattern} {path : String}
    {m : RegexMatch} {slots : Array (Option Nat)} {stop : Nat} (address : String)
    (extra : Option Query) (req : RouteRequest) (st : DispatchState)
    (hm : p.matchPath path = some m)
    (hsearch : p.regex.program.search path.toList.toArray = some slots)
    (hstart : slots.getD 0 none = some 0) (hstop : slots.getD 1 none = some stop) :
    resolveRegex m path (.route address extra) req st =
      some (st.resolved (parseRoute (substitute address fun i => (m.groups[i]?).join) req.method).1
        (((parseRoute (substitute address fun i => (m.groups[i]?).join) req.method).2.merge
          (Query.fromPathPairs (String.ofList (path.toList.drop stop)))).merge
            (extra.getD OrderedMap.empty))) := by
  rw [resolveRegex_route, afterBytes_matchedLen_of_start hm hsearch hstart hstop]

/-- `^b` matches `b/x/y` from position 0 to 1, and the parameters are read off `/x/y`. -/
theorem resolveRegex_pairs_after_match_at_start_anchored :
    ∃ p m slots, RegexPattern.parse "/^b/" = .ok p ∧ p.matchPath "b/x/y" = some m ∧
      p.regex.program.search "b/x/y".toList.toArray = some slots ∧
      slots.getD 0 none = some 0 ∧ slots.getD 1 none = some 1 ∧
      resolveRegex m "b/x/y" (.route "C/act" none) { path := "b/x/y" } ⟨OrderedMap.empty, none⟩ =
        some ((DispatchState.mk OrderedMap.empty none).resolved
          (parseRoute (substitute "C/act" fun i => (m.groups[i]?).join) Method.get).1
          (((parseRoute (substitute "C/act" fun i => (m.groups[i]?).join) Method.get).2.merge
            (Query.fromPathPairs (String.ofList ("b/x/y".toList.drop 1)))).merge
              OrderedMap.empty)) := by
  have hrun : ((RegexPattern.parse "/^b/").toOption.bind fun p =>
      (p.regex.program.search "b/x/y".toList.toArray).map fun slots =>
        (slots.getD 0 none, slots.getD 1 none)) = some (some 0, some 1) := by
    decide +kernel
  cases hp : RegexPattern.parse "/^b/" with
  | error e =>
    rw [hp] at hrun
    cases hrun
  | ok p =>
    rw [hp] at hrun
    simp only [Except.toOption, Option.bind_some] at hrun
    cases hs : p.regex.program.search "b/x/y".toList.toArray with
    | none =>
      rw [hs] at hrun
      cases hrun
    | some slots =>
      rw [hs] at hrun
      simp only [Option.map_some, Option.some.injEq, Prod.mk.injEq] at hrun
      obtain ⟨hstart, hstop⟩ := hrun
      have hm := RegexPattern.matchPath_of_search hs
      exact ⟨p, _, slots, rfl, hm, hs, hstart, hstop,
        resolveRegex_pairs_after_match_at_start "C/act" none { path := "b/x/y" }
          ⟨OrderedMap.empty, none⟩ hm hs hstart hstop⟩

/-- **The parameters after a regular-expression match are read after its length, not after its
end.** `b` matches `ab/x/y` from position 1 to 2, so what follows the match is `/x/y`, whose
only pair has the value `y`; but the route's parameters are read off `b/x/y`, the text after
one byte, and their only value is `x`. -/
theorem regex_pairs_after_match_length :
    ∃ p slots m r, RegexPattern.parse "/b/" = .ok p ∧
      p.regex.program.search "ab/x/y".toList.toArray = some slots ∧
      slots.getD 0 none = some 1 ∧ slots.getD 1 none = some 2 ∧ p.matchPath "ab/x/y" = some m ∧
      resolveRegex m "ab/x/y" (.route "C/act" none) { path := "ab/x/y" } ⟨OrderedMap.empty, none⟩ =
        some (.resolved r) ∧
      r.query.values = ["x"] ∧
      (Query.fromPathPairs (String.ofList ("ab/x/y".toList.drop 2))).values = ["y"] := by
  have hrun : ((RegexPattern.parse "/b/").toOption.bind fun p =>
      (p.regex.program.search "ab/x/y".toList.toArray).map fun slots =>
        (slots.getD 0 none, slots.getD 1 none,
          (RegexMatch.mk ((List.range (p.regex.groups + 1)).map
            (Regex.groupText "ab/x/y".toList.toArray slots))).matchedLen)) =
      some (some 1, some 2, 1) := by
    decide +kernel
  cases hp : RegexPattern.parse "/b/" with
  | error e =>
    rw [hp] at hrun
    cases hrun
  | ok p =>
    rw [hp] at hrun
    simp only [Except.toOption, Option.bind_some] at hrun
    cases hs : p.regex.program.search "ab/x/y".toList.toArray with
    | none =>
      rw [hs] at hrun
      cases hrun
    | some slots =>
      rw [hs] at hrun
      simp only [Option.map_some, Option.some.injEq, Prod.mk.injEq] at hrun
      obtain ⟨hstart, hstop, hlen⟩ := hrun
      have hm := RegexPattern.matchPath_of_search hs
      have hcut : afterBytes "ab/x/y" 1 = "b/x/y" := by decide
      have hnoref : hasReference "C/act".toList = false := by decide
      refine ⟨p, slots, _, _, rfl, hs, hstart, hstop, hm, rfl, ?_, ?_⟩
      · simp only [Query.under, substitute_of_hasReference hnoref, hlen, hcut,
          Query.fromPathPairs, pathPairs_bxy]
        decide
      · have htail : String.ofList ("ab/x/y".toList.drop 2) = "/x/y" := by decide
        rw [htail, Query.fromPathPairs, pathPairs_xy]
        decide

end RuleRouting
