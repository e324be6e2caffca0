import RuleRouting.Proofs.BackReferences

/-!
# The authority of an absolute redirect address

A redirect address may be an absolute URL `scheme://host:port/rest`. Substitution replaces
every `:N` token of an address, `N` being decimal digits, by the captured value numbered `N`,
and the `:port` of the authority is such a token. So the scheme and the host are kept, but the
port becomes the captured value it numbers, or nothing when there is none (a port such as
`8080` numbers no value of an ordinary match); the rest is substituted on its own.

* `substituteChars_append_of_noReference` — substitution keeps a prefix that holds no token
  and does not end a token's `:`;
* `substituteChars_token` — a token that ends before a non-digit becomes the value it names;
* `substitute_authority` — the two, on an absolute address;
* `Rule.outcome_redirect` — a redirect rule that resolves a path substitutes the values of
  its match into its address;
* `Rule.redirect_location_of_port` — **a redirect rule sends an absolute address to its
  scheme and host, the value its port numbers, `/` and its substituted rest**;
* `redirect_port_replaced` — the port is not kept: `old/:id` redirecting to
  `http://example.com:8080/new?id=:1` sends `old/9` to `http://example.com/new?id=9`.
-/

namespace RuleRouting

open Text

/-! ## Substitution around an authority -/

/-- Substitution keeps a prefix that holds no back-reference token, unless the prefix ends with
a `:` that the rest continues into a token. -/
theorem substituteChars_append_of_noReference (lookup : Nat → Option String) {x : List Char}
    (hx : hasReference x = false) {y : List Char}
    (hy : x.getLast? = some ':' → ∀ d ∈ y.head?, isDecimalDigit d = false) :
    substituteChars lookup (x ++ y) = x ++ substituteChars lookup y := by
  induction x with
  | nil => rfl
  | cons c x ih =>
    have hy' : x.getLast? = some ':' → ∀ d ∈ y.head?, isDecimalDigit d = false := by
      intro hlast
      apply hy
      simp [List.getLast?_cons, hlast]
    by_cases hc : c = ':'
    · subst hc
      have hempty : ((x ++ y).takeWhile isDecimalDigit).isEmpty = true := by
        cases x with
        | nil =>
          cases y with
          | nil => rfl
          | cons d y => simp [hy rfl d rfl]
        | cons d x =>
          have hd := (hasReference_colon hx).1
          cases hdd : isDecimalDigit d <;> simp_all
      rw [List.cons_append, substituteChars_colon, if_pos hempty, ih (hasReference_colon hx).2 hy',
        List.cons_append]
    · rw [List.cons_append, substituteChars_cons_of_ne _ _ hc, ih (hasReference_cons hx) hy',
        List.cons_append]

/-- A token `:digits` that ends before a non-digit becomes the value it names. -/
theorem substituteChars_token (lookup : Nat → Option String) {digits : List Char}
    (hne : digits ≠ []) (hdigits : ∀ d ∈ digits, isDecimalDigit d = true) {c : Char}
    (hc : isDecimalDigit c = false) (rest : List Char) :
    substituteChars lookup (':' :: (digits ++ c :: rest)) =
      (referenceValue lookup digits).toList ++ substituteChars lookup (c :: rest) := by
  have htake : (digits ++ c :: rest).takeWhile isDecimalDigit = digits := by
    rw [List.takeWhile_append_of_pos hdigits]
    simp [hc]
  rw [substituteChars_colon, htake, if_neg (by simpa using hne), List.drop_left]

theorem isDecimalDigit_colon : isDecimalDigit ':' = false := by
  rw [isDecimalDigit_ascii (by decide)]
  rfl

theorem isDecimalDigit_slash : isDecimalDigit '/' = false := by
  rw [isDecimalDigit_ascii (by decide)]
  rfl

/-- **Substitution keeps the scheme and host of an absolute address, and reads its port as a
back-reference.** -/
theorem substitute_authority (lookup : Nat → Option String) {scheme host port rest : String}
    (hscheme : scheme = "http" ∨ scheme = "https") (hhost : hasReference host.toList = false)
    (hport : port ≠ "") (hdigits : ∀ d ∈ port.toList, isDecimalDigit d = true) :
    substitute (scheme ++ "://" ++ host ++ ":" ++ port ++ "/" ++ rest) lookup =
      scheme ++ "://" ++ host ++ referenceValue lookup port.toList ++ "/" ++
        substitute rest lookup := by
  have hschemeRef : hasReference (scheme ++ "://").toList = false := by
    rcases hscheme with rfl | rfl <;> decide +kernel
  have hportChars : port.toList ≠ [] := by simpa using hport
  have hchars : (scheme ++ "://" ++ host ++ ":" ++ port ++ "/" ++ rest).toList =
      (scheme ++ "://").toList ++ (host.toList ++ ':' :: (port.toList ++ '/' :: rest.toList)) := by
    simp
  rw [substitute, hchars,
    substituteChars_append_of_noReference lookup hschemeRef (by simp),
    substituteChars_append_of_noReference lookup hhost (by simp [isDecimalDigit_colon]),
    substituteChars_token lookup hportChars hdigits isDecimalDigit_slash,
    substituteChars_cons_of_ne _ _ (by decide), ← String.toList_inj]
  simp [substitute]

/-! ## Redirect rules -/

/-- The value a back-reference `:i` names after a rule-syntax match: the `i`-th captured
value. -/
def RuleMatch.lookup (m : RuleMatch) (i : Nat) : Option String :=
  if i = 0 then none else m.captures.values[i - 1]?

/-- The value a back-reference `:i` names after a regular-expression match: group `i`. -/
def RegexMatch.lookup (m : RegexMatch) (i : Nat) : Option String :=
  (m.groups[i]?).join

/-- A redirect rule that resolves a path substitutes the values of its match into its address:
the captured values of a rule-syntax match, or the groups of a regular-expression match. -/
theorem Rule.outcome_redirect {rule : Rule} {address : String} {status : Nat} {path : String}
    {req : RouteRequest} {st : DispatchState} {res : MatchResult}
    (htarget : rule.target = .redirect address status) (h : rule.outcome path req st = some res) :
    (∃ p m, rule.matcher = .rule p ∧ p.matchPath path = some m ∧
        res = .redirect ⟨substitute address m.lookup, status⟩) ∨
      ∃ p m, rule.matcher = .regex p ∧ p.matchPath path = some m ∧
        res = .redirect ⟨substitute address m.lookup, status⟩ := by
  obtain ⟨matcher, target, option⟩ := rule
  cases htarget
  unfold Rule.outcome at h
  cases matcher with
  | rule p =>
    obtain ⟨m, hm, h⟩ := Option.bind_eq_some_iff.mp h
    simp only [resolveRule, Option.some.injEq] at h
    exact .inl ⟨p, m, rfl, hm, h.symm⟩
  | regex p =>
    obtain ⟨m, hm, h⟩ := Option.bind_eq_some_iff.mp h
    simp only [resolveRegex, Option.some.injEq] at h
    exact .inr ⟨p, m, rfl, hm, h.symm⟩

/-- **A redirect to an absolute address keeps its scheme and host, and reads its port as a
back-reference.** For every redirect rule, rule-syntax or regular-expression, at the top level
or in a group, whose address is `scheme://host:port/rest` with no token in the host and a port
of decimal digits, every request the rule resolves is sent to `scheme://host`, then the value
the port numbers among the match's values (nothing when there is none), then `/` and the rest
with its back-references substituted. -/
theorem Rule.redirect_location_of_port {rule : Rule} {scheme host port rest : String}
    {status : Nat} {path : String} {req : RouteRequest} {st : DispatchState} {res : MatchResult}
    (hscheme : scheme = "http" ∨ scheme = "https") (hhost : hasReference host.toList = false)
    (hport : port ≠ "") (hdigits : ∀ d ∈ port.toList, isDecimalDigit d = true)
    (htarget : rule.target = .redirect (scheme ++ "://" ++ host ++ ":" ++ port ++ "/" ++ rest) status)
    (h : rule.outcome path req st = some res) :
    ∃ lookup : Nat → Option String,
      ((∃ p m, rule.matcher = .rule p ∧ p.matchPath path = some m ∧ lookup = m.lookup) ∨
        ∃ p m, rule.matcher = .regex p ∧ p.matchPath path = some m ∧ lookup = m.lookup) ∧
      res = .redirect ⟨scheme ++ "://" ++ host ++ referenceValue lookup port.toList ++ "/" ++
        substitute rest lookup, status⟩ := by
  rcases Rule.outcome_redirect htarget h with ⟨p, m, hmatcher, hm, rfl⟩ | ⟨p, m, hmatcher, hm, rfl⟩
  · exact ⟨m.lookup, .inl ⟨p, m, hmatcher, hm, rfl⟩,
      by rw [substitute_authority _ hscheme hhost hport hdigits]⟩
  · exact ⟨m.lookup, .inr ⟨p, m, hmatcher, hm, rfl⟩,
      by rw [substitute_authority _ hscheme hhost hport hdigits]⟩

/-- The rule `old/:id` redirecting to `http://example.com:8080/new?id=:1`. -/
def portRedirectRule : Rule :=
  { matcher := .rule (RulePattern.parse "old/:id"),
    target := .redirect "http://example.com:8080/new?id=:1" defaultRedirectStatus,
    option := {} }

/-- The rule `old/:id` resolves `old/9` to `http://example.com`, the value numbered `8080`
(nothing), then `/new?id=` and the captured `9`. -/
theorem Rule.redirect_location_of_port_old :
    ∃ res, portRedirectRule.outcome "old/9" { path := "old/9" } ⟨OrderedMap.empty, none⟩ = some res ∧
      ∃ lookup : Nat → Option String,
        ((∃ p m, portRedirectRule.matcher = .rule p ∧ p.matchPath "old/9" = some m ∧
            lookup = m.lookup) ∨
          ∃ p m, portRedirectRule.matcher = .regex p ∧ p.matchPath "old/9" = some m ∧
            lookup = m.lookup) ∧
        res = .redirect ⟨"http" ++ "://" ++ "example.com" ++ referenceValue lookup "8080".toList ++
          "/" ++ substitute "new?id=:1" lookup, defaultRedirectStatus⟩ := by
  have hsome : (portRedirectRule.outcome "old/9" { path := "old/9" }
      ⟨OrderedMap.empty, none⟩).isSome = true := by
    decide +kernel
  obtain ⟨res, hres⟩ := Option.isSome_iff_exists.mp hsome
  have hdigits : ∀ d ∈ "8080".toList, isDecimalDigit d = true := by
    intro d hd
    simp only [show "8080".toList = ['8', '0', '8', '0'] from rfl, List.mem_cons,
      List.not_mem_nil, or_false] at hd
    rcases hd with rfl | rfl | rfl | rfl <;> decide +kernel
  exact ⟨res, hres, Rule.redirect_location_of_port (.inl rfl) (by decide +kernel) (by decide)
    hdigits rfl hres⟩

/-- The redirect a dispatch answered with, if it answered with one. -/
def redirectOf : Except DispatchError MatchResult → Option Redirect
  | .ok (.redirect rd) => some rd
  | _ => none

/-- **The port of an absolute redirect address is not kept.** The rule `old/:id` redirecting
to `http://example.com:8080/new?id=:1` sends `old/9` to `http://example.com/new?id=9`: the
token `:8080` numbers no captured value and is replaced by nothing. -/
theorem redirect_port_replaced :
    (({} : RouterBuilder).register "old/:id" (.address "http://example.com:8080/new?id=:1") "*"
        {}).toOption.map (fun b => redirectOf (b.build.1.dispatch { path := "old/9" })) =
      some (some ⟨"http://example.com/new?id=9", 301⟩) ∧
    ¬"http://example.com:8080/".toList <+: "http://example.com/new?id=9".toList := by
  decide +kernel

end RuleRouting
