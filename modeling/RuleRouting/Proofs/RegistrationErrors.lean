import RuleRouting.Proofs.Groups

/-!
# A registration fails before it writes

`RouterBuilder.register` makes every check before it touches the builder: a failed call gives
back no builder, so the caller keeps the one it had, and the error does not depend on what was
registered before. The checks come in a fixed order, and the error is the first that fails:

1. the method list parses;
2. a bracketed pattern `[scope]` has a group of children;
3. for a group, the scope is not empty once its `/` are trimmed, then each child in turn, each
   with the checks of a leaf;
4. for a leaf, the pattern is not empty, a delimited pattern reads as a regular expression,
   and the target compiles.

A call that passes writes one entry under one key, the pattern or the scope as written, once
under each method filter of the list, and changes nothing else.

* `firstFailure` — the first failure of checks made in order;
* `Rule.failureOf_compile`, `failureOf_compileChildren`, `RuleGroup.failureOf_compile`,
  `failureOf_compileRegistration` — each compile step fails with the first failure of its
  checks;
* `register_atomic` — **a registration fails with the first failing check, or writes its
  entry under each of its filters and nothing else**.
-/

namespace RuleRouting

/-! ## Failures -/

/-- The error of a computation that failed. -/
def failureOf {α : Type} : Except RoutingError α → Option RoutingError
  | .error e => some e
  | .ok _ => none

section Failure

variable {α β : Type}

@[simp] theorem failureOf_ok (a : α) : failureOf (.ok a : Except RoutingError α) = none := rfl

@[simp] theorem failureOf_error (e : RoutingError) :
    failureOf (.error e : Except RoutingError α) = some e := rfl

@[simp] theorem failureOf_pure (a : α) : failureOf (pure a : Except RoutingError α) = none := rfl

@[simp] theorem throw_eq_error (e : RoutingError) :
    (throw e : Except RoutingError α) = .error e := rfl

@[simp] theorem failureOf_map (f : α → β) (x : Except RoutingError α) :
    failureOf (f <$> x) = failureOf x := by
  cases x <;> rfl

theorem failureOf_bind (x : Except RoutingError α) (f : α → Except RoutingError β) :
    failureOf (x >>= f) = match x with
      | .error e => some e
      | .ok a => failureOf (f a) := by
  cases x <;> rfl

@[simp] theorem failureOf_error_bind (e : RoutingError) (f : α → Except RoutingError β) :
    failureOf (.error e >>= f) = some e := rfl

theorem failureOf_eq_some {x : Except RoutingError α} {e : RoutingError} :
    failureOf x = some e ↔ x = .error e := by
  cases x <;> simp

end Failure

/-- The first failure of checks made in order. -/
def firstFailure (checks : List (Option RoutingError)) : Option RoutingError :=
  checks.findSome? id

@[simp] theorem firstFailure_nil : firstFailure [] = none := rfl

@[simp] theorem firstFailure_cons (c : Option RoutingError) (cs : List (Option RoutingError)) :
    firstFailure (c :: cs) = c.or (firstFailure cs) := by
  cases c <;> rfl

/-! ## The checks of each compile step -/

/-- The checks of a leaf rule, in order: the pattern is not empty, a delimited pattern reads
as a regular expression (its flags and its body), and the target compiles. -/
def leafChecks (pattern : String) (spec : RouteSpec) : List (Option RoutingError) :=
  [if pattern.isEmpty then some .emptyPattern else none,
   if isDelimited pattern then failureOf (RegexPattern.parse pattern) else none,
   failureOf (Target.compile pattern spec)]

theorem Rule.failureOf_compile (pattern : String) (spec : RouteSpec) (option : RuleOption) :
    failureOf (Rule.compile pattern spec option) = firstFailure (leafChecks pattern spec) := by
  unfold Rule.compile leafChecks
  by_cases he : pattern.isEmpty
  · simp [he]
  · by_cases hd : isDelimited pattern
    · cases RegexPattern.parse pattern <;> simp [he, hd, failureOf_bind]
    · simp [he, hd]

/-- The failures of a group's children, each the first failure of its own checks. -/
def childFailures (children : List (String × RouteSpec)) : List (Option RoutingError) :=
  children.map fun c => firstFailure (leafChecks c.1 c.2)

theorem failureOf_compileChildren (children : List (String × RouteSpec)) :
    failureOf (compileChildren children) = firstFailure (childFailures children) := by
  induction children with
  | nil => rfl
  | cons c cs ih =>
    rw [compileChildren, failureOf_bind, childFailures, List.map_cons, firstFailure_cons,
      ← Rule.failureOf_compile c.1 c.2 {}, ← childFailures, ← ih]
    cases Rule.compile c.1 c.2 {} with
    | error e => rfl
    | ok r =>
      dsimp only
      rw [failureOf_bind]
      cases compileChildren cs <;> rfl

/-- The check of a group's scope: not empty once its `/` are trimmed. -/
def scopeCheck (scope : String) : Option RoutingError :=
  if (Text.trimChar scope '/').isEmpty then some .emptyPattern else none

theorem RuleGroup.failureOf_compile (scope : String) (children : List (String × RouteSpec))
    (option : RuleOption) :
    failureOf (RuleGroup.compile scope children option) =
      firstFailure (scopeCheck scope :: childFailures children) := by
  unfold RuleGroup.compile scopeCheck
  by_cases he : (Text.trimChar scope '/').isEmpty
  · simp [he]
  · simp only [he, if_false, Bool.false_eq_true, firstFailure_cons, Option.none_or]
    rw [← failureOf_compileChildren, failureOf_bind]
    cases compileChildren children <;> rfl

/-- The checks of a registration, in order: the method list parses; then, for a bracketed
pattern, its spec is a group, the scope and the children pass; for any other pattern, the
leaf checks. -/
def registrationChecks (pattern : String) (spec : RouteSpec) (methods : String) :
    List (Option RoutingError) :=
  (if (MethodFilter.parseList methods).isNone then some (.invalidMethod methods) else none) ::
    match bracketed pattern, spec with
    | some scope, .group children => scopeCheck scope :: childFailures children
    | some scope, _ => [some (.expectedGroup scope)]
    | none, _ => leafChecks pattern spec

theorem failureOf_compileRegistration (pattern : String) (spec : RouteSpec) (methods : String)
    (option : RuleOption) :
    failureOf (compileRegistration pattern spec methods option) =
      firstFailure (registrationChecks pattern spec methods) := by
  unfold compileRegistration registrationChecks
  cases MethodFilter.parseList methods with
  | none => simp [failureOf_bind]
  | some fs =>
    simp only [Option.isNone_some, Bool.false_eq_true, if_false, firstFailure_cons,
      Option.none_or]
    rcases bracketed pattern with _ | scope <;> cases spec <;>
      simp [Rule.failureOf_compile, RuleGroup.failureOf_compile]

theorem RouterBuilder.failureOf_register (b : RouterBuilder) (pattern : String) (spec : RouteSpec)
    (methods : String) (option : RuleOption) :
    failureOf (b.register pattern spec methods option) =
      failureOf (compileRegistration pattern spec methods option) := by
  unfold RouterBuilder.register
  cases compileRegistration pattern spec methods option <;> rfl

/-! ## What a registration writes -/

/-- The key a registration writes under: the scope of `[scope]` as written, or the pattern. -/
def registrationKey (pattern : String) : String :=
  (bracketed pattern).getD pattern

theorem registrationKey_of_ok {pattern : String} {spec : RouteSpec} {methods : String}
    {option : RuleOption} {filters : List MethodFilter} {key : String} {entry : Entry}
    (h : compileRegistration pattern spec methods option = .ok (filters, key, entry)) :
    key = registrationKey pattern := by
  rcases (compileRegistration_ok h).2 with ⟨-, -, hb, -⟩ | ⟨hb, rfl, -⟩ <;>
    simp [registrationKey, hb]

/-- **Registration is atomic.** A registration fails exactly with the first failing check of
`registrationChecks`, whatever the builder holds; a registration that passes writes one entry
under its key, in the order of the filter list, and leaves the separator, the URL map and the
domain rules as they were: the rules under each filter of the list gain the entry, and the
rules under every other filter stay. -/
theorem register_atomic (b : RouterBuilder) (pattern : String) (spec : RouteSpec)
    (methods : String) (option : RuleOption) :
    (∀ e, b.register pattern spec methods option = .error e ↔
        firstFailure (registrationChecks pattern spec methods) = some e) ∧
      ∀ b', b.register pattern spec methods option = .ok b' →
        ∃ filters entry, MethodFilter.parseList methods = some filters ∧
          b' = { b with
            rules := filters.foldl (fun t f => t.insert f (registrationKey pattern) entry) b.rules } ∧
          ∀ g, b'.rules.rulesUnder g = if g ∈ filters
            then (b.rules.rulesUnder g).insert (registrationKey pattern) entry
            else b.rules.rulesUnder g := by
  refine ⟨fun e => ?_, fun b' h => ?_⟩
  · rw [← failureOf_compileRegistration, ← b.failureOf_register, failureOf_eq_some]
  · obtain ⟨filters, key, entry, hc, rfl⟩ := RouterBuilder.register_ok h
    obtain rfl := registrationKey_of_ok hc
    exact ⟨filters, entry, (compileRegistration_ok hc).1, rfl,
      RuleTable.rulesUnder_foldl_insert filters b.rules _ entry⟩

end RuleRouting
