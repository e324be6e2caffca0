import RuleRouting.Config.Build
import RuleRouting.Proofs.RegistrationErrors

/-!
# What validating a configuration rules out

`DispatcherConfig.validate` checks the raw texts of a configuration, and building its router
reads them again through `RouterBuilder.register`. Every rule that passes validation is a
non-empty pattern without a group, or a group with non-empty child patterns and no pattern
(`RuleConfig.validate_ok`). Building such a configuration can still fail on what the texts say
(a regular expression or its flags, a method list, a redirect status: `RoutingError.IsContent`),
but of the errors about a rule's shape only two remain, and only where validation does not
look: a pattern written `[scope]`, which asks for a group, and a group scope made of `/` alone,
which is empty once trimmed. A configured target is never a group, so no rule is refused for
carrying children it may not have.

* `RouterBuilder.failureOf_register_pattern`, `RouterBuilder.failureOf_group_routes` — the
  errors of registering a non-empty pattern, or a group of non-empty routes;
* `RuleConfig.failureOf_registerRule` — the errors of registering one validated rule;
* `buildRouter_error_of_validate` — **building a validated configuration fails only with a
  content error, `expectedGroup` for a bracketed pattern, or `emptyPattern` for a scope of
  slashes**;
* `validate_admits_structural_errors` — both of these happen: the rule `[x]` and the group
  `/` pass validation and fail to build.
-/

namespace RuleRouting

/-- The errors about what a rule's texts say rather than about the rule's shape: a regular
expression or its flags, a method list, a redirect status. -/
def RoutingError.IsContent : RoutingError → Prop
  | .invalidRegex .. => True
  | .invalidRegexFlag .. => True
  | .invalidMethod _ => True
  | .invalidStatus .. => True
  | .emptyPattern => False
  | .expectedGroup _ => False
  | .unexpectedGroup _ => False

/-! ## Validated rules -/

theorem validateRoutes_ok {routes : List GroupRouteConfig} (h : validateRoutes routes = .ok ()) :
    ∀ route ∈ routes, route.pattern ≠ "" := by
  induction routes with
  | nil => simp
  | cons route routes ih =>
    unfold validateRoutes at h
    by_cases hempty : route.pattern.isEmpty
    · simp only [hempty, if_true] at h
      cases h
    · simp only [hempty, Bool.false_eq_true, if_false] at h
      obtain ⟨_, -, h⟩ := bind_eq_ok.mp h
      rintro r (_ | ⟨_, hr⟩)
      · simpa using hempty
      · exact ih h r hr

/-- **A validated rule is a non-empty pattern without a group, or a group of non-empty child
patterns without a pattern.** -/
theorem RuleConfig.validate_ok {r : RuleConfig} (h : r.validate = .ok ()) :
    (∃ p, r.pattern = some p ∧ r.group = none ∧ p ≠ "") ∨
      ∃ scope, r.pattern = none ∧ r.group = some scope ∧ ∀ route ∈ r.routes, route.pattern ≠ "" := by
  unfold RuleConfig.validate at h
  rcases hp : r.pattern with _ | p <;> rcases hg : r.group with _ | scope <;>
    simp only [hp, hg] at h
  · cases h
  · by_cases hempty : scope.isEmpty
    · simp only [hempty, if_true] at h
      cases h
    · by_cases hnone : r.routes.isEmpty
      · simp only [hempty, hnone, Bool.false_eq_true, if_false, if_true] at h
        cases h
      · simp only [hempty, hnone, Bool.false_eq_true, if_false] at h
        exact .inr ⟨scope, rfl, rfl, validateRoutes_ok h⟩
  · by_cases hempty : p.isEmpty
    · simp only [hempty, if_true] at h
      cases h
    · exact .inl ⟨p, rfl, rfl, by simpa using hempty⟩
  · cases h

theorem validateRules_ok {rules : List RuleConfig} (h : validateRules rules = .ok ()) :
    ∀ r ∈ rules, r.validate = .ok () := by
  induction rules with
  | nil => simp
  | cons r rules ih =>
    obtain ⟨_, hr, h⟩ := bind_eq_ok.mp h
    rintro r' (_ | ⟨_, hr'⟩)
    · exact hr
    · exact ih h r' hr'

theorem DispatcherConfig.validateRules_of_validate {c : DispatcherConfig}
    (h : c.validate = .ok ()) : validateRules c.rules = .ok () := by
  unfold DispatcherConfig.validate at h
  obtain ⟨_, -, h⟩ := bind_eq_ok.mp h
  obtain ⟨_, -, h⟩ := bind_eq_ok.mp h
  by_cases hmap : c.urlMap.keys.any (·.isEmpty)
  · simp only [hmap, if_true] at h
    cases h
  · by_cases hdomains : c.domains.any (·.pattern.isEmpty)
    · simp only [hmap, hdomains, Bool.false_eq_true, if_false, if_true] at h
      cases h
    · simpa only [hmap, hdomains, Bool.false_eq_true, if_false] using h

/-! ## The errors of one registration -/

theorem mem_of_firstFailure {checks : List (Option RoutingError)} {e : RoutingError}
    (h : firstFailure checks = some e) : some e ∈ checks := by
  obtain ⟨c, hc, rfl⟩ := List.exists_of_findSome?_eq_some h
  exact hc

/-- Reading a delimited pattern fails only on its flags or its regular expression. -/
theorem RegexPattern.failureOf_parse {pattern : String} {e : RoutingError}
    (h : failureOf (RegexPattern.parse pattern) = some e) : e.IsContent := by
  have hparse := failureOf_eq_some.mp h
  unfold RegexPattern.parse at hparse
  by_cases hd : isDelimited pattern
  · simp only [hd, Bool.not_true, Bool.false_eq_true, if_false] at hparse
    generalize splitAtLastSlash pattern.toList = parts at hparse
    obtain ⟨front, flagChars⟩ := parts
    cases hflags : applyPatternFlags {} flagChars with
    | error c =>
      rw [hflags] at hparse
      cases hparse
      trivial
    | ok flags =>
      rw [hflags] at hparse
      dsimp only at hparse
      cases hcompile : Regex.compile (String.ofList (unescapeSlashes (front.drop 1))) flags with
      | error err =>
        rw [hcompile] at hparse
        cases hparse
        trivial
      | ok regex =>
        rw [hcompile] at hparse
        cases hparse
  · simp only [hd, Bool.not_false, if_true] at hparse
    cases hparse
    trivial

/-- An address alone always compiles. -/
theorem Target.failureOf_compile_address (pattern a : String) :
    failureOf (Target.compile pattern (.address a)) = none := by
  simp only [Target.compile]
  split <;> rfl

/-- An address with extra text fails only as a redirect whose status is no 3xx code. -/
theorem Target.failureOf_compile_withExtra {pattern a extra : String} {e : RoutingError}
    (h : failureOf (Target.compile pattern (.withExtra a extra)) = some e) :
    e = .invalidStatus a extra := by
  simp only [Target.compile] at h
  split at h
  · split at h
    · split at h
      · cases h
      · cases h
        rfl
    · cases h
      rfl
  · cases h

/-- A configured target compiles, or fails on its redirect status. -/
theorem TargetConfig.failureOf_compile (t : TargetConfig) {pattern : String} {e : RoutingError}
    (h : failureOf (Target.compile pattern t.spec) = some e) : e.IsContent := by
  unfold TargetConfig.spec at h
  split at h
  · rw [Target.failureOf_compile_withExtra h]
    trivial
  · rw [Target.failureOf_compile_withExtra h]
    trivial
  · rw [Target.failureOf_compile_address] at h
    cases h

theorem TargetConfig.spec_ne_group (t : TargetConfig) (children : List (String × RouteSpec)) :
    t.spec ≠ .group children := by
  unfold TargetConfig.spec
  split <;> simp

/-- A leaf with a non-empty pattern and a configured target fails only on content. -/
theorem leafChecks_isContent {pattern : String} (hpattern : pattern ≠ "") (t : TargetConfig)
    {e : RoutingError} (h : some e ∈ leafChecks pattern t.spec) : e.IsContent := by
  simp only [leafChecks, List.mem_cons, List.not_mem_nil, or_false] at h
  rcases h with hempty | hregex | htarget
  · split at hempty
    · rename_i hp
      exact absurd (String.isEmpty_iff.mp hp) hpattern
    · cases hempty
  · split at hregex
    · exact RegexPattern.failureOf_parse hregex.symm
    · cases hregex
  · exact t.failureOf_compile htarget.symm

/-- The text between the brackets of a bracketed pattern is its scope. -/
theorem eq_brackets_of_bracketed {pattern scope : String} (h : bracketed pattern = some scope) :
    pattern = "[" ++ scope ++ "]" := by
  unfold bracketed at h
  split at h
  · rename_i rest hrest
    split at h
    · rename_i inner hinner
      cases h
      rw [← String.toList_inj, hrest]
      have : rest = (']' :: inner).reverse := by rw [← hinner, List.reverse_reverse]
      simp [this]
    · cases h
  · cases h

/-- The first check of a registration fails only on the method list. -/
theorem methodCheck_isContent {methods : String} {e : RoutingError}
    (h : (if (MethodFilter.parseList methods).isNone then some (.invalidMethod methods) else none) =
      some e) : e.IsContent := by
  split at h
  · cases h
    trivial
  · cases h

/-- Registering a non-empty pattern with a configured target fails on content, or asks for a
group when the pattern is bracketed. -/
theorem RouterBuilder.failureOf_register_pattern (b : RouterBuilder) {pattern : String}
    (hpattern : pattern ≠ "") (t : TargetConfig) (methods : String) (option : RuleOption)
    {e : RoutingError} (h : failureOf (b.register pattern t.spec methods option) = some e) :
    e.IsContent ∨ ∃ scope, e = .expectedGroup scope ∧ pattern = "[" ++ scope ++ "]" := by
  rw [RouterBuilder.failureOf_register, failureOf_compileRegistration] at h
  have hmem := mem_of_firstFailure h
  simp only [registrationChecks, List.mem_cons] at hmem
  rcases hmem with hmethods | hmem
  · exact .inl (methodCheck_isContent hmethods.symm)
  · rcases hb : bracketed pattern with _ | scope <;> simp only [hb] at hmem
    · exact .inl (leafChecks_isContent hpattern t hmem)
    · cases hspec : t.spec with
      | group children => exact absurd hspec (t.spec_ne_group children)
      | _ =>
        simp only [hspec, List.mem_singleton, Option.some.injEq] at hmem
        exact .inr ⟨scope, hmem, eq_brackets_of_bracketed hb⟩

/-- Registering a group of configured routes with non-empty patterns fails on content, or on a
scope that is empty once its `/` are trimmed. -/
theorem RouterBuilder.failureOf_group_routes (b : RouterBuilder) (scope : String)
    {routes : List GroupRouteConfig} (hroutes : ∀ route ∈ routes, route.pattern ≠ "")
    (methods : String) (option : RuleOption) {e : RoutingError}
    (h : failureOf (b.group scope (routes.map fun route => (route.pattern, route.target.spec))
      methods option) = some e) :
    e.IsContent ∨ (e = .emptyPattern ∧ Text.trimChar scope '/' = "") := by
  rw [RouterBuilder.group, RouterBuilder.failureOf_register, failureOf_compileRegistration] at h
  have hmem := mem_of_firstFailure h
  simp only [registrationChecks, bracketed_brackets, List.mem_cons] at hmem
  rcases hmem with hmethods | hscope | hchild
  · exact .inl (methodCheck_isContent hmethods.symm)
  · unfold scopeCheck at hscope
    split at hscope
    · rename_i hempty
      cases hscope
      exact .inr ⟨rfl, String.isEmpty_iff.mp hempty⟩
    · cases hscope
  · obtain ⟨child, hchild, hfirst⟩ := List.mem_map.mp hchild
    obtain ⟨route, hroute, rfl⟩ := List.mem_map.mp hchild
    exact .inl (leafChecks_isContent (hroutes route hroute) route.target
      (mem_of_firstFailure hfirst))

/-- **The errors of registering a validated rule.** A pattern fails on content, or asks for a
group when it is bracketed; a group fails on content, or has a scope of slashes. -/
theorem RuleConfig.failureOf_registerRule {r : RuleConfig} (hr : r.validate = .ok ())
    (b : RouterBuilder) {e : RoutingError} (h : failureOf (registerRule b r) = some e) :
    e.IsContent ∨
      (∃ scope, e = .expectedGroup scope ∧ r.group = none ∧ r.pattern = some ("[" ++ scope ++ "]")) ∨
      (e = .emptyPattern ∧ ∃ scope, r.group = some scope ∧ Text.trimChar scope '/' = "") := by
  rcases RuleConfig.validate_ok hr with ⟨p, hp, hg, hne⟩ | ⟨scope, hp, hg, hroutes⟩
  · have hreg : registerRule b r = b.register p r.target.spec r.methods r.option.toRuleOption := by
      simp [registerRule, hp, hg]
    rw [hreg] at h
    rcases b.failureOf_register_pattern hne r.target r.methods _ h with
      hcontent | ⟨scope, rfl, hbrackets⟩
    · exact .inl hcontent
    · exact .inr (.inl ⟨scope, rfl, hg, by rw [hp, hbrackets]⟩)
  · have hreg : registerRule b r = b.group scope
        (r.routes.map fun route => (route.pattern, route.target.spec)) r.methods
        r.option.toRuleOption := by
      simp [registerRule, hg]
    rw [hreg] at h
    rcases b.failureOf_group_routes scope hroutes r.methods _ h with hcontent | ⟨rfl, hscope⟩
    · exact .inl hcontent
    · exact .inr (.inr ⟨rfl, scope, hg, hscope⟩)

/-! ## Building a validated configuration -/

/-- Registering rules in order fails with the error of one of them. -/
theorem failureOf_registerRules {b : RouterBuilder} {rules : List RuleConfig} {e : RoutingError}
    (h : failureOf (registerRules b rules) = some e) :
    ∃ r ∈ rules, ∃ b', failureOf (registerRule b' r) = some e := by
  induction rules generalizing b with
  | nil => cases h
  | cons r rules ih =>
    rw [registerRules, failureOf_bind] at h
    cases hr : registerRule b r with
    | error e' =>
      rw [hr] at h
      exact ⟨r, List.mem_cons_self, b, by rw [hr]; exact h⟩
    | ok b₁ =>
      rw [hr] at h
      obtain ⟨r', hr', b', h'⟩ := ih h
      exact ⟨r', List.mem_cons_of_mem _ hr', b', h'⟩

/-- **Validation leaves two errors about a rule's shape.** Building the router of a validated
configuration fails only on what a rule's texts say (a regular expression or its flags, a
method list, a redirect status), with `expectedGroup` at a rule whose pattern is written
`[scope]`, or with `emptyPattern` at a group whose scope is made of `/` alone; never with
`unexpectedGroup`. -/
theorem buildRouter_error_of_validate {c : DispatcherConfig} (hvalid : c.validate = .ok ())
    {e : RoutingError} (h : c.buildRouter = .error e) :
    e.IsContent ∨
      (∃ scope, e = .expectedGroup scope ∧
        ∃ r ∈ c.rules, r.group = none ∧ r.pattern = some ("[" ++ scope ++ "]")) ∨
      (e = .emptyPattern ∧ ∃ r ∈ c.rules, ∃ scope, r.group = some scope ∧
        Text.trimChar scope '/' = "") := by
  have hrules : failureOf (registerRules ((c.domains.foldl (fun b d => b.domain d.pattern d.target)
      (c.urlMap.entries.foldl (fun b e => b.map e.1 e.2)
        (({} : RouterBuilder).withSeparator c.pathSeparator)))) c.rules) = some e := by
    rw [← failureOf_map RouterBuilder.build]
    exact failureOf_eq_some.mpr h
  obtain ⟨r, hr, b, hfail⟩ := failureOf_registerRules hrules
  have hvalidRule := validateRules_ok (DispatcherConfig.validateRules_of_validate hvalid) r hr
  rcases RuleConfig.failureOf_registerRule hvalidRule b hfail with
    hcontent | ⟨scope, rfl, hg, hp⟩ | ⟨rfl, scope, hg, hscope⟩
  · exact .inl hcontent
  · exact .inr (.inl ⟨scope, rfl, r, hr, hg, hp⟩)
  · exact .inr (.inr ⟨rfl, r, hr, scope, hg, hscope⟩)

/-- A configuration with listeners on ports 3000 and 3001 and the given rules. -/
def configWithRules (rules : List RuleConfig) : DispatcherConfig :=
  { listener := ⟨"0.0.0.0", 3000⟩, adminListener := ⟨"127.0.0.1", 3001⟩, rules }

/-- The leaf `[x]` with the route `A/b`. -/
def bracketedLeafConfig : DispatcherConfig :=
  configWithRules [{ pattern := some "[x]", target := { route := some "A/b" } }]

/-- The group `/` with the child `a` routed to `A/b`. -/
def slashGroupConfig : DispatcherConfig :=
  configWithRules [{ group := some "/", routes := [⟨"a", { route := some "A/b" }⟩] }]

/-- The bracketed leaf passes validation and asks for a group. -/
theorem buildRouter_error_of_validate_bracketed :
    ∃ e, bracketedLeafConfig.buildRouter = .error e ∧
      (e.IsContent ∨
        (∃ scope, e = .expectedGroup scope ∧ ∃ r ∈ bracketedLeafConfig.rules, r.group = none ∧
          r.pattern = some ("[" ++ scope ++ "]")) ∨
        (e = .emptyPattern ∧ ∃ r ∈ bracketedLeafConfig.rules, ∃ scope, r.group = some scope ∧
          Text.trimChar scope '/' = "")) := by
  have hfail : (failureOf bracketedLeafConfig.buildRouter).isSome = true := by decide +kernel
  obtain ⟨e, he⟩ := Option.isSome_iff_exists.mp hfail
  have hbuild := failureOf_eq_some.mp he
  exact ⟨e, hbuild, buildRouter_error_of_validate (by decide +kernel) hbuild⟩

/-- **Validation does not rule out every error about a rule's shape.** The leaf `[x]` and the
group `/` pass validation; building the first asks for a group, and the second has an empty
scope once its `/` are trimmed. -/
theorem validate_admits_structural_errors :
    bracketedLeafConfig.validate = .ok () ∧
      (failureOf bracketedLeafConfig.buildRouter).map RoutingError.kind = some "ExpectedGroup" ∧
    slashGroupConfig.validate = .ok () ∧
      (failureOf slashGroupConfig.buildRouter).map RoutingError.kind = some "EmptyPattern" := by
  decide +kernel

end RuleRouting
