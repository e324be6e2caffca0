import RuleRouting.Proofs.Walk
import RuleRouting.Proofs.OrderedMap

/-!
# Which rule wins, read off the registrations

A router is built by a sequence of builder calls (`BuilderStep`). `Registrations` keeps what
they declared as plain logs in call order, and `Registrations.walkOrder` reads the rule walk
for a method off the log:

* the keys registered under the method, in the order of their first registration, each with
  its latest definition;
* then the keys registered for every method and never under this one, in the same way.

`Registrations.dispatch` is dispatch as the log declares it: a domain handler that does not
pass finishes the request; otherwise a URL-map hit is resolved; otherwise the first entry of
the walk order whose options accept the request and that gives an outcome wins: a leaf when
its pattern matches the path and it does not pass, a group with the first outcome of its
children on the path below its scope.

Main statements:

* `run_builds` — a successful run of builder calls builds the builder its log describes;
* `candidates_eq_walkOrder` — the rule table tries exactly the walk order;
* `Registrations.findSome?_walkOrder` — an entry written for every method is what the walk
  gives when no entry tried before it gives an outcome;
* `Rule.compile_ok`, `RuleGroup.compile_ok`, `compileRegistration_ok` — what a successful
  compile of a rule, a group and a registration built; a group's children keep the default
  options, so the walk never skips one;
* `dispatch_eq_registered` — a router built by successful calls dispatches every request
  without a deadline as the log says.
-/

namespace RuleRouting

/-! ## Builder calls and their log -/

/-- One call on a router builder. The wrappers `any`, `get`, `post`, `put` and `delete` are
registrations with a fixed method list and default options; `group` is a registration of a
bracketed pattern. -/
inductive BuilderStep where
  | separator (c : Char)
  | map (path address : String)
  | domain (pattern : String) (target : DomainTarget)
  | register (pattern : String) (spec : RouteSpec) (methods : String) (option : RuleOption)

namespace RouterBuilder

/-- Applies one call. -/
def step (b : RouterBuilder) : BuilderStep → Except RoutingError RouterBuilder
  | .separator c => .ok (b.withSeparator c)
  | .map path address => .ok (b.map path address)
  | .domain pattern target => .ok (b.domain pattern target)
  | .register pattern spec methods option => b.register pattern spec methods option

/-- Applies calls in order, stopping at the first that fails. -/
def run (b : RouterBuilder) : List BuilderStep → Except RoutingError RouterBuilder
  | [] => .ok b
  | s :: ss => (b.step s).bind fun b' => b'.run ss

end RouterBuilder

/-- One write of the rule table: a method filter, a key and an entry. -/
abbrev RuleWrite := MethodFilter × String × Entry

/-- Performs one write. -/
def RuleTable.write (t : RuleTable) (w : RuleWrite) : RuleTable :=
  t.insert w.1 w.2.1 w.2.2

/-- The (key, entry) pairs written under one filter, in write order. -/
def writesUnder (ws : List RuleWrite) (f : MethodFilter) : List (String × Entry) :=
  ws.filterMap fun w => if w.1 = f then some w.2 else none

/-- What builder calls declared, as logs in call order. -/
structure Registrations where
  separator : Char := '/'
  /-- URL-map entries, each path normalized with the separator in force at its call. -/
  mapped : List (String × String) := []
  domainRules : List (String × DomainTarget) := []
  writes : List RuleWrite := []

namespace Registrations

/-- Logs one call; a registration that does not compile declares nothing. -/
def record (reg : Registrations) : BuilderStep → Registrations
  | .separator c => { reg with separator := c }
  | .map path address =>
    { reg with mapped := reg.mapped ++ [(normalizePath path reg.separator, address)] }
  | .domain pattern target => { reg with domainRules := reg.domainRules ++ [(pattern, target)] }
  | .register pattern spec methods option =>
    match compileRegistration pattern spec methods option with
    | .ok (filters, key, entry) =>
      { reg with writes := reg.writes ++ filters.map fun f => (f, key, entry) }
    | .error _ => reg

/-- The log of a sequence of calls on a new builder. -/
def ofSteps (steps : List BuilderStep) : Registrations :=
  steps.foldl record {}

/-- The builder holding what the log declared. -/
def builder (reg : Registrations) : RouterBuilder :=
  { separator := reg.separator, urlMap := OrderedMap.ofList reg.mapped,
    domains := ⟨OrderedMap.ofList reg.domainRules⟩,
    rules := reg.writes.foldl RuleTable.write {} }

/-- The rule walk for a method: the keys registered under it, then the keys registered for
every method and never under it; each key at its first registration, with its latest
entry. -/
def walkOrder (reg : Registrations) (m : Method) : List Entry :=
  let own := writesUnder reg.writes (.only m)
  (latestByFirstArrival own).map (·.2) ++
    ((latestByFirstArrival (writesUnder reg.writes .any)).filter
      fun e => e.1 ∉ own.map (·.1)).map (·.2)

end Registrations

/-- What an entry gives on a path: a leaf its own outcome, a group the first outcome of its
children on the path below its scope. -/
def Entry.declaredOutcome (path : String) (req : RouteRequest) (st : DispatchState) :
    Entry → Option MatchResult
  | .rule r => r.outcome path req st
  | .group g => (g.below path).bind fun rest => g.children.findSome? (·.outcome rest req st)

/-- Dispatch as the log declares it, for a request without a deadline. -/
def Registrations.dispatch (reg : Registrations) (req : RouteRequest) : MatchResult :=
  match (DomainTable.mk (OrderedMap.ofList reg.domainRules)).stage req with
  | (some result, _) => result
  | (none, st) =>
    let path := normalizePath req.path reg.separator
    match reg.mapped.reverse.lookup path with
    | some address => .resolved (resolveMapped address st)
    | none =>
      ((reg.walkOrder req.method).findSome? fun e =>
          if e.option.allows req then e.declaredOutcome path req st else none).getD
        (.noMatch st.boundModule st.query)

/-! ## A successful run builds its log -/

theorem bind_eq_ok {ε α β : Type} {x : Except ε α} {f : α → Except ε β} {b : β} :
    x.bind f = .ok b ↔ ∃ a, x = .ok a ∧ f a = .ok b := by
  cases x <;> simp [Except.bind]

theorem map_eq_ok {ε α β : Type} {x : Except ε α} {f : α → β} {b : β} :
    f <$> x = .ok b ↔ ∃ a, x = .ok a ∧ f a = b := by
  cases x <;> simp [Functor.map, Except.map]

/-- A run that gives a value succeeded with it. -/
theorem exists_eq_ok_of_isSome {ε α : Type} {x : Except ε α} (h : x.toOption.isSome = true) :
    ∃ a, x = .ok a := by
  cases x with
  | error e => cases h
  | ok a => exact ⟨a, rfl⟩

namespace RouterBuilder

@[simp] theorem build_separator (b : RouterBuilder) : b.build.1.separator = b.separator := rfl
@[simp] theorem build_urlMap (b : RouterBuilder) : b.build.1.urlMap = b.urlMap := rfl
@[simp] theorem build_domains (b : RouterBuilder) : b.build.1.domains = b.domains := rfl
@[simp] theorem build_rules (b : RouterBuilder) : b.build.1.rules = b.rules := rfl

end RouterBuilder

/-- A successful registration writes its compiled entry under each of its filters. -/
theorem RouterBuilder.register_ok {b b' : RouterBuilder} {pattern : String} {spec : RouteSpec}
    {methods : String} {option : RuleOption} (h : b.register pattern spec methods option = .ok b') :
    ∃ filters key entry,
      compileRegistration pattern spec methods option = .ok (filters, key, entry) ∧
        b' = { b with rules := filters.foldl (fun t f => t.insert f key entry) b.rules } := by
  obtain ⟨⟨filters, key, entry⟩, hc, h⟩ := bind_eq_ok.mp h
  cases h
  exact ⟨filters, key, entry, hc, rfl⟩

theorem builder_step {reg : Registrations} {s : BuilderStep} {b : RouterBuilder}
    (h : reg.builder.step s = .ok b) : b = (reg.record s).builder := by
  cases s with
  | separator c => cases h; rfl
  | map path address =>
    cases h
    simp [Registrations.builder, Registrations.record, RouterBuilder.map,
      OrderedMap.ofList_append_singleton]
  | domain pattern target =>
    cases h
    simp [Registrations.builder, Registrations.record, RouterBuilder.domain, DomainTable.insert,
      OrderedMap.ofList_append_singleton]
  | register pattern spec methods option =>
    obtain ⟨filters, key, entry, hc, rfl⟩ := RouterBuilder.register_ok h
    simp [Registrations.builder, Registrations.record, hc, List.foldl_append, List.foldl_map,
      RuleTable.write]

theorem builder_run {reg : Registrations} {steps : List BuilderStep} {b : RouterBuilder}
    (h : reg.builder.run steps = .ok b) : b = (steps.foldl Registrations.record reg).builder := by
  induction steps generalizing reg with
  | nil => cases h; rfl
  | cons s ss ih =>
    obtain ⟨b', hs, h⟩ := bind_eq_ok.mp h
    rw [builder_step hs] at h
    exact ih h

/-- A successful run of calls on a new builder builds the builder its log describes. -/
theorem run_builds {steps : List BuilderStep} {b : RouterBuilder}
    (h : RouterBuilder.run {} steps = .ok b) : b = (Registrations.ofSteps steps).builder :=
  builder_run (show ({} : Registrations).builder.run steps = .ok b from h)

theorem RouterBuilder.run_append_of_ok {b b' : RouterBuilder} {s₁ : List BuilderStep}
    (h : b.run s₁ = .ok b') (s₂ : List BuilderStep) : b.run (s₁ ++ s₂) = b'.run s₂ := by
  induction s₁ generalizing b with
  | nil =>
    cases h
    rfl
  | cons s ss ih =>
    obtain ⟨b₁, h₁, h⟩ := bind_eq_ok.mp h
    show (b.step s).bind (fun b' => b'.run (ss ++ s₂)) = _
    rw [h₁]
    exact ih h

/-- Builder calls that cannot fail, such as URL-map entries and domain rules, run as the fold of
what each does. -/
theorem RouterBuilder.run_map_of_step {α : Type} (f : α → BuilderStep)
    (g : RouterBuilder → α → RouterBuilder) (hstep : ∀ (b : RouterBuilder) x, b.step (f x) = .ok (g b x))
    (xs : List α) (b : RouterBuilder) : b.run (xs.map f) = .ok (xs.foldl g b) := by
  induction xs generalizing b with
  | nil => rfl
  | cons x xs ih =>
    show (b.step (f x)).bind (fun b' => b'.run (xs.map f)) = _
    rw [hstep]
    exact ih _

/-! ## The rule table reads the log -/

theorem writesUnder_append_singleton (ws : List RuleWrite) (w : RuleWrite) (f : MethodFilter) :
    writesUnder (ws ++ [w]) f = writesUnder ws f ++ if w.1 = f then [w.2] else [] := by
  by_cases hf : w.1 = f <;> simp [writesUnder, hf]

theorem mem_writesUnder {ws : List RuleWrite} {f : MethodFilter} {p : String × Entry}
    (h : p ∈ writesUnder ws f) : (f, p) ∈ ws := by
  obtain ⟨⟨f', p'⟩, hw, h⟩ := List.mem_filterMap.mp h
  simp only [Option.ite_none_right_eq_some, Option.some.injEq] at h
  obtain ⟨rfl, rfl⟩ := h
  exact hw

/-- The table for every method holds the writes for every method, collected. -/
theorem anyMethod_foldl_write (ws : List RuleWrite) :
    (ws.foldl RuleTable.write {}).anyMethod = OrderedMap.ofList (writesUnder ws .any) := by
  induction ws using List.reverseRecOn with
  | nil => rfl
  | append_singleton ws w ih =>
    obtain ⟨f, k, e⟩ := w
    rw [List.foldl_append, writesUnder_append_singleton]
    cases f with
    | any => simp [RuleTable.write, RuleTable.insert, ih, OrderedMap.ofList_append_singleton]
    | only m => simp [RuleTable.write, RuleTable.insert, ih]

/-- Methods are told apart by their names. -/
theorem Method.name_ne {m m' : Method} (h : m ≠ m') : m.name ≠ m'.name :=
  fun hn => h (congrArg Method.mk hn)

/-- A method has a table once something was written under it, and it holds those writes,
collected. -/
theorem byMethod_foldl_write (ws : List RuleWrite) (m : Method) :
    (ws.foldl RuleTable.write {}).byMethod.get? m.name =
      if writesUnder ws (.only m) = [] then none
      else some (OrderedMap.ofList (writesUnder ws (.only m))) := by
  induction ws using List.reverseRecOn with
  | nil => rfl
  | append_singleton ws w ih =>
    obtain ⟨f, k, e⟩ := w
    rw [List.foldl_append, writesUnder_append_singleton]
    cases f with
    | any => simpa [RuleTable.write, RuleTable.insert] using ih
    | only m' =>
      simp only [List.foldl_cons, List.foldl_nil, RuleTable.write, RuleTable.insert,
        OrderedMap.get?_insert]
      by_cases hm : m' = m
      · subst hm
        have hrules : ((ws.foldl RuleTable.write {}).byMethod.get? m'.name).getD
            OrderedMap.empty = OrderedMap.ofList (writesUnder ws (.only m')) := by
          rw [ih]
          split
          · rename_i hnil
            rw [hnil]
            rfl
          · rfl
        simp [hrules, OrderedMap.ofList_append_singleton]
      · simp [Method.name_ne (Ne.symm hm), hm, ih]

/-- **The rule table tries exactly the walk order of the log.** -/
theorem candidates_eq_walkOrder (reg : Registrations) (m : Method) :
    reg.builder.rules.candidates m = reg.walkOrder m := by
  simp only [Registrations.builder, RuleTable.candidates, byMethod_foldl_write,
    anyMethod_foldl_write, Registrations.walkOrder]
  by_cases hown : writesUnder reg.writes (.only m) = []
  · simp [hown, OrderedMap.values_ofList, latestByFirstArrival]
  · have hshadow : ∀ e ∈ latestByFirstArrival (writesUnder reg.writes .any),
        (!(OrderedMap.ofList (writesUnder reg.writes (.only m))).contains e.1) =
          decide (e.1 ∉ (writesUnder reg.writes (.only m)).map (·.1)) := by
      intro e _
      simp [← OrderedMap.contains_ofList]
    simp only [hown, if_false, OrderedMap.values_ofList, OrderedMap.entries_ofList,
      List.filter_congr hshadow]

/-! ## Group children keep the default options

Children are compiled with default options, which accept every request; so the walk's check of
a child's options never skips one, and the log's outcome of a group need not mention them. -/

/-- Default options accept every request. -/
@[simp] theorem RuleOption.allows_default (req : RouteRequest) : ({} : RuleOption).allows req := by
  simp [RuleOption.allows]

/-- What a successful leaf compile built: a matcher, rule syntax unless the pattern is
delimited, the compiled target, and the given options. -/
theorem Rule.compile_ok {pattern : String} {spec : RouteSpec} {option : RuleOption} {r : Rule}
    (h : Rule.compile pattern spec option = .ok r) :
    ∃ matcher t, Target.compile pattern spec = .ok t ∧ r = ⟨matcher, t, option⟩ ∧
      (isDelimited pattern = false → matcher = .rule (RulePattern.parse pattern)) := by
  simp only [Rule.compile] at h
  by_cases he : pattern.isEmpty
  · simp [he] at h
    cases h
  · by_cases hd : isDelimited pattern
    · simp [he, hd] at h
      obtain ⟨p, -, h⟩ := bind_eq_ok.mp h
      obtain ⟨t, ht, rfl⟩ := map_eq_ok.mp h
      exact ⟨_, t, ht, rfl, fun hd' => by simp [hd] at hd'⟩
    · simp [he, hd] at h
      obtain ⟨t, ht, rfl⟩ := map_eq_ok.mp h
      exact ⟨_, t, ht, rfl, fun _ => rfl⟩

/-- What a successful group compile built: the trimmed, non-empty scope, the given options and
the compiled children. -/
theorem RuleGroup.compile_ok {scope : String} {children : List (String × RouteSpec)}
    {option : RuleOption} {g : RuleGroup} (h : RuleGroup.compile scope children option = .ok g) :
    g.scope = Text.trimChar scope '/' ∧ g.scope ≠ "" ∧ g.option = option ∧
      compileChildren children = .ok g.children := by
  simp only [RuleGroup.compile] at h
  by_cases he : (Text.trimChar scope '/').isEmpty
  · simp [he] at h
    cases h
  · simp only [he] at h
    obtain ⟨rs, hrs, h⟩ := bind_eq_ok.mp h
    cases h
    exact ⟨rfl, fun h => he (String.isEmpty_iff.mpr h), rfl, hrs⟩

theorem compileChildren_option {children : List (String × RouteSpec)} {rs : List Rule}
    (h : compileChildren children = .ok rs) : ∀ c ∈ rs, c.option = {} := by
  induction children generalizing rs with
  | nil => cases h; simp
  | cons child rest ih =>
    obtain ⟨r, hr, h⟩ := bind_eq_ok.mp h
    obtain ⟨rs', hrs, h⟩ := bind_eq_ok.mp h
    cases h
    rintro c (_ | ⟨_, hc⟩)
    · obtain ⟨_, _, -, rfl, -⟩ := Rule.compile_ok hr
      rfl
    · exact ih hrs c hc

/-- A group entry whose children all have the default options. -/
def Entry.PlainChildren : Entry → Prop
  | .rule _ => True
  | .group g => ∀ c ∈ g.children, c.option = {}

/-- What a successful registration compiled: its method filters, and either a group under the
bracketed scope or a leaf rule under the pattern. -/
theorem compileRegistration_ok {pattern : String} {spec : RouteSpec} {methods : String}
    {option : RuleOption} {filters : List MethodFilter} {key : String} {entry : Entry}
    (h : compileRegistration pattern spec methods option = .ok (filters, key, entry)) :
    MethodFilter.parseList methods = some filters ∧
      ((∃ children g, bracketed pattern = some key ∧ spec = .group children ∧
          RuleGroup.compile key children option = .ok g ∧ entry = .group g) ∨
        (bracketed pattern = none ∧ key = pattern ∧
          ∃ r, Rule.compile pattern spec option = .ok r ∧ entry = .rule r)) := by
  unfold compileRegistration at h
  cases hf : MethodFilter.parseList methods with
  | none => simp [hf] at h; cases h
  | some fs =>
    simp only [hf] at h
    split at h
    · rename_i scope children hb
      simp only [bind, Except.bind, pure, Except.pure] at h
      split at h
      · cases h
      · rename_i g hg
        simp only [Except.ok.injEq, Prod.mk.injEq] at h
        obtain ⟨rfl, rfl, rfl⟩ := h
        exact ⟨rfl, .inl ⟨children, g, hb, rfl, hg, rfl⟩⟩
    · cases h
    · rename_i hb
      simp only [bind, Except.bind, pure, Except.pure] at h
      split at h
      · cases h
      · rename_i r hr
        simp only [Except.ok.injEq, Prod.mk.injEq] at h
        obtain ⟨rfl, rfl, rfl⟩ := h
        exact ⟨rfl, .inr ⟨hb, rfl, r, hr, rfl⟩⟩

theorem compileRegistration_plainChildren {pattern : String} {spec : RouteSpec}
    {methods : String} {option : RuleOption} {filters : List MethodFilter} {key : String}
    {entry : Entry} (h : compileRegistration pattern spec methods option = .ok (filters, key, entry)) :
    entry.PlainChildren := by
  rcases (compileRegistration_ok h).2 with ⟨children, g, -, -, hg, rfl⟩ | ⟨-, -, r, -, rfl⟩
  · exact compileChildren_option (RuleGroup.compile_ok hg).2.2.2
  · trivial

/-- Every entry the log wrote has children with the default options. -/
def Registrations.Compiled (reg : Registrations) : Prop :=
  ∀ w ∈ reg.writes, w.2.2.PlainChildren

theorem Registrations.Compiled.record {reg : Registrations} (h : reg.Compiled) (s : BuilderStep) :
    (reg.record s).Compiled := by
  cases s with
  | register pattern spec methods option =>
    simp only [Registrations.record]
    split
    · rename_i filters key entry hc
      intro w hw
      rcases List.mem_append.mp hw with hw | hw
      · exact h w hw
      · obtain ⟨f, -, rfl⟩ := List.mem_map.mp hw
        exact compileRegistration_plainChildren hc
    · exact h
  | separator c => exact h
  | map path address => exact h
  | domain pattern target => exact h

theorem Registrations.ofSteps_compiled (steps : List BuilderStep) :
    (Registrations.ofSteps steps).Compiled := by
  -- the invariant holds of the empty log and each logged call keeps it
  suffices h : ∀ reg : Registrations, reg.Compiled → (steps.foldl record reg).Compiled from
    h {} fun _ hw => nomatch hw
  induction steps with
  | nil => exact fun _ h => h
  | cons s ss ih => exact fun reg h => ih _ (h.record s)

theorem Registrations.mem_walkOrder {reg : Registrations} {m : Method} {e : Entry}
    (h : e ∈ reg.walkOrder m) : ∃ w ∈ reg.writes, w.2.2 = e := by
  simp only [Registrations.walkOrder, List.mem_append, List.mem_map, List.mem_filter] at h
  rcases h with ⟨⟨k, e'⟩, hp, rfl⟩ | ⟨⟨k, e'⟩, ⟨hp, -⟩, rfl⟩
  · exact ⟨_, mem_writesUnder (mem_latestByFirstArrival hp), rfl⟩
  · exact ⟨_, mem_writesUnder (mem_latestByFirstArrival hp), rfl⟩

/-- **The walk reaches an entry written for every method** when its key is never written under
the method nor written again for every method, and every entry the walk may try first gives
nothing: those written under the method, those written for every method before it, and those
written after it under a key written before it. -/
theorem Registrations.findSome?_walkOrder {reg : Registrations} {m : Method}
    {f : Entry → Option MatchResult} {before after : List RuleWrite} {key : String} {e : Entry}
    {res : MatchResult} (hw : reg.writes = before ++ (.any, key, e) :: after)
    (hown : ∀ k e', (.only m, k, e') ∈ reg.writes → f e' = none)
    (hkey : ∀ e', (.only m, key, e') ∉ reg.writes)
    (hlast : ∀ e', (.any, key, e') ∉ after)
    (hbefore : ∀ k e', (.any, k, e') ∈ before → f e' = none)
    (hafter : ∀ k e' e'', (.any, k, e') ∈ after → (.any, k, e'') ∈ before → f e' = none)
    (he : f e = some res) :
    (reg.walkOrder m).findSome? f = some res := by
  have hany : writesUnder reg.writes .any =
      writesUnder before .any ++ (key, e) :: writesUnder after .any := by
    simp [hw, writesUnder, List.filterMap_append]
  obtain ⟨front, back, hlatest, hfront⟩ :=
    latestByFirstArrival_append_cons (writesUnder before .any) (writesUnder after .any) key e
      fun w hm => hlast w (mem_writesUnder hm)
  have hfresh : key ∉ (writesUnder reg.writes (.only m)).map (·.1) := by
    intro hm
    obtain ⟨⟨k', e'⟩, hp, rfl⟩ := List.mem_map.mp hm
    exact hkey e' (mem_writesUnder hp)
  unfold Registrations.walkOrder
  dsimp only
  rw [hany, hlatest, List.filter_append, List.filter_cons_of_pos (by simpa using hfresh),
    List.map_append, List.map_cons, ← List.append_assoc]
  refine findSome?_append_cons (fun x hx => ?_) he
  rcases List.mem_append.mp hx with hx | hx
  · obtain ⟨⟨k, e'⟩, hp, rfl⟩ := List.mem_map.mp hx
    exact .inl (hown k e' (mem_writesUnder (mem_latestByFirstArrival hp)))
  · obtain ⟨⟨k, e'⟩, hp, rfl⟩ := List.mem_map.mp hx
    obtain ⟨hmem, w, hw'⟩ := hfront _ (List.mem_filter.mp hp).1
    rcases List.mem_append.mp hmem with hA | hB
    · exact .inl (hbefore k e' (mem_writesUnder hA))
    · rcases List.mem_cons.mp hB with heq | hB
      · obtain ⟨-, rfl⟩ := Prod.mk.inj heq
        exact .inr he
      · exact .inl (hafter k e' w (mem_writesUnder hB) (mem_writesUnder hw'))

/-! ## Dispatch reads the log -/

/-- With default options on its children, an entry gives what the log declares. -/
theorem Entry.attempt_of_plainChildren {e : Entry} (he : e.PlainChildren) (path : String)
    (req : RouteRequest) (st : DispatchState) :
    e.attempt path req st = if e.option.allows req then e.declaredOutcome path req st else none := by
  cases e with
  | rule r => rfl
  | group g =>
    have hchild : ∀ rest, ∀ c ∈ g.children, c.attempt rest req st = c.outcome rest req st := by
      intro rest c hc
      simp [Rule.attempt, he c hc]
    simp only [Entry.attempt, Entry.outcome, Entry.declaredOutcome]
    cases g.below path with
    | none => rfl
    | some rest => simp only [Option.bind_some, findSome?_congr (hchild rest)]

/-- The rule walk of a router built from a log follows the log. -/
theorem firstMatch_builder (reg : Registrations) (hreg : reg.Compiled) (req : RouteRequest) :
    reg.builder.build.1.firstMatch req = reg.dispatch req := by
  have hwalk : ∀ path st, (reg.builder.rules.candidates req.method).findSome?
      (Entry.attempt path req st) = (reg.walkOrder req.method).findSome? fun e =>
        if e.option.allows req then e.declaredOutcome path req st else none := by
    intro path st
    rw [candidates_eq_walkOrder]
    refine findSome?_congr fun e he => ?_
    obtain ⟨w, hw, rfl⟩ := Registrations.mem_walkOrder he
    exact Entry.attempt_of_plainChildren (hreg w hw) path req st
  have hsep : reg.builder.build.1.normalize req.path = normalizePath req.path reg.separator := rfl
  have hdom : reg.builder.build.1.domains = ⟨OrderedMap.ofList reg.domainRules⟩ := rfl
  have hlook : reg.builder.build.1.urlMap.get? (reg.builder.build.1.normalize req.path) =
      reg.mapped.reverse.lookup (normalizePath req.path reg.separator) := by
    rw [hsep]
    exact OrderedMap.get?_ofList _ _
  unfold Router.firstMatch Registrations.dispatch
  rw [hdom]
  rcases (DomainTable.mk (OrderedMap.ofList reg.domainRules)).stage req with ⟨_ | result, st⟩
  · dsimp only
    rw [hlook]
    cases reg.mapped.reverse.lookup (normalizePath req.path reg.separator) with
    | some address => rfl
    | none => simp only [hsep, RouterBuilder.build_rules, hwalk]
  · rfl

section Stage

variable {reg : Registrations} {req : RouteRequest} {st : DispatchState}

/-- Past a domain stage that did not finish it, the log resolves a request that the URL map
holds at its normalized path by that address. -/
theorem Registrations.dispatch_of_mapped
    (hs : (DomainTable.mk (OrderedMap.ofList reg.domainRules)).stage req = (none, st))
    {address : String}
    (hl : reg.mapped.reverse.lookup (normalizePath req.path reg.separator) = some address) :
    reg.dispatch req = .resolved (resolveMapped address st) := by
  unfold Registrations.dispatch
  simp only [hs, hl]

/-- Past a domain stage that did not finish it, the log dispatches a request that the URL map
does not hold by the walk. -/
theorem Registrations.dispatch_of_unmapped
    (hs : (DomainTable.mk (OrderedMap.ofList reg.domainRules)).stage req = (none, st))
    (hl : reg.mapped.reverse.lookup (normalizePath req.path reg.separator) = none) :
    reg.dispatch req = ((reg.walkOrder req.method).findSome? fun e =>
      if e.option.allows req then e.declaredOutcome (normalizePath req.path reg.separator) req st
      else none).getD (.noMatch st.boundModule st.query) := by
  unfold Registrations.dispatch
  simp only [hs, hl]

end Stage

/-- **A router built by successful builder calls dispatches every request without a deadline
as its log declares**: a domain handler that does not pass finishes it; otherwise the URL map,
read with the path normalized by the separator; otherwise the first entry of the walk order,
own method's keys first and shadowing the keys for every method, that accepts the request and
gives an outcome. -/
theorem dispatch_eq_registered {steps : List BuilderStep} {b : RouterBuilder}
    (hrun : RouterBuilder.run {} steps = .ok b) {req : RouteRequest}
    (hd : req.deadline = none) :
    b.build.1.dispatch req = .ok ((Registrations.ofSteps steps).dispatch req) := by
  rw [dispatch_eq_firstMatch _ hd, run_builds hrun,
    firstMatch_builder _ (Registrations.ofSteps_compiled steps)]

/-- Key `a` is registered for every method, then re-registered under `GET` after another key,
then redefined for every method; a `GET` request for `a`. -/
theorem dispatch_eq_registered_reregistered :
    let steps : List BuilderStep :=
      [.register "a" (.address "Any/a") "*" {}, .register "b" (.address "Get/b") "GET" {},
        .register "a" (.address "Get/a") "GET" {}, .register "a" (.address "Any/a2") "*" {}]
    let req : RouteRequest := { path := "a" }
    ∃ b, RouterBuilder.run {} steps = .ok b ∧ req.deadline = none ∧
      b.build.1.dispatch req = .ok ((Registrations.ofSteps steps).dispatch req) := by
  intro steps req
  have hok : (RouterBuilder.run {} steps).isOk = true := by decide +kernel
  cases hrun : RouterBuilder.run {} steps with
  | error e =>
    rw [hrun] at hok
    cases hok
  | ok b => exact ⟨b, rfl, rfl, dispatch_eq_registered hrun rfl⟩

end RuleRouting
