import RuleRouting.Route.Router

/-!
# The rule walk is a first match

`Router.dispatch` runs in `WalkM`: each step may stop with `deadlineExceeded`, counts its
deadline checks and reports events. Without that bookkeeping a dispatch is a search:

* `Rule.outcome` and `Entry.outcome` — what one leaf, or one group, gives on a path;
  `Rule.attempt` and `Entry.attempt` — the same, under the options;
* `DomainTable.stage` — the domain stage as a function;
* `Router.firstMatch` — the domain stage, then the URL map, then the first candidate that gives
  an outcome (`List.findSome?`).

`Gives x a late` says that a step gives `a` from every walk, except that it may stop at the
deadline when `late` holds. Each function of the walk has its `Gives` lemma, and
`dispatch_cases` assembles them: a dispatch gives `firstMatch`, or it stopped at the deadline,
which needs a clock that passes the deadline (`RouteRequest.Late`) and a request that reached the
rule walk with a candidate to try.
-/

namespace RuleRouting

/-! ## Running dispatch steps -/

section Run

variable {α β : Type}

@[simp] theorem run_pure (a : α) (w : Walk) : (pure a : WalkM α).run.run w = (.ok a, w) := rfl

theorem run_bind (x : WalkM α) (f : α → WalkM β) (w : Walk) :
    (x >>= f).run.run w = match x.run.run w with
      | (.ok a, w') => (f a).run.run w'
      | (.error e, w') => (.error e, w') := by
  unfold ExceptT.run StateT.run
  simp only [bind, ExceptT.bind, ExceptT.mk, StateT.bind, ExceptT.bindCont]
  cases x w with
  | mk result w' => cases result <;> rfl

@[simp] theorem get_run (w : Walk) : (get : WalkM Walk).run.run w = (.ok w, w) := rfl

@[simp] theorem set_run (w w' : Walk) : (set w' : WalkM PUnit).run.run w = (.ok ⟨⟩, w') := rfl

theorem report_run (e : LogEvent) (w : Walk) :
    (report e).run.run w = (.ok (), { w with events := w.events.push e }) := rfl

theorem checkDeadline_run (req : RouteRequest) (w : Walk) :
    (checkDeadline req).run.run w =
      (if req.deadlinePassed w.checks then .error .deadlineExceeded else .ok (),
       { w with checks := w.checks + 1 }) := by
  unfold checkDeadline
  simp only [run_bind, get_run, set_run]
  split <;> rfl

end Run

/-! ## Steps that give a value -/

/-- `x` gives `a` from every walk; only when `late` holds may it stop at the deadline
instead. -/
def Gives {α : Type} (x : WalkM α) (a : α) (late : Prop) : Prop :=
  ∀ w, ∃ w', x.run.run w = (.ok a, w') ∨ (late ∧ x.run.run w = (.error .deadlineExceeded, w'))

namespace Gives

variable {α β : Type} {late late' : Prop}

theorem pure (a : α) : Gives (Pure.pure a : WalkM α) a late :=
  fun w => ⟨w, .inl rfl⟩

theorem bind {x : WalkM α} {f : α → WalkM β} {a : α} {b : β}
    (hx : Gives x a late) (hf : Gives (f a) b late) : Gives (x >>= f) b late := by
  intro w
  obtain ⟨w₁, h₁ | ⟨hl, h₁⟩⟩ := hx w
  · obtain ⟨w₂, h₂⟩ := hf w₁
    refine ⟨w₂, ?_⟩
    rw [run_bind, h₁]
    exact h₂
  · refine ⟨w₁, .inr ⟨hl, ?_⟩⟩
    rw [run_bind, h₁]

theorem mono {x : WalkM α} {a : α} (hx : Gives x a late) (h : late → late') :
    Gives x a late' := by
  intro w
  obtain ⟨w', hw | ⟨hl, hw⟩⟩ := hx w
  · exact ⟨w', .inl hw⟩
  · exact ⟨w', .inr ⟨h hl, hw⟩⟩

end Gives

theorem report_gives (e : LogEvent) (late : Prop) : Gives (report e) () late :=
  fun w => ⟨_, .inl (report_run e w)⟩

/-- The request's clock passes its deadline at some check. -/
def RouteRequest.Late (req : RouteRequest) : Prop :=
  ∃ n, req.deadlinePassed n = true

theorem RouteRequest.not_late_of_deadline_none {req : RouteRequest} (h : req.deadline = none) :
    ¬ req.Late := by
  rintro ⟨n, hn⟩
  simp [RouteRequest.deadlinePassed, h] at hn

/-- Only a request whose clock passes its deadline can stop at a check. -/
theorem checkDeadline_gives (req : RouteRequest) :
    Gives (checkDeadline req) () req.Late := by
  intro w
  refine ⟨{ w with checks := w.checks + 1 }, ?_⟩
  rw [checkDeadline_run]
  by_cases hp : req.deadlinePassed w.checks
  · exact .inr ⟨⟨w.checks, hp⟩, by simp [hp]⟩
  · exact .inl (by simp [hp])

/-! ## What one rule and one entry give -/

/-- What a leaf gives on a path: nothing when its pattern does not match or its handler
passes. -/
def Rule.outcome (rule : Rule) (path : String) (req : RouteRequest) (st : DispatchState) :
    Option MatchResult :=
  match rule.matcher with
  | .regex p => (p.matchPath path).bind fun m => resolveRegex m path rule.target req st
  | .rule p => (p.matchPath path).bind fun m => resolveRule m rule.target req st

/-- A leaf under its options: nothing when they reject the request. -/
def Rule.attempt (path : String) (req : RouteRequest) (st : DispatchState) (rule : Rule) :
    Option MatchResult :=
  if rule.option.allows req then rule.outcome path req st else none

/-- What an entry gives on a path, its own options aside: a group gives what its first
child gives on the path below the scope. -/
def Entry.outcome (path : String) (req : RouteRequest) (st : DispatchState) :
    Entry → Option MatchResult
  | .rule r => r.outcome path req st
  | .group g => (g.below path).bind fun rest => g.children.findSome? (Rule.attempt rest req st)

/-- An entry under its options. -/
def Entry.attempt (path : String) (req : RouteRequest) (st : DispatchState) (e : Entry) :
    Option MatchResult :=
  if e.option.allows req then e.outcome path req st else none

theorem tryRule_gives (rule : Rule) (path : String) (req : RouteRequest) (st : DispatchState)
    (late : Prop) : Gives (tryRule rule path req st) (rule.outcome path req st) late := by
  obtain ⟨matcher, target, option⟩ := rule
  unfold tryRule Rule.outcome
  cases matcher with
  | regex p =>
    dsimp only
    cases p.matchPath path with
    | none => exact Gives.pure none
    | some m => exact (report_gives _ late).bind (Gives.pure _)
  | rule p =>
    dsimp only
    cases p.matchPath path with
    | none => exact Gives.pure none
    | some m => exact (report_gives _ late).bind (Gives.pure _)

/-- The children of a group are tried in order; each check of the deadline may stop the walk. -/
theorem walkGroup_gives (rest : String) (req : RouteRequest) (st : DispatchState)
    (children : List Rule) :
    Gives (walkGroup rest req st children) (children.findSome? (Rule.attempt rest req st))
      req.Late := by
  induction children with
  | nil => exact Gives.pure none
  | cons c cs ih =>
    rw [walkGroup]
    refine (checkDeadline_gives req).bind ?_
    by_cases hc : c.option.allows req
    · simp only [hc, Bool.not_true, Bool.false_eq_true, if_false]
      refine (tryRule_gives c rest req st _).bind ?_
      cases ho : c.outcome rest req st with
      | none => simpa [Rule.attempt, hc, ho] using ih
      | some res => simpa [Rule.attempt, hc, ho] using Gives.pure (some res)
    · simpa [Rule.attempt, hc] using ih

/-- The candidates are tried in order; the deadline can stop the walk only when there is a
candidate to try. -/
theorem walkEntries_gives (path : String) (req : RouteRequest) (st : DispatchState)
    (entries : List Entry) :
    Gives (walkEntries path req st entries) (entries.findSome? (Entry.attempt path req st))
      (req.Late ∧ entries ≠ []) := by
  induction entries with
  | nil => exact Gives.pure none
  | cons e es ih =>
    -- the rest of the list may stop the walk only when the whole list may
    have ih' : Gives (walkEntries path req st es) (es.findSome? (Entry.attempt path req st))
        (req.Late ∧ e :: es ≠ []) :=
      ih.mono fun h => ⟨h.1, List.cons_ne_nil e es⟩
    rw [walkEntries]
    refine ((checkDeadline_gives req).mono fun h => ⟨h, List.cons_ne_nil e es⟩).bind ?_
    by_cases he : e.option.allows req
    · simp only [he, Bool.not_true, Bool.false_eq_true, if_false]
      cases e with
      | rule r =>
        refine (tryRule_gives r path req st _).bind ?_
        cases ho : r.outcome path req st with
        | none => simpa [Entry.attempt, Entry.outcome, he, ho] using ih'
        | some res => simpa [Entry.attempt, Entry.outcome, he, ho] using Gives.pure (some res)
      | group g =>
        dsimp only
        cases hb : g.below path with
        | none => simpa [Entry.attempt, Entry.outcome, he, hb] using ih'
        | some rest =>
          refine ((walkGroup_gives rest req st g.children).mono
            fun h => ⟨h, List.cons_ne_nil _ es⟩).bind ?_
          cases ho : g.children.findSome? (Rule.attempt rest req st) with
          | none => simpa [Entry.attempt, Entry.outcome, he, hb, ho] using ih'
          | some res =>
            simpa [Entry.attempt, Entry.outcome, he, hb, ho] using Gives.pure (some res)
    · simpa [Entry.attempt, he] using ih'

/-! ## The whole dispatch -/

/-- The parameters a domain rule adds: its query string, with the first value `*` replaced by
the label its wildcard captured. -/
def domainParams (query : String) (wildcard : Option String) : Query :=
  match wildcard with
  | some w => (Query.parse query).replaceFirstValue "*" w
  | none => Query.parse query

/-- The domain stage as a function: the outcome when a domain handler finished the request,
and the state for the later stages. -/
def DomainTable.stage (t : DomainTable) (req : RouteRequest) : Option MatchResult × DispatchState :=
  let st : DispatchState := { query := req.query, boundModule := none }
  match req.host.bind t.resolve with
  | none => (none, st)
  | some d =>
    match d.target with
    | .module m => (none, { st with boundModule := some m })
    | .moduleWithQuery m q =>
      (none, { query := st.query.merge (domainParams q d.wildcard), boundModule := some m })
    | .handler h =>
      match h.call with
      | .pass => (none, st)
      | .handled body => (some (.handled body), st)
      | .redirect rd => (some (.redirect rd), st)
      | .matched route => (some (.resolved { route, query := st.query }), st)

theorem checkDomain_gives (r : Router) (req : RouteRequest) (late : Prop) :
    Gives (r.checkDomain req) (r.domains.stage req) late := by
  unfold Router.checkDomain DomainTable.stage
  cases req.host with
  | none => exact Gives.pure _
  | some host =>
    simp only [Option.bind_some]
    cases r.domains.resolve host with
    | none => exact Gives.pure _
    | some d =>
      dsimp only
      refine (report_gives _ late).bind ?_
      cases d.target with
      | module m => exact Gives.pure _
      | moduleWithQuery m q => exact Gives.pure _
      | handler h =>
        dsimp only
        cases h.call <;> exact Gives.pure _

/-- A dispatch as a function: the domain stage, then the URL map, then the first candidate
that gives an outcome; when nothing matched, the bound module and the query. -/
def Router.firstMatch (r : Router) (req : RouteRequest) : MatchResult :=
  match r.domains.stage req with
  | (some result, _) => result
  | (none, st) =>
    match r.urlMap.get? (r.normalize req.path) with
    | some address => .resolved (resolveMapped address st)
    | none =>
      ((r.rules.candidates req.method).findSome? (Entry.attempt (r.normalize req.path) req st)).getD
        (.noMatch st.boundModule st.query)

/-- The request got past the domain stage and the URL map, and has a candidate to try. -/
def Router.ReachesWalk (r : Router) (req : RouteRequest) : Prop :=
  (r.domains.stage req).1 = none ∧ r.urlMap.get? (r.normalize req.path) = none ∧
    r.rules.candidates req.method ≠ []

theorem dispatchM_gives (r : Router) (req : RouteRequest) :
    Gives (r.dispatchM req) (r.firstMatch req) (req.Late ∧ r.ReachesWalk req) := by
  unfold Router.dispatchM Router.firstMatch Router.ReachesWalk
  refine (checkDomain_gives r req _).bind ?_
  rcases hd : r.domains.stage req with ⟨early, st⟩
  cases early with
  | some result => exact Gives.pure result
  | none =>
    dsimp only
    cases hu : r.urlMap.get? (r.normalize req.path) with
    | some address => exact (report_gives _ _).bind (Gives.pure _)
    | none =>
      dsimp only
      refine ((walkEntries_gives _ req st _).mono ?_).bind ?_
      · exact fun h => ⟨h.1, rfl, rfl, h.2⟩
      · cases (r.rules.candidates req.method).findSome? (Entry.attempt (r.normalize req.path) req st)
        <;> exact Gives.pure _

/-- **A dispatch gives `firstMatch`, or it stopped at the deadline**; stopping needs a clock
that passes the deadline and a request that reached the rule walk with a candidate to try. -/
theorem dispatch_cases (r : Router) (req : RouteRequest) :
    r.dispatch req = .ok (r.firstMatch req) ∨
      (r.dispatch req = .error .deadlineExceeded ∧ req.Late ∧ r.ReachesWalk req) := by
  obtain ⟨w, h | ⟨hl, h⟩⟩ := dispatchM_gives r req {}
  · left
    simp [Router.dispatch, Router.dispatchTraced, h]
  · right
    exact ⟨by simp [Router.dispatch, Router.dispatchTraced, h], hl⟩

/-- A dispatch whose clock never passes the deadline gives `firstMatch`. -/
theorem dispatch_eq_firstMatch_of_not_late (r : Router) {req : RouteRequest} (h : ¬ req.Late) :
    r.dispatch req = .ok (r.firstMatch req) := by
  rcases dispatch_cases r req with hd | ⟨_, hl, _⟩
  · exact hd
  · exact absurd hl h

/-- Without a deadline, a dispatch always gives `firstMatch`. -/
theorem dispatch_eq_firstMatch (r : Router) {req : RouteRequest} (h : req.deadline = none) :
    r.dispatch req = .ok (r.firstMatch req) :=
  dispatch_eq_firstMatch_of_not_late r (RouteRequest.not_late_of_deadline_none h)

/-! ## The deadline only stops the walk -/

/-- The request without its deadline. -/
def RouteRequest.withoutDeadline (req : RouteRequest) : RouteRequest :=
  { req with deadline := none }

@[simp] theorem RouteRequest.withoutDeadline_deadline (req : RouteRequest) :
    req.withoutDeadline.deadline = none := rfl

@[simp] theorem RouteRequest.withoutDeadline_method (req : RouteRequest) :
    req.withoutDeadline.method = req.method := rfl

@[simp] theorem RouteRequest.withoutDeadline_path (req : RouteRequest) :
    req.withoutDeadline.path = req.path := rfl

/-- The options an entry consults: its own and, for a group, its children's. -/
def Entry.options : Entry → List RuleOption
  | .rule r => [r.option]
  | .group g => g.option :: g.children.map (·.option)

/-- The option's predicate, if it has one, answers the same without the request's deadline. -/
def RuleOption.IgnoresDeadline (o : RuleOption) (req : RouteRequest) : Prop :=
  ∀ p, o.predicate = some p → p req.withoutDeadline = p req

theorem RuleOption.allows_withoutDeadline {o : RuleOption} {req : RouteRequest}
    (h : o.IgnoresDeadline req) : o.allows req.withoutDeadline = o.allows req := by
  unfold RuleOption.allows
  cases hp : o.predicate with
  | none => rfl
  | some p => simp only [h p hp]; rfl

/-- Resolving a match reads the request's method only. -/
theorem Rule.outcome_withoutDeadline (rule : Rule) (path : String) (req : RouteRequest)
    (st : DispatchState) : rule.outcome path req.withoutDeadline st = rule.outcome path req st :=
  rfl

theorem findSome?_congr {α β : Type} {l : List α} {f g : α → Option β}
    (h : ∀ a ∈ l, f a = g a) : l.findSome? f = l.findSome? g := by
  induction l with
  | nil => rfl
  | cons a l ih =>
    simp only [List.findSome?_cons, h a List.mem_cons_self,
      ih fun b hb => h b (List.mem_cons_of_mem a hb)]

theorem Entry.attempt_withoutDeadline {path : String} {req : RouteRequest} {st : DispatchState}
    {e : Entry} (h : ∀ o ∈ e.options, o.IgnoresDeadline req) :
    e.attempt path req.withoutDeadline st = e.attempt path req st := by
  cases e with
  | rule r =>
    simp only [Entry.attempt, Entry.outcome, Entry.option, Rule.outcome_withoutDeadline,
      RuleOption.allows_withoutDeadline (h r.option (by simp [Entry.options]))]
    rfl
  | group g =>
    have hchild : ∀ c ∈ g.children, ∀ rest,
        c.attempt rest req.withoutDeadline st = c.attempt rest req st := by
      intro c hc rest
      have hc' : c.option.IgnoresDeadline req :=
        h c.option (List.mem_cons_of_mem _ (List.mem_map_of_mem hc))
      simp [Rule.attempt, Rule.outcome_withoutDeadline, RuleOption.allows_withoutDeadline hc']
    simp only [Entry.attempt, Entry.outcome, Entry.option,
      RuleOption.allows_withoutDeadline (h g.option List.mem_cons_self)]
    cases g.below path with
    | none => rfl
    | some rest =>
      simp only [Option.bind_some, findSome?_congr fun c hc => hchild c hc rest]
      rfl

/-- Without the deadline the same request is dispatched to the same first match. -/
theorem Router.firstMatch_withoutDeadline (r : Router) (req : RouteRequest)
    (h : ∀ e ∈ r.rules.candidates req.method, ∀ o ∈ e.options, o.IgnoresDeadline req) :
    r.firstMatch req.withoutDeadline = r.firstMatch req := by
  have hwalk : ∀ path st, (r.rules.candidates req.method).findSome?
      (Entry.attempt path req.withoutDeadline st) =
        (r.rules.candidates req.method).findSome? (Entry.attempt path req st) :=
    fun path st => findSome?_congr fun e he => Entry.attempt_withoutDeadline (h e he)
  unfold Router.firstMatch
  simp only [RouteRequest.withoutDeadline_method, RouteRequest.withoutDeadline_path, hwalk]
  rfl

/-- **The deadline only aborts, it never changes a result.** When the options' predicates
answer the same without the deadline (handlers see only their arguments), a dispatch either
stops with `deadlineExceeded` or gives exactly what the request without a deadline gives,
for every behaviour of the clock; without a deadline a dispatch never fails; and it can stop
only once the request reached the rule walk with a candidate to try. -/
theorem dispatch_deadline_only_aborts (r : Router) (req : RouteRequest)
    (hpred : ∀ e ∈ r.rules.candidates req.method, ∀ o ∈ e.options, o.IgnoresDeadline req) :
    (r.dispatch req = .error .deadlineExceeded ∨
        r.dispatch req = r.dispatch req.withoutDeadline) ∧
      (∃ res, r.dispatch req.withoutDeadline = .ok res) ∧
      (∀ e, r.dispatch req = .error e → e = .deadlineExceeded ∧ r.ReachesWalk req) := by
  have hfree : r.dispatch req.withoutDeadline = .ok (r.firstMatch req) := by
    rw [dispatch_eq_firstMatch r (RouteRequest.withoutDeadline_deadline req),
      r.firstMatch_withoutDeadline req hpred]
  refine ⟨?_, ⟨_, hfree⟩, ?_⟩
  · rcases dispatch_cases r req with h | ⟨h, -, -⟩
    · exact .inr (h.trans hfree.symm)
    · exact .inl h
  · intro e he
    rcases dispatch_cases r req with h | ⟨h, -, hreach⟩
    · rw [h] at he
      cases he
    · rw [h] at he
      cases he
      exact ⟨rfl, hreach⟩

/-- The rule `never/:id` for any method, and a request for `news/1` whose deadline has always
passed. -/
theorem dispatch_deadline_only_aborts_never :
    let r : Router :=
      { separator := '/', urlMap := OrderedMap.empty, domains := {},
        rules := { anyMethod := (OrderedMap.empty.insert "never/:id"
          (.rule ⟨.rule (RulePattern.parse "never/:id"), .route "Index/never" none, {}⟩)) } }
    let req : RouteRequest := { path := "news/1", deadline := some fun _ => true }
    (∀ e ∈ r.rules.candidates req.method, ∀ o ∈ e.options, o.IgnoresDeadline req) ∧
      (r.dispatch req = .error .deadlineExceeded ∨
          r.dispatch req = r.dispatch req.withoutDeadline) ∧
        (∃ res, r.dispatch req.withoutDeadline = .ok res) ∧
        (∀ e, r.dispatch req = .error e → e = .deadlineExceeded ∧ r.ReachesWalk req) := by
  intro r req
  have hpred : ∀ e ∈ r.rules.candidates req.method, ∀ o ∈ e.options, o.IgnoresDeadline req := by
    intro e he o ho p hp
    simp [r, RuleTable.candidates, OrderedMap.get?, OrderedMap.values, OrderedMap.insert,
      OrderedMap.empty] at he
    subst he
    simp only [Entry.options, List.mem_singleton] at ho
    subst ho
    cases hp
  exact ⟨hpred, dispatch_deadline_only_aborts r req hpred⟩

end RuleRouting
