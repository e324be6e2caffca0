import RuleRouting.Proofs.Walk
import RuleRouting.Proofs.OrderedMap

/-!
# The request's parameters win

A dispatch starts from the request's own query, with the parameters of a `moduleWithQuery`
domain rule for its host merged over it (`DomainTable.requestQuery`). Every producer of a
resolved route then merges what the route derived under that query: captured values, declared
and back-referenced values, `key/value` pairs read off the rest of the path, an extra query,
and a URL-map address's query and pairs. So none of them can override a request parameter.

* `Query.Keeps` — one query holds every parameter of another with the same value;
* `MatchResult.KeepsQuery` — a resolved route keeps the query, and "no match" carries it as is;
* `Router.firstMatch_keepsQuery` — the result of every stage keeps the state's query;
* `dispatch_keeps_request_query` — **whatever stage produced it, a dispatch result keeps the
  request's parameters**, and the positional decomposition of "no match" keeps them too.

Each of these precedence laws is a chain of merges, and `Query.merge_rightBiasedUnion` says
what one merge is: a right-biased union that keeps the first map's key order, associative,
with the empty query as unit.
-/

namespace RuleRouting

/-! ## Keeping a query -/

/-- `q` holds every parameter of `base`, with `base`'s value. -/
def Query.Keeps (q base : Query) : Prop :=
  ∀ k v, base.get? k = some v → q.get? k = some v

namespace Query

theorem Keeps.trans {q q' base : Query} (h : q.Keeps q') (h' : q'.Keeps base) : q.Keeps base :=
  fun k v hk => h k v (h' k v hk)

/-- Merging under a base keeps the base. -/
theorem under_keeps (q base : Query) : (q.under base).Keeps base :=
  fun _ _ h => OrderedMap.get?_merge_of_mem q base h

end Query

/-- The result keeps a query: a resolved route holds its parameters, and "no match" carries
exactly that query. -/
def MatchResult.KeepsQuery (base : Query) : MatchResult → Prop
  | .resolved r => r.query.Keeps base
  | .noMatch _ q => q = base
  | .redirect _ | .handled _ => True

/-! ## Each producer keeps the state's query -/

section Producers

variable {st : DispatchState} {res : MatchResult}

theorem DispatchState.resolved_keepsQuery (st : DispatchState) (route : Route) (params : Query) :
    (st.resolved route params).KeepsQuery st.query :=
  Query.under_keeps params st.query

theorem fromOutcome_keepsQuery {o : HandlerOutcome} {params : Query}
    (h : fromOutcome o params st = some res) : res.KeepsQuery st.query := by
  cases o with
  | pass => cases h
  | handled body => cases h; trivial
  | redirect r => cases h; trivial
  | matched route => cases h; exact st.resolved_keepsQuery route params

theorem resolveRule_keepsQuery {m : RuleMatch} {target : Target} {req : RouteRequest}
    (h : resolveRule m target req st = some res) : res.KeepsQuery st.query := by
  unfold resolveRule at h
  cases target with
  | handler hd => exact fromOutcome_keepsQuery h
  | redirect address status => cases h; trivial
  | route address extra => cases h; exact st.resolved_keepsQuery _ _

theorem resolveRegex_keepsQuery {m : RegexMatch} {path : String} {target : Target}
    {req : RouteRequest} (h : resolveRegex m path target req st = some res) :
    res.KeepsQuery st.query := by
  unfold resolveRegex at h
  cases target with
  | handler hd => exact fromOutcome_keepsQuery h
  | redirect address status => cases h; trivial
  | route address extra => cases h; exact st.resolved_keepsQuery _ _

theorem Rule.outcome_keepsQuery {rule : Rule} {path : String} {req : RouteRequest}
    (h : rule.outcome path req st = some res) : res.KeepsQuery st.query := by
  unfold Rule.outcome at h
  split at h
  · obtain ⟨m, -, h⟩ := Option.bind_eq_some_iff.mp h
    exact resolveRegex_keepsQuery h
  · obtain ⟨m, -, h⟩ := Option.bind_eq_some_iff.mp h
    exact resolveRule_keepsQuery h

theorem Rule.attempt_keepsQuery {rule : Rule} {path : String} {req : RouteRequest}
    (h : rule.attempt path req st = some res) : res.KeepsQuery st.query := by
  unfold Rule.attempt at h
  split at h
  · exact Rule.outcome_keepsQuery h
  · cases h

theorem Entry.attempt_keepsQuery {e : Entry} {path : String} {req : RouteRequest}
    (h : e.attempt path req st = some res) : res.KeepsQuery st.query := by
  unfold Entry.attempt at h
  split at h
  · cases e with
    | rule r => exact Rule.outcome_keepsQuery h
    | group g =>
      obtain ⟨rest, -, h⟩ := Option.bind_eq_some_iff.mp h
      obtain ⟨c, -, hc⟩ := List.exists_of_findSome?_eq_some h
      exact Rule.attempt_keepsQuery hc
  · cases h

/-- Decomposing a path by position keeps the given query. -/
theorem decompose_keeps (path : String) (bound : Option String) (query : Query) :
    (decompose path bound query).query.Keeps query := by
  unfold decompose
  split <;> exact Query.under_keeps _ _

/-- A URL-map address's query and the pairs of its path stay under the state's query. -/
theorem resolveMapped_keeps (address : String) (st : DispatchState) :
    (resolveMapped address st).query.Keeps st.query := by
  unfold resolveMapped
  exact (decompose_keeps _ _ _).trans (Query.under_keeps _ st.query)

end Producers

/-! ## The domain stage sets the query -/

/-- The request's parameters after the domain stage: its own query, with the parameters of a
`moduleWithQuery` rule for its host merged over it. -/
def DomainTable.requestQuery (t : DomainTable) (req : RouteRequest) : Query :=
  match req.host.bind t.resolve with
  | some ⟨.moduleWithQuery _ q, wildcard⟩ => req.query.merge (domainParams q wildcard)
  | _ => req.query

theorem DomainTable.stage_query (t : DomainTable) (req : RouteRequest) :
    (t.stage req).2.query = t.requestQuery req := by
  unfold DomainTable.stage DomainTable.requestQuery
  cases req.host.bind t.resolve with
  | none => rfl
  | some d =>
    obtain ⟨target, wildcard⟩ := d
    cases target with
    | module m => rfl
    | moduleWithQuery m q => rfl
    | handler h =>
      dsimp only
      cases h.call <;> rfl

/-- A domain handler's outcome keeps the query of the stage. -/
theorem DomainTable.stage_keepsQuery {t : DomainTable} {req : RouteRequest} {res : MatchResult}
    (h : (t.stage req).1 = some res) : res.KeepsQuery (t.stage req).2.query := by
  revert h
  unfold DomainTable.stage
  cases req.host.bind t.resolve with
  | none => intro h; cases h
  | some d =>
    obtain ⟨target, wildcard⟩ := d
    cases target with
    | module m => intro h; cases h
    | moduleWithQuery m q => intro h; cases h
    | handler hd =>
      dsimp only
      cases hd.call with
      | pass => intro h; cases h
      | handled body => intro h; cases h; trivial
      | redirect rd => intro h; cases h; trivial
      | matched route => intro h; cases h; exact fun _ _ hk => hk

/-! ## Dispatch keeps the request's parameters -/

/-- Every stage's result keeps the query the domain stage set. -/
theorem Router.firstMatch_keepsQuery (r : Router) (req : RouteRequest) :
    (r.firstMatch req).KeepsQuery (r.domains.stage req).2.query := by
  unfold Router.firstMatch
  rcases hs : r.domains.stage req with ⟨early, st⟩
  cases early with
  | some res =>
    have h : (r.domains.stage req).1 = some res := by rw [hs]
    simpa [hs] using DomainTable.stage_keepsQuery h
  | none =>
    dsimp only
    cases r.urlMap.get? (r.normalize req.path) with
    | some address => exact resolveMapped_keeps address st
    | none =>
      dsimp only
      cases hf : (r.rules.candidates req.method).findSome?
          (Entry.attempt (r.normalize req.path) req st) with
      | none => rfl
      | some res =>
        obtain ⟨e, -, he⟩ := List.exists_of_findSome?_eq_some hf
        exact Entry.attempt_keepsQuery he

/-- **The request's parameters win.** Whatever stage produced the result (a domain handler, the
URL map, a rule-syntax or regular-expression route, or a rule handler), a resolved route holds
every parameter of the request's query, with a `moduleWithQuery` domain rule's parameters
merged over it, with exactly that value; "no match" carries exactly that query, and the
positional decomposition of the path keeps it too. -/
theorem dispatch_keeps_request_query (r : Router) (req : RouteRequest) :
    (∀ res, r.dispatch req = .ok (.resolved res) →
        res.query.Keeps (r.domains.requestQuery req)) ∧
      (∀ bound q, r.dispatch req = .ok (.noMatch bound q) →
        q = r.domains.requestQuery req ∧
          (decompose (r.normalize req.path) bound q).query.Keeps (r.domains.requestQuery req)) := by
  have hkeep : ∀ res, r.dispatch req = .ok res → res.KeepsQuery (r.domains.requestQuery req) := by
    intro res h
    rcases dispatch_cases r req with hd | ⟨hd, -⟩
    · rw [hd, Except.ok.injEq] at h
      subst h
      rw [← DomainTable.stage_query]
      exact r.firstMatch_keepsQuery req
    · rw [hd] at h
      cases h
  refine ⟨fun res h => hkeep _ h, fun bound q h => ?_⟩
  have hq : q = r.domains.requestQuery req := hkeep _ h
  refine ⟨hq, ?_⟩
  rw [← hq]
  exact decompose_keeps _ _ _

/-! ## What a merge is -/

/-- **Merging queries is a right-biased ordered union.** After `a.merge b` a key of `b` reads
`b`'s value and any other key `a`'s; the keys are `a`'s in order, then those of `b` that `a`
lacks, in `b`'s order. Merging is associative with the empty query as unit on both sides, and
`under` is a merge. Collecting pairs keeps each key at its first position with its last value,
and so does reading a query string, which collects its decoded pairs. -/
theorem Query.merge_rightBiasedUnion (a b c : Query) :
    (∀ k, (a.merge b).get? k = if b.contains k then b.get? k else a.get? k) ∧
      (a.merge b).keys = a.keys ++ b.keys.filter (fun k => !a.contains k) ∧
      (a.merge b).merge c = a.merge (b.merge c) ∧
      OrderedMap.empty.merge a = a ∧ a.merge OrderedMap.empty = a ∧
      a.under b = a.merge b ∧
      (∀ pairs : List (String × String),
        (OrderedMap.ofList pairs).keys = (pairs.map (·.1)).eraseDups ∧
          ∀ k, (OrderedMap.ofList pairs).get? k = pairs.reverse.lookup k) ∧
      ∀ s, (Query.parse s).entries =
        latestByFirstArrival (Query.formPairs (Query.dropQuestion s.toList)) :=
  ⟨OrderedMap.get?_merge_eq_ite a b, OrderedMap.keys_merge a b, OrderedMap.merge_assoc a b c,
    OrderedMap.empty_merge a, OrderedMap.merge_empty a, rfl,
    fun pairs => ⟨OrderedMap.keys_ofList pairs, OrderedMap.get?_ofList pairs⟩,
    fun _ => OrderedMap.entries_ofList _⟩

end RuleRouting
