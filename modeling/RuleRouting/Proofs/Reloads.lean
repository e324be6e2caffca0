import RuleRouting.Server.Lifecycle

/-!
# Reloads keep the last router that built

A running dispatcher serves hangups and requests in the order they arrive (`Server.run`). A
hangup reloads: the fresh configuration must load, validate and build, and only then does its
router replace the current one. So the server always holds the router of the last reload that
got through all three, or the router it started with, and every request is answered with the
router the server holds when the request arrives.

* `builtRouter?` — the router a reload installs, if its configuration loaded, validated and
  built;
* `Server.reload_eq` — one reload: the router it installs, or the server unchanged;
* `Server.run_eq` — a whole run: the server holds `lastBuilt`, the last installed router;
* `Server.run_append` — running a split run is running its parts in turn;
* `serve_uses_last_built_router` — **after a start, every run holds the last router that
  built, a failed reload changes nothing, and each request is answered with the router held
  when it arrives**.
-/

namespace RuleRouting

open Http

/-- The router a reload installs: the router its configuration builds, when the configuration
loaded, validated and built. -/
def builtRouter? (next : Except ServeError DispatcherConfig) : Option Router :=
  match next with
  | .error _ => none
  | .ok c =>
    match c.validate, c.buildRouter with
    | .ok (), .ok (router, _) => some router
    | _, _ => none

/-- The configurations the hangups of a run delivered, in order. -/
def hangups : List ServerInput → List (Except ServeError DispatcherConfig)
  | [] => []
  | .hangup next :: rest => next :: hangups rest
  | .request _ _ :: rest => hangups rest

/-- The router after a run: the one the last reload that loaded, validated and built
installed, or `initial` when no reload did. -/
def lastBuilt (initial : Router) (inputs : List ServerInput) : Router :=
  ((hangups inputs).filterMap builtRouter?).getLastD initial

theorem reloadedRouter_ok {next : Except ServeError DispatcherConfig} {router : Router}
    {built : LogEvent} (h : reloadedRouter next = .ok (router, built)) :
    builtRouter? next = some router := by
  cases next with
  | error e => cases h
  | ok c =>
    simp only [reloadedRouter, bind, Except.bind, pure, Except.pure] at h
    dsimp only [builtRouter?]
    cases hv : c.validate with
    | error e => simp [hv, throw, throwThe, MonadExceptOf.throw] at h
    | ok u =>
      cases hb : c.buildRouter with
      | error e => simp [hv, hb, throw, throwThe, MonadExceptOf.throw] at h
      | ok rb =>
        simp only [hv, hb, Except.ok.injEq] at h
        subst h
        rfl

theorem reloadedRouter_error {next : Except ServeError DispatcherConfig} {e : ServeError}
    (h : reloadedRouter next = .error e) : builtRouter? next = none := by
  cases next with
  | error e' => rfl
  | ok c =>
    simp only [reloadedRouter, bind, Except.bind, pure, Except.pure] at h
    dsimp only [builtRouter?]
    cases hv : c.validate with
    | error e' => rfl
    | ok u =>
      cases hb : c.buildRouter with
      | error e' => rfl
      | ok rb => simp [hv, hb] at h

/-- One reload installs the router of its configuration, or leaves the server as it was. -/
theorem Server.reload_eq (s : Server) (next : Except ServeError DispatcherConfig) :
    (s.reload next).1 = match builtRouter? next with
      | some router => { s with router }
      | none => s := by
  unfold Server.reload
  cases h : reloadedRouter next with
  | ok rb => simp [reloadedRouter_ok h]
  | error e => simp [reloadedRouter_error h]

theorem lastBuilt_hangup (initial : Router) (next : Except ServeError DispatcherConfig)
    (rest : List ServerInput) :
    lastBuilt initial (.hangup next :: rest) =
      lastBuilt ((builtRouter? next).getD initial) rest := by
  unfold lastBuilt
  cases h : builtRouter? next <;>
    simp only [hangups, List.filterMap_cons, h, List.getLastD_cons, Option.getD_some,
      Option.getD_none]

/-- A run leaves the server holding the last router a reload installed, with its time budget
as it was. -/
theorem Server.run_eq (s : Server) (inputs : List ServerInput) :
    (s.run inputs).1 = { router := lastBuilt s.router inputs, timeoutMs := s.timeoutMs } := by
  induction inputs generalizing s with
  | nil => rfl
  | cons input rest ih =>
    cases input with
    | hangup next =>
      simp only [Server.run, Server.step]
      rw [ih, lastBuilt_hangup, Server.reload_eq]
      cases builtRouter? next <;> rfl
    | request endpoint raw =>
      simp only [Server.run, Server.step]
      rw [ih]
      rfl

theorem Server.run_answers_length (s : Server) (inputs : List ServerInput) :
    (s.run inputs).2.1.length = inputs.length := by
  induction inputs generalizing s with
  | nil => rfl
  | cons input rest ih => simp [Server.run, ih]

theorem Server.run_answers_append (s : Server) (xs ys : List ServerInput) :
    (s.run (xs ++ ys)).2.1 = (s.run xs).2.1 ++ ((s.run xs).1.run ys).2.1 := by
  induction xs generalizing s with
  | nil => rfl
  | cons x xs ih => simp [Server.run, ih]

/-- A request is answered by the server as the inputs before it left it. -/
theorem Server.run_request_answer (s : Server) (pre : List ServerInput) (endpoint : Endpoint)
    (raw : RawRequest) (post : List ServerInput) :
    (s.run (pre ++ .request endpoint raw :: post)).2.1[pre.length]? =
      some (some ((s.run pre).1.handle endpoint raw).1) := by
  rw [Server.run_answers_append, List.getElem?_append_right (by simp [Server.run_answers_length]),
    Server.run_answers_length, Nat.sub_self]
  simp [Server.run, Server.step]

/-- A started server holds the router its configuration builds, and its time budget. -/
theorem Server.start_ok {c : DispatcherConfig} {s : Server} (h : (Server.start c).1 = .ok s) :
    (∃ built, c.buildRouter = .ok (s.router, built)) ∧ s.timeoutMs = c.dispatchTimeoutMs := by
  unfold Server.start at h
  cases hb : c.buildRouter with
  | error e => simp [hb] at h
  | ok rb =>
    obtain ⟨router, built⟩ := rb
    simp only [hb] at h
    split at h
    · cases h
    · cases h
      exact ⟨⟨built, rfl⟩, rfl⟩

/-- **Reloads keep the last router that built.** A started server holds the router its
configuration builds; after any run of hangups and requests it holds the router of the last
reload whose configuration loaded, validated and built, or the first one, with its time budget
unchanged; a reload that fails leaves a server exactly as it was; and each request is answered
by the server holding the router installed before the request arrived. -/
theorem serve_uses_last_built_router {c₀ : DispatcherConfig} {s₀ : Server}
    (hstart : (Server.start c₀).1 = .ok s₀) :
    (∃ built, c₀.buildRouter = .ok (s₀.router, built)) ∧
      (∀ inputs, (s₀.run inputs).1 =
        { router := lastBuilt s₀.router inputs, timeoutMs := s₀.timeoutMs }) ∧
      (∀ (s : Server) next, builtRouter? next = none → (s.step (.hangup next)).1 = s) ∧
      ∀ pre endpoint raw post, (s₀.run (pre ++ .request endpoint raw :: post)).2.1[pre.length]? =
        some (some (({ router := lastBuilt s₀.router pre, timeoutMs := s₀.timeoutMs } : Server).handle
          endpoint raw).1) := by
  refine ⟨(Server.start_ok hstart).1, s₀.run_eq, fun s next h => ?_, fun pre endpoint raw post => ?_⟩
  · simp only [Server.step, Server.reload_eq, h]
  · rw [Server.run_request_answer, Server.run_eq]

/-- A server started with the one rule `news/:id`. -/
theorem serve_uses_last_built_router_news :
    let c₀ : DispatcherConfig :=
      { listener := ⟨"0.0.0.0", 3000⟩, adminListener := ⟨"127.0.0.1", 3001⟩,
        rules := [{ pattern := some "news/:id", target := { route := some "News/read" } }] }
    ∃ s₀, (Server.start c₀).1 = .ok s₀ ∧
      (∃ built, c₀.buildRouter = .ok (s₀.router, built)) ∧
      (∀ inputs, (s₀.run inputs).1 =
        { router := lastBuilt s₀.router inputs, timeoutMs := s₀.timeoutMs }) ∧
      (∀ (s : Server) next, builtRouter? next = none → (s.step (.hangup next)).1 = s) ∧
      ∀ pre endpoint raw post, (s₀.run (pre ++ .request endpoint raw :: post)).2.1[pre.length]? =
        some (some (({ router := lastBuilt s₀.router pre, timeoutMs := s₀.timeoutMs } : Server).handle
          endpoint raw).1) := by
  intro c₀
  have hok : (Server.start c₀).1.isOk = true := by decide +kernel
  cases hstart : (Server.start c₀).1 with
  | error e =>
    rw [hstart] at hok
    cases hok
  | ok s₀ => exact ⟨s₀, rfl, serve_uses_last_built_router hstart⟩

end RuleRouting
