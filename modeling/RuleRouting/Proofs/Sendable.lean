import RuleRouting.Config.Build
import RuleRouting.Proofs.Groups
import RuleRouting.Proofs.Slicing
import RuleRouting.Service.Dispatch

/-!
# A configured router never answers with a server error

The service answers a request with a 500 only when the router sends it to a redirect that
cannot be sent: a status outside 100–999 or a location that is not a header value. A router
built from a configuration never does, on a request whose path is a header value, when the
configuration's external addresses are header values:

* every redirect target it compiles has a 3xx status, the default 301 or a validated one,
  and its address as location;
* a location is the address with references replaced by captured values, and what a rule
  captures is a piece of the path (`RulePattern.mem_of_mem_captures`,
  `Regex.mem_of_mem_captures`), so a location holds characters of the address and of the
  path only (`mem_substitute`);
* a configuration binds no handler, in its rules or in its domain rules.

The invariant is `Router.Sendable`: every entry under every filter has sendable targets and
no domain rule names a handler.

* `Router.firstMatch_sendable` — the outcome of a sendable router on a path that is a header
  value can be sent;
* `DispatcherConfig.buildRouter_sendable` — every step of the build keeps the router
  sendable;
* `respond_never_500` — **a configured router never makes the service answer with a 500, and
  each of its redirects has a 3xx status and a location that is a header value**.
-/

namespace RuleRouting

open Http

/-! ## Where captured and substituted text comes from -/

theorem mem_intercalate_of_mem {α : Type} {sep l : List α} {ls : List (List α)} {c : α}
    (hl : l ∈ ls) (hc : c ∈ l) : c ∈ sep.intercalate ls := by
  induction ls with
  | nil => cases hl
  | cons l' ls ih =>
    cases ls with
    | nil =>
      obtain rfl := List.mem_singleton.mp hl
      rwa [List.intercalate_singleton]
    | cons l'' ls' =>
      rw [List.intercalate_cons_cons]
      rcases List.mem_cons.mp hl with rfl | hl
      · simp [hc]
      · simp [ih hl]

/-- A piece of a split text holds only characters of the text. -/
theorem Text.mem_of_mem_split {s piece : String} {sep c : Char} (hp : piece ∈ Text.split s sep)
    (hc : c ∈ piece.toList) : c ∈ s.toList := by
  obtain ⟨l, hl, rfl⟩ := List.mem_map.mp hp
  rw [← @List.intercalate_splitOn _ s.toList _ _ sep]
  exact mem_intercalate_of_mem hl (by simpa using hc)

/-- The text a regular-expression group reports is made of characters of the text searched. -/
theorem Regex.mem_of_mem_captures {r : Regex.Compiled} {text s : String}
    {groups : List (Option String)} (h : r.captures text = some groups) (hs : some s ∈ groups)
    {c : Char} (hc : c ∈ s.toList) : c ∈ text.toList :=
  List.IsInfix.subset (Regex.infix_of_mem_captures h hs) hc

/-- The values matching collects are those it started with or parts of the path. -/
theorem RulePattern.mem_matchSegments {segs : List Segment} {parts : List String}
    {acc caps : OrderedMap String} (h : RulePattern.matchSegments segs parts acc = some caps)
    {v : String} (hv : v ∈ caps.values) : v ∈ acc.values ∨ v ∈ parts := by
  induction segs generalizing parts acc with
  | nil => cases h; exact .inl hv
  | cons seg segs ih =>
    cases parts with
    | nil => cases h
    | cons part parts =>
      cases seg with
      | literal text =>
        simp only [RulePattern.matchSegments] at h
        split at h
        · exact (ih h).imp id (List.mem_cons_of_mem _)
        · cases h
      | capture name c =>
        simp only [RulePattern.matchSegments] at h
        split at h
        · rcases ih h with hv | hv
          · rcases OrderedMap.mem_values_insert hv with hv | rfl
            · exact .inl hv
            · exact .inr List.mem_cons_self
          · exact .inr (List.mem_cons_of_mem _ hv)
        · cases h

/-- A captured value is made of characters of the path. -/
theorem RulePattern.mem_of_mem_captures {p : RulePattern} {path : String} {m : RuleMatch}
    (h : p.matchPath path = some m) {v : String} (hv : v ∈ m.captures.values) {c : Char}
    (hc : c ∈ v.toList) : c ∈ path.toList := by
  simp only [RulePattern.matchPath] at h
  split at h
  · cases h
  · split at h
    · cases h
    · obtain ⟨caps, hcaps, rfl⟩ := Option.map_eq_some_iff.mp h
      rcases RulePattern.mem_matchSegments hcaps hv with hv | hv
      · cases hv
      · exact Text.mem_of_mem_split hv hc

theorem Text.mem_of_mem_trimChar {s : String} {d c : Char} (h : c ∈ (Text.trimChar s d).toList) :
    c ∈ s.toList := by
  simp only [Text.trimChar, String.toList_ofList, List.mem_reverse] at h
  exact (List.dropWhile_sublist _).subset
    (List.mem_reverse.mp ((List.dropWhile_sublist _).subset h))

theorem Text.mem_of_mem_replaceChar {s : String} {a b c : Char}
    (h : c ∈ (Text.replaceChar s a b).toList) : c ∈ s.toList ∨ c = b := by
  simp only [Text.replaceChar, String.toList_ofList, List.mem_map] at h
  obtain ⟨x, hx, rfl⟩ := h
  by_cases hxa : x = a
  · simp [hxa]
  · simp [hxa, hx]

/-- A normalized path holds characters of the path and `/`. -/
theorem mem_of_mem_normalizePath {path : String} {sep c : Char}
    (h : c ∈ (normalizePath path sep).toList) : c ∈ path.toList ∨ c = '/' := by
  have hrep : ∀ {x}, x ∈ (if sep = '/' then path else Text.replaceChar path sep '/').toList →
      x ∈ path.toList ∨ x = '/' := by
    intro x hx
    split at hx
    · exact .inl hx
    · exact Text.mem_of_mem_replaceChar hx
  simp only [normalizePath] at h
  generalize ht : Text.trimChar (if sep = '/' then path else Text.replaceChar path sep '/') '/' = t
    at h
  split at h
  · exact .inr (by simpa using h)
  · rw [← ht] at h
    exact hrep (Text.mem_of_mem_trimChar h)

/-- The path left after the extension is split off is a prefix of the path. -/
theorem mem_of_mem_splitExtension {path : String} {c : Char}
    (h : c ∈ (splitExtension path).1.toList) : c ∈ path.toList := by
  simp only [splitExtension] at h
  split at h
  · split at h
    · rw [String.toList_ofList] at h
      exact List.mem_of_mem_take h
    · exact h
  · exact h

theorem RuleGroup.mem_of_mem_below {g : RuleGroup} {path rest : String}
    (h : g.below path = some rest) {c : Char} (hc : c ∈ rest.toList) : c ∈ path.toList := by
  rcases RuleGroup.eq_of_below h with rfl | ⟨-, rfl⟩
  · simp [hc]
  · cases hc

theorem mem_referenceValue {lookup : Nat → Option String} {digits : List Char} {c : Char}
    (h : c ∈ (referenceValue lookup digits).toList) : ∃ i v, lookup i = some v ∧ c ∈ v.toList := by
  unfold referenceValue at h
  split at h
  · rename_i n _
    split at h
    · cases hl : lookup n with
      | none => simp [hl] at h
      | some v => exact ⟨n, v, hl, by simpa [hl] using h⟩
    · simp at h
  · simp at h

/-- Substituting references writes characters of the template and of the values referred to. -/
theorem mem_substituteChars {lookup : Nat → Option String} {cs : List Char} {c : Char}
    (h : c ∈ substituteChars lookup cs) : c ∈ cs ∨ ∃ i v, lookup i = some v ∧ c ∈ v.toList := by
  fun_induction substituteChars lookup cs with
  | case1 => cases h
  | case2 rest digits hd ih =>
    rcases List.mem_cons.mp h with rfl | h
    · exact .inl List.mem_cons_self
    · exact (ih h).imp (List.mem_cons_of_mem _) id
  | case3 rest digits hd ih =>
    rcases List.mem_append.mp h with h | h
    · exact .inr (mem_referenceValue h)
    · exact (ih h).imp (fun h => List.mem_cons_of_mem _ (List.mem_of_mem_drop h)) id
  | case4 x rest hx ih =>
    rcases List.mem_cons.mp h with rfl | h
    · exact .inl List.mem_cons_self
    · exact (ih h).imp (List.mem_cons_of_mem _) id

theorem mem_substitute {template : String} {lookup : Nat → Option String} {c : Char}
    (h : c ∈ (substitute template lookup).toList) :
    c ∈ template.toList ∨ ∃ i v, lookup i = some v ∧ c ∈ v.toList := by
  rw [substitute, String.toList_ofList] at h
  exact mem_substituteChars h

/-- The rule a host resolves to is one of the table's rules. -/
theorem DomainTable.mem_of_resolve {t : DomainTable} {host : String} {d : DomainMatch}
    (h : t.resolve host = some d) : d.target ∈ t.rules.values := by
  have hmap : ∀ {k : String} {w : Option String},
      (t.rules.get? k).map (fun target => (⟨target, w⟩ : DomainMatch)) = some d →
        d.target ∈ t.rules.values := by
    intro k w hk
    obtain ⟨target, hget, rfl⟩ := Option.map_eq_some_iff.mp hk
    exact OrderedMap.mem_values_of_get? hget
  simp only [DomainTable.resolve] at h
  split at h
  · cases h
    exact OrderedMap.mem_values_of_get? ‹_›
  · split at h
    · cases h
    · split at h
      · cases h
        exact OrderedMap.mem_values_of_get? ‹_›
      · split at h
        · rename_i m hm
          cases h
          split at hm
          · split at hm
            · cases hm
            · exact hmap hm
          · cases hm
        · split at h
          · exact hmap h
          · cases h

/-! ## Sendable outcomes and targets -/

/-- A character a header value may hold: a tab, or anything but a control character. -/
def headerValueChar (c : Char) : Bool :=
  c = '\t' || (c.toNat ≥ 32 && c.toNat ≠ 127)

theorem isHeaderValue_iff {s : String} :
    isHeaderValue s = true ↔ ∀ c ∈ s.toList, headerValueChar c = true :=
  List.all_eq_true

/-- A redirect the service can send: a 3xx status and a location that is a header value. -/
def Redirect.Sendable (rd : Redirect) : Prop :=
  300 ≤ rd.status ∧ rd.status < 400 ∧ isHeaderValue rd.location = true

/-- An outcome the service can answer without a server error: a redirect must be sendable. -/
def MatchResult.Sendable : MatchResult → Prop
  | .redirect rd => rd.Sendable
  | _ => True

/-- A target whose outcomes the service can always send: a redirect with a 3xx status to an
address that is a header value, or a route. A handler may answer anything. -/
def Target.Sendable : Target → Prop
  | .redirect address status => 300 ≤ status ∧ status < 400 ∧ isHeaderValue address = true
  | .route _ _ => True
  | .handler _ => False

/-- A redirect target sends, after substitution, a location made of its address and of
values that are header values. -/
theorem redirect_sendable {address : String} {status : Nat} (ht : (Target.redirect address status).Sendable)
    {lookup : Nat → Option String} (hl : ∀ i v, lookup i = some v → isHeaderValue v = true) :
    (MatchResult.redirect ⟨substitute address lookup, status⟩).Sendable := by
  obtain ⟨hlo, hhi, haddr⟩ := ht
  refine ⟨hlo, hhi, isHeaderValue_iff.mpr fun c hc => ?_⟩
  rcases mem_substitute hc with hc | ⟨i, v, hv, hc⟩
  · exact isHeaderValue_iff.mp haddr c hc
  · exact isHeaderValue_iff.mp (hl i v hv) c hc

theorem resolveRule_sendable {m : RuleMatch} {target : Target} {req : RouteRequest}
    {st : DispatchState} {res : MatchResult} (ht : target.Sendable)
    (hcap : ∀ v ∈ m.captures.values, isHeaderValue v = true)
    (h : resolveRule m target req st = some res) : res.Sendable := by
  cases target with
  | handler hd => exact ht.elim
  | route address extra =>
    simp only [resolveRule] at h
    cases h
    trivial
  | redirect address status =>
    simp only [resolveRule] at h
    cases h
    refine redirect_sendable ht fun i v hv => hcap v ?_
    split at hv
    · cases hv
    · exact List.mem_of_getElem? hv

theorem resolveRegex_sendable {m : RegexMatch} {path : String} {target : Target}
    {req : RouteRequest} {st : DispatchState} {res : MatchResult} (ht : target.Sendable)
    (hgroups : ∀ v, some v ∈ m.groups → isHeaderValue v = true)
    (h : resolveRegex m path target req st = some res) : res.Sendable := by
  cases target with
  | handler hd => exact ht.elim
  | route address extra =>
    simp only [resolveRegex] at h
    cases h
    trivial
  | redirect address status =>
    simp only [resolveRegex] at h
    cases h
    refine redirect_sendable ht fun i v hv => hgroups v ?_
    exact List.mem_of_getElem? (Option.join_eq_some_iff.mp hv)

/-! ## Sendable routers -/

/-- On a path that is a header value, a leaf with a sendable target gives a sendable outcome:
what it captures are pieces of the path. -/
theorem Rule.outcome_sendable {rule : Rule} (ht : rule.target.Sendable) {path : String}
    (hpath : isHeaderValue path = true) {req : RouteRequest} {st : DispatchState}
    {res : MatchResult} (h : rule.outcome path req st = some res) : res.Sendable := by
  have hsub : ∀ v : String, (∀ c ∈ v.toList, c ∈ path.toList) → isHeaderValue v = true :=
    fun v hv => isHeaderValue_iff.mpr fun c hc => isHeaderValue_iff.mp hpath c (hv c hc)
  unfold Rule.outcome at h
  split at h
  · rename_i p _
    obtain ⟨m, hm, h⟩ := Option.bind_eq_some_iff.mp h
    obtain ⟨groups, hg, rfl⟩ := Option.map_eq_some_iff.mp hm
    exact resolveRegex_sendable ht (fun v hv => hsub v fun c hc =>
      Regex.mem_of_mem_captures hg hv hc) h
  · obtain ⟨m, hm, h⟩ := Option.bind_eq_some_iff.mp h
    exact resolveRule_sendable ht (fun v hv => hsub v fun c hc =>
      RulePattern.mem_of_mem_captures hm hv hc) h

/-- An entry whose leaves, or whose group's children, have sendable targets. -/
def Entry.Sendable : Entry → Prop
  | .rule r => r.target.Sendable
  | .group g => ∀ c ∈ g.children, c.target.Sendable

theorem Entry.attempt_sendable {e : Entry} (he : e.Sendable) {path : String}
    (hpath : isHeaderValue path = true) {req : RouteRequest} {st : DispatchState}
    {res : MatchResult} (h : e.attempt path req st = some res) : res.Sendable := by
  unfold Entry.attempt at h
  split at h
  · cases e with
    | rule r => exact Rule.outcome_sendable he hpath h
    | group g =>
      obtain ⟨rest, hrest, h⟩ := Option.bind_eq_some_iff.mp h
      obtain ⟨c, hc, h⟩ := List.exists_of_findSome?_eq_some h
      unfold Rule.attempt at h
      split at h
      · have hrest' : isHeaderValue rest = true := isHeaderValue_iff.mpr fun x hx =>
          isHeaderValue_iff.mp hpath x (RuleGroup.mem_of_mem_below hrest hx)
        exact Rule.outcome_sendable (he c hc) hrest' h
      · cases h
  · cases h

/-- A rule table whose entries, under every filter, are sendable. -/
def RuleTable.Sendable (t : RuleTable) : Prop :=
  ∀ f, ∀ e ∈ (t.rulesUnder f).values, e.Sendable

theorem RuleTable.Sendable.candidates {t : RuleTable} (ht : t.Sendable) (m : Method) :
    ∀ e ∈ t.candidates m, e.Sendable := by
  intro e he
  rw [RuleTable.candidates_eq_forMethod] at he
  rcases List.mem_append.mp he with he | he
  · exact ht (.only m) e he
  · obtain ⟨p, hp, rfl⟩ := List.mem_map.mp he
    exact ht .any p.2 (List.mem_map_of_mem (List.mem_of_mem_filter hp))

/-- A router whose rules are sendable and whose domain rules hand nothing to a handler. -/
def Router.Sendable (r : Router) : Prop :=
  r.rules.Sendable ∧ ∀ h, DomainTarget.handler h ∉ r.domains.rules.values

/-- Without domain handlers, the domain stage never finishes a request. -/
theorem DomainTable.stage_none {t : DomainTable} (ht : ∀ h, DomainTarget.handler h ∉ t.rules.values)
    (req : RouteRequest) : (t.stage req).1 = none := by
  unfold DomainTable.stage
  cases hr : req.host.bind t.resolve with
  | none => rfl
  | some d =>
    obtain ⟨host, -, hresolve⟩ := Option.bind_eq_some_iff.mp hr
    have hd := DomainTable.mem_of_resolve hresolve
    dsimp only
    cases htarget : d.target with
    | module m => rfl
    | moduleWithQuery m q => rfl
    | handler h => exact absurd (htarget ▸ hd) (ht h)

/-- **Every outcome of a sendable router on a path that is a header value is sendable.** -/
theorem Router.firstMatch_sendable {r : Router} (hr : r.Sendable) {req : RouteRequest}
    (hpath : isHeaderValue (r.normalize req.path) = true) : (r.firstMatch req).Sendable := by
  unfold Router.firstMatch
  rcases hs : r.domains.stage req with ⟨early, st⟩
  have hearly : early = none := by
    have := DomainTable.stage_none hr.2 req
    rw [hs] at this
    exact this
  subst hearly
  dsimp only
  cases r.urlMap.get? (r.normalize req.path) with
  | some address => trivial
  | none =>
    dsimp only
    cases hf : (r.rules.candidates req.method).findSome? (Entry.attempt (r.normalize req.path) req st) with
    | none => trivial
    | some res =>
      obtain ⟨e, he, h⟩ := List.exists_of_findSome?_eq_some hf
      exact Entry.attempt_sendable (hr.1.candidates req.method e he) hpath h

/-! ## A configured router is sendable -/

/-- A registration target whose compiled leaf target, whatever the pattern, is sendable. -/
def RouteSpec.CompilesSendable (spec : RouteSpec) : Prop :=
  ∀ pattern t, Target.compile pattern spec = .ok t → t.Sendable

theorem compileChildren_mem {children : List (String × RouteSpec)} {rs : List Rule}
    (h : compileChildren children = .ok rs) :
    ∀ r ∈ rs, ∃ x ∈ children, Rule.compile x.1 x.2 {} = .ok r := by
  induction children generalizing rs with
  | nil => cases h; simp
  | cons x rest ih =>
    obtain ⟨r, hr, h⟩ := bind_eq_ok.mp h
    obtain ⟨rs', hrs, h⟩ := bind_eq_ok.mp h
    cases h
    rintro r' (_ | ⟨_, hr'⟩)
    · exact ⟨x, List.mem_cons_self, hr⟩
    · obtain ⟨y, hy, hy'⟩ := ih hrs r' hr'
      exact ⟨y, List.mem_cons_of_mem _ hy, hy'⟩

theorem Rule.compile_sendable {pattern : String} {spec : RouteSpec} {option : RuleOption}
    {r : Rule} (hspec : spec.CompilesSendable) (h : Rule.compile pattern spec option = .ok r) :
    r.target.Sendable := by
  obtain ⟨_, t, ht, rfl, -⟩ := Rule.compile_ok h
  exact hspec pattern t ht

/-- What a registration compiles is sendable when its leaf targets, or its children's, are. -/
theorem compileRegistration_sendable {pattern : String} {spec : RouteSpec} {methods : String}
    {option : RuleOption} {filters : List MethodFilter} {key : String} {entry : Entry}
    (hspec : spec.CompilesSendable)
    (hchildren : ∀ children, spec = .group children → ∀ x ∈ children, x.2.CompilesSendable)
    (h : compileRegistration pattern spec methods option = .ok (filters, key, entry)) :
    entry.Sendable := by
  rcases (compileRegistration_ok h).2 with ⟨children, g, -, rfl, hg, rfl⟩ | ⟨-, -, r, hr, rfl⟩
  · intro c hc
    obtain ⟨x, hx, hcx⟩ := compileChildren_mem (RuleGroup.compile_ok hg).2.2.2 c hc
    exact Rule.compile_sendable (hchildren children rfl x hx) hcx
  · exact Rule.compile_sendable hspec hr

theorem RuleTable.sendable_empty : ({} : RuleTable).Sendable := by
  intro f e he
  cases f with
  | any => exact absurd he OrderedMap.not_mem_values_empty
  | only m => exact absurd he OrderedMap.not_mem_values_empty

/-- A registration keeps the rule table sendable, and the domain rules as they were. -/
theorem RouterBuilder.register_sendable {b b' : RouterBuilder} {pattern : String}
    {spec : RouteSpec} {methods : String} {option : RuleOption} (hb : b.rules.Sendable)
    (hspec : spec.CompilesSendable)
    (hchildren : ∀ children, spec = .group children → ∀ x ∈ children, x.2.CompilesSendable)
    (h : b.register pattern spec methods option = .ok b') :
    b'.rules.Sendable ∧ b'.domains = b.domains := by
  obtain ⟨filters, key, entry, hc, rfl⟩ := RouterBuilder.register_ok h
  have hentry := compileRegistration_sendable hspec hchildren hc
  refine ⟨fun f e he => ?_, rfl⟩
  rw [RuleTable.rulesUnder_foldl_insert] at he
  split at he
  · rcases OrderedMap.mem_values_insert he with he | rfl
    · exact hb f e he
    · exact hentry
  · exact hb f e he

/-- An address with extra text compiles to a validated redirect or to a route. -/
theorem Target.compile_withExtra_sendable {pattern a extra : String} {t : Target}
    (ha : isExternal a = true → isHeaderValue a = true)
    (h : Target.compile pattern (.withExtra a extra) = .ok t) : t.Sendable := by
  simp only [Target.compile] at h
  split at h
  · rename_i hext
    split at h
    · split at h
      · cases h
        exact ⟨‹_ ∧ _›.1, ‹_ ∧ _›.2, ha hext⟩
      · cases h
    · cases h
  · cases h
    trivial

theorem Target.compile_address_sendable {pattern a : String} {t : Target}
    (ha : isExternal a = true → isHeaderValue a = true)
    (h : Target.compile pattern (.address a) = .ok t) : t.Sendable := by
  simp only [Target.compile] at h
  split at h
  · cases h
    exact ⟨by decide, by decide, ha ‹_›⟩
  · cases h
    trivial

/-- A configured target whose address, if external, is a header value compiles sendably. -/
theorem TargetConfig.spec_compilesSendable {t : TargetConfig}
    (h : isExternal (t.route.getD "") = true → isHeaderValue (t.route.getD "") = true) :
    t.spec.CompilesSendable := by
  intro pattern target ht
  unfold TargetConfig.spec at ht
  split at ht
  · exact Target.compile_withExtra_sendable h ht
  · exact Target.compile_withExtra_sendable h ht
  · exact Target.compile_address_sendable h ht

/-- Every route address of a configured rule that leaves the application is a header value. -/
def RuleConfig.ExternalAddressesSendable (r : RuleConfig) : Prop :=
  ∀ t ∈ r.target :: r.routes.map (·.target),
    isExternal (t.route.getD "") = true → isHeaderValue (t.route.getD "") = true

/-- Every route address of a configuration that leaves the application is a header value. -/
def DispatcherConfig.ExternalAddressesSendable (c : DispatcherConfig) : Prop :=
  ∀ r ∈ c.rules, r.ExternalAddressesSendable

theorem RouteSpec.group_compilesSendable (children : List (String × RouteSpec)) :
    (RouteSpec.group children).CompilesSendable :=
  fun _ _ h => nomatch h

theorem registerRule_sendable {b b' : RouterBuilder} {r : RuleConfig} (hb : b.rules.Sendable)
    (hr : r.ExternalAddressesSendable) (h : registerRule b r = .ok b') :
    b'.rules.Sendable ∧ b'.domains = b.domains := by
  unfold registerRule at h
  split at h
  · refine RouterBuilder.register_sendable hb (RouteSpec.group_compilesSendable _) ?_ h
    rintro children ⟨⟩ x hx
    obtain ⟨route, hroute, rfl⟩ := List.mem_map.mp hx
    exact TargetConfig.spec_compilesSendable
      (hr _ (List.mem_cons_of_mem _ (List.mem_map_of_mem hroute)))
  · refine RouterBuilder.register_sendable hb
      (TargetConfig.spec_compilesSendable (hr _ List.mem_cons_self)) ?_ h
    intro children hspec
    unfold TargetConfig.spec at hspec
    split at hspec <;> cases hspec
  · cases h

theorem registerRules_sendable {b b' : RouterBuilder} {rs : List RuleConfig}
    (hb : b.rules.Sendable) (hrs : ∀ r ∈ rs, r.ExternalAddressesSendable)
    (h : registerRules b rs = .ok b') : b'.rules.Sendable ∧ b'.domains = b.domains := by
  induction rs generalizing b with
  | nil => cases h; exact ⟨hb, rfl⟩
  | cons r rs ih =>
    obtain ⟨b₁, h₁, h⟩ := bind_eq_ok.mp h
    obtain ⟨hb₁, hd₁⟩ := registerRule_sendable hb (hrs r List.mem_cons_self) h₁
    obtain ⟨hb', hd'⟩ := ih hb₁ (fun r' hr' => hrs r' (List.mem_cons_of_mem _ hr')) h
    exact ⟨hb', hd'.trans hd₁⟩

theorem DomainConfig.target_ne_handler (d : DomainConfig) (h : Handler) : d.target ≠ .handler h := by
  unfold DomainConfig.target
  split <;> nofun

/-- The domain rules of a configuration bind modules and never hand requests to a handler. -/
theorem domains_foldl_no_handler (ds : List DomainConfig) (b : RouterBuilder)
    (hb : ∀ h, DomainTarget.handler h ∉ b.domains.rules.values) (h : Handler) :
    DomainTarget.handler h ∉ (ds.foldl (fun b d => b.domain d.pattern d.target) b).domains.rules.values := by
  induction ds generalizing b with
  | nil => exact hb h
  | cons d ds ih =>
    refine ih _ fun h' hh => ?_
    rcases OrderedMap.mem_values_insert hh with hh | hh
    · exact hb h' hh
    · exact d.target_ne_handler h' hh.symm

theorem RouterBuilder.foldl_map_rules (es : List (String × String)) (b : RouterBuilder) :
    (es.foldl (fun b e => b.map e.1 e.2) b).rules = b.rules ∧
      (es.foldl (fun b e => b.map e.1 e.2) b).domains = b.domains := by
  induction es generalizing b with
  | nil => exact ⟨rfl, rfl⟩
  | cons e es ih => exact ih _

theorem RouterBuilder.foldl_domain_rules (ds : List DomainConfig) (b : RouterBuilder) :
    (ds.foldl (fun b d => b.domain d.pattern d.target) b).rules = b.rules := by
  induction ds generalizing b with
  | nil => rfl
  | cons d ds ih => exact ih _

/-- **A router built from a configuration whose external addresses are header values is
sendable.** -/
theorem DispatcherConfig.buildRouter_sendable {c : DispatcherConfig} {router : Router}
    {built : LogEvent} (hbuild : c.buildRouter = .ok (router, built))
    (haddr : c.ExternalAddressesSendable) : router.Sendable := by
  obtain ⟨b, hb, hrb⟩ := map_eq_ok.mp hbuild
  cases hrb
  unfold DispatcherConfig.builder at hb
  have hmap := RouterBuilder.foldl_map_rules c.urlMap.entries (({} : RouterBuilder).withSeparator c.pathSeparator)
  have hinit : (c.domains.foldl (fun b d => b.domain d.pattern d.target)
      (c.urlMap.entries.foldl (fun b e => b.map e.1 e.2)
        (({} : RouterBuilder).withSeparator c.pathSeparator))).rules.Sendable := by
    rw [RouterBuilder.foldl_domain_rules, hmap.1]
    exact RuleTable.sendable_empty
  obtain ⟨hrules, hdomains⟩ := registerRules_sendable hinit haddr hb
  refine ⟨hrules, fun h => ?_⟩
  show DomainTarget.handler h ∉ b.domains.rules.values
  rw [hdomains]
  refine domains_foldl_no_handler _ _ (fun h' hh => ?_) h
  rw [hmap.2] at hh
  exact OrderedMap.not_mem_values_empty hh

/-! ## The service's answer -/

theorem routeRequest_path (r : Request) (timeoutMs : Option Nat) (elapsed : Nat → Nat) :
    (routeRequest r timeoutMs elapsed).path = (splitExtension r.uri.path).1 := rfl

/-- A sendable redirect is sent with its own status. -/
theorem redirectResponse_status {rd : Redirect} (h : rd.Sendable) :
    (redirectResponse rd).1.status = rd.status := by
  obtain ⟨hlo, hhi, hloc⟩ := h
  have hcode : isStatusCode rd.status = true := by
    simp only [isStatusCode, Bool.and_eq_true, decide_eq_true_eq]
    omega
  simp [redirectResponse, hcode, hloc]

/-- The service answers a request without a server error when every outcome it can dispatch
to is sendable. -/
theorem respond_status_ne {router : Router} {timeoutMs : Option Nat} {elapsed : Nat → Nat}
    {rq : Request}
    (hres : ∀ res, router.dispatch (routeRequest rq timeoutMs elapsed) = .ok res → res.Sendable) :
    (respond router timeoutMs elapsed rq).1.status ≠ 500 := by
  have hd : router.dispatch (routeRequest rq timeoutMs elapsed) =
      (router.dispatchTraced (routeRequest rq timeoutMs elapsed)).1 := rfl
  rcases ht : router.dispatchTraced (routeRequest rq timeoutMs elapsed) with ⟨result, events⟩
  rw [ht] at hd
  simp only [respond, ht]
  cases result with
  | error e => simp [errorResponse]
  | ok res =>
    cases res with
    | resolved resolved => simp [routeResponse]
    | handled body => simp
    | noMatch bound query => simp [routeResponse]
    | redirect rd =>
      have hs : rd.Sendable := hres _ hd
      dsimp only
      rw [redirectResponse_status hs]
      have := hs.2.1
      omega

/-- **A configured router never makes the service answer with a server error.** For a
configuration that builds and whose external route addresses are header values, a request
whose path is a header value, and whatever time its dispatch takes, the service's response is
not a 500 (a passed deadline is answered with a 503): every redirect the router
dispatches to has a status in 300–399 and a location that is a header value, and every resolved
or unmatched request is answered with its JSON envelope. -/
theorem respond_never_500 {c : DispatcherConfig} {router : Router} {built : LogEvent}
    (hbuild : c.buildRouter = .ok (router, built)) (haddr : c.ExternalAddressesSendable)
    (rq : Request) (hpath : isHeaderValue rq.uri.path = true) (timeoutMs : Option Nat)
    (elapsed : Nat → Nat) :
    (respond router timeoutMs elapsed rq).1.status ≠ 500 ∧
      ∀ rd, router.dispatch (routeRequest rq timeoutMs elapsed) = .ok (.redirect rd) →
        300 ≤ rd.status ∧ rd.status ≤ 399 ∧ isHeaderValue rd.location = true := by
  have hrouter := c.buildRouter_sendable hbuild haddr
  have hnorm : isHeaderValue (router.normalize (routeRequest rq timeoutMs elapsed).path) =
      true := by
    refine isHeaderValue_iff.mpr fun x hx => ?_
    rcases mem_of_mem_normalizePath hx with hx | rfl
    · rw [routeRequest_path] at hx
      exact isHeaderValue_iff.mp hpath x (mem_of_mem_splitExtension hx)
    · rfl
  have hres : ∀ res, router.dispatch (routeRequest rq timeoutMs elapsed) = .ok res →
      res.Sendable := by
    intro res h
    rcases dispatch_cases router (routeRequest rq timeoutMs elapsed) with hd | ⟨hd, -⟩
    · rw [hd, Except.ok.injEq] at h
      subst h
      exact Router.firstMatch_sendable hrouter hnorm
    · rw [hd] at h
      cases h
  refine ⟨respond_status_ne hres, fun rd h => ?_⟩
  obtain ⟨hlo, hhi, hloc⟩ := hres _ h
  exact ⟨hlo, by omega, hloc⟩

/-- The redirect rule `old/:id` to `/new.php?id=:1` with status 302, and a request for
`/old/7` under a budget of 5 ms whose `n`-th deadline check reads `n` ms. -/
theorem respond_never_500_old :
    let c : DispatcherConfig :=
      { listener := ⟨"0.0.0.0", 3000⟩, adminListener := ⟨"127.0.0.1", 3001⟩,
        rules := [{ pattern := some "old/:id",
                    target := { route := some "/new.php?id=:1", status := some 302 } }] }
    let rq : Request := { method := Method.get, uri := ⟨none, none, "/old/7", none⟩, headers := [] }
    ∃ router built, c.buildRouter = .ok (router, built) ∧ c.ExternalAddressesSendable ∧
      isHeaderValue rq.uri.path = true ∧
      (respond router (some 5) (fun n => n) rq).1.status ≠ 500 ∧
      ∀ rd, router.dispatch (routeRequest rq (some 5) (fun n => n)) = .ok (.redirect rd) →
        300 ≤ rd.status ∧ rd.status ≤ 399 ∧ isHeaderValue rd.location = true := by
  intro c rq
  have haddr : c.ExternalAddressesSendable := by
    simp only [c, DispatcherConfig.ExternalAddressesSendable, RuleConfig.ExternalAddressesSendable]
    decide +kernel
  have hok : c.buildRouter.isOk = true := by decide +kernel
  cases hbuild : c.buildRouter with
  | error e =>
    rw [hbuild] at hok
    cases hok
  | ok rb =>
    have hpath : isHeaderValue rq.uri.path = true := by decide
    exact ⟨rb.1, rb.2, rfl, haddr, hpath, respond_never_500 hbuild haddr rq hpath (some 5) (fun n => n)⟩

end RuleRouting
