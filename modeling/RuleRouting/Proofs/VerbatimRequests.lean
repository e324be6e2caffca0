import RuleRouting.Proofs.ConfiguredRouters

/-!
# Requests that spell the configuration

The service normalizes what it reads off a request: it splits an extension off the last path
segment (`/feed.xml` is routed as `/feed` with the extension `xml`), it lowercases the host and
drops its port, and the router normalizes the path with the separator. A configuration is kept
as written. So a literal of a configuration is reached by the request that spells it only where
those normalizations leave it alone, and where nothing else takes the request first:

* `splitExtension_slash_append`, `requestHost_of_isHostName` — a path without an extension is
  routed whole, and a lowercase host name in the `Host` header is the request's host;
* `RulePattern.matchPath_literal` — a relative pattern of literal segments matches its own text;
* `DispatcherConfig.router_eq` — a router built from a configuration is the router of its log
  (`DispatcherConfig.registrations`): its URL map, its domain rules and the writes of its rules,
  in order;
* `routeRequest_late_iff` — a request's deadline passes exactly when a budget is set and the
  milliseconds read at some check reach it;
* `DispatcherConfig.verbatim_requests_reach_literals` — **URL-map keys, literal rules for every
  method and exact host names are reached by the requests that spell them**, under those
  conditions and whatever time the dispatch takes, a literal rule's answer giving way only to
  the deadline; `configured_literals_unreachable` — the key `sitemap.xml`, the rule `feed.xml`
  and the host `API.example.com` are not.
-/

namespace RuleRouting

open Http

/-! ## What the service reads off a request -/

/-- A path ends in an extension: its last segment has text on both sides of its last dot. -/
def HasExtension (path : String) : Prop :=
  ∃ stem ext, (Text.split path '/').getLastD "" = stem ++ "." ++ ext ∧ '.' ∉ ext.toList ∧
    stem ≠ "" ∧ ext ≠ ""

/-- The last segment of `/s` is that of `s`. -/
theorem Text.lastPiece_slash_append (s : String) :
    (Text.split ("/" ++ s) '/').getLastD "" = (Text.split s '/').getLastD "" := by
  have hempty : Text.split "" '/' = [""] := rfl
  have h := Text.split_prefixed "" s
  rw [String.empty_append, hempty, List.singleton_append] at h
  rw [h, List.getLastD_cons]

/-- A path `/s` whose `s` has no extension is routed whole. -/
theorem splitExtension_slash_append {s : String} (h : ¬ HasExtension s) :
    splitExtension ("/" ++ s) = ("/" ++ s, none) := by
  apply splitExtension_of_not_cut
  intro stem ext hsplit
  rw [Text.lastPiece_slash_append] at hsplit
  obtain ⟨hlast, hdot⟩ := Text.eq_append_of_splitOnceRight hsplit
  by_contra hne
  refine h ⟨stem, ext, String.ext (by rw [hlast]; simp), hdot, ?_⟩
  simpa [not_or] using hne

/-- A path without a dot has no extension. -/
theorem not_hasExtension_of_not_mem {s : String} (h : '.' ∉ s.toList) : ¬ HasExtension s := by
  rintro ⟨stem, ext, hlast, -, -, -⟩
  obtain ⟨pre, hs, -, -⟩ := Text.exists_lastPiece s '/'
  have hdot : '.' ∈ ((Text.split s '/').getLastD "").toList := by
    rw [hlast]
    simp
  exact h (hs ▸ List.mem_append_right pre hdot)

section Fields

variable (r : Request) (timeoutMs : Option Nat) (elapsed : Nat → Nat)

theorem routeRequest_method : (routeRequest r timeoutMs elapsed).method = r.method := by
  unfold routeRequest
  split
  rfl

theorem routeRequest_host : (routeRequest r timeoutMs elapsed).host = requestHost r := by
  unfold routeRequest
  split
  rfl

theorem routeRequest_deadline :
    (routeRequest r timeoutMs elapsed).deadline = timeoutMs.map fun t => budgetClock t elapsed := by
  unfold routeRequest
  split
  rfl

/-- **The deadline passes exactly when a check reads the budget**: a request is late when a
budget is set and the milliseconds read at some deadline check reach it. -/
theorem routeRequest_late_iff :
    (routeRequest r timeoutMs elapsed).Late ↔ ∃ t n, timeoutMs = some t ∧ t ≤ elapsed n := by
  simp only [RouteRequest.Late, RouteRequest.deadlinePassed, routeRequest_deadline]
  cases timeoutMs with
  | none => simp
  | some t => simp [budgetClock]

end Fields

/-- A character of a host name: a lowercase ASCII letter, a digit, `-` or `.`. -/
def isHostChar (c : Char) : Bool :=
  ('a' ≤ c && c ≤ 'z') || ('0' ≤ c && c ≤ '9') || c == '-' || c == '.'

/-- A host name as the service reads it off a `Host` header: non-empty, of lowercase ASCII
letters, digits, `-` and `.`. -/
def IsHostName (host : String) : Prop :=
  host ≠ "" ∧ ∀ c ∈ host.toList, isHostChar c = true

instance (host : String) : Decidable (IsHostName host) :=
  @instDecidableAnd _ _ _ (List.decidableBAll _ host.toList)

example : IsHostName "api.example.com" ∧ ¬ IsHostName "API.example.com" := by decide

theorem isHostChar_toNat {c : Char} (h : isHostChar c = true) :
    (97 ≤ c.toNat ∧ c.toNat ≤ 122) ∨ (48 ≤ c.toNat ∧ c.toNat ≤ 57) ∨ c.toNat = 45 ∨
      c.toNat = 46 := by
  simp only [isHostChar, Bool.or_eq_true, Bool.and_eq_true, decide_eq_true_eq, beq_iff_eq,
    Char.le_def, UInt32.le_iff_toNat_le, Char.toNat_val] at h
  rcases h with ((h | h) | h) | h
  · exact .inl (by simpa using h)
  · exact .inr (.inl (by simpa using h))
  · subst h
    simp
  · subst h
    simp

theorem ne_of_isHostChar {c d : Char} (hc : isHostChar c = true) (hd : isHostChar d = false) :
    c ≠ d := by
  rintro rfl
  simp [hd] at hc

/-- ASCII lowercasing keeps a host name's characters. -/
theorem toLower_of_isHostChar {c : Char} (h : isHostChar c = true) : c.toLower = c := by
  have hn := isHostChar_toNat h
  unfold Char.toLower
  rw [dif_neg]
  simp only [ge_iff_le, UInt32.le_iff_toNat_le, Char.toNat_val]
  simp
  omega

/-- The authority scan reads a host name's characters one by one, changing nothing. -/
theorem scanAuthority_go_of_isHostChar {cs : List Char} (hcs : ∀ c ∈ cs, isHostChar c = true)
    (i : Nat) (s : AuthorityScan) : scanAuthority.go cs i s = some (i + cs.length, s) := by
  induction cs generalizing i with
  | nil => simp [scanAuthority.go]
  | cons c cs ih =>
    have hc := hcs c List.mem_cons_self
    have huri : isUriChar c.toNat = true := by
      have hn := isHostChar_toNat hc
      simp only [isUriChar, Bool.or_eq_true, Bool.and_eq_true, decide_eq_true_eq]
      omega
    rw [scanAuthority.go]
    simp only [ne_of_isHostChar hc (d := '/') rfl, ne_of_isHostChar hc (d := '?') rfl,
      ne_of_isHostChar hc (d := '#') rfl, ne_of_isHostChar hc (d := ':') rfl,
      ne_of_isHostChar hc (d := '[') rfl, ne_of_isHostChar hc (d := ']') rfl,
      ne_of_isHostChar hc (d := '@') rfl, ne_of_isHostChar hc (d := '%') rfl, huri,
      decide_false, Bool.or_false, Bool.false_eq_true, if_false, if_true]
    rw [ih (fun c hc' => hcs c (List.mem_cons_of_mem _ hc')) (i + 1)]
    simp [Nat.add_assoc, Nat.add_comm 1]

theorem parseAuthority_of_isHostName {host : String} (h : IsHostName host) :
    parseAuthority host = some host := by
  have hne : host.toList.isEmpty = false := by
    simpa [List.isEmpty_iff, String.toList_eq_nil_iff] using h.1
  have hscan : scanAuthority host.toList = some host.toList.length := by
    simp [scanAuthority, scanAuthority_go_of_isHostChar h.2]
  simp [parseAuthority, hne, hscan]

theorem authorityHost_of_isHostName {host : String} (h : IsHostName host) :
    authorityHost host = host := by
  have hat : '@' ∉ host.toList := fun hm => ne_of_isHostChar (h.2 _ hm) (d := '@') rfl rfl
  unfold authorityHost
  rw [Text.lastPiece_of_not_mem hat]
  dsimp only
  split
  · rename_i rest hrest
    exact (ne_of_isHostChar (h.2 '[' (by simp [hrest])) (d := '[') rfl rfl).elim
  · rw [List.takeWhile_eq_self_iff.mpr, String.ofList_toList]
    intro c hc
    simpa using ne_of_isHostChar (h.2 c hc) (d := ':') rfl

/-- **A lowercase host name in the `Host` header is the request's host**, as written. -/
theorem requestHost_of_isHostName {r : Request} {host : String} (hheader : r.header? "host" = some host)
    (h : IsHostName host) : requestHost r = some host := by
  have hvisible : isVisibleText host = true := by
    simp only [isVisibleText, List.all_eq_true, Bool.or_eq_true, Bool.and_eq_true,
      decide_eq_true_eq]
    intro c hc
    have hn := isHostChar_toNat (h.2 c hc)
    omega
  have hlower : Text.asciiLowercase host = host := by
    rw [Text.asciiLowercase, List.map_congr_left fun c hc => toLower_of_isHostChar (h.2 c hc),
      List.map_id', String.ofList_toList]
  simp [requestHost, hheader, hvisible, parseAuthority_of_isHostName h,
    authorityHost_of_isHostName h, hlower]

/-! ## Paths and literal patterns -/

theorem Text.trimChar_slash_append (s : String) :
    Text.trimChar ("/" ++ s) '/' = Text.trimChar s '/' := by
  simp [Text.trimChar]

/-- The path `/s` normalizes as `s` does. -/
theorem normalizePath_slash_append (s : String) (sep : Char) :
    normalizePath ("/" ++ s) sep = normalizePath s sep := by
  unfold normalizePath
  by_cases hsep : sep = '/'
  · simp only [hsep, if_true, Text.trimChar_slash_append]
  · have hreplace : Text.replaceChar ("/" ++ s) sep '/' = "/" ++ Text.replaceChar s sep '/' := by
      apply String.ext
      simp [Text.replaceChar, Ne.symm hsep]
    simp only [hsep, if_false, hreplace, Text.trimChar_slash_append]

/-- A relative pattern of literal segments: it does not start with `/` nor end with `$`, and no
segment starts with `:`. -/
def IsLiteralPattern (pattern : String) : Prop :=
  pattern.toList.head? ≠ some '/' ∧ pattern.toList.getLast? ≠ some '$' ∧
    ∀ seg ∈ Text.split pattern '/', seg.toList.head? ≠ some ':'

/-- A text is its trim of trailing `c`s followed by those. -/
theorem Text.eq_trimEndChar_append (s : String) (c : Char) :
    ∃ n, s.toList = (Text.trimEndChar s c).toList ++ List.replicate n c := by
  have htake : s.toList.reverse.takeWhile (· = c) =
      List.replicate (s.toList.reverse.takeWhile (· = c)).length c :=
    List.eq_replicate_iff.mpr ⟨rfl, fun x hx => by simpa using List.mem_takeWhile_imp hx⟩
  refine ⟨(s.toList.reverse.takeWhile (· = c)).length, ?_⟩
  rw [Text.trimEndChar, String.toList_ofList, ← List.reverse_replicate, ← htake,
    ← List.reverse_append, List.takeWhile_append_dropWhile, List.reverse_reverse]

/-- The pieces of a text trimmed of trailing separators are pieces of the text. -/
theorem Text.mem_split_of_mem_trimEndChar {s seg : String} {sep : Char}
    (h : seg ∈ Text.split (Text.trimEndChar s sep) sep) : seg ∈ Text.split s sep := by
  obtain ⟨n, hn⟩ := Text.eq_trimEndChar_append s sep
  cases n with
  | zero =>
    have hsplit : Text.split s sep = Text.split (Text.trimEndChar s sep) sep := by
      simp only [Text.split, hn, List.replicate_zero, List.append_nil]
    rw [hsplit]
    exact h
  | succ n =>
    have hsplit : Text.split s sep = Text.split (Text.trimEndChar s sep) sep ++
        Text.split (String.ofList (List.replicate n sep)) sep := by
      simp only [Text.split, hn, List.replicate_succ, List.splitOn_append_cons_self,
        List.map_append, String.toList_ofList]
    rw [hsplit]
    exact List.mem_append_left _ h

/-- A literal pattern's path: the pattern without its trailing `/`s, whatever the separator
when the pattern does not hold it. -/
theorem normalizePath_literal {q : String} {sep : Char} (hne : q ≠ "")
    (hlead : q.toList.head? ≠ some '/') (hsep : sep = '/' ∨ sep ∉ q.toList) :
    normalizePath q sep = Text.trimEndChar q '/' := by
  have hreplace : (if sep = '/' then q else Text.replaceChar q sep '/') = q := by
    by_cases h : sep = '/'
    · simp [h]
    · have hq : sep ∉ q.toList := hsep.resolve_left h
      simp only [h, if_false]
      apply String.ext
      simp only [Text.replaceChar, String.toList_ofList]
      calc q.toList.map (fun x => if x = sep then '/' else x) = q.toList.map id :=
            List.map_congr_left fun x hx => if_neg fun (hx' : x = sep) => hq (hx' ▸ hx)
        _ = q.toList := List.map_id _
  have htrim : Text.trimChar q '/' = Text.trimEndChar q '/' := by
    have hdrop : q.toList.dropWhile (· = '/') = q.toList := by
      cases h : q.toList with
      | nil => rfl
      | cons x xs =>
        have hx : x ≠ '/' := fun hx => hlead (by simp [h, hx])
        simp [hx]
    simp [Text.trimChar, Text.trimEndChar, hdrop]
  have hnonempty : Text.trimEndChar q '/' ≠ "" := by
    intro ht
    obtain ⟨n, hn⟩ := Text.eq_trimEndChar_append q '/'
    rw [ht] at hn
    cases n with
    | zero => exact hne (String.ext (by simpa using hn))
    | succ n => exact hlead (by simp [hn, List.replicate_succ])
  unfold normalizePath
  dsimp only
  rw [hreplace, htrim]
  split
  · rename_i heq
    exact absurd heq hnonempty
  · rfl

/-- **A relative pattern of literal segments matches its own text**, with its trailing `/`s
trimmed, capturing nothing and leaving nothing over. -/
theorem RulePattern.matchPath_literal {q : String} (h : IsLiteralPattern q) :
    (RulePattern.parse q).matchPath (Text.trimEndChar q '/') =
      some { captures := OrderedMap.empty, residual := "" } := by
  obtain ⟨-, hlast, hseg⟩ := h
  have hbody : RulePattern.bodyOf q = (q, false) := by
    unfold RulePattern.bodyOf
    split
    · rename_i rest hrev
      exact absurd (by rw [← List.head?_reverse, hrev]; rfl) hlast
    · rfl
  have hsegs : (RulePattern.parse q).segments =
      (Text.split (Text.trimEndChar q '/') '/').map .literal := by
    rw [RulePattern.parse_eq_bodyOf, hbody]
    dsimp only
    exact List.map_congr_left fun seg hs =>
      RulePattern.Segment.parse_of_head (hseg seg (Text.mem_split_of_mem_trimEndChar hs))
  have hexact : (RulePattern.parse q).exact = false := by
    rw [RulePattern.parse_eq_bodyOf, hbody]
  have hmatch : RulePattern.matchSegments ((Text.split (Text.trimEndChar q '/') '/').map .literal)
      (Text.split (Text.trimEndChar q '/') '/') OrderedMap.empty = some OrderedMap.empty := by
    simpa [RulePattern.matchSegments] using RulePattern.matchSegments_literals_append
      (Text.split (Text.trimEndChar q '/') '/') [] [] OrderedMap.empty
  unfold RulePattern.matchPath
  simp [hsegs, hexact, hmatch, Text.join]

/-- A relative pattern has rule syntax. -/
theorem isDelimited_of_head {q : String} (hlead : q.toList.head? ≠ some '/') :
    isDelimited q = false := by
  unfold isDelimited
  split
  · rename_i rest h
    exact absurd (by rw [h]; rfl) hlead
  · rfl

/-! ## A configuration as builder calls -/

/-- The builder call a configured rule makes: its group under the bracketed scope, or its
pattern; a rule with neither makes none. -/
def RuleConfig.step? (r : RuleConfig) : Option BuilderStep :=
  match r.pattern, r.group with
  | _, some scope =>
    some (.register ("[" ++ scope ++ "]")
      (.group (r.routes.map fun route => (route.pattern, route.target.spec))) r.methods
      r.option.toRuleOption)
  | some p, none => some (.register p r.target.spec r.methods r.option.toRuleOption)
  | none, none => none

theorem registerRule_eq_step (b : RouterBuilder) (r : RuleConfig) :
    registerRule b r = match r.step? with
      | some s => b.step s
      | none => throw .emptyPattern := by
  obtain ⟨methods, pattern, group, target, option, routes⟩ := r
  cases pattern <;> cases group <;> rfl

/-- What a builder call writes into the rule table: a registration that compiles writes its
entry under each of its filters. -/
def BuilderStep.writes : BuilderStep → List RuleWrite
  | .register pattern spec methods option =>
    match compileRegistration pattern spec methods option with
    | .ok (filters, key, entry) => filters.map fun f => (f, key, entry)
    | .error _ => []
  | _ => []

/-- What a configured rule writes into the rule table. -/
def RuleConfig.writes (r : RuleConfig) : List RuleWrite :=
  (r.step?.map BuilderStep.writes).getD []

/-- The builder calls a configuration makes: the separator, each URL-map entry, each domain
rule, then each rule. -/
def DispatcherConfig.steps (c : DispatcherConfig) : List BuilderStep :=
  (.separator c.pathSeparator :: c.urlMap.entries.map fun e => .map e.1 e.2) ++
    c.domains.map (fun d => .domain d.pattern d.target) ++ c.rules.filterMap RuleConfig.step?

/-- The log of a configuration: its URL map normalized with its separator, its domain rules
and the writes of its rules, in order. -/
def DispatcherConfig.registrations (c : DispatcherConfig) : Registrations :=
  { separator := c.pathSeparator,
    mapped := c.urlMap.entries.map fun e => (normalizePath e.1 c.pathSeparator, e.2),
    domainRules := c.domains.map fun d => (d.pattern, d.target),
    writes := c.rules.flatMap RuleConfig.writes }

/-- Registering configured rules runs their builder calls. -/
theorem RouterBuilder.run_rules {b b' : RouterBuilder} {rs : List RuleConfig}
    (h : registerRules b rs = .ok b') : b.run (rs.filterMap RuleConfig.step?) = .ok b' := by
  induction rs generalizing b with
  | nil => exact h
  | cons r rs ih =>
    obtain ⟨b₁, h₁, h⟩ := bind_eq_ok.mp h
    rw [registerRule_eq_step] at h₁
    cases hs : r.step? with
    | none =>
      rw [hs] at h₁
      cases h₁
    | some s =>
      rw [hs] at h₁
      simp only [List.filterMap_cons, hs, RouterBuilder.run, h₁]
      exact ih h

/-- Each rule of a configuration that registers makes a builder call that succeeds. -/
theorem registerRules_step {b b' : RouterBuilder} {rs : List RuleConfig}
    (h : registerRules b rs = .ok b') {r : RuleConfig} (hr : r ∈ rs) :
    ∃ (s : BuilderStep) (b₁ b₂ : RouterBuilder), r.step? = some s ∧ b₁.step s = .ok b₂ := by
  induction rs generalizing b with
  | nil => cases hr
  | cons r' rs ih =>
    obtain ⟨b₁, h₁, h⟩ := bind_eq_ok.mp h
    rcases List.mem_cons.mp hr with rfl | hr
    · rw [registerRule_eq_step] at h₁
      cases hs : r.step? with
      | none =>
        rw [hs] at h₁
        cases h₁
      | some s =>
        rw [hs] at h₁
        exact ⟨s, b, b₁, rfl, h₁⟩
    · exact ih h hr

/-- A configuration's builder is the run of its builder calls. -/
theorem DispatcherConfig.run_steps {c : DispatcherConfig} {b : RouterBuilder}
    (h : c.builder = .ok b) : RouterBuilder.run {} c.steps = .ok b := by
  simp only [DispatcherConfig.builder] at h
  have hmaps : RouterBuilder.run {}
      (.separator c.pathSeparator :: c.urlMap.entries.map fun e => .map e.1 e.2) =
        .ok (c.urlMap.entries.foldl (fun b e => b.map e.1 e.2)
          (({} : RouterBuilder).withSeparator c.pathSeparator)) :=
    RouterBuilder.run_map_of_step _ _ (fun _ _ => rfl) _ _
  have hdomains : RouterBuilder.run {}
      ((.separator c.pathSeparator :: c.urlMap.entries.map fun e => .map e.1 e.2) ++
        c.domains.map fun d => .domain d.pattern d.target) =
        .ok (c.domains.foldl (fun b d => b.domain d.pattern d.target)
          (c.urlMap.entries.foldl (fun b e => b.map e.1 e.2)
            (({} : RouterBuilder).withSeparator c.pathSeparator))) := by
    rw [RouterBuilder.run_append_of_ok hmaps]
    exact RouterBuilder.run_map_of_step _ _ (fun _ _ => rfl) _ _
  rw [DispatcherConfig.steps, RouterBuilder.run_append_of_ok hdomains]
  exact RouterBuilder.run_rules h

theorem Registrations.record_register (reg : Registrations) (pattern : String) (spec : RouteSpec)
    (methods : String) (option : RuleOption) :
    reg.record (.register pattern spec methods option) =
      { reg with writes := reg.writes ++ (BuilderStep.register pattern spec methods option).writes } := by
  cases hc : compileRegistration pattern spec methods option with
  | error e => simp [Registrations.record, BuilderStep.writes, hc]
  | ok x =>
    obtain ⟨filters, key, entry⟩ := x
    simp [Registrations.record, BuilderStep.writes, hc]

theorem RuleConfig.record_step {r : RuleConfig} {s : BuilderStep} (hs : r.step? = some s)
    (reg : Registrations) : reg.record s = { reg with writes := reg.writes ++ s.writes } := by
  unfold RuleConfig.step? at hs
  split at hs <;> cases hs <;> exact Registrations.record_register _ _ _ _ _

theorem Registrations.foldl_record_maps (es : List (String × String)) (reg : Registrations) :
    (es.map fun e => BuilderStep.map e.1 e.2).foldl Registrations.record reg =
      { reg with mapped := reg.mapped ++ es.map fun e => (normalizePath e.1 reg.separator, e.2) } := by
  induction es generalizing reg with
  | nil => simp
  | cons e es ih => simp [Registrations.record, ih]

theorem Registrations.foldl_record_domains (ds : List DomainConfig) (reg : Registrations) :
    (ds.map fun d => BuilderStep.domain d.pattern d.target).foldl Registrations.record reg =
      { reg with domainRules := reg.domainRules ++ ds.map fun d => (d.pattern, d.target) } := by
  induction ds generalizing reg with
  | nil => simp
  | cons d ds ih => simp [Registrations.record, ih]

theorem Registrations.foldl_record_rules (rs : List RuleConfig) (reg : Registrations) :
    (rs.filterMap RuleConfig.step?).foldl Registrations.record reg =
      { reg with writes := reg.writes ++ rs.flatMap RuleConfig.writes } := by
  induction rs generalizing reg with
  | nil => simp
  | cons r rs ih =>
    cases hs : r.step? with
    | none => simp [hs, ih, RuleConfig.writes]
    | some s => simp [hs, ih, RuleConfig.record_step hs, RuleConfig.writes]

theorem DispatcherConfig.ofSteps_steps (c : DispatcherConfig) :
    Registrations.ofSteps c.steps = c.registrations := by
  simp [Registrations.ofSteps, DispatcherConfig.steps, List.foldl_append,
    Registrations.foldl_record_maps, Registrations.foldl_record_domains,
    Registrations.foldl_record_rules, Registrations.record, DispatcherConfig.registrations]

/-- **A router built from a configuration is the router of its log.** -/
theorem DispatcherConfig.router_eq {c : DispatcherConfig} {router : Router} {built : LogEvent}
    (h : c.buildRouter = .ok (router, built)) : router = c.registrations.builder.build.1 := by
  obtain ⟨b, hb, hrb⟩ := map_eq_ok.mp h
  have hrouter : router = b.build.1 := (congrArg Prod.fst hrb).symm
  rw [hrouter, run_builds (DispatcherConfig.run_steps hb), DispatcherConfig.ofSteps_steps]

/-- A configured router's rule walk follows the log of the configuration. -/
theorem DispatcherConfig.firstMatch_eq {c : DispatcherConfig} {router : Router}
    {built : LogEvent} (h : c.buildRouter = .ok (router, built)) (req : RouteRequest) :
    router.firstMatch req = c.registrations.dispatch req := by
  have hcompiled : c.registrations.Compiled := by
    rw [← DispatcherConfig.ofSteps_steps]
    exact Registrations.ofSteps_compiled c.steps
  rw [DispatcherConfig.router_eq h, firstMatch_builder _ hcompiled]

/-- The domain rules of a configuration never finish a request. -/
theorem DispatcherConfig.stage_none (c : DispatcherConfig) (req : RouteRequest) :
    (DomainTable.stage ⟨OrderedMap.ofList c.registrations.domainRules⟩ req).1 = none := by
  apply DomainTable.stage_none
  intro h hh
  rw [OrderedMap.values_ofList] at hh
  obtain ⟨⟨p, t⟩, hp, rfl⟩ := List.mem_map.mp hh
  obtain ⟨d, -, hd⟩ := List.mem_map.mp (mem_latestByFirstArrival hp)
  exact d.target_ne_handler h (Prod.mk.inj hd).2

/-! ## The URL map and the walk of a configuration -/

/-- A URL-map key is found at its normalized path with its address, when no key with another
address normalizes alike. -/
theorem DispatcherConfig.lookup_mapped {c : DispatcherConfig} {k a : String}
    (hk : (k, a) ∈ c.urlMap.entries)
    (hagree : ∀ k' a', (k', a') ∈ c.urlMap.entries →
      normalizePath k' c.pathSeparator = normalizePath k c.pathSeparator → a' = a) :
    c.registrations.mapped.reverse.lookup (normalizePath k c.pathSeparator) = some a := by
  refine lookup_reverse_of_agree (List.mem_map.mpr ⟨(k, a), hk, rfl⟩) fun w hw => ?_
  obtain ⟨⟨k', a'⟩, hk', he⟩ := List.mem_map.mp hw
  obtain ⟨hn, rfl⟩ := Prod.mk.inj he
  exact hagree k' a' hk' hn

theorem DispatcherConfig.lookup_mapped_none {c : DispatcherConfig} {path : String}
    (h : ∀ k a, (k, a) ∈ c.urlMap.entries → normalizePath k c.pathSeparator ≠ path) :
    c.registrations.mapped.reverse.lookup path = none := by
  refine List.lookup_eq_none_iff.mpr fun p hp => ?_
  obtain ⟨⟨k, a⟩, hk, rfl⟩ := List.mem_map.mp (List.mem_reverse.mp hp)
  have hne := h k a hk
  rw [bne_iff_ne]
  dsimp only
  exact fun heq => hne heq.symm

/-! ## Rules that take a request -/

/-- A configured rule writes `key` into the rule table under the filter `f`. -/
def RuleConfig.Writes (r : RuleConfig) (f : MethodFilter) (key : String) : Prop :=
  ∃ e, (f, key, e) ∈ r.writes

/-- A configured rule takes a request at a path: an entry it writes for the request's method
or for every method accepts the request and gives an outcome there. -/
def RuleConfig.Takes (r : RuleConfig) (path : String) (req : RouteRequest) : Prop :=
  ∃ f key e, (f, key, e) ∈ r.writes ∧ (f = .any ∨ f = .only req.method) ∧
    e.option.allows req = true ∧ ∃ st, (e.declaredOutcome path req st).isSome

/-- An entry of a rule that does not take the request gives nothing in the walk. -/
theorem RuleConfig.attempt_eq_none {r : RuleConfig} {path : String} {req : RouteRequest}
    (h : ¬ r.Takes path req) {f : MethodFilter} {key : String} {e : Entry}
    (he : (f, key, e) ∈ r.writes) (hf : f = .any ∨ f = .only req.method) (st : DispatchState) :
    (if e.option.allows req then e.declaredOutcome path req st else none) = none := by
  by_cases ha : e.option.allows req
  · rw [if_pos ha]
    cases ho : e.declaredOutcome path req st with
    | none => rfl
    | some res => exact absurd ⟨f, key, e, he, hf, ha, st, by simp [ho]⟩ h
  · rw [if_neg ha]

/-- An entry among the writes of some rules gives nothing in the walk when the rule that wrote
it does not take the request. -/
theorem RuleConfig.attempt_eq_none_of_flatMap {rs : List RuleConfig} {path : String}
    {req : RouteRequest} {f : MethodFilter} {key : String} {e : Entry}
    (he : (f, key, e) ∈ rs.flatMap RuleConfig.writes)
    (h : ∀ r ∈ rs, (f, key, e) ∈ r.writes → ¬ r.Takes path req)
    (hf : f = .any ∨ f = .only req.method) (st : DispatchState) :
    (if e.option.allows req then e.declaredOutcome path req st else none) = none := by
  obtain ⟨r, hr, hw⟩ := List.mem_flatMap.mp he
  exact RuleConfig.attempt_eq_none (h r hr hw) hw hf st

/-- Rules none of which writes `key` under `f` leave no such write among their writes. -/
theorem RuleConfig.not_mem_flatMap_writes {rs : List RuleConfig} {f : MethodFilter}
    {key : String} (h : ∀ r ∈ rs, ¬ r.Writes f key) (e : Entry) :
    (f, key, e) ∉ rs.flatMap RuleConfig.writes := by
  intro hw
  obtain ⟨r, hr, hw'⟩ := List.mem_flatMap.mp hw
  exact h r hr ⟨e, hw'⟩

/-- Rules none of whose writes is under the filter `f` do not write under it. -/
theorem RuleConfig.not_writes_of_filters {rs : List RuleConfig} {f : MethodFilter}
    (h : f ∉ (rs.flatMap RuleConfig.writes).map (·.1)) {r : RuleConfig} (hr : r ∈ rs)
    (key : String) : ¬ r.Writes f key := by
  rintro ⟨e, he⟩
  exact h (List.mem_map.mpr ⟨(f, key, e), List.mem_flatMap.mpr ⟨r, hr, he⟩, rfl⟩)

/-- Only a handler registration compiles to a handler. -/
theorem Target.eq_handler_of_compile {pattern : String} {spec : RouteSpec} {hd : Handler}
    (h : Target.compile pattern spec = .ok (.handler hd)) : spec = .handler hd := by
  cases spec with
  | address a =>
    simp only [Target.compile] at h
    split at h <;> cases h
  | withExtra a extra =>
    simp only [Target.compile] at h
    split at h
    · split at h
      · split at h <;> cases h
      · cases h
    · cases h
  | handler h' =>
    cases h
    rfl
  | group children => cases h

theorem TargetConfig.spec_ne_handler (t : TargetConfig) (hd : Handler) : t.spec ≠ .handler hd := by
  unfold TargetConfig.spec
  split <;> simp

/-- A configured rule with a pattern, for every method and with default options, writes the
rule it compiles under its pattern, for every method. -/
theorem DispatcherConfig.writes_of_pattern {c : DispatcherConfig} {router : Router}
    {built : LogEvent} (h : c.buildRouter = .ok (router, built)) {rq : RuleConfig}
    (hrq : rq ∈ c.rules) {q : String} (hpat : rq.pattern = some q) (hgroup : rq.group = none)
    (hmeth : rq.methods = "*") (hopt : rq.option = {}) :
    ∃ rule, Rule.compile q rq.target.spec {} = .ok rule ∧ rq.writes = [(.any, q, .rule rule)] := by
  obtain ⟨b, hb, -⟩ := map_eq_ok.mp h
  simp only [DispatcherConfig.builder] at hb
  have hoption : rq.option.toRuleOption = {} := by
    rw [hopt]
    rfl
  have hstep : rq.step? = some (.register q rq.target.spec "*" {}) := by
    simp only [RuleConfig.step?, hpat, hgroup, hmeth, hoption]
  obtain ⟨s, b₁, b₂, hs, hrun⟩ := registerRules_step hb hrq
  rw [hstep, Option.some.injEq] at hs
  subst hs
  obtain ⟨fs, key, entry, hc, -⟩ := RouterBuilder.register_ok hrun
  obtain ⟨hfs, hcases⟩ := compileRegistration_ok hc
  have hany : fs = [.any] := by
    have hstar : MethodFilter.parseList "*" = some [.any] := by decide +kernel
    rw [hstar, Option.some.injEq] at hfs
    exact hfs.symm
  rcases hcases with ⟨children, g, -, hspec, -, -⟩ | ⟨-, rfl, rule, hrule, rfl⟩
  · exact absurd hspec (TargetConfig.spec_ne_group _ _)
  · refine ⟨rule, hrule, ?_⟩
    simp [RuleConfig.writes, hstep, BuilderStep.writes, hc, hany]

/-- A literal rule for a configured target gives an outcome on its own text. -/
theorem Rule.outcome_literal {q : String} {t : TargetConfig} {rule : Rule}
    (hq : IsLiteralPattern q) (h : Rule.compile q t.spec {} = .ok rule) (req : RouteRequest)
    (st : DispatchState) : (rule.outcome (Text.trimEndChar q '/') req st).isSome := by
  obtain ⟨target, ht, rfl⟩ := Rule.compile_of_not_delimited (isDelimited_of_head hq.1) h
  simp only [Rule.outcome, RulePattern.matchPath_literal hq, Option.bind_some]
  cases target with
  | route address extra => rfl
  | redirect address status => rfl
  | handler hd => exact absurd (Target.eq_handler_of_compile ht) (t.spec_ne_handler hd)

/-! ## Literals reached verbatim -/

section Reached

variable {c : DispatcherConfig} {router : Router} {built : LogEvent}

/-- The domain stage of a configured router, read off its log: it never finishes a request. -/
theorem DispatcherConfig.stage_eq (h : c.buildRouter = .ok (router, built)) (req : RouteRequest) :
    (DomainTable.mk (OrderedMap.ofList c.registrations.domainRules)).stage req =
      (none, (router.domains.stage req).2) := by
  rw [DispatcherConfig.router_eq h]
  exact Prod.ext (c.stage_none req) rfl

/-- The request for `/s`, where `s` has no extension, is routed at the path that `s` normalizes
to. -/
theorem DispatcherConfig.normalizePath_routeRequest {s : String} (hext : ¬ HasExtension s)
    {r : Request} (hpath : r.uri.path = "/" ++ s) (timeoutMs : Option Nat) (elapsed : Nat → Nat) :
    normalizePath (routeRequest r timeoutMs elapsed).path c.registrations.separator =
      normalizePath s c.pathSeparator := by
  rw [routeRequest_path, hpath, splitExtension_slash_append hext, normalizePath_slash_append]
  rfl

/-- A URL-map key is reached by the request for `/key`, whatever the deadline and the time the
dispatch takes, when the key has no extension and no key with another address normalizes
alike: the URL map answers before any deadline check. -/
theorem DispatcherConfig.dispatch_mapped_key (h : c.buildRouter = .ok (router, built))
    {k a : String} (hk : (k, a) ∈ c.urlMap.entries)
    (hagree : ∀ k' a', (k', a') ∈ c.urlMap.entries →
      normalizePath k' c.pathSeparator = normalizePath k c.pathSeparator → a' = a)
    (hext : ¬ HasExtension k) {r : Request} (hpath : r.uri.path = "/" ++ k)
    (timeoutMs : Option Nat) (elapsed : Nat → Nat) :
    router.dispatch (routeRequest r timeoutMs elapsed) =
      .ok (.resolved (resolveMapped a (router.domains.stage (routeRequest r timeoutMs elapsed)).2)) := by
  set req := routeRequest r timeoutMs elapsed
  have hnorm : normalizePath req.path c.registrations.separator =
      normalizePath k c.pathSeparator :=
    DispatcherConfig.normalizePath_routeRequest hext hpath timeoutMs elapsed
  have hlook := DispatcherConfig.lookup_mapped hk hagree
  have hdispatch : router.dispatch req = .ok (router.firstMatch req) := by
    rcases dispatch_cases router req with hd | ⟨-, -, -, hnone, -⟩
    · exact hd
    · rw [DispatcherConfig.router_eq h] at hnone
      change (OrderedMap.ofList c.registrations.mapped).get?
        (normalizePath req.path c.registrations.separator) = none at hnone
      rw [OrderedMap.get?_ofList, hnorm, hlook] at hnone
      cases hnone
  rw [hdispatch, DispatcherConfig.firstMatch_eq h,
    Registrations.dispatch_of_mapped (DispatcherConfig.stage_eq h _) (by rw [hnorm, hlook])]

/-- A rule registered with a literal pattern for every method and default options gives its
outcome for the `GET` request for `/pattern` when the service leaves the path alone, the URL map
does not hold it, and no other rule takes the request first: none registered under `GET` (which
the walk tries first), none registered before it, and none registered after it under its pattern
or under a pattern registered before it. The dispatch answers with that outcome, or stops at
the deadline, which takes a budget that the milliseconds read at some check reach. -/
theorem DispatcherConfig.dispatch_literal_rule (h : c.buildRouter = .ok (router, built))
    {pre post : List RuleConfig} {rq : RuleConfig} {q : String}
    (hrules : c.rules = pre ++ rq :: post) (hpat : rq.pattern = some q)
    (hgroup : rq.group = none) (hmeth : rq.methods = "*") (hopt : rq.option = {})
    (hlit : IsLiteralPattern q) (hext : ¬ HasExtension q)
    (hsep : c.pathSeparator = '/' ∨ c.pathSeparator ∉ q.toList)
    (hmap : ∀ k a, (k, a) ∈ c.urlMap.entries →
      normalizePath k c.pathSeparator ≠ normalizePath q c.pathSeparator)
    {r : Request} (elapsed : Nat → Nat) (hget : r.method = .get) (hpath : r.uri.path = "/" ++ q)
    (hgetkey : ∀ r' ∈ c.rules, ¬ r'.Writes (.only .get) q)
    (hgetrules : ∀ r' ∈ c.rules, (∃ k, r'.Writes (.only .get) k) →
      ¬ r'.Takes (normalizePath q c.pathSeparator) (routeRequest r c.dispatchTimeoutMs elapsed))
    (hpre : ∀ r' ∈ pre,
      ¬ r'.Takes (normalizePath q c.pathSeparator) (routeRequest r c.dispatchTimeoutMs elapsed))
    (hlast : ∀ r' ∈ post, ¬ r'.Writes .any q)
    (hlater : ∀ r' ∈ post, (∃ k, r'.Writes .any k ∧ ∃ r'' ∈ pre, r''.Writes .any k) →
      ¬ r'.Takes (normalizePath q c.pathSeparator) (routeRequest r c.dispatchTimeoutMs elapsed)) :
    ∃ rule res, Rule.compile q rq.target.spec {} = .ok rule ∧
      rule.outcome (normalizePath q c.pathSeparator) (routeRequest r c.dispatchTimeoutMs elapsed)
        (router.domains.stage (routeRequest r c.dispatchTimeoutMs elapsed)).2 = some res ∧
      (router.dispatch (routeRequest r c.dispatchTimeoutMs elapsed) = .ok res ∨
        (router.dispatch (routeRequest r c.dispatchTimeoutMs elapsed) = .error .deadlineExceeded ∧
          ∃ t n, c.dispatchTimeoutMs = some t ∧ t ≤ elapsed n)) := by
  set req := routeRequest r c.dispatchTimeoutMs elapsed with hreq
  set path := normalizePath q c.pathSeparator
  set st := (router.domains.stage req).2 with hst
  obtain ⟨rule, hrule, hwrites⟩ := DispatcherConfig.writes_of_pattern h
    (hrules ▸ List.mem_append_right pre List.mem_cons_self) hpat hgroup hmeth hopt
  have hne : q ≠ "" := by
    rintro rfl
    cases hrule
  have hpathq : path = Text.trimEndChar q '/' := normalizePath_literal hne hlit.1 hsep
  obtain ⟨res, hres⟩ := Option.isSome_iff_exists.mp (Rule.outcome_literal hlit hrule req st)
  rw [← hpathq] at hres
  have hmethod : req.method = Method.get := by rw [routeRequest_method, hget]
  have hreqpath : normalizePath req.path c.registrations.separator = path :=
    DispatcherConfig.normalizePath_routeRequest hext hpath _ _
  have hwrites' : c.registrations.writes = pre.flatMap RuleConfig.writes ++
      (.any, q, .rule rule) :: post.flatMap RuleConfig.writes := by
    simp [DispatcherConfig.registrations, hrules, List.flatMap_append, hwrites]
  have hoption : rule.option = {} := by
    obtain ⟨_, _, -, rfl, -⟩ := Rule.compile_ok hrule
    rfl
  have hown : ∀ k e, (MethodFilter.only Method.get, k, e) ∈ c.registrations.writes →
      (if e.option.allows req then e.declaredOutcome path req st else none) = none := by
    intro k e hw
    exact RuleConfig.attempt_eq_none_of_flatMap hw (fun r' hr' hw' => hgetrules r' hr' ⟨k, e, hw'⟩)
      (.inr (by rw [hmethod])) st
  have hbefore : ∀ k e, (MethodFilter.any, k, e) ∈ pre.flatMap RuleConfig.writes →
      (if e.option.allows req then e.declaredOutcome path req st else none) = none := by
    intro k e hw
    exact RuleConfig.attempt_eq_none_of_flatMap hw (fun r' hr' _ => hpre r' hr') (.inl rfl) st
  have hafter : ∀ k e e', (MethodFilter.any, k, e) ∈ post.flatMap RuleConfig.writes →
      (MethodFilter.any, k, e') ∈ pre.flatMap RuleConfig.writes →
      (if e.option.allows req then e.declaredOutcome path req st else none) = none := by
    intro k e e' hw hw'
    obtain ⟨r'', hr'', hr''w⟩ := List.mem_flatMap.mp hw'
    exact RuleConfig.attempt_eq_none_of_flatMap hw
      (fun r' hr' hr'w => hlater r' hr' ⟨k, ⟨e, hr'w⟩, r'', hr'', e', hr''w⟩) (.inl rfl) st
  have hself : (if (Entry.rule rule).option.allows req then
      (Entry.rule rule).declaredOutcome path req st else none) = some res := by
    simp only [Entry.option, hoption, RuleOption.allows_default, if_true, Entry.declaredOutcome]
    exact hres
  have hfind := Registrations.findSome?_walkOrder hwrites' hown
    (RuleConfig.not_mem_flatMap_writes hgetkey) (RuleConfig.not_mem_flatMap_writes hlast) hbefore
    hafter hself
  have hfirst : router.firstMatch req = res := by
    rw [DispatcherConfig.firstMatch_eq h,
      Registrations.dispatch_of_unmapped (DispatcherConfig.stage_eq h _)
        (by rw [hreqpath]; exact DispatcherConfig.lookup_mapped_none hmap),
      hreqpath, hmethod, ← hst, hfind, Option.getD_some]
  refine ⟨rule, res, hrule, hres, ?_⟩
  rcases dispatch_cases router req with hd | ⟨hd, hlate, -⟩
  · exact .inl (by rw [hd, hfirst])
  · exact .inr ⟨hd, (routeRequest_late_iff r c.dispatchTimeoutMs elapsed).mp hlate⟩

/-- An exact host name of the domain rules, in the `Host` header, selects the last domain rule
written for it. -/
theorem DispatcherConfig.resolve_host_name (h : c.buildRouter = .ok (router, built))
    {pre post : List DomainConfig} {d : DomainConfig} (hd : c.domains = pre ++ d :: post)
    (hlast : ∀ d' ∈ post, d'.pattern ≠ d.pattern) (hname : IsHostName d.pattern) {r : Request}
    (hhost : r.header? "host" = some d.pattern) (timeoutMs : Option Nat) (elapsed : Nat → Nat) :
    (routeRequest r timeoutMs elapsed).host.bind router.domains.resolve =
      some ⟨d.target, none⟩ := by
  have hreq : (routeRequest r timeoutMs elapsed).host = some d.pattern := by
    rw [routeRequest_host, requestHost_of_isHostName hhost hname]
  have hnone : ((post.map fun d => (d.pattern, d.target)).reverse).lookup d.pattern = none := by
    refine List.lookup_eq_none_iff.mpr fun p hp => ?_
    obtain ⟨d', hd', rfl⟩ := List.mem_map.mp (List.mem_reverse.mp hp)
    rw [bne_iff_ne]
    exact fun heq => hlast d' hd' heq.symm
  have hget : router.domains.rules.get? d.pattern = some d.target := by
    rw [DispatcherConfig.router_eq h]
    change (OrderedMap.ofList c.registrations.domainRules).get? d.pattern = some d.target
    rw [OrderedMap.get?_ofList]
    simp [DispatcherConfig.registrations, hd, List.lookup_append, hnone]
  rw [hreq, Option.bind_some, DomainTable.resolve, hget]

end Reached

/-- What it means for a router to reach a configuration's literals by the requests that spell
them, whatever time their dispatch takes. -/
structure DispatcherConfig.LiteralsReached (c : DispatcherConfig) (router : Router) : Prop where
  /-- A URL-map key without an extension, where no key with another address normalizes alike,
  is resolved by its address for the request `/key`. -/
  mapped : ∀ k a, (k, a) ∈ c.urlMap.entries →
    (∀ k' a', (k', a') ∈ c.urlMap.entries →
      normalizePath k' c.pathSeparator = normalizePath k c.pathSeparator → a' = a) →
    ¬ HasExtension k → ∀ (r : Request) (elapsed : Nat → Nat), r.uri.path = "/" ++ k →
      router.dispatch (routeRequest r c.dispatchTimeoutMs elapsed) = .ok (.resolved
        (resolveMapped a (router.domains.stage (routeRequest r c.dispatchTimeoutMs elapsed)).2))
  /-- A literal rule for every method with default options, whose pattern has no extension,
  holds the separator only when it is `/` and is not a path of the URL map, gives its outcome
  for `GET /pattern` unless another rule takes the request first: one registered under `GET`,
  one registered before it, or one registered after it under its pattern or under a pattern
  registered before it. The dispatch answers with that outcome, or stops at the deadline once
  the milliseconds read at a check reach the budget. -/
  rule : ∀ pre rq post q, c.rules = pre ++ rq :: post → rq.pattern = some q →
    rq.group = none → rq.methods = "*" → rq.option = ({} : OptionConfig) → IsLiteralPattern q →
    ¬ HasExtension q → (c.pathSeparator = '/' ∨ c.pathSeparator ∉ q.toList) →
    (∀ k a, (k, a) ∈ c.urlMap.entries →
      normalizePath k c.pathSeparator ≠ normalizePath q c.pathSeparator) →
    ∀ (r : Request) (elapsed : Nat → Nat), r.method = .get → r.uri.path = "/" ++ q →
      (∀ r' ∈ c.rules, ¬ r'.Writes (.only .get) q) →
      (∀ r' ∈ c.rules, (∃ k, r'.Writes (.only .get) k) → ¬ r'.Takes
        (normalizePath q c.pathSeparator) (routeRequest r c.dispatchTimeoutMs elapsed)) →
      (∀ r' ∈ pre, ¬ r'.Takes
        (normalizePath q c.pathSeparator) (routeRequest r c.dispatchTimeoutMs elapsed)) →
      (∀ r' ∈ post, ¬ r'.Writes .any q) →
      (∀ r' ∈ post, (∃ k, r'.Writes .any k ∧ ∃ r'' ∈ pre, r''.Writes .any k) → ¬ r'.Takes
        (normalizePath q c.pathSeparator) (routeRequest r c.dispatchTimeoutMs elapsed)) →
      ∃ rule res, Rule.compile q rq.target.spec {} = .ok rule ∧
        rule.outcome (normalizePath q c.pathSeparator) (routeRequest r c.dispatchTimeoutMs elapsed)
          (router.domains.stage (routeRequest r c.dispatchTimeoutMs elapsed)).2 = some res ∧
        (router.dispatch (routeRequest r c.dispatchTimeoutMs elapsed) = .ok res ∨
          (router.dispatch (routeRequest r c.dispatchTimeoutMs elapsed) =
              .error .deadlineExceeded ∧
            ∃ t n, c.dispatchTimeoutMs = some t ∧ t ≤ elapsed n))
  /-- A host name of lowercase letters, digits, `-` and `.` in the `Host` header selects the
  last domain rule written for it. -/
  host : ∀ pre d post, c.domains = pre ++ d :: post → (∀ d' ∈ post, d'.pattern ≠ d.pattern) →
    IsHostName d.pattern → ∀ (r : Request) (elapsed : Nat → Nat),
      r.header? "host" = some d.pattern →
      (routeRequest r c.dispatchTimeoutMs elapsed).host.bind router.domains.resolve =
        some ⟨d.target, none⟩

/-- **A configuration's literals are reached by the requests that spell them**, wherever the
service's normalization leaves them as written and nothing else takes the request first; a
literal rule's answer gives way only to the deadline. -/
theorem DispatcherConfig.verbatim_requests_reach_literals {c : DispatcherConfig}
    {router : Router} {built : LogEvent} (h : c.buildRouter = .ok (router, built)) :
    c.LiteralsReached router :=
  ⟨fun _ _ hk hagree hext _ elapsed hpath =>
      DispatcherConfig.dispatch_mapped_key h hk hagree hext hpath _ elapsed,
    fun _ _ _ _ hrules hpat hgroup hmeth hopt hlit hext hsep hmap _ elapsed hget hpath hgetkey
        hgetrules hpre hlast hlater =>
      DispatcherConfig.dispatch_literal_rule h hrules hpat hgroup hmeth hopt hlit hext hsep hmap
        elapsed hget hpath hgetkey hgetrules hpre hlast hlater,
    fun _ _ _ hd hlast hname _ elapsed hhost =>
      DispatcherConfig.resolve_host_name h hd hlast hname hhost _ elapsed⟩

/-- The URL-map key `about`, the rule `feed` and the domain rule `api.example.com` under a
budget of 50 ms: `GET /about` resolves by its address, `GET /feed` with the rule's outcome
unless a check reads 50 ms, and the `Host` header `api.example.com` selects the domain rule,
whatever time the dispatch takes. -/
theorem DispatcherConfig.verbatim_requests_reach_literals_site :
    let feed : RuleConfig := { pattern := some "feed", target := { route := some "index/feed/rss" } }
    let api : DomainConfig := ⟨"api.example.com", "api", none⟩
    let c : DispatcherConfig :=
      { configWithRules [feed] with
        dispatchTimeoutMs := some 50
        urlMap := OrderedMap.ofList [("about", "index/page/about")]
        domains := [api] }
    let get := fun path : String =>
      ({ method := Method.get, uri := ⟨none, none, path, none⟩,
         headers := [("Host", "api.example.com")] } : Request)
    ∃ router built, c.buildRouter = .ok (router, built) ∧ ∀ elapsed : Nat → Nat,
      router.dispatch (routeRequest (get "/about") c.dispatchTimeoutMs elapsed) =
          .ok (.resolved (resolveMapped "index/page/about"
            (router.domains.stage (routeRequest (get "/about") c.dispatchTimeoutMs elapsed)).2)) ∧
        (∃ rule res, Rule.compile "feed" feed.target.spec {} = .ok rule ∧
          rule.outcome (normalizePath "feed" c.pathSeparator)
            (routeRequest (get "/feed") c.dispatchTimeoutMs elapsed)
            (router.domains.stage (routeRequest (get "/feed") c.dispatchTimeoutMs elapsed)).2 =
              some res ∧
          (router.dispatch (routeRequest (get "/feed") c.dispatchTimeoutMs elapsed) = .ok res ∨
            (router.dispatch (routeRequest (get "/feed") c.dispatchTimeoutMs elapsed) =
                .error .deadlineExceeded ∧
              ∃ t n, c.dispatchTimeoutMs = some t ∧ t ≤ elapsed n))) ∧
        (routeRequest (get "/") c.dispatchTimeoutMs elapsed).host.bind router.domains.resolve =
          some ⟨api.target, none⟩ := by
  intro feed api c get
  have hbuilds : c.buildRouter.toOption.isSome = true := by decide +kernel
  obtain ⟨⟨router, built⟩, hbuild⟩ := exists_eq_ok_of_isSome hbuilds
  have hreach := DispatcherConfig.verbatim_requests_reach_literals hbuild
  have hentries : c.urlMap.entries = [("about", "index/page/about")] := by decide +kernel
  have hfilters : MethodFilter.only .get ∉ (c.rules.flatMap RuleConfig.writes).map (·.1) := by
    decide +kernel
  have hgetkey : ∀ r' ∈ c.rules, ¬ r'.Writes (.only .get) "feed" :=
    fun r' hr' => RuleConfig.not_writes_of_filters hfilters hr' "feed"
  refine ⟨router, built, hbuild, fun elapsed => ⟨?_, ?_, ?_⟩⟩
  · refine hreach.mapped "about" "index/page/about" (by simp [hentries]) ?_
      (not_hasExtension_of_not_mem (by decide)) (get "/about") elapsed rfl
    intro k' a' hk' _
    simp only [hentries, List.mem_singleton, Prod.mk.injEq] at hk'
    exact hk'.2
  · refine hreach.rule [] feed [] "feed" rfl rfl rfl rfl rfl
      ⟨by decide, by decide, by decide +kernel⟩ (not_hasExtension_of_not_mem (by decide))
      (.inl rfl) ?_ (get "/feed") elapsed rfl rfl hgetkey
      (fun r' hr' ⟨k, hk⟩ => absurd hk (RuleConfig.not_writes_of_filters hfilters hr' k))
      (by simp) (by simp) (by simp)
    intro k a hk
    simp only [hentries, List.mem_singleton, Prod.mk.injEq] at hk
    obtain ⟨rfl, rfl⟩ := hk
    decide +kernel
  · exact hreach.host [] api [] rfl (by simp) (by decide)
      (get "/") elapsed (by decide +kernel)

/-- **Literals the service normalizes away.** A configuration that validates, with the URL-map
key `sitemap.xml`, the rule `feed.xml` and the domain rule `API.example.com`: the requests
`GET /sitemap.xml` and `GET /feed.xml`, dispatched at once, are routed as `/sitemap` and
`/feed` with the extension `xml`, so neither the key nor the rule resolves them, and the `Host`
header `API.example.com` is lowercased, so no domain rule is found for it. -/
theorem configured_literals_unreachable :
    let c : DispatcherConfig :=
      { configWithRules
          [{ pattern := some "feed.xml", target := { route := some "index/feed/rss" } }] with
        urlMap := OrderedMap.ofList [("sitemap.xml", "index/page/sitemap")]
        domains := [⟨"API.example.com", "api", none⟩] }
    let get := fun path host : String =>
      ({ method := Method.get, uri := ⟨none, none, path, none⟩, headers := [("Host", host)] } :
        Request)
    let route := fun r : Request => c.buildRouter.toOption.map fun b =>
      resolvedRoute (b.1.dispatch (routeRequest r c.dispatchTimeoutMs fun _ => 0))
    let domain := fun r : Request => c.buildRouter.toOption.map fun b =>
      ((routeRequest r c.dispatchTimeoutMs fun _ => 0).host.bind b.1.domains.resolve).isSome
    c.validate = .ok () ∧ route (get "/sitemap.xml" "example.com") = some none ∧
      route (get "/feed.xml" "example.com") = some none ∧
      domain (get "/" "API.example.com") = some false := by
  decide +kernel

end RuleRouting
