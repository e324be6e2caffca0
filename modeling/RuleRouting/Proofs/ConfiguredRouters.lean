import RuleRouting.Proofs.ConfigValidation
import RuleRouting.Proofs.Sendable
import RuleRouting.Proofs.RequestExtraction

/-!
# Routers built from a configuration

`DispatcherConfig.buildRouter` sets the separator, maps each URL-map path (normalized with the
separator) to its address, sets the domain rules and registers the rules in order. The URL map
of a configuration file is a hash map, so the order in which its paths are mapped is not fixed;
two paths that normalize alike, such as `about` and `/about/`, are one key of the router's map,
and the one mapped last keeps it.

* `registerRules_withUrlMap`, `registerRules_frame` — registering rules reads and writes only
  the rule table;
* `DispatcherConfig.builder_eq` — a configuration's builder is its registered rules with the
  URL map its entries write (`mappedUrls`);
* `Router.dispatch_congr_urlMap` — a dispatch reads the URL map only at the request's
  normalized path;
* `DispatcherConfig.dispatch_urlMap_order` — **the order of the URL map matters only at paths
  that two keys with different addresses normalize to**; `urlMap_order_matters` — and there it
  does.
-/

namespace RuleRouting

/-! ## Registering rules touches only the rule table -/

/-- A registration on a builder with another URL map registers the same way. -/
theorem RouterBuilder.register_withUrlMap (b : RouterBuilder) (m : OrderedMap String)
    (pattern : String) (spec : RouteSpec) (methods : String) (option : RuleOption) :
    ({ b with urlMap := m } : RouterBuilder).register pattern spec methods option =
      (b.register pattern spec methods option).map fun b' => { b' with urlMap := m } := by
  unfold RouterBuilder.register
  cases compileRegistration pattern spec methods option <;> rfl

theorem registerRule_withUrlMap (b : RouterBuilder) (m : OrderedMap String) (r : RuleConfig) :
    registerRule { b with urlMap := m } r =
      (registerRule b r).map fun b' => { b' with urlMap := m } := by
  unfold registerRule RouterBuilder.group
  split
  · exact RouterBuilder.register_withUrlMap _ _ _ _ _ _
  · exact RouterBuilder.register_withUrlMap _ _ _ _ _ _
  · rfl

/-- Registering rules on a builder with another URL map succeeds or fails alike, and the result
keeps that URL map. -/
theorem registerRules_withUrlMap (b : RouterBuilder) (m : OrderedMap String)
    (rs : List RuleConfig) :
    registerRules { b with urlMap := m } rs =
      (registerRules b rs).map fun b' => { b' with urlMap := m } := by
  induction rs generalizing b with
  | nil => rfl
  | cons r rs ih =>
    simp only [registerRules, registerRule_withUrlMap]
    cases registerRule b r with
    | error e => rfl
    | ok b₁ => exact ih b₁

theorem registerRule_frame {b b' : RouterBuilder} {r : RuleConfig}
    (h : registerRule b r = .ok b') : b' = { b with rules := b'.rules } := by
  unfold registerRule RouterBuilder.group at h
  split at h
  · obtain ⟨_, _, _, -, rfl⟩ := RouterBuilder.register_ok h
    rfl
  · obtain ⟨_, _, _, -, rfl⟩ := RouterBuilder.register_ok h
    rfl
  · cases h

/-- Registering rules changes nothing but the rule table. -/
theorem registerRules_frame {b b' : RouterBuilder} {rs : List RuleConfig}
    (h : registerRules b rs = .ok b') : b' = { b with rules := b'.rules } := by
  induction rs generalizing b with
  | nil => cases h; rfl
  | cons r rs ih =>
    obtain ⟨b₁, h₁, h⟩ := bind_eq_ok.mp h
    rw [ih h, registerRule_frame h₁]

/-! ## The URL map a configuration builds -/

/-- The URL map that mapping `entries` in order writes, each path normalized with `sep`. -/
def mappedUrls (sep : Char) (entries : List (String × String)) : OrderedMap String :=
  OrderedMap.ofList (entries.map fun e => (normalizePath e.1 sep, e.2))

/-- Mapping paths writes each, normalized with the builder's separator, into its URL map. -/
theorem RouterBuilder.foldl_map (es : List (String × String)) (b : RouterBuilder) :
    es.foldl (fun b e => b.map e.1 e.2) b =
      { b with
          urlMap := (es.map fun e => (normalizePath e.1 b.separator, e.2)).foldl
            (fun acc e => acc.insert e.1 e.2) b.urlMap } := by
  induction es generalizing b with
  | nil => rfl
  | cons e es ih =>
    rw [List.foldl_cons, ih]
    simp only [RouterBuilder.map, List.map_cons, List.foldl_cons]

theorem RouterBuilder.foldl_domain_withUrlMap (ds : List DomainConfig) (b : RouterBuilder)
    (m : OrderedMap String) :
    ds.foldl (fun b d => b.domain d.pattern d.target) { b with urlMap := m } =
      { ds.foldl (fun b d => b.domain d.pattern d.target) b with urlMap := m } := by
  induction ds generalizing b with
  | nil => rfl
  | cons d ds ih => exact ih (b.domain d.pattern d.target)

theorem RouterBuilder.foldl_domain_separator (ds : List DomainConfig) (b : RouterBuilder) :
    (ds.foldl (fun b d => b.domain d.pattern d.target) b).separator = b.separator := by
  induction ds generalizing b with
  | nil => rfl
  | cons d ds ih => exact ih (b.domain d.pattern d.target)

/-- A configuration's builder: its rules registered after the separator and the domain rules,
with the URL map that its entries write. -/
theorem DispatcherConfig.builder_eq (c : DispatcherConfig) :
    c.builder = (registerRules (c.domains.foldl (fun b d => b.domain d.pattern d.target)
      (({} : RouterBuilder).withSeparator c.pathSeparator)) c.rules).map
        fun b => { b with urlMap := mappedUrls c.pathSeparator c.urlMap.entries } := by
  simp only [DispatcherConfig.builder]
  rw [RouterBuilder.foldl_map, ← registerRules_withUrlMap, ← RouterBuilder.foldl_domain_withUrlMap]
  rfl

/-- The router of a configuration holds the URL map its entries write, and the router of the
same configuration with its URL map in another order differs in that map only. -/
theorem DispatcherConfig.buildRouter_withUrlMap {c : DispatcherConfig} {router : Router}
    {built : LogEvent} (hbuild : c.buildRouter = .ok (router, built)) (m : OrderedMap String) :
    (∃ built', { c with urlMap := m }.buildRouter =
        .ok ({ router with urlMap := mappedUrls c.pathSeparator m.entries }, built')) ∧
      router.urlMap = mappedUrls c.pathSeparator c.urlMap.entries ∧
      router.separator = c.pathSeparator := by
  obtain ⟨b, hb, hrb⟩ := map_eq_ok.mp hbuild
  rw [DispatcherConfig.builder_eq] at hb
  obtain ⟨b₁, hb₁, rfl⟩ := map_eq_ok.mp hb
  cases hrb
  have hsep : b₁.separator = c.pathSeparator := by
    rw [registerRules_frame hb₁]
    exact RouterBuilder.foldl_domain_separator _ _
  have hbuilder : ({ c with urlMap := m } : DispatcherConfig).builder =
      .ok { b₁ with urlMap := mappedUrls c.pathSeparator m.entries } := by
    rw [DispatcherConfig.builder_eq]
    simp only [hb₁]
    rfl
  refine ⟨⟨RouterBuilder.build { b₁ with urlMap := mappedUrls c.pathSeparator m.entries } |>.2, ?_⟩,
    rfl, hsep⟩
  simp only [DispatcherConfig.buildRouter, hbuilder]
  rfl

/-! ## The order of the URL map -/

/-- A dispatch reads the URL map only at the request's normalized path. -/
theorem Router.dispatch_congr_urlMap (r : Router) (m : OrderedMap String) (req : RouteRequest)
    (h : m.get? (r.normalize req.path) = r.urlMap.get? (r.normalize req.path)) :
    ({ r with urlMap := m } : Router).dispatch req = r.dispatch req := by
  have hdomain : ({ r with urlMap := m } : Router).checkDomain req = r.checkDomain req := rfl
  simp only [Router.dispatch, Router.dispatchTraced, Router.dispatchM, hdomain,
    Router.normalize] at h ⊢
  simp only [h]

/-- **The order in which the URL map is visited matters only where keys collide.** Building
the configuration with its URL-map entries in any other order succeeds too, and the router
dispatches every request as the first one does, unless the request's normalized path is the
normalized form of two keys with different addresses. -/
theorem DispatcherConfig.dispatch_urlMap_order {c : DispatcherConfig} {m : OrderedMap String}
    (hperm : m.entries.Perm c.urlMap.entries) {router : Router} {built : LogEvent}
    (hbuild : c.buildRouter = .ok (router, built)) :
    ∃ router' built', { c with urlMap := m }.buildRouter = .ok (router', built') ∧
      ∀ req : RouteRequest,
        (∀ k₁ a₁ k₂ a₂, (k₁, a₁) ∈ c.urlMap.entries → (k₂, a₂) ∈ c.urlMap.entries →
          normalizePath k₁ c.pathSeparator = router.normalize req.path →
          normalizePath k₂ c.pathSeparator = router.normalize req.path → a₁ = a₂) →
        router'.dispatch req = router.dispatch req := by
  obtain ⟨⟨built', hbuild'⟩, hurl, -⟩ := c.buildRouter_withUrlMap hbuild m
  refine ⟨_, built', hbuild', fun req hagree => Router.dispatch_congr_urlMap _ _ _ ?_⟩
  rw [hurl]
  refine OrderedMap.get?_ofList_perm (hperm.map _) fun v w hv hw => ?_
  obtain ⟨⟨k₁, a₁⟩, h₁, he₁⟩ := List.mem_map.mp ((hperm.map _).mem_iff.mp hv)
  obtain ⟨⟨k₂, a₂⟩, h₂, he₂⟩ := List.mem_map.mp ((hperm.map _).mem_iff.mp hw)
  simp only [Prod.mk.injEq] at he₁ he₂
  rw [← he₁.2, ← he₂.2]
  exact hagree k₁ a₁ k₂ a₂ h₁ h₂ he₁.1 he₂.1

/-- The witness configuration: the paths `about` and `/about/` with the same address, mapped
in both orders. -/
theorem DispatcherConfig.dispatch_urlMap_order_about :
    let c : DispatcherConfig := { configWithRules [] with
      urlMap := OrderedMap.ofList [("about", "index/page/about"), ("/about/", "index/page/about")] }
    let m : OrderedMap String :=
      OrderedMap.ofList [("/about/", "index/page/about"), ("about", "index/page/about")]
    m.entries.Perm c.urlMap.entries ∧ ∃ router built, c.buildRouter = .ok (router, built) ∧
      ∃ router' built', { c with urlMap := m }.buildRouter = .ok (router', built') ∧
        ∀ req : RouteRequest,
          (∀ k₁ a₁ k₂ a₂, (k₁, a₁) ∈ c.urlMap.entries → (k₂, a₂) ∈ c.urlMap.entries →
            normalizePath k₁ c.pathSeparator = router.normalize req.path →
            normalizePath k₂ c.pathSeparator = router.normalize req.path → a₁ = a₂) →
          router'.dispatch req = router.dispatch req := by
  intro c m
  have hperm : m.entries.Perm c.urlMap.entries := by decide +kernel
  have hbuilds : c.buildRouter.toOption.isSome = true := by decide +kernel
  obtain ⟨⟨router, built⟩, hbuild⟩ := exists_eq_ok_of_isSome hbuilds
  exact ⟨hperm, router, built, hbuild, DispatcherConfig.dispatch_urlMap_order hperm hbuild⟩

/-- **Where two keys with different addresses collide, the order decides.** The paths `about`
and `/about/` both normalize to `about`: mapped in one order the request `about` resolves to
the contact page, in the other to the about page. -/
theorem urlMap_order_matters :
    let config := fun entries : List (String × String) =>
      ({ configWithRules [] with urlMap := OrderedMap.ofList entries } : DispatcherConfig)
    let written := [("about", "index/page/about"), ("/about/", "index/page/contact")]
    let route := fun entries : List (String × String) =>
      (config entries).buildRouter.toOption.map fun b => resolvedRoute (b.1.dispatch { path := "about" })
    (config written).validate = .ok () ∧
      (config written.reverse).urlMap.entries.Perm (config written).urlMap.entries ∧
      route written = some (some ⟨some "index", some "page", some "contact"⟩) ∧
      route written.reverse = some (some ⟨some "index", some "page", some "about"⟩) := by
  decide +kernel

end RuleRouting
