import Mathlib.Data.List.Forall2
import RuleRouting.Proofs.Registrations
import RuleRouting.Proofs.PrefixedRules

/-!
# A group and its prefixed rules

Registering a group `[p]` with children `c₁ … cₙ` puts one entry in the rule table, under the
key `p`; registering the rules `p/c₁ … p/cₙ` puts `n` entries, under their own keys. This module
compares the two routers.

* `RuleTable.rulesUnder_foldl_insert` — writing one entry under a list of filters writes it
  once under each of them;
* `RuleTable.Appends` — a table is another with some entries appended under some filters;
  registering fresh keys appends them (`Appends.foldl_insert`), and the candidates of the
  longer table splice the new entries into the old walk (`candidates_of_appends`);
* `Entry.attempt_group_eq_prefixed` — on a path `p/rest`, or a path whose first segments are
  not `p`'s up to ASCII case, the group gives what the first prefixed rule that gives anything
  gives;
* `dispatch_group_eq_prefixed` — **the two routers dispatch such a request alike**;
* `group_is_not_prefixed_rules` — the paths left out are not a gap of the proof: a different
  letter case in the scope, the bare scope, a child `/` and a repeated child each tell the two
  routers apart.
-/

namespace RuleRouting

/-! ## The walk of a table, per method -/

namespace RuleTable

/-- The rules registered under one method, empty when there are none. -/
def forMethod (t : RuleTable) (m : Method) : Rules :=
  (t.byMethod.get? m.name).getD OrderedMap.empty

/-- No filter of the table has the key. -/
def Unregistered (t : RuleTable) (key : String) : Prop :=
  key ∉ t.anyMethod.keys ∧ ∀ m, key ∉ (t.forMethod m).keys

/-- The candidates: the method's rules, then the others' rules whose key the method lacks. -/
theorem candidates_eq_forMethod (t : RuleTable) (m : Method) :
    t.candidates m = (t.forMethod m).values ++
      (t.anyMethod.entries.filter fun e => !(t.forMethod m).contains e.1).map (·.2) := by
  unfold candidates forMethod
  cases t.byMethod.get? m.name with
  | some rules => rfl
  | none => simp [OrderedMap.values, OrderedMap.contains, OrderedMap.empty]

/-- The rules registered under one filter. -/
def rulesUnder (t : RuleTable) : MethodFilter → Rules
  | .any => t.anyMethod
  | .only m => t.forMethod m

/-- Inserting under one filter changes only that filter's rules. -/
theorem rulesUnder_insert (t : RuleTable) (f g : MethodFilter) (key : String) (e : Entry) :
    (t.insert f key e).rulesUnder g =
      if f = g then (t.rulesUnder g).insert key e else t.rulesUnder g := by
  cases g with
  | any => cases f <;> simp [rulesUnder, insert]
  | only m =>
    cases f with
    | any => simp [rulesUnder, insert, forMethod]
    | only m' =>
      simp only [rulesUnder, insert, forMethod, OrderedMap.get?_insert, MethodFilter.only.injEq]
      by_cases hm : m' = m
      · subst hm
        simp
      · simp [Method.name_ne (Ne.symm hm), hm]

/-- Writing one entry under a list of filters writes it once under each filter in the list. -/
theorem rulesUnder_foldl_insert (fs : List MethodFilter) (t : RuleTable) (key : String)
    (e : Entry) (g : MethodFilter) :
    (fs.foldl (fun t f => t.insert f key e) t).rulesUnder g =
      if g ∈ fs then (t.rulesUnder g).insert key e else t.rulesUnder g := by
  induction fs generalizing t with
  | nil => simp
  | cons f fs ih =>
    rw [List.foldl_cons, ih, rulesUnder_insert]
    by_cases hf : f = g
    · subst hf
      simp [OrderedMap.insert_insert_self]
    · simp [hf, Ne.symm hf]

/-- Writing a key a filter's rules lack appends it there, when the filter is written. -/
theorem entries_foldl_insert (g : MethodFilter) {t : RuleTable} {key : String}
    (h : key ∉ (t.rulesUnder g).keys) (fs : List MethodFilter) (e : Entry) :
    ((fs.foldl (fun t f => t.insert f key e) t).rulesUnder g).entries =
      (t.rulesUnder g).entries ++ if g ∈ fs then [(key, e)] else [] := by
  rw [rulesUnder_foldl_insert]
  split
  · exact OrderedMap.entries_insert_of_not_mem h e
  · simp

/-- A key that neither a map nor the entries appended to it have is not in the longer map. -/
theorem not_mem_keys_of_entries {M M' : Rules} {ws : List (String × Entry)} {c : Prop}
    [Decidable c] (h : M'.entries = M.entries ++ if c then ws else []) {key : String}
    (hM : key ∉ M.keys) (hws : key ∉ ws.map (·.1)) : key ∉ M'.keys := by
  simp only [OrderedMap.keys, h, List.map_append, List.mem_append, not_or]
  refine ⟨hM, ?_⟩
  split
  · exact hws
  · simp

/-- `t'` is `t` with the entries `ws` appended under the filters `fs`. -/
def Appends (t t' : RuleTable) (fs : List MethodFilter) (ws : List (String × Entry)) : Prop :=
  (∀ m, (t'.forMethod m).entries = (t.forMethod m).entries ++ if .only m ∈ fs then ws else []) ∧
    t'.anyMethod.entries = t.anyMethod.entries ++ if .any ∈ fs then ws else []

namespace Appends

variable {t t₁ t₂ : RuleTable} {fs : List MethodFilter} {ws ws' : List (String × Entry)}

theorem refl (t : RuleTable) (fs : List MethodFilter) : Appends t t fs [] :=
  ⟨fun _ => by simp, by simp⟩

theorem trans (h₁ : Appends t t₁ fs ws) (h₂ : Appends t₁ t₂ fs ws') :
    Appends t t₂ fs (ws ++ ws') := by
  refine ⟨fun m => ?_, ?_⟩
  · rw [h₂.1, h₁.1]
    split <;> simp
  · rw [h₂.2, h₁.2]
    split <;> simp

/-- Writing a key no filter has appends it under each filter written. -/
theorem foldl_insert {key : String} (h : t.Unregistered key) (fs : List MethodFilter) (e : Entry) :
    Appends t (fs.foldl (fun t f => t.insert f key e) t) fs [(key, e)] :=
  ⟨fun m => entries_foldl_insert (.only m) (h.2 m) fs e, entries_foldl_insert .any h.1 fs e⟩

/-- A key that neither the old table nor the appended entries have is still free. -/
theorem unregistered (h : Appends t t' fs ws) {key : String} (ht : t.Unregistered key)
    (hws : key ∉ ws.map (·.1)) : t'.Unregistered key :=
  ⟨not_mem_keys_of_entries h.2 ht.1 hws, fun m => not_mem_keys_of_entries (h.1 m) (ht.2 m) hws⟩

end Appends

theorem contains_of_entries {M M' : Rules} {X : List (String × Entry)}
    (h : M'.entries = M.entries ++ X) (k : String) :
    M'.contains k = (M.contains k || X.any fun w => w.1 == k) := by
  simp [OrderedMap.contains, h, List.any_append]

/-- **The candidates of a table with fresh entries appended**: the new entries stand after the
method's own rules when they were written under the method, else after the rules for every
method when they were written for every method. -/
theorem candidates_of_appends {t t' : RuleTable} {fs : List MethodFilter}
    {ws : List (String × Entry)} (h : Appends t t' fs ws)
    (hfresh : ∀ k ∈ ws.map (·.1), t.Unregistered k) (m : Method) :
    t'.candidates m = (t.forMethod m).values ++ (if .only m ∈ fs then ws.map (·.2) else []) ++
      (t.anyMethod.entries.filter fun e => !(t.forMethod m).contains e.1).map (·.2) ++
      (if .any ∈ fs ∧ .only m ∉ fs then ws.map (·.2) else []) := by
  have hcontains := contains_of_entries (h.1 m)
  have hold : ∀ e ∈ t.anyMethod.entries,
      (!(t'.forMethod m).contains e.1) = !(t.forMethod m).contains e.1 := by
    intro e he
    have hany : (ws.any fun w => w.1 == e.1) = false := by
      simp only [List.any_eq_false, beq_iff_eq]
      intro w hw heq
      exact (hfresh e.1 (heq ▸ List.mem_map_of_mem hw)).1 (List.mem_map_of_mem he)
    rw [hcontains]
    split <;> simp [hany]
  have hnew : ∀ w ∈ ws, (!(t'.forMethod m).contains w.1) = decide (.only m ∉ fs) := by
    intro w hw
    have hk : w.1 ∈ ws.map (·.1) := List.mem_map_of_mem hw
    have hown : (t.forMethod m).contains w.1 = false := by
      rw [Bool.eq_false_iff]
      exact fun hc => (hfresh w.1 hk).2 m ((OrderedMap.contains_iff_mem_keys _ _).mp hc)
    have hany : (ws.any fun w' => w'.1 == w.1) = true := List.any_eq_true.mpr ⟨w, hw, by simp⟩
    rw [hcontains, hown]
    split <;> simp_all
  rw [candidates_eq_forMethod, OrderedMap.values, OrderedMap.values, h.1 m, h.2, List.filter_append,
    List.filter_congr hold]
  by_cases hm : MethodFilter.only m ∈ fs
  · have hnil : ws.filter (fun w => !(t'.forMethod m).contains w.1) = [] :=
      List.filter_eq_nil_iff.mpr fun w hw => by simp [hnew w hw, hm]
    by_cases ha : MethodFilter.any ∈ fs <;> simp [ha, hm, hnil]
  · have hall : ws.filter (fun w => !(t'.forMethod m).contains w.1) = ws :=
      List.filter_eq_self.mpr fun w hw => by simp [hnew w hw, hm]
    by_cases ha : MethodFilter.any ∈ fs <;> simp [ha, hm, hall]

end RuleTable

/-! ## What the two registrations write -/

theorem forall₂_exists_mem_left {α β : Type} {R : α → β → Prop} {xs : List α} {ys : List β}
    (h : List.Forall₂ R xs ys) {y : β} (hy : y ∈ ys) : ∃ x ∈ xs, R x y := by
  induction h with
  | nil => cases hy
  | cons hab _ ih =>
    rcases List.mem_cons.mp hy with rfl | hy
    · exact ⟨_, List.mem_cons_self, hab⟩
    · obtain ⟨x, hx, hxy⟩ := ih hy
      exact ⟨x, List.mem_cons_of_mem _ hx, hxy⟩

/-- The first outcome along two lists related entry by entry to a third is the same. -/
theorem findSome?_eq_of_forall₂ {α β γ δ : Type} {R : α → β → Prop} {S : α → γ → Prop}
    {f : β → Option δ} {g : γ → Option δ} {xs : List α} {ys : List β} {zs : List γ}
    (hy : List.Forall₂ R xs ys) (hz : List.Forall₂ S xs zs)
    (h : ∀ x y z, R x y → S x z → f y = g z) : ys.findSome? f = zs.findSome? g := by
  induction hy generalizing zs with
  | nil =>
    cases hz
    rfl
  | cons hxy _ ih =>
    cases hz with
    | cons hxz hrest => simp only [List.findSome?_cons, h _ _ _ hxy hxz, ih hrest]

/-- A target compiles the same whatever the pattern; the pattern only names a failure. -/
theorem Target.compile_of_ok {pattern : String} (pattern' : String) {spec : RouteSpec}
    {t : Target} (h : Target.compile pattern spec = .ok t) : Target.compile pattern' spec = .ok t := by
  cases spec with
  | group children => cases h
  | address a => exact h
  | withExtra a extra => exact h
  | handler hd => exact h

theorem Rule.compile_of_not_delimited {pattern : String} {spec : RouteSpec} {option : RuleOption}
    {r : Rule} (hd : isDelimited pattern = false) (h : Rule.compile pattern spec option = .ok r) :
    ∃ t, Target.compile pattern spec = .ok t ∧
      r = ⟨.rule (RulePattern.parse pattern), t, option⟩ := by
  obtain ⟨matcher, t, ht, rfl, hm⟩ := Rule.compile_ok h
  rw [hm hd]
  exact ⟨t, ht, rfl⟩

/-- `r` is the rule a group compiles for its child `x`: the child's pattern and target, with
default options. -/
def CompiledChild (x : String × RouteSpec) (r : Rule) : Prop :=
  ∃ t, Target.compile x.1 x.2 = .ok t ∧ r = ⟨.rule (RulePattern.parse x.1), t, {}⟩

/-- `w` is what registering the child `x` as a rule `p/x` with options `option` writes. -/
def PrefixedWrite (p : String) (option : RuleOption) (x : String × RouteSpec)
    (w : String × Entry) : Prop :=
  w.1 = p ++ "/" ++ x.1 ∧ ∃ t, Target.compile x.1 x.2 = .ok t ∧
    w.2 = .rule ⟨.rule (RulePattern.parse (p ++ "/" ++ x.1)), t, option⟩

theorem compileChildren_forall₂ {children : List (String × RouteSpec)} {rs : List Rule}
    (hd : ∀ x ∈ children, isDelimited x.1 = false) (h : compileChildren children = .ok rs) :
    List.Forall₂ CompiledChild children rs := by
  induction children generalizing rs with
  | nil =>
    cases h
    exact .nil
  | cons x rest ih =>
    obtain ⟨r, hr, h⟩ := bind_eq_ok.mp h
    obtain ⟨rs', hrs, h⟩ := bind_eq_ok.mp h
    cases h
    exact .cons (Rule.compile_of_not_delimited (hd x List.mem_cons_self) hr)
      (ih (fun y hy => hd y (List.mem_cons_of_mem _ hy)) hrs)

theorem bracketed_brackets (p : String) : bracketed ("[" ++ p ++ "]") = some p := by
  have h : ("[" ++ p ++ "]").toList = '[' :: (p.toList ++ [']']) := by simp
  unfold bracketed
  rw [h]
  simp

/-- A group registration writes one entry, the compiled group, under its scope. -/
theorem RouterBuilder.group_ok {b bg : RouterBuilder} {p : String}
    {children : List (String × RouteSpec)} {methods : String} {option : RuleOption}
    (h : b.group p children methods option = .ok bg) :
    ∃ fs g, MethodFilter.parseList methods = some fs ∧
      RuleGroup.compile p children option = .ok g ∧
        bg = { b with rules := fs.foldl (fun t f => t.insert f p (.group g)) b.rules } := by
  obtain ⟨fs, key, e, hc, rfl⟩ := RouterBuilder.register_ok h
  obtain ⟨hfs, ⟨cs, g, hb, hspec, hg, rfl⟩ | ⟨hb, -, -⟩⟩ := compileRegistration_ok hc
  · rw [bracketed_brackets] at hb
    cases hb
    cases hspec
    exact ⟨fs, g, hfs, hg, rfl⟩
  · rw [bracketed_brackets] at hb
    cases hb

/-- Registering a rule-syntax pattern with a leaf target writes one rule under the pattern. -/
theorem RouterBuilder.register_leaf_ok {b b' : RouterBuilder} {pattern : String}
    {spec : RouteSpec} {methods : String} {option : RuleOption} (hd : isDelimited pattern = false)
    (hleaf : ∃ t, Target.compile pattern spec = .ok t)
    (h : b.register pattern spec methods option = .ok b') :
    ∃ fs t, MethodFilter.parseList methods = some fs ∧ Target.compile pattern spec = .ok t ∧
      b' = { b with rules := fs.foldl (fun tb f =>
        tb.insert f pattern (.rule ⟨.rule (RulePattern.parse pattern), t, option⟩)) b.rules } := by
  obtain ⟨fs, key, e, hc, rfl⟩ := RouterBuilder.register_ok h
  obtain ⟨hfs, ⟨cs, g, -, rfl, -, -⟩ | ⟨-, rfl, r, hr, rfl⟩⟩ := compileRegistration_ok hc
  · obtain ⟨t, ht⟩ := hleaf
    cases ht
  · obtain ⟨t, ht, rfl⟩ := Rule.compile_of_not_delimited hd hr
    exact ⟨fs, t, hfs, ht, rfl⟩

/-- A pattern `p/c` with `p` non-empty and not starting with `/` is in rule syntax. -/
theorem isDelimited_prefixed {p : String} (hne : p ≠ "") (hlead : p.toList.head? ≠ some '/')
    (c : String) : isDelimited (p ++ "/" ++ c) = false := by
  unfold isDelimited
  cases h : (p ++ "/" ++ c).toList with
  | nil => rfl
  | cons x xs =>
    have hp : p.toList ≠ [] := fun hp => hne (String.toList_inj.mp (by simpa using hp))
    obtain ⟨y, ys, hy⟩ := List.exists_cons_of_ne_nil hp
    have hx : y = x := by simpa [hy] using congrArg List.head? h
    have hy' : y ≠ '/' := fun hy' => hlead (by simp [hy, hy'])
    subst hx
    simp [hy']

section Prefixed

variable {p : String} {methods : String} {option : RuleOption} {fs : List MethodFilter}

/-- **Registering the prefixed rules of distinct children under fresh keys appends them, in
order, under the registration's filters**, and touches nothing else of the builder. -/
theorem run_prefixed (hfs : MethodFilter.parseList methods = some fs) :
    ∀ {children : List (String × RouteSpec)} {b bf : RouterBuilder},
      (∀ x ∈ children, isDelimited (p ++ "/" ++ x.1) = false) →
      (∀ x ∈ children, ∃ t, Target.compile x.1 x.2 = .ok t) →
      (children.map (·.1)).Nodup →
      (∀ x ∈ children, b.rules.Unregistered (p ++ "/" ++ x.1)) →
      b.run (children.map fun x => .register (p ++ "/" ++ x.1) x.2 methods option) = .ok bf →
      ∃ ws, List.Forall₂ (PrefixedWrite p option) children ws ∧
        RuleTable.Appends b.rules bf.rules fs ws ∧ bf.separator = b.separator ∧
          bf.urlMap = b.urlMap ∧ bf.domains = b.domains := by
  intro children
  induction children with
  | nil =>
    intro b bf _ _ _ _ h
    cases h
    exact ⟨[], .nil, RuleTable.Appends.refl _ _, rfl, rfl, rfl⟩
  | cons x rest ih =>
    intro b bf hd hleaf hnodup hfresh h
    simp only [List.map_cons, List.nodup_cons] at hnodup
    obtain ⟨b₁, hs, h⟩ := bind_eq_ok.mp h
    have hleaf' := hleaf x List.mem_cons_self
    obtain ⟨fs', t, hfs', ht, rfl⟩ := RouterBuilder.register_leaf_ok (hd x List.mem_cons_self)
      (hleaf'.imp fun t ht => Target.compile_of_ok _ ht) hs
    rw [hfs] at hfs'
    cases hfs'
    have happ := RuleTable.Appends.foldl_insert (hfresh x List.mem_cons_self) fs
      (.rule ⟨.rule (RulePattern.parse (p ++ "/" ++ x.1)), t, option⟩)
    have hfresh' : ∀ y ∈ rest, RuleTable.Unregistered
        (fs.foldl (fun tb f => tb.insert f (p ++ "/" ++ x.1)
          (.rule ⟨.rule (RulePattern.parse (p ++ "/" ++ x.1)), t, option⟩)) b.rules)
        (p ++ "/" ++ y.1) := by
      intro y hy
      refine happ.unregistered (hfresh y (List.mem_cons_of_mem _ hy)) ?_
      simp only [List.map_cons, List.map_nil, List.mem_singleton, String.append_right_inj]
      intro hyx
      exact hnodup.1 (hyx ▸ List.mem_map_of_mem hy)
    obtain ⟨ws, hws, happ', hsep, hurl, hdom⟩ :=
      ih (fun y hy => hd y (List.mem_cons_of_mem _ hy))
        (fun y hy => hleaf y (List.mem_cons_of_mem _ hy)) hnodup.2 hfresh' h
    refine ⟨_ :: ws, .cons ⟨rfl, t, Target.compile_of_ok _ ht, rfl⟩ hws, happ.trans happ', hsep,
      hurl, hdom⟩

end Prefixed

/-! ## A group gives what its prefixed rules give -/

theorem leadsFolded_append_self (l r : List String) : leadsFolded l (l ++ r) = true := by
  induction l with
  | nil => rfl
  | cons a l ih => simp [leadsFolded, ih]

/-- A group has nothing below its scope on a path its scope does not lead, even up to ASCII
case. -/
theorem RuleGroup.below_eq_none {g : RuleGroup} {path : String}
    (h : leadsFolded (Text.split g.scope '/') (Text.split path '/') = false) :
    g.below path = none := by
  cases hb : g.below path with
  | none => rfl
  | some rest =>
    have hlead : leadsFolded (Text.split g.scope '/') (Text.split path '/') = true := by
      rcases RuleGroup.eq_of_below hb with rfl | ⟨rfl, -⟩
      · rw [Text.split_prefixed, leadsFolded_append_self]
      · simpa using leadsFolded_append_self (Text.split g.scope '/') []
    rw [hlead] at h
    cases h

theorem forall₂_exists_mem_right {α β : Type} {R : α → β → Prop} {xs : List α} {ys : List β}
    (h : List.Forall₂ R xs ys) {x : α} (hx : x ∈ xs) : ∃ y ∈ ys, R x y :=
  forall₂_exists_mem_left (show List.Forall₂ (flip R) ys xs from h.flip) hx

theorem findSome?_eq_none_of_forall₂ {α γ δ : Type} {S : α → γ → Prop} {g : γ → Option δ}
    {xs : List α} {zs : List γ} (hz : List.Forall₂ S xs zs) (h : ∀ x z, S x z → g z = none) :
    zs.findSome? g = none :=
  List.findSome?_eq_none_iff.mpr fun z hz' => by
    obtain ⟨x, -, hxz⟩ := forall₂_exists_mem_left hz hz'
    exact h x z hxz

section Attempt

variable {p : String} {option : RuleOption} {children : List (String × RouteSpec)}
  {g : RuleGroup} {ws : List (String × Entry)}

/-- **A group gives what the first of its prefixed rules that gives anything gives**, on a path
below its scope and on a path its scope does not lead even up to ASCII case. -/
theorem Entry.attempt_group_eq_prefixed (hscope : g.scope = p) (hopt : g.option = option)
    (hseg : ∀ seg ∈ Text.split p '/', seg.toList.head? ≠ some ':')
    (hbody : ∀ x ∈ children, ∃ ch ∈ (RulePattern.bodyOf x.1).1.toList, ch ≠ '/')
    (hg : List.Forall₂ CompiledChild children g.children)
    (hw : List.Forall₂ (PrefixedWrite p option) children ws) {path : String}
    (hpath : (∃ rest, path = p ++ "/" ++ rest) ∨
      leadsFolded (Text.split p '/') (Text.split path '/') = false)
    (req : RouteRequest) (st : DispatchState) :
    Entry.attempt path req st (.group g) = (ws.map (·.2)).findSome? (Entry.attempt path req st) := by
  rw [List.findSome?_map]
  simp only [Entry.attempt, Entry.option, Entry.outcome, hopt]
  by_cases hallow : option.allows req
  · simp only [hallow, if_true]
    rcases hpath with ⟨rest, rfl⟩ | hfold
    · have hbelow : g.below (p ++ "/" ++ rest) = some rest := hscope ▸ RuleGroup.below_prefixed g rest
      rw [hbelow, Option.bind_some]
      refine findSome?_eq_of_forall₂ ((List.forall₂_and_left _ _).mpr ⟨hbody, hg⟩) hw ?_
      rintro x r w ⟨hx, t, ht, rfl⟩ ⟨-, t', ht', hw'⟩
      rw [ht] at ht'
      cases ht'
      rw [Function.comp_apply, hw']
      simp only [Entry.attempt, Entry.option, Entry.outcome, hallow, if_true, Rule.attempt,
        RuleOption.allows_default, Rule.outcome, RulePattern.matchPath_prefixed hseg hx]
    · rw [RuleGroup.below_eq_none (hscope ▸ hfold), Option.bind_none]
      refine (findSome?_eq_none_of_forall₂ ((List.forall₂_and_left _ _).mpr ⟨hbody, hw⟩) ?_).symm
      rintro x w ⟨hx, -, t, -, hw'⟩
      rw [Function.comp_apply, hw']
      simp only [Entry.attempt, Entry.option, Entry.outcome, hallow, if_true, Rule.outcome,
        RulePattern.matchPath_prefixed_of_leadsFolded hseg hx hfold, Option.bind_none]
  · simp only [hallow]
    refine (findSome?_eq_none_of_forall₂ hw ?_).symm
    rintro x w ⟨-, t, -, hw'⟩
    rw [Function.comp_apply, hw']
    simp only [Entry.attempt, Entry.option, hallow, Bool.false_eq_true, if_false]

end Attempt

/-! ## The two routers -/

/-- An empty table has no keys. -/
theorem RuleTable.unregistered_empty (key : String) : ({} : RuleTable).Unregistered key :=
  ⟨by simp [OrderedMap.keys, OrderedMap.empty],
    fun m => by simp [RuleTable.forMethod, OrderedMap.keys, OrderedMap.empty, OrderedMap.get?]⟩

/-- Putting `ys` where `y` stood, in either of two places, keeps the first outcome when `y`
gives what `ys` gives first. -/
theorem findSome?_splice {α β : Type} {f : α → Option β} {y : α} {ys : List α}
    (hy : f y = ys.findSome? f) (A B : List α) (a c : Prop) [Decidable a] [Decidable c] :
    (A ++ (if a then [y] else []) ++ B ++ (if c then [y] else [])).findSome? f =
      (A ++ (if a then ys else []) ++ B ++ (if c then ys else [])).findSome? f := by
  have hsingle : ([y] : List α).findSome? f = ys.findSome? f := by
    rw [← hy, List.findSome?_cons, List.findSome?_nil]
    cases f y <;> rfl
  by_cases ha : a <;> by_cases hc : c <;>
    simp only [ha, hc, if_true, if_false, List.findSome?_append, hsingle, List.findSome?_nil]

/-- **A group dispatches like its prefixed rules.** Register, on a builder where neither `p` nor
any `p/cᵢ` is a key yet, either the group `[p]` of children `cᵢ` or the rules `p/cᵢ`, with the
same methods and options. When the scope `p` has no leading or trailing `/` and no segment
starting with `:`, and the children are distinct, in rule syntax, each with a character other
than `/` before its exactness mark, both routers dispatch alike every request without a deadline
whose normalized path lies below the scope, or whose first segments are not the scope's even up
to ASCII case. -/
theorem dispatch_group_eq_prefixed {b bg bf : RouterBuilder} {p : String}
    {children : List (String × RouteSpec)} {methods : String} {option : RuleOption}
    (hlead : p.toList.head? ≠ some '/') (htrail : p.toList.getLast? ≠ some '/')
    (hseg : ∀ seg ∈ Text.split p '/', seg.toList.head? ≠ some ':')
    (hnotRegex : ∀ x ∈ children, isDelimited x.1 = false)
    (hbody : ∀ x ∈ children, ∃ ch ∈ (RulePattern.bodyOf x.1).1.toList, ch ≠ '/')
    (hnodup : (children.map (·.1)).Nodup) (hfresh : b.rules.Unregistered p)
    (hfresh' : ∀ x ∈ children, b.rules.Unregistered (p ++ "/" ++ x.1))
    (hg : b.group p children methods option = .ok bg)
    (hf : b.run (children.map fun x => .register (p ++ "/" ++ x.1) x.2 methods option) = .ok bf)
    {req : RouteRequest} (hd : req.deadline = none)
    (hpath : (∃ rest, normalizePath req.path b.separator = p ++ "/" ++ rest) ∨
      leadsFolded (Text.split p '/') (Text.split (normalizePath req.path b.separator) '/') =
        false) :
    bg.build.1.dispatch req = bf.build.1.dispatch req := by
  obtain ⟨fs, g, hfs, hgc, rfl⟩ := RouterBuilder.group_ok hg
  obtain ⟨hscope, hne, hopt, hchildren⟩ := RuleGroup.compile_ok hgc
  rw [Text.trimChar_of_ends hlead htrail] at hscope
  have hcompiled := compileChildren_forall₂ hnotRegex hchildren
  obtain ⟨ws, hws, happ, hsep, hurl, hdom⟩ := run_prefixed hfs
    (fun x _ => isDelimited_prefixed (hscope ▸ hne) hlead x.1)
    (fun x hx => by
      obtain ⟨r, -, t, ht, -⟩ := forall₂_exists_mem_right hcompiled hx
      exact ⟨t, ht⟩)
    hnodup hfresh' hf
  have hfreshws : ∀ k ∈ ws.map (·.1), b.rules.Unregistered k := by
    intro k hk
    obtain ⟨w, hw, rfl⟩ := List.mem_map.mp hk
    obtain ⟨x, hx, hxw, -⟩ := forall₂_exists_mem_left hws hw
    rw [hxw]
    exact hfresh' x hx
  have happg := RuleTable.Appends.foldl_insert hfresh fs (.group g)
  have hfreshg : ∀ k ∈ [(p, Entry.group g)].map (·.1), b.rules.Unregistered k := by
    simpa using hfresh
  have hG : ∀ st, Entry.attempt (normalizePath req.path b.separator) req st (.group g) =
      (ws.map (·.2)).findSome? (Entry.attempt (normalizePath req.path b.separator) req st) :=
    fun st => Entry.attempt_group_eq_prefixed hscope hopt hseg hbody hcompiled hws hpath req st
  rw [dispatch_eq_firstMatch _ hd, dispatch_eq_firstMatch _ hd]
  congr 1
  unfold Router.firstMatch
  simp only [RouterBuilder.build_domains, RouterBuilder.build_urlMap, RouterBuilder.build_rules,
    RouterBuilder.build_separator, Router.normalize, hsep, hurl, hdom,
    RuleTable.candidates_of_appends happg hfreshg, RuleTable.candidates_of_appends happ hfreshws,
    List.map_cons, List.map_nil]
  generalize b.domains.stage req = stage
  obtain ⟨early, st⟩ := stage
  cases early with
  | some result => rfl
  | none =>
    dsimp only
    cases b.urlMap.get? (normalizePath req.path b.separator) with
    | some address => rfl
    | none =>
      dsimp only
      rw [findSome?_splice (hG st)]

/-- The group `blog` of `:id\d` and `:name`, registered for every method on a new builder,
against the rules `blog/:id\d` and `blog/:name`, on the path `blog/5`. -/
theorem dispatch_group_eq_prefixed_blog :
    let children : List (String × RouteSpec) :=
      [(":id\\d", .address "Blog/read"), (":name", .address "Blog/category")]
    let req : RouteRequest := { path := "blog/5" }
    ∃ bg bf, ({} : RouterBuilder).group "blog" children "*" {} = .ok bg ∧
      ({} : RouterBuilder).run
          (children.map fun x => .register ("blog" ++ "/" ++ x.1) x.2 "*" {}) = .ok bf ∧
        bg.build.1.dispatch req = bf.build.1.dispatch req := by
  intro children req
  have hg : (({} : RouterBuilder).group "blog" children "*" {}).isOk = true := by decide +kernel
  have hf : (({} : RouterBuilder).run
      (children.map fun x => .register ("blog" ++ "/" ++ x.1) x.2 "*" {})).isOk = true := by
    decide +kernel
  cases hbg : ({} : RouterBuilder).group "blog" children "*" {} with
  | error e =>
    rw [hbg] at hg
    cases hg
  | ok bg =>
    cases hbf : ({} : RouterBuilder).run
        (children.map fun x => .register ("blog" ++ "/" ++ x.1) x.2 "*" {}) with
    | error e =>
      rw [hbf] at hf
      cases hf
    | ok bf =>
      refine ⟨bg, bf, rfl, rfl, ?_⟩
      have hcolon : ∀ x ∈ children, (RulePattern.bodyOf x.1).1.toList.head? = some ':' := by
        decide +kernel
      refine dispatch_group_eq_prefixed (by decide) (by decide) (by decide) (by decide)
        (fun x hx => ⟨':', List.mem_of_mem_head? (hcolon x hx), by decide⟩) (by decide)
        (RuleTable.unregistered_empty _)
        (fun _ _ => RuleTable.unregistered_empty _) hbg hbf rfl (.inl ⟨"5", by decide⟩)

/-- The route a dispatch resolved, if it resolved one. -/
def resolvedRoute : Except DispatchError MatchResult → Option Route
  | .ok (.resolved r) => some r.route
  | _ => none

/-- **A group is not its prefixed rules on the paths left out above.** With the group `blog`
and the rules `blog/c` for its children `c`, each registered for every method on a new
builder: the scope is compared with its letter case while the rules' literals are not; the
bare scope `blog` reaches the children with an empty rest, which no rule `blog/c` matches; a
child `/` wants an empty first segment below the scope, while the rule `blog//` is the rule
`blog`; and of a repeated child the group tries the first while the later rule replaced the
earlier. -/
theorem group_is_not_prefixed_rules :
    let group := fun children : List (String × RouteSpec) =>
      ({} : RouterBuilder).group "blog" children "*" {}
    let prefixed := fun children : List (String × RouteSpec) =>
      ({} : RouterBuilder).run (children.map fun x => .register ("blog/" ++ x.1) x.2 "*" {})
    let route := fun (b : Except RoutingError RouterBuilder) (path : String) =>
      b.toOption.map fun b => resolvedRoute (b.build.1.dispatch { path })
    let name : List (String × RouteSpec) := [(":name", .address "Blog/category")]
    let slash : List (String × RouteSpec) := [("/", .address "A/b")]
    let twice : List (String × RouteSpec) := [("x", .address "A/a"), ("x", .address "B/b")]
    (route (group name) "Blog/5" = some none ∧
      route (prefixed name) "Blog/5" = some (some ⟨none, some "Blog", some "category"⟩)) ∧
    (route (group name) "blog" = some (some ⟨none, some "Blog", some "category"⟩) ∧
      route (prefixed name) "blog" = some none) ∧
    (route (group slash) "blog/x" = some none ∧
      route (prefixed slash) "blog/x" = some (some ⟨none, some "A", some "b"⟩)) ∧
    (route (group twice) "blog/x" = some (some ⟨none, some "A", some "a"⟩) ∧
      route (prefixed twice) "blog/x" = some (some ⟨none, some "B", some "b"⟩)) := by
  decide +kernel

end RuleRouting
