import Mathlib.Data.List.Induction
import RuleRouting.Proofs.Slicing

/-!
# The priority of domain rules

A host is looked up under a list of patterns, highest priority first, and the first pattern
that has a rule decides (`DomainTable.lookupOrder`). For a host whose `.`-separated labels are
`l₀ … lₙ₋₁`, the list is the host itself; then, when `n ≥ 3`, the labels before the last two
joined again; `*.lₙ₋₃` capturing `lₙ₋₄`, when that label exists and is not empty; and `*`
capturing `lₙ₋₃`, when that label is not empty and not `www`. The list reads labels only at
positions that exist: `lₙ₋₃` under `n ≥ 3`, `lₙ₋₄` under `n ≥ 4`.

* `DomainTable.resolve_eq_firstRule` — resolving a host takes the first pattern of its lookup
  order that has a rule, and finds nothing when none has;
* `DomainTable.resolve_insert_ne` — setting the rule of a pattern changes what a host resolves
  to only when the pattern stands in the host's lookup order no lower than the rule found
  before;
* `DomainTable.resolve_first_in_lookupOrder` — both together.
-/

namespace RuleRouting

namespace DomainTable

/-- The patterns a host is looked up under, highest priority first, each with the label that a
rule found under it captures. -/
def lookupOrder (host : String) : List (String × Option String) :=
  let labels := Text.split host '.'
  (host, none) ::
    if h : 2 < labels.length then
      let second := labels[labels.length - 3]
      let wildThird : List (String × Option String) :=
        if 3 < labels.length then
          let third := labels[labels.length - 4]
          if third.isEmpty then [] else [("*." ++ second, some third)]
        else []
      let catchAll : List (String × Option String) :=
        if !second.isEmpty && second ≠ "www" then [("*", some second)] else []
      (Text.join (labels.take (labels.length - 2)) '.', none) :: (wildThird ++ catchAll)
    else []

example : lookupOrder "x.shop.example.com" =
    [("x.shop.example.com", none), ("x.shop", none), ("*.shop", some "x"), ("*", some "shop")] := by
  decide +kernel

/-- The rule of the first pattern of `order` that has one, with the label it captures. -/
def firstRule (t : DomainTable) (order : List (String × Option String)) : Option DomainMatch :=
  order.findSome? fun e => (t.rules.get? e.1).map fun target => ⟨target, e.2⟩

/-- Of the labels before a host's last two, the last is the label at `n - 3`, and the one
before it the label at `n - 4`, when there is one. -/
theorem labels_before_last_two {labels : List String} (h : 2 < labels.length) :
    (labels.take (labels.length - 2)).getLastD "" = labels[labels.length - 3] ∧
      ((labels.take (labels.length - 2)).reverse.drop 1).head? =
        if h3 : 3 < labels.length then some labels[labels.length - 4] else none := by
  obtain ⟨init, second, a, b, hlabels, hsecond, hthird⟩ := exists_labels_second h
  subst hlabels
  have hn : (init ++ [second, a, b]).length = init.length + 3 := by simp
  refine ⟨?_, ?_⟩
  · rw [hsecond]
    simp [hn, List.getElem_append_right]
  · rw [hthird]
    cases init using List.reverseRecOn with
    | nil => simp
    | append_singleton init third _ =>
      simp [List.getElem_append_right]

theorem resolve_eq_firstRule (t : DomainTable) (host : String) :
    t.resolve host = t.firstRule (lookupOrder host) := by
  unfold resolve firstRule lookupOrder
  rw [List.findSome?_cons]
  cases t.rules.get? host with
  | some target => rfl
  | none =>
    by_cases h : 2 < (Text.split host '.').length
    · obtain ⟨hsecond, hbefore⟩ := labels_before_last_two h
      simp only [Option.map_none, dif_pos h, if_neg (Nat.not_le.mpr h), hsecond, hbefore,
        List.findSome?_cons, List.findSome?_append]
      cases t.rules.get? (Text.join ((Text.split host '.').take ((Text.split host '.').length - 2)) '.') with
      | some target => rfl
      | none =>
        generalize (Text.split host '.')[(Text.split host '.').length - 3] = second
        by_cases h3 : 3 < (Text.split host '.').length
        · simp only [dif_pos h3, if_pos h3]
          generalize (Text.split host '.')[(Text.split host '.').length - 4] = third
          by_cases hthird : third.isEmpty
          · simp only [hthird, if_true, List.findSome?_nil, Option.none_or]
            split_ifs <;> simp
          · rcases hstar : t.rules.get? ("*." ++ second) with _ | target
            · simp only [hthird, Bool.false_eq_true, if_false]
              split_ifs <;> simp [hstar]
            · simp [hthird, hstar]
        · simp only [dif_neg h3, if_neg h3]
          split_ifs <;> simp
    · simp [h]

/-- Two searches along one list that read only the entries satisfying `P` differently part
where one search meets such an entry, and the first search found nothing before it. -/
theorem exists_append_of_findSome?_ne {α β : Type} {l : List α} {f g : α → Option β}
    (P : α → Prop) (hfg : ∀ a, ¬P a → f a = g a) (h : l.findSome? f ≠ l.findSome? g) :
    ∃ pre a rest, l = pre ++ a :: rest ∧ P a ∧ ∀ b ∈ pre, f b = none := by
  induction l with
  | nil => exact absurd rfl h
  | cons a l ih =>
    by_cases ha : P a
    · exact ⟨[], a, l, rfl, ha, by simp⟩
    · rw [List.findSome?_cons, List.findSome?_cons, ← hfg a ha] at h
      cases hfa : f a with
      | some b =>
        rw [hfa] at h
        exact absurd rfl h
      | none =>
        rw [hfa] at h
        obtain ⟨pre, x, rest, rfl, hx, hpre⟩ := ih h
        refine ⟨a :: pre, x, rest, rfl, hx, ?_⟩
        rintro b (_ | ⟨_, hb⟩)
        · exact hfa
        · exact hpre b hb

/-- **Setting a rule reaches only the hosts that look its pattern up first.** When the rule set
for `pattern` changes what a host resolves to, the pattern stands in the host's lookup order
after patterns that had no rule, that is, no lower than the rule found before. -/
theorem resolve_insert_ne {t : DomainTable} {pattern : String} {target : DomainTarget}
    {host : String} (h : (t.insert pattern target).resolve host ≠ t.resolve host) :
    ∃ pre w rest, lookupOrder host = pre ++ (pattern, w) :: rest ∧
      ∀ e ∈ pre, t.rules.get? e.1 = none := by
  rw [resolve_eq_firstRule, resolve_eq_firstRule] at h
  have hread : ∀ e : String × Option String, ¬e.1 = pattern →
      (t.rules.get? e.1).map (fun target => (⟨target, e.2⟩ : DomainMatch)) =
        ((t.insert pattern target).rules.get? e.1).map fun target => ⟨target, e.2⟩ := by
    intro e he
    simp [insert, OrderedMap.get?_insert, he]
  obtain ⟨pre, ⟨p, w⟩, rest, horder, rfl, hpre⟩ :=
    exists_append_of_findSome?_ne (fun e => e.1 = pattern) hread (Ne.symm h)
  exact ⟨pre, w, rest, horder, fun e he => Option.map_eq_none_iff.mp (hpre e he)⟩

/-- **A host resolves to the rule of the first pattern of its lookup order that has one**, and
to nothing when none has; the order reads the labels at `n - 3` and `n - 4` only where they
exist. So setting the rule of a pattern changes what a host resolves to only when the pattern
stands in the host's lookup order no lower than the rule found before. -/
theorem resolve_first_in_lookupOrder (t : DomainTable) (host : String) :
    t.resolve host = t.firstRule (lookupOrder host) ∧
      ∀ pattern target, (t.insert pattern target).resolve host ≠ t.resolve host →
        ∃ pre w rest, lookupOrder host = pre ++ (pattern, w) :: rest ∧
          ∀ e ∈ pre, t.rules.get? e.1 = none :=
  ⟨resolve_eq_firstRule t host, fun _ _ h => resolve_insert_ne h⟩

end DomainTable

end RuleRouting
