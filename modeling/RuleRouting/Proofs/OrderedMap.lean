import Mathlib.Data.List.Basic
import Mathlib.Data.List.Induction
import RuleRouting.Data.OrderedMap

/-!
# Ordered maps read as their write logs

An `OrderedMap` collected from a list of writes holds each key once, in the order of its first
write, with the value of its last write. This module proves it of `OrderedMap.ofList`:

* `keys_ofList` — the keys are the written keys with repeats erased;
* `get?_ofList` — a key reads back its last write;
* `entries_ofList` — the entries are `latestByFirstArrival` of the writes.

With distinct keys a map's entries are determined by its keys and lookups
(`entries_eq_filterMap_keys`), and the last and the first entry for a key are the same
(`lookup_reverse_of_nodup`), so merging lets the other map's values win (`get?_merge_of_mem`).
Merging appends the other map's new keys in its order (`keys_merge`), reads a key from the
other map whenever it has it (`get?_merge_eq_ite`), is associative (`merge_assoc`) and has the empty map as unit on both
sides (`empty_merge`, `merge_empty`); two maps with the same keys and lookups are equal
(`ext_keys_get?`). Inserting a key the map lacks appends it (`entries_insert_of_not_mem`), and
writing the same value twice is writing it once (`insert_insert_self`). A value after a write is
the written one or an old one (`mem_values_insert`), and a value read back is one of the map's
(`mem_values_of_get?`). Rewriting the values of a collected map is collecting the rewritten
writes (`mapValues_ofList`), and collecting the writes in another order changes no lookup at a
key whose writes agree (`get?_ofList_perm`). A key whose write is never repeated is collected
after the keys written before it only (`latestByFirstArrival_append_cons`).
-/

namespace RuleRouting

/-- Each key of a write log once, in the order of its first write, with its last value. -/
def latestByFirstArrival {α : Type} (writes : List (String × α)) : List (String × α) :=
  (writes.map (·.1)).eraseDups.filterMap fun k => (writes.reverse.lookup k).map (k, ·)

/-- Every collected entry is one of the writes. -/
theorem mem_latestByFirstArrival {α : Type} {l : List (String × α)} {p : String × α}
    (h : p ∈ latestByFirstArrival l) : p ∈ l := by
  obtain ⟨k, -, hk⟩ := List.mem_filterMap.mp h
  obtain ⟨v, hv, rfl⟩ := Option.map_eq_some_iff.mp hk
  obtain ⟨l₁, l₂, hl, -⟩ := List.lookup_eq_some_iff.mp hv
  have hrev : (k, v) ∈ l.reverse := by
    rw [hl]
    exact List.mem_append_right _ List.mem_cons_self
  exact List.mem_reverse.mp hrev

namespace OrderedMap

variable {α : Type}

theorem contains_iff_mem_keys (m : OrderedMap α) (k : String) :
    m.contains k = true ↔ k ∈ m.keys := by
  simp [contains, keys, List.mem_map]

theorem ofList_append_singleton (l : List (String × α)) (k : String) (v : α) :
    ofList (l ++ [(k, v)]) = (ofList l).insert k v := by
  simp [ofList, List.foldl_append]

/-- A key reads back its last write. -/
theorem get?_ofList (l : List (String × α)) (k : String) :
    (ofList l).get? k = l.reverse.lookup k := by
  unfold ofList
  rw [get?_foldl_insert]
  cases l.reverse.lookup k <;> rfl

/-- The keys are the written keys, each at its first write. -/
theorem keys_ofList (l : List (String × α)) :
    (ofList l).keys = (l.map (·.1)).eraseDups := by
  induction l using List.reverseRecOn with
  | nil => rfl
  | append_singleton l e ih =>
    obtain ⟨k, v⟩ := e
    rw [ofList_append_singleton, keys_insert, List.map_append, List.eraseDups_append, ← ih]
    by_cases hk : k ∈ (ofList l).keys
    · have hmem : k ∈ l.map (·.1) := by rwa [ih, List.mem_eraseDups] at hk
      simp [(contains_iff_mem_keys _ _).mpr hk, List.removeAll, hmem]
    · have hmem : k ∉ l.map (·.1) := by rwa [ih, List.mem_eraseDups] at hk
      have hc : (ofList l).contains k = false :=
        Bool.eq_false_iff.mpr fun hc => hk ((contains_iff_mem_keys _ _).mp hc)
      simp [hc, List.removeAll, hmem, List.eraseDups_cons]

/-- An entry list with distinct keys is determined by its keys and its lookups. -/
theorem entries_eq_filterMap_keys (l : List (String × α)) (h : (l.map (·.1)).Nodup) :
    l = (l.map (·.1)).filterMap fun k => (l.lookup k).map (k, ·) := by
  induction l with
  | nil => rfl
  | cons e rest ih =>
    obtain ⟨k, v⟩ := e
    simp only [List.map_cons, List.nodup_cons] at h
    have htail : ∀ j ∈ rest.map (·.1),
        (((k, v) :: rest).lookup j).map (j, ·) = (rest.lookup j).map (j, ·) := by
      intro j hj
      have hjk : (j == k) = false := by
        simp only [beq_eq_false_iff_ne]
        rintro rfl
        exact h.1 hj
      simp [List.lookup_cons, hjk]
    simp only [List.map_cons, List.filterMap_cons, List.lookup_cons_self, Option.map_some,
      List.filterMap_congr htail]
    exact congrArg _ (ih h.2)

theorem entries_eq_keys_get? (m : OrderedMap α) :
    m.entries = m.keys.filterMap fun k => (m.get? k).map (k, ·) :=
  entries_eq_filterMap_keys m.entries m.keys_nodup

/-- The entries of a collected map: each key once, at its first write, with its last value. -/
theorem entries_ofList (l : List (String × α)) : (ofList l).entries = latestByFirstArrival l := by
  rw [entries_eq_keys_get?, keys_ofList]
  simp only [get?_ofList, latestByFirstArrival]

theorem values_ofList (l : List (String × α)) :
    (ofList l).values = (latestByFirstArrival l).map (·.2) := by
  rw [values, entries_ofList]

theorem contains_ofList (l : List (String × α)) (k : String) :
    (ofList l).contains k = true ↔ k ∈ l.map (·.1) := by
  rw [contains_iff_mem_keys, keys_ofList, List.mem_eraseDups]

/-- With distinct keys the last entry for a key is also the first. -/
theorem lookup_reverse_of_nodup {l : List (String × α)} (h : (l.map (·.1)).Nodup) (k : String) :
    l.reverse.lookup k = l.lookup k := by
  induction l with
  | nil => rfl
  | cons e rest ih =>
    obtain ⟨j, v⟩ := e
    simp only [List.map_cons, List.nodup_cons] at h
    rw [List.reverse_cons, List.lookup_append, ih h.2]
    by_cases hk : k = j
    · subst hk
      have hnone : rest.lookup k = none := by
        simp only [List.lookup_eq_none_iff, bne_iff_ne, ne_eq]
        rintro ⟨j, w⟩ hmem rfl
        exact h.1 (List.mem_map_of_mem hmem)
      simp [hnone]
    · have hkj : (k == j) = false := by simpa using hk
      cases hr : rest.lookup k <;> simp [List.lookup_cons, hkj, hr]

/-- Merging lets the other map's value win for each of its keys. -/
theorem get?_merge_of_mem (m other : OrderedMap α) {k : String} {v : α}
    (h : other.get? k = some v) : (m.merge other).get? k = some v := by
  rw [get?_merge, lookup_reverse_of_nodup other.keys_nodup]
  simp only [get?] at h
  rw [h]

/-- A key the other map does not have keeps its value. -/
theorem get?_merge_of_not_mem (m other : OrderedMap α) {k : String}
    (h : other.get? k = none) : (m.merge other).get? k = m.get? k := by
  rw [get?_merge, lookup_reverse_of_nodup other.keys_nodup]
  simp only [get?] at h
  rw [h]

theorem ext_entries {m m' : OrderedMap α} (h : m.entries = m'.entries) : m = m' := by
  cases m
  cases m'
  cases h
  rfl

theorem insertEntry_of_not_mem {l : List (String × α)} {k : String} (h : k ∉ l.map (·.1))
    (v : α) : insertEntry k v l = l ++ [(k, v)] := by
  induction l with
  | nil => rfl
  | cons e rest ih =>
    obtain ⟨j, w⟩ := e
    simp only [List.map_cons, List.mem_cons, not_or] at h
    simp [insertEntry, Ne.symm h.1, ih h.2]

/-- A key that is not there goes to the end. -/
theorem entries_insert_of_not_mem {m : OrderedMap α} {k : String} (h : k ∉ m.keys) (v : α) :
    (m.insert k v).entries = m.entries ++ [(k, v)] :=
  insertEntry_of_not_mem h v

theorem insertEntry_insertEntry_self (l : List (String × α)) (k : String) (v : α) :
    insertEntry k v (insertEntry k v l) = insertEntry k v l := by
  induction l with
  | nil => simp [insertEntry]
  | cons e rest ih =>
    obtain ⟨j, w⟩ := e
    by_cases hj : j = k
    · simp [insertEntry, hj]
    · simp [insertEntry, hj, ih]

/-- Writing the same value twice is writing it once. -/
theorem insert_insert_self (m : OrderedMap α) (k : String) (v : α) :
    (m.insert k v).insert k v = m.insert k v :=
  ext_entries (insertEntry_insertEntry_self m.entries k v)

/-! ### Where the values come from -/

theorem mem_insertEntry {k : String} {x : α} {l : List (String × α)} {e : String × α}
    (h : e ∈ insertEntry k x l) : e ∈ l ∨ e = (k, x) := by
  induction l with
  | nil => simpa [insertEntry] using h
  | cons e' rest ih =>
    simp only [insertEntry] at h
    split at h
    · rcases List.mem_cons.mp h with rfl | h
      · exact .inr rfl
      · exact .inl (List.mem_cons_of_mem _ h)
    · rcases List.mem_cons.mp h with rfl | h
      · exact .inl List.mem_cons_self
      · exact (ih h).imp (List.mem_cons_of_mem _) id

/-- A value of a map after a write is the written value or was there before. -/
theorem mem_values_insert {m : OrderedMap α} {k : String} {x v : α}
    (h : v ∈ (m.insert k x).values) : v ∈ m.values ∨ v = x := by
  obtain ⟨e, he, rfl⟩ := List.mem_map.mp h
  rcases mem_insertEntry he with he | rfl
  · exact .inl (List.mem_map_of_mem he)
  · exact .inr rfl

theorem mem_values_of_get? {m : OrderedMap α} {k : String} {v : α} (h : m.get? k = some v) :
    v ∈ m.values := by
  obtain ⟨l₁, l₂, hl, -⟩ := List.lookup_eq_some_iff.mp h
  simp [values, hl]

theorem not_mem_values_empty {v : α} : v ∉ (empty : OrderedMap α).values :=
  fun h => nomatch h

/-! ### Rewriting values -/

theorem map_insertEntry {β : Type} (f : String → α → β) (k : String) (v : α)
    (l : List (String × α)) :
    (insertEntry k v l).map (fun e => (e.1, f e.1 e.2)) =
      insertEntry k (f k v) (l.map fun e => (e.1, f e.1 e.2)) := by
  induction l with
  | nil => rfl
  | cons e rest ih =>
    obtain ⟨j, w⟩ := e
    by_cases hj : j = k
    · subst hj
      simp [insertEntry]
    · simp [insertEntry, hj, ih]

theorem mapValues_insert {β : Type} (f : String → α → β) (m : OrderedMap α) (k : String)
    (v : α) : (m.insert k v).mapValues f = (m.mapValues f).insert k (f k v) :=
  ext_entries (map_insertEntry f k v m.entries)

/-- Rewriting the values of a collected map is collecting the rewritten writes. -/
theorem mapValues_ofList {β : Type} (f : String → α → β) (l : List (String × α)) :
    (ofList l).mapValues f = ofList (l.map fun e => (e.1, f e.1 e.2)) := by
  induction l using List.reverseRecOn with
  | nil => rfl
  | append_singleton l e ih =>
    obtain ⟨k, v⟩ := e
    rw [ofList_append_singleton, mapValues_insert, ih, List.map_append, List.map_singleton,
      ofList_append_singleton]

/-! ### Merging -/
/-- A key is present exactly when it reads back a value. -/
theorem contains_eq_isSome_get? (m : OrderedMap α) (k : String) :
    m.contains k = (m.get? k).isSome := by
  rw [Bool.eq_iff_iff, contains_iff_mem_keys, get?, List.lookup_isSome_iff]
  simp only [keys, List.mem_map, beq_iff_eq]
  constructor <;> rintro ⟨p, hp, rfl⟩ <;> exact ⟨p, hp, rfl⟩

theorem contains_insert (m : OrderedMap α) (k j : String) (v : α) :
    (m.insert k v).contains j = (j == k || m.contains j) := by
  rw [contains_eq_isSome_get?, contains_eq_isSome_get?, get?_insert]
  by_cases h : j = k <;> simp [h]

/-- Writing entries with distinct keys appends the keys the map lacks, in the order written. -/
theorem keys_foldl_insert (l : List (String × α)) (m : OrderedMap α) (h : (l.map (·.1)).Nodup) :
    (l.foldl (fun acc e => acc.insert e.1 e.2) m).keys =
      m.keys ++ (l.map (·.1)).filter fun k => !m.contains k := by
  induction l generalizing m with
  | nil => simp
  | cons e rest ih =>
    obtain ⟨k, v⟩ := e
    simp only [List.map_cons, List.nodup_cons] at h
    have hrest : (rest.map (·.1)).filter (fun j => !(m.insert k v).contains j) =
        (rest.map (·.1)).filter fun j => !m.contains j := by
      apply List.filter_congr
      intro j hj
      have hjk : (j == k) = false := by
        simp only [beq_eq_false_iff_ne]
        rintro rfl
        exact h.1 hj
      simp [contains_insert, hjk]
    rw [List.foldl_cons, ih _ h.2, hrest, keys_insert]
    cases hk : m.contains k <;> simp [hk]

/-- The keys of a merge: the map's own, then those of the other it lacks, in the other's
order. -/
theorem keys_merge (m other : OrderedMap α) :
    (m.merge other).keys = m.keys ++ other.keys.filter fun k => !m.contains k :=
  keys_foldl_insert other.entries m other.keys_nodup

/-- A key of `other` reads `other`'s value after a merge; any other key keeps the map's. -/
theorem get?_merge_eq_ite (m other : OrderedMap α) (k : String) :
    (m.merge other).get? k = if other.contains k then other.get? k else m.get? k := by
  cases h : other.get? k with
  | some v => simp [get?_merge_of_mem m other h, contains_eq_isSome_get?, h]
  | none => simp [get?_merge_of_not_mem m other h, contains_eq_isSome_get?, h]

theorem contains_merge (m other : OrderedMap α) (k : String) :
    (m.merge other).contains k = (m.contains k || other.contains k) := by
  simp only [contains_eq_isSome_get?, get?_merge_eq_ite]
  cases other.get? k <;> cases m.get? k <;> simp

/-- A map is determined by its keys and its lookups. -/
theorem ext_keys_get? {m m' : OrderedMap α} (hkeys : m.keys = m'.keys)
    (hget : ∀ k, m.get? k = m'.get? k) : m = m' := by
  apply ext_entries
  rw [entries_eq_keys_get? m, entries_eq_keys_get? m', hkeys]
  simp only [hget]

/-- Merging is associative. -/
theorem merge_assoc (a b c : OrderedMap α) : (a.merge b).merge c = a.merge (b.merge c) := by
  apply ext_keys_get?
  · rw [keys_merge, keys_merge, keys_merge, keys_merge, List.filter_append, List.filter_filter,
      List.append_assoc]
    congr 2
    apply List.filter_congr
    intro k _
    simp [contains_merge]
  · intro k
    simp only [get?_merge_eq_ite, contains_merge]
    cases c.contains k <;> cases b.contains k <;> simp

@[simp] theorem merge_empty (m : OrderedMap α) : m.merge empty = m := rfl

@[simp] theorem empty_merge (m : OrderedMap α) : empty.merge m = m := by
  apply ext_keys_get?
  · rw [keys_merge]
    simp [contains, keys]
  · intro k
    rw [get?_merge_eq_ite, contains_eq_isSome_get?]
    cases m.get? k <;> simp [get?]

/-! ### Reordering writes -/

theorem mem_of_lookup_eq_some {l : List (String × α)} {k : String} {v : α}
    (h : l.lookup k = some v) : (k, v) ∈ l := by
  obtain ⟨l₁, l₂, rfl, -⟩ := List.lookup_eq_some_iff.mp h
  simp

/-- Collecting the same writes in another order reads the same at a key whose writes all carry
one value. -/
theorem get?_ofList_perm {l l' : List (String × α)} (hp : l.Perm l') {k : String}
    (h : ∀ v w, (k, v) ∈ l → (k, w) ∈ l → v = w) : (ofList l).get? k = (ofList l').get? k := by
  rw [get?_ofList, get?_ofList]
  cases hl : l.reverse.lookup k with
  | none =>
    symm
    rw [List.lookup_eq_none_iff] at hl ⊢
    exact fun p hp' => hl p (List.mem_reverse.mpr (hp.mem_iff.mpr (List.mem_reverse.mp hp')))
  | some v =>
    have hv : (k, v) ∈ l := List.mem_reverse.mp (mem_of_lookup_eq_some hl)
    cases hl' : l'.reverse.lookup k with
    | none =>
      rw [List.lookup_eq_none_iff] at hl'
      have hk := hl' (k, v) (List.mem_reverse.mpr (hp.mem_iff.mp hv))
      simp at hk
    | some w =>
      have hw : (k, w) ∈ l := hp.mem_iff.mpr (List.mem_reverse.mp (mem_of_lookup_eq_some hl'))
      rw [h v w hv hw]

end OrderedMap

/-! ## Searching and collecting write logs -/

/-- The last write of a key whose writes agree is their value. -/
theorem lookup_reverse_of_agree {α : Type} {l : List (String × α)} {k : String} {v : α}
    (hmem : (k, v) ∈ l) (hagree : ∀ w, (k, w) ∈ l → w = v) : l.reverse.lookup k = some v := by
  cases h : l.reverse.lookup k with
  | none =>
    have hne := List.lookup_eq_none_iff.mp h (k, v) (List.mem_reverse.mpr hmem)
    simp only [bne_self_eq_false, Bool.false_eq_true] at hne
  | some w => rw [hagree w (List.mem_reverse.mp (OrderedMap.mem_of_lookup_eq_some h))]

/-- A search past entries that give nothing, or `b`, finds `b` when the next entry gives it. -/
theorem findSome?_append_cons {α β : Type} {l₁ l₂ : List α} {a : α} {f : α → Option β} {b : β}
    (hpre : ∀ x ∈ l₁, f x = none ∨ f x = some b) (ha : f a = some b) :
    (l₁ ++ a :: l₂).findSome? f = some b := by
  induction l₁ with
  | nil => simp [ha]
  | cons x xs ih =>
    rcases hpre x List.mem_cons_self with hx | hx
    · simp [hx, ih fun y hy => hpre y (List.mem_cons_of_mem x hy)]
    · simp [hx]

/-- Erasing duplicates, a key stands after keys of the part before it only. -/
theorem eraseDups_append_cons (A B : List String) (k : String) :
    ∃ X Y, (A ++ k :: B).eraseDups = X ++ k :: Y ∧ ∀ x ∈ X, x ∈ A := by
  rw [List.eraseDups_append]
  by_cases hk : k ∈ A
  · obtain ⟨X, Y, h⟩ := List.append_of_mem (List.mem_eraseDups.mpr hk)
    refine ⟨X, Y ++ ((k :: B).removeAll A).eraseDups, by simp [h], fun x hx => ?_⟩
    exact List.mem_eraseDups.mp (h ▸ List.mem_append_left _ hx)
  · have hcons : (k :: B).removeAll A = k :: B.removeAll A := by
      simp [List.removeAll, hk]
    refine ⟨A.eraseDups, ((B.removeAll A).filter fun b => !b == k).eraseDups, ?_,
      fun x hx => List.mem_eraseDups.mp hx⟩
    rw [hcons, List.eraseDups_cons]

/-- A key's write that is never repeated stands, among the collected entries, after entries of
keys written before it only. -/
theorem latestByFirstArrival_append_cons {α : Type} (A B : List (String × α)) (k : String)
    (v : α) (hB : ∀ w, (k, w) ∉ B) :
    ∃ front back, latestByFirstArrival (A ++ (k, v) :: B) = front ++ (k, v) :: back ∧
      ∀ p ∈ front, p ∈ A ++ (k, v) :: B ∧ ∃ w, (p.1, w) ∈ A := by
  obtain ⟨X, Y, hkeys, hX⟩ := eraseDups_append_cons (A.map (·.1)) (B.map (·.1)) k
  have hlook : (A ++ (k, v) :: B).reverse.lookup k = some v := by
    have hnone : B.reverse.lookup k = none := List.lookup_eq_none_iff.mpr fun p hp => by
      obtain ⟨k', w⟩ := p
      simp only [bne_iff_ne, ne_eq]
      rintro rfl
      exact hB w (List.mem_reverse.mp hp)
    simp [List.lookup_append, hnone]
  let g := fun key => ((A ++ (k, v) :: B).reverse.lookup key).map (key, ·)
  have hg : g k = some (k, v) := by simp only [g, hlook, Option.map_some]
  refine ⟨X.filterMap g, Y.filterMap g, ?_, fun p hp => ?_⟩
  · show ((A ++ (k, v) :: B).map (·.1)).eraseDups.filterMap g = _
    rw [List.map_append, List.map_cons, hkeys, List.filterMap_append, List.filterMap_cons, hg]
  · obtain ⟨key, hkey, hp⟩ := List.mem_filterMap.mp hp
    obtain ⟨w, hw, rfl⟩ := Option.map_eq_some_iff.mp hp
    refine ⟨List.mem_reverse.mp (OrderedMap.mem_of_lookup_eq_some hw), ?_⟩
    obtain ⟨⟨key', w'⟩, hmem, hk⟩ := List.mem_map.mp (hX key hkey)
    exact ⟨w', hk ▸ hmem⟩

end RuleRouting
