/-!
# Insertion-ordered maps with text keys

`OrderedMap α` is a list of entries in the order their keys first arrived, no key twice.
Writing a key that is already present replaces its value in place; a new key goes to the end.
This is the shape of a query string's parameters and of a rule table: both are read back in
order.

Main statements: `get?_insert` (the last write wins), `keys_insert` (a present key keeps its
position, a new one is appended) and `get?_merge` (merging is a right-biased union).
-/

namespace RuleRouting

namespace OrderedMap

variable {α : Type}

/-- Writes `v` under `k` in an entry list: the first entry with key `k` takes the value,
otherwise the pair is appended. -/
def insertEntry (k : String) (v : α) : List (String × α) → List (String × α)
  | [] => [(k, v)]
  | (k', v') :: rest => if k' = k then (k, v) :: rest else (k', v') :: insertEntry k v rest

theorem keys_insertEntry (k : String) (v : α) (l : List (String × α)) :
    (insertEntry k v l).map (·.1) =
      if l.any (fun e => e.1 == k) then l.map (·.1) else l.map (·.1) ++ [k] := by
  induction l with
  | nil => simp [insertEntry]
  | cons e rest ih =>
    obtain ⟨k', v'⟩ := e
    by_cases hk : k' = k
    · subst hk; simp [insertEntry]
    · simp [insertEntry, hk, ih]
      split <;> simp_all

theorem nodup_insertEntry (k : String) (v : α) {l : List (String × α)}
    (h : (l.map (·.1)).Nodup) : ((insertEntry k v l).map (·.1)).Nodup := by
  rw [keys_insertEntry]
  split
  · exact h
  · rename_i hk
    refine List.nodup_append.mpr ⟨h, by simp, ?_⟩
    intro a ha b hb hab
    simp only [List.mem_singleton] at hb
    subst hb hab
    obtain ⟨e, he, rfl⟩ := List.mem_map.mp ha
    exact hk (List.any_eq_true.mpr ⟨e, he, by simp⟩)

end OrderedMap

/-- A finite map from text keys, remembering the order in which keys first arrived. -/
structure OrderedMap (α : Type) where
  entries : List (String × α)
  /-- No key is stored twice. -/
  keys_nodup : (entries.map (·.1)).Nodup

namespace OrderedMap

variable {α : Type}

/-- The map with no entries. -/
def empty : OrderedMap α := ⟨[], List.nodup_nil⟩

instance : EmptyCollection (OrderedMap α) := ⟨empty⟩

instance : Inhabited (OrderedMap α) := ⟨empty⟩

/-- The value stored under `k`, if any. -/
def get? (m : OrderedMap α) (k : String) : Option α :=
  m.entries.lookup k

/-- Whether some entry has key `k`. -/
def contains (m : OrderedMap α) (k : String) : Bool :=
  m.entries.any (fun e => e.1 == k)

/-- Writes `v` under `k`: an existing key keeps its position, a new key is appended. -/
def insert (m : OrderedMap α) (k : String) (v : α) : OrderedMap α :=
  ⟨insertEntry k v m.entries, nodup_insertEntry k v m.keys_nodup⟩

/-- Writes every entry of `other` into `m`, in `other`'s order, so `other`'s values win. -/
def merge (m other : OrderedMap α) : OrderedMap α :=
  other.entries.foldl (fun acc e => acc.insert e.1 e.2) m

/-- Collects pairs in order; a repeated key keeps its first position and its last value. -/
def ofList (pairs : List (String × α)) : OrderedMap α :=
  pairs.foldl (fun acc e => acc.insert e.1 e.2) empty

/-- The number of entries. -/
def size (m : OrderedMap α) : Nat := m.entries.length

/-- Whether the map has no entries. -/
def isEmpty (m : OrderedMap α) : Bool := m.entries.isEmpty

/-- The keys, in order. -/
def keys (m : OrderedMap α) : List String := m.entries.map (·.1)

/-- The values, in key order. -/
def values (m : OrderedMap α) : List α := m.entries.map (·.2)

/-- Replaces the first value (in key order) that satisfies `p` by `v`. -/
def updateFirstValue (p : α → Bool) (v : α) : List (String × α) → List (String × α)
  | [] => []
  | (k, w) :: rest => if p w then (k, v) :: rest else (k, w) :: updateFirstValue p v rest

theorem keys_updateFirstValue (p : α → Bool) (v : α) (l : List (String × α)) :
    (updateFirstValue p v l).map (·.1) = l.map (·.1) := by
  induction l with
  | nil => rfl
  | cons e rest ih =>
    obtain ⟨k, w⟩ := e
    by_cases hp : p w
    · simp [updateFirstValue, hp]
    · simp [updateFirstValue, hp, ih]

/-- Rewrites every value, knowing its key; keys and order stay. -/
def mapValues {β : Type} (f : String → α → β) (m : OrderedMap α) : OrderedMap β :=
  ⟨m.entries.map fun e => (e.1, f e.1 e.2), by simpa [Function.comp_def] using m.keys_nodup⟩

@[simp] theorem entries_empty : (empty : OrderedMap α).entries = [] := rfl

@[simp] theorem insertEntry_nil (k : String) (v : α) : insertEntry k v [] = [(k, v)] := rfl

theorem lookup_insertEntry (k j : String) (v : α) (l : List (String × α)) :
    (insertEntry k v l).lookup j = if j = k then some v else l.lookup j := by
  induction l with
  | nil =>
    by_cases h : j = k
    · subst h; simp [insertEntry]
    · have : (j == k) = false := by simpa [beq_iff_eq] using h
      simp [insertEntry, List.lookup_cons, this, h]
  | cons e rest ih =>
    obtain ⟨k', v'⟩ := e
    by_cases hk : k' = k
    · subst hk
      by_cases h : j = k'
      · subst h; simp [insertEntry]
      · have : (j == k') = false := by simpa [beq_iff_eq] using h
        simp [insertEntry, List.lookup_cons, this, h]
    · simp only [insertEntry, hk, if_false, List.lookup_cons]
      by_cases h : j = k'
      · subst h
        have hne : j ≠ k := hk
        simp [hne]
      · have : (j == k') = false := by simpa [beq_iff_eq] using h
        simp [this, ih]

/-- The last write under a key wins, and other keys are untouched. -/
theorem get?_insert (m : OrderedMap α) (k j : String) (v : α) :
    (m.insert k v).get? j = if j = k then some v else m.get? j :=
  lookup_insertEntry k j v m.entries

/-- A present key keeps its position; a new key is appended. -/
theorem keys_insert (m : OrderedMap α) (k : String) (v : α) :
    (m.insert k v).keys = if m.contains k then m.keys else m.keys ++ [k] :=
  keys_insertEntry k v m.entries

theorem get?_foldl_insert (l : List (String × α)) (m : OrderedMap α) (j : String) :
    (l.foldl (fun acc e => acc.insert e.1 e.2) m).get? j =
      match l.reverse.lookup j with
      | some v => some v
      | none => m.get? j := by
  induction l generalizing m with
  | nil => simp
  | cons e rest ih =>
    simp only [List.foldl_cons, ih, get?_insert, List.reverse_cons]
    rw [List.lookup_append]
    cases h : rest.reverse.lookup j with
    | some w => simp
    | none =>
      obtain ⟨k, v⟩ := e
      by_cases hj : j = k
      · subst hj; simp
      · have : (j == k) = false := by simpa [beq_iff_eq] using hj
        simp [List.lookup_cons, this, hj]

/-- Merging is a right-biased union: a key of `other` takes `other`'s value. -/
theorem get?_merge (m other : OrderedMap α) (j : String) :
    (m.merge other).get? j =
      match other.entries.reverse.lookup j with
      | some v => some v
      | none => m.get? j :=
  get?_foldl_insert other.entries m j

end OrderedMap

end RuleRouting
