import RuleRouting.Regex.Search

/-!
# The search never runs out of fuel

`walk` runs on fuel so that it is structurally recursive. The fuel a search gives each walk,
`searchFuel`, is enough for the walk to end by itself, by accepting or by running out of frames:
more fuel changes no walk and no search, so a search that finds no match finds none with any fuel.

The argument is a budget that every step lowers (`Walk.step_budget`). An unexplored pair is
worth `2 * widestSplit + 3` steps: the step that explores it, and a pop and a revisit for each of
the at most `widestSplit + 1` frames that step pushes. A frame on the stack is worth two steps and
the pair in hand one. Exploring a pair marks it in the table, which keeps its size over the whole
search (`walk_visited_size`), so the count of unexplored pairs never grows.

* `Walk.step_new` — a step from an unexplored pair marks it and pushes at most
  `widestSplit + 1` frames;
* `walk_add_fuel` — a walk with more fuel than its budget gives the same answer with any more;
* `Walk.budget_start` — `searchFuel` exceeds the budget of every walk of a search;
* `searchFrom_eq_search` — from `searchFuel` on, the fuel does not change the search's answer.
-/

namespace RuleRouting.Regex

/-- Marking an unexplored entry of the table leaves one unexplored entry fewer. -/
theorem count_false_set_true {a : Array Bool} {k : Nat} (h : a.getD k true = false) :
    (a.set! k true).count false + 1 = a.count false := by
  have hk : k < a.size := by
    refine Nat.lt_of_not_le fun hk => ?_
    simp [Array.getElem?_eq_none hk] at h
  have hf : a[k] = false := by simpa [hk] using h
  have hpos : 1 ≤ a.count false := by
    simpa [hf] using Array.boole_getElem_le_count (a := false) hk
  rw [Array.set!_eq_setIfInBounds, Array.setIfInBounds, dif_pos hk, Array.count_set hk, hf]
  simp
  omega

/-- No split of a program is wider than its widest split. -/
theorem Program.length_le_widestSplit (prog : Program) {state : Nat} {alts : List Nat}
    (h : prog.insts[state]? = some (.split alts)) : alts.length ≤ prog.widestSplit := by
  have hs : state < prog.insts.size := (Array.getElem?_eq_some_iff.mp h).1
  unfold Program.widestSplit
  refine Array.foldl_induction
    (fun i b => ∀ j < i, ∀ alts, prog.insts[j]? = some (.split alts) → alts.length ≤ b)
    (by simp) ?_ state hs alts h
  intro i b ih j hj alts' hj'
  have hget : prog.insts[j]? = some prog.insts[i] → prog.insts[i] = .split alts' := by
    intro hi
    rw [hi] at hj'
    exact Option.some.inj hj'
  split
  · rename_i widest hsplit
    rcases Nat.lt_succ_iff_lt_or_eq.mp hj with hj | rfl
    · exact Nat.le_trans (ih j hj alts' hj') (Nat.le_max_left _ _)
    · have : widest = alts' := by simpa [hsplit] using hget (by simp)
      exact this ▸ Nat.le_max_right _ _
  · rename_i hne
    rcases Nat.lt_succ_iff_lt_or_eq.mp hj with hj | rfl
    · exact ih j hj alts' hj'
    · exact absurd (hget (by simp)) (hne alts')

/-- The memory a step leaves, whether the walk ends there or goes on. -/
def Walk.Step.memory : Walk.Step → Walk
  | .done (_, w) => w
  | .next _ w => w

/-- What a walk can still spend, in steps: `2 * widestSplit + 3` for each unexplored pair, two
for each frame on the stack, and one for the pair in hand. -/
def Walk.budget (prog : Program) (x : Option (Nat × Nat)) (w : Walk) : Nat :=
  (2 * prog.widestSplit + 3) * w.visited.count false + 2 * w.stack.length + x.elim 0 fun _ => 1

/-! ## What one step does -/

section Step

variable {prog : Program} {text : Array Char} {w w' : Walk} {x x' : Option (Nat × Nat)}

/-- Taking a frame leaves the table as it is. -/
theorem Walk.step_none_visited (prog : Program) (text : Array Char) (w : Walk) :
    (Walk.step prog text none w).memory.visited = w.visited := by
  simp only [Walk.step]
  split <;> rfl

/-- A walk that goes on from the stack has taken one frame off it. -/
theorem Walk.step_none_next (h : Walk.step prog text none w = .next x' w') :
    w'.stack.length + 1 = w.stack.length := by
  simp only [Walk.step] at h
  split at h
  · cases h
  all_goals
    cases h
    simp_all

/-- An explored pair is dropped, and the walk goes on from the stack. -/
theorem Walk.step_explored {state pos : Nat}
    (hv : w.visited.getD (pairIndex text state pos) true = true) :
    Walk.step prog text (some (state, pos)) w = .next none w := by
  simp only [Walk.step, hv, if_true]

/-- **A step from an unexplored pair marks it**, and pushes at most `widestSplit + 1` frames: a
save pushes the frame that restores its slot, a split the branches it does not take first. -/
theorem Walk.step_new (prog : Program) {state pos : Nat}
    (hv : w.visited.getD (pairIndex text state pos) true = false) :
    ∃ pushed : List Pending, pushed.length ≤ prog.widestSplit + 1 ∧
      (Walk.step prog text (some (state, pos)) w).memory.visited =
        w.visited.set! (pairIndex text state pos) true ∧
      (Walk.step prog text (some (state, pos)) w).memory.stack = pushed ++ w.stack := by
  simp only [Walk.step, hv, Bool.false_eq_true, if_false]
  split
  next =>
    split
    · split <;> exact ⟨[], Nat.zero_le _, rfl, rfl⟩
    · exact ⟨[], Nat.zero_le _, rfl, rfl⟩
  next => split <;> exact ⟨[], Nat.zero_le _, rfl, rfl⟩
  next => exact ⟨[.restore _ _], by simp, rfl, rfl⟩
  next => exact ⟨[], Nat.zero_le _, rfl, rfl⟩
  next a rest hsplit =>
    have hwide := prog.length_le_widestSplit hsplit
    refine ⟨rest.map _, ?_, rfl, rfl⟩
    simp only [List.length_cons] at hwide
    simp only [List.length_map]
    omega
  next => exact ⟨[], Nat.zero_le _, rfl, rfl⟩
  next => exact ⟨[], Nat.zero_le _, rfl, rfl⟩

theorem Walk.step_visited_size (prog : Program) (text : Array Char) (x : Option (Nat × Nat))
    (w : Walk) : (Walk.step prog text x w).memory.visited.size = w.visited.size := by
  rcases x with _ | ⟨state, pos⟩
  · rw [Walk.step_none_visited]
  · cases hv : w.visited.getD (pairIndex text state pos) true with
    | true => rw [Walk.step_explored hv]; rfl
    | false =>
      obtain ⟨_, _, hvis, _⟩ := Walk.step_new prog hv
      rw [hvis, Array.size_set!]

/-- **Every step that does not end the walk lowers its budget.** -/
theorem Walk.step_budget (h : Walk.step prog text x w = .next x' w') :
    Walk.budget prog x' w' < Walk.budget prog x w := by
  have hmem : (Walk.step prog text x w).memory = w' := by
    rw [h]
    rfl
  rcases x with _ | ⟨state, pos⟩
  · have hvis := Walk.step_none_visited prog text w
    have hlen := Walk.step_none_next h
    rw [hmem] at hvis
    cases x' <;> simp only [Walk.budget, hvis, Option.elim_none, Option.elim_some] <;> omega
  · cases hv : w.visited.getD (pairIndex text state pos) true with
    | true =>
      rw [Walk.step_explored hv] at h
      cases h
      simp [Walk.budget]
    | false =>
      obtain ⟨pushed, hpushed, hvis, hstack⟩ := Walk.step_new prog hv
      rw [hmem] at hvis hstack
      have hcount := count_false_set_true hv
      rw [← hvis] at hcount
      have hnext : x'.elim 0 (fun _ => 1) ≤ 1 := by cases x' <;> simp
      simp only [Walk.budget, hstack, List.length_append, ← hcount, Nat.mul_succ,
        Option.elim_some]
      omega

end Step

/-! ## Whole walks and searches -/

section Run

variable {prog : Program} {text : Array Char} {w : Walk} {x : Option (Nat × Nat)}

/-- A walk keeps the size of the table. -/
theorem walk_visited_size (prog : Program) (text : Array Char) (fuel : Nat)
    (x : Option (Nat × Nat)) (w : Walk) :
    (walk prog text fuel x w).2.visited.size = w.visited.size := by
  induction fuel generalizing x w with
  | zero => rfl
  | succ n ih =>
    have hsize := Walk.step_visited_size prog text x w
    simp only [walk]
    cases hs : Walk.step prog text x w with
    | done r => rw [hs] at hsize; exact hsize
    | next x' w' => rw [hs] at hsize; rw [ih]; exact hsize

/-- **A walk never stops for want of fuel**: once the fuel exceeds the walk's budget, more fuel
gives the same answer and the same memory. -/
theorem walk_add_fuel {fuel : Nat} (h : Walk.budget prog x w < fuel) (k : Nat) :
    walk prog text (fuel + k) x w = walk prog text fuel x w := by
  induction fuel generalizing x w with
  | zero => omega
  | succ n ih =>
    rw [Nat.add_right_comm]
    simp only [walk]
    cases hs : Walk.step prog text x w with
    | done r => rfl
    | next x' w' =>
      have := Walk.step_budget hs
      exact ih (by omega)

/-- A walk of a search starts with an empty stack and a table with an entry for every pair, so
its budget is below `searchFuel`. -/
theorem Walk.budget_start {visited : Array Bool} {slots : Array (Option Nat)} {p : Nat × Nat}
    (hsize : visited.size = prog.insts.size * (text.size + 1)) :
    Walk.budget prog (some p) { visited, slots, stack := [] } < searchFuel prog text := by
  have hcount : visited.count false ≤ prog.insts.size * (text.size + 1) :=
    hsize ▸ Array.count_le_size
  have hmul := Nat.mul_le_mul_left (2 * prog.widestSplit + 3) hcount
  have hfuel : searchFuel prog text =
      (2 * prog.widestSplit + 3) * (prog.insts.size * (text.size + 1)) +
        (2 * prog.widestSplit + 3) := by
    rw [searchFuel, Nat.succ_mul, Nat.mul_comm]
  simp only [Walk.budget, List.length_nil, Option.elim_some, hfuel]
  omega

theorem searchFrom_add_fuel {visited : Array Bool} {tries start : Nat}
    (hsize : visited.size = prog.insts.size * (text.size + 1)) (k : Nat) :
    searchFrom prog text (searchFuel prog text + k) visited tries start =
      searchFrom prog text (searchFuel prog text) visited tries start := by
  induction tries generalizing visited start with
  | zero => rfl
  | succ n ih =>
    simp only [searchFrom]
    rw [walk_add_fuel (Walk.budget_start hsize) k]
    cases hw : walk prog text (searchFuel prog text) (some (prog.start, start))
      { visited, slots := Array.replicate prog.slots none, stack := [] } with
    | mk r w' =>
      cases r with
      | some => rfl
      | none =>
        have hsize' := walk_visited_size prog text (searchFuel prog text)
          (some (prog.start, start)) { visited, slots := Array.replicate prog.slots none, stack := [] }
        rw [hw] at hsize'
        exact ih (hsize'.trans hsize)

/-- **The search's answer does not depend on the fuel** from `searchFuel` on: no walk of the
search is cut short, so a search that finds no match finds none with any fuel. -/
theorem searchFrom_eq_search {fuel : Nat} (hf : searchFuel prog text ≤ fuel) :
    searchFrom prog text fuel (Array.replicate (prog.insts.size * (text.size + 1)) false)
      (text.size + 1) 0 = prog.search text := by
  obtain ⟨k, rfl⟩ := Nat.exists_eq_add_of_le hf
  exact searchFrom_add_fuel (by simp) k

end Run

end RuleRouting.Regex
