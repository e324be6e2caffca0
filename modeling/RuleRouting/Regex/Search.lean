import RuleRouting.Regex.Program
import RuleRouting.Text.Word

/-!
# Leftmost-first search

A depth-first walk over a program's states that tries the branches of every split in order of
preference, so the first match it reaches is the leftmost-first one. Each pair of a state
and a text position is explored at most once over the whole search: whether a pair leads to
a match does not depend on how it was reached, so a pair that failed once fails again, also
from a later start position. This bounds the work by the number of states times the number
of positions, and `searchFuel` turns that bound into the fuel of each walk. The walk repeats
`Walk.step`, which explores one pair or runs one frame of the stack.

Positions count characters; group spans are turned into text afterwards.
-/

namespace RuleRouting.Regex

/-- The character at position `i`, if any. -/
def charAt (text : Array Char) (i : Nat) : Option Char :=
  text[i]?

/-- Whether the character before position `i` is a word character of the chosen kind. -/
def wordBefore (unicode : Bool) (text : Array Char) (i : Nat) : Bool :=
  match i with
  | 0 => false
  | j + 1 =>
    match charAt text j with
    | some c => if unicode then Text.isWordChar c else c.isAlphanum || c = '_'
    | none => false

/-- Whether the character at position `i` is a word character of the chosen kind. -/
def wordAfter (unicode : Bool) (text : Array Char) (i : Nat) : Bool :=
  match charAt text i with
  | some c => if unicode then Text.isWordChar c else c.isAlphanum || c = '_'
  | none => false

/-- Whether the assertion holds at position `i` of the text. -/
def Look.holds (l : Look) (text : Array Char) (i : Nat) : Bool :=
  let prev := if i = 0 then none else charAt text (i - 1)
  let next := charAt text i
  match l with
  | .start => i = 0
  | .finish => i = text.size
  | .startLine => i = 0 || prev = some '\n'
  | .endLine => i = text.size || next = some '\n'
  | .startLineCrlf => i = 0 || prev = some '\n' || (prev = some '\r' && next ≠ some '\n')
  | .endLineCrlf => i = text.size || next = some '\r' || (next = some '\n' && prev ≠ some '\r')
  | .wordBoundary u => wordBefore u text i != wordAfter u text i
  | .notWordBoundary u => wordBefore u text i == wordAfter u text i
  | .wordStart u => !wordBefore u text i && wordAfter u text i
  | .wordEnd u => wordBefore u text i && !wordAfter u text i
  | .wordStartHalf u => !wordBefore u text i
  | .wordEndHalf u => !wordAfter u text i

/-- Work left for the walk: a state to explore at a position, or a capture slot to restore
when the walk backs out of the branch that wrote it. -/
inductive Pending where
  | explore (state pos : Nat)
  | restore (slot : Nat) (value : Option Nat)

/-- The walk's memory: explored pairs, the capture slots, and the frames still to run. -/
structure Walk where
  visited : Array Bool
  slots : Array (Option Nat)
  stack : List Pending

/-- The index of a (state, position) pair in the explored table. -/
def pairIndex (text : Array Char) (state pos : Nat) : Nat :=
  state * (text.size + 1) + pos

/-- Where one step of the walk leads: to the walk's answer, or on to a pair to explore (`none`:
to the next frame) with the memory as the step leaves it. -/
inductive Walk.Step where
  | done (result : Option Nat × Walk)
  | next (pair : Option (Nat × Nat)) (w : Walk)

/-- One step of the walk: explores the pair `(state, pos)` unless it was explored before, or runs
the top frame of the stack. -/
def Walk.step (prog : Program) (text : Array Char) : Option (Nat × Nat) → Walk → Walk.Step
  | some (state, pos), w =>
    let k := pairIndex text state pos
    if w.visited.getD k true then .next none w
    else
      let w := { w with visited := w.visited.set! k true }
      match prog.insts[state]? with
      | some (.chars set next) =>
        match charAt text pos with
        | some c => if set.contains c then .next (some (next, pos + 1)) w else .next none w
        | none => .next none w
      | some (.look l next) =>
        if l.holds text pos then .next (some (next, pos)) w else .next none w
      | some (.save slot next) =>
        let old := w.slots.getD slot none
        .next (some (next, pos))
          { w with slots := w.slots.set! slot (some pos), stack := .restore slot old :: w.stack }
      | some (.split []) => .next none w
      | some (.split (a :: rest)) =>
        let more := rest.map fun s => Pending.explore s pos
        .next (some (a, pos)) { w with stack := more ++ w.stack }
      | some .accept => .done (some pos, w)
      | none => .next none w
  | none, w =>
    match w.stack with
    | [] => .done (none, w)
    | .explore s p :: rest => .next (some (s, p)) { w with stack := rest }
    | .restore slot v :: rest => .next none { w with slots := w.slots.set! slot v, stack := rest }

/-- Runs the walk from the pair `(state, pos)` and then from the frames on the stack, until
the program accepts (the end position of the match) or nothing is left (`none`). -/
def walk (prog : Program) (text : Array Char) : Nat → Option (Nat × Nat) → Walk → Option Nat × Walk
  | 0, _, w => (none, w)
  | fuel + 1, x, w =>
    match Walk.step prog text x w with
    | .done result => result
    | .next x w => walk prog text fuel x w

/-- The widest split of the program. -/
def Program.widestSplit (prog : Program) : Nat :=
  prog.insts.foldl (fun acc i => match i with
    | .split alts => Nat.max acc alts.length
    | _ => acc) 0

/-- Enough fuel for a whole walk: a step explores a new pair, revisits an explored one, or pops
a frame; a new pair pushes fewer frames than `widestSplit + 1`, and each frame costs at most a
pop and a revisit. -/
def searchFuel (prog : Program) (text : Array Char) : Nat :=
  (prog.insts.size * (text.size + 1) + 1) * (2 * prog.widestSplit + 3)

/-- Tries start positions `start, start + 1, …` in order, sharing the explored table. -/
def searchFrom (prog : Program) (text : Array Char) (fuel : Nat) (visited : Array Bool) :
    Nat → Nat → Option (Array (Option Nat))
  | 0, _ => none
  | tries + 1, start =>
    let w : Walk := { visited, slots := Array.replicate prog.slots none, stack := [] }
    match walk prog text fuel (some (prog.start, start)) w with
    | (some _, w') => some w'.slots
    | (none, w') => searchFrom prog text fuel w'.visited tries (start + 1)

/-- The capture slots of the leftmost-first match in the text, if there is one. -/
def Program.search (prog : Program) (text : Array Char) : Option (Array (Option Nat)) :=
  let visited := Array.replicate (prog.insts.size * (text.size + 1)) false
  searchFrom prog text (searchFuel prog text) visited (text.size + 1) 0

end RuleRouting.Regex
