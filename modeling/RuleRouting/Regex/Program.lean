import RuleRouting.Regex.Syntax

/-!
# Matching programs

A regular expression compiles to a program of numbered states (a Thompson automaton): a
state reads one character of a set, checks an assertion, records a position in a capture
slot, or branches to several states in order of preference. Repetitions keep the order in
which a leftmost-first search prefers their ways: a greedy `x*` tries one more `x` before
leaving; when `x` can match the empty text, `x*` is built as `(x+)?`, so that an empty
iteration is never preferred to leaving.
-/

namespace RuleRouting.Regex

/-- A state of a matching program. -/
inductive Inst where
  /-- Reads one character of the set, then goes to `next`. -/
  | chars (set : CharSet) (next : Nat)
  /-- Checks an assertion, then goes to `next`. -/
  | look (l : Look) (next : Nat)
  /-- Records the position in a capture slot, then goes to `next`. -/
  | save (slot : Nat) (next : Nat)
  /-- Goes to each state in turn, the first one preferred. -/
  | split (alts : List Nat)
  /-- The match is complete. -/
  | accept
  deriving Inhabited

/-- A matching program: its states, the start state and the number of capture slots. -/
structure Program where
  insts : Array Inst
  start : Nat
  slots : Nat

/-- Building a program: the states added so far. -/
abbrev BuildM := StateM (Array Inst)

/-- Adds a state and returns its number. -/
def addInst (i : Inst) : BuildM Nat :=
  modifyGet fun insts => (insts.size, insts.push i)

/-- Replaces state `n`. -/
def setInst (n : Nat) (i : Inst) : BuildM Unit :=
  modify fun insts => insts.set! n i

/-- A branch in the order that greediness prefers. -/
def preferring (greedy : Bool) (more done : Nat) : Inst :=
  if greedy then .split [more, done] else .split [done, more]

/-- `k` copies of an expression, one after another, in front of `next`. -/
def copies (build : Nat → BuildM Nat) : Nat → Nat → BuildM Nat
  | 0, next => pure next
  | k + 1, next => do
    let s ← build next
    copies build k s

/-- `x{0,k}` as nested optional copies, `x(x(x)?)?)?`, in front of `next`. -/
def optionalCopies (build : Nat → BuildM Nat) (greedy : Bool) (done : Nat) : Nat → Nat → BuildM Nat
  | 0, inner => pure inner
  | k + 1, inner => do
    let s ← build inner
    let u ← addInst (preferring greedy s done)
    optionalCopies build greedy done k u

/-- A repetition of `build`'s expression in front of `next`. -/
def emitRepeat (build : Nat → BuildM Nat) (canBeEmpty : Bool) (min : Nat) (max : Option Nat)
    (greedy : Bool) (next : Nat) : BuildM Nat :=
  match min, max with
  | 0, some 1 => do
    let s ← build next
    addInst (preferring greedy s next)
  | 0, none =>
    if canBeEmpty then do
      let plus ← addInst .accept
      let s ← build plus
      setInst plus (preferring greedy s next)
      addInst (preferring greedy s next)
    else do
      let loop ← addInst .accept
      let s ← build loop
      setInst loop (preferring greedy s next)
      return loop
  | n + 1, none => do
    let loop ← addInst .accept
    let last ← build loop
    setInst loop (preferring greedy last next)
    copies build n last
  | n, some m =>
    if n = m then copies build n next
    else do
      let tail ← optionalCopies build greedy next (m - n) next
      copies build n tail

/-- Compiles an expression in front of the state `next`; returns its start state. -/
def emit : Node → Nat → BuildM Nat
  | .empty, next => pure next
  | .chars s, next => addInst (.chars s next)
  | .look l, next => addInst (.look l next)
  | .capture i body, next => do
    let close ← addInst (.save (2 * i + 1) next)
    let s ← emit body close
    addInst (.save (2 * i) s)
  | .concat parts, next => emitSeq parts next
  | .alt branches, next => do
    let starts ← emitBranches branches next
    addInst (.split starts)
  | .repeat body min max greedy, next =>
    emitRepeat (emit body) (body.minLength.getD 0 == 0) min max greedy next
where
  /-- Compiles parts one after another. -/
  emitSeq : List Node → Nat → BuildM Nat
    | [], next => pure next
    | p :: ps, next => do
      let s ← emitSeq ps next
      emit p s
  /-- Compiles each branch in front of `next`; returns their starts in order. -/
  emitBranches : List Node → Nat → BuildM (List Nat)
    | [], _ => pure []
    | b :: bs, next => do
      let s ← emit b next
      let rest ← emitBranches bs next
      return s :: rest

/-- The number of states `emitRepeat` adds for a repetition whose body takes `b` states. -/
def repeatSize (b : Nat) (canBeEmpty : Bool) : Nat → Option Nat → Nat
  | 0, some 1 => b + 1
  | 0, none => if canBeEmpty then b + 2 else b + 1
  | n + 1, none => (n + 1) * b + 1
  | n, some m => if n = m then n * b else (m - n) * (b + 1) + n * b

mutual
/-- The number of states `emit` adds for an expression, computed without building them. -/
def Node.programSize : Node → Nat
  | .empty => 0
  | .chars _ => 1
  | .look _ => 1
  | .capture _ body => Node.programSize body + 2
  | .concat parts => Node.programSizeSum parts
  | .alt branches => Node.programSizeSum branches + 1
  | .repeat body min max _ =>
    repeatSize (Node.programSize body) (body.minLength.getD 0 == 0) min max

/-- The number of states of the expressions together. -/
def Node.programSizeSum : List Node → Nat
  | [] => 0
  | p :: ps => Node.programSize p + Node.programSizeSum ps
end

/-- The program of an expression with `groups` capture groups besides group 0. -/
def Program.ofNode (node : Node) (groups : Nat) : Program :=
  let build : BuildM Nat := do
    let done ← addInst .accept
    emit (.capture 0 node) done
  let (start, insts) := build.run #[]
  { insts, start, slots := 2 * (groups + 1) }

end RuleRouting.Regex
