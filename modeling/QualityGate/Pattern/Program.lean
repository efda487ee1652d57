import QualityGate.Pattern.Core

/-!
Patterns as programs. A program is an array of instructions, each of which names the instructions that may follow. Code
is built from its end: an expression is compiled against the address where the search goes on after it.
-/

namespace QualityGate.Pattern

inductive Instruction where
  | fail
  | accept
  | char (set : CharSet) (next : Nat)
  | assert (condition : Assertion) (next : Nat)
  | save (slot : Nat) (next : Nat)
  | split (first second : Nat)
  deriving DecidableEq, Repr

abbrev Code := Array Instruction

abbrev Compiled := Nat × Code

namespace Code

def emit (code : Code) (instruction : Instruction) : Compiled := (code.size, code.push instruction)

/-- A branch between a body and what follows it, the body first when greedy. -/
def branch (greedy : Greedy) (body next : Nat) : Instruction :=
  if greedy then .split body next else .split next body

/-- A loop: the address of the body, which returns to a branch between another round and `next`, and the address of
that branch. -/
def loop (greedy : Greedy) (compileBody : Nat → Code → Compiled) (next : Nat) (code : Code) : Nat × Compiled :=
  let (back, code) := code.emit .fail
  let (body, code) := compileBody back code
  (back, body, code.setIfInBounds back (branch greedy body next))

end Code

/-- Code for an expression that goes on at `next`. The loop of a body that may match nothing is entered through a
branch of its own, so that one round of nothing is still a round. -/
def Core.compile : Core → Nat → Code → Compiled
  | empty, next, code => (next, code)
  | char set, next, code => code.emit (.char set next)
  | assert condition, next, code => code.emit (.assert condition next)
  | capture group e, next, code =>
    let (stop, code) := code.emit (.save (2 * group + 1) next)
    let (body, code) := e.compile stop code
    code.emit (.save (2 * group) body)
  | seq a b, next, code =>
    let (second, code) := b.compile next code
    a.compile second code
  | alt a b, next, code =>
    let (second, code) := b.compile next code
    let (first, code) := a.compile next code
    code.emit (.split first second)
  | star greedy e, next, code =>
    let (back, body, code) := Code.loop greedy e.compile next code
    if e.nullable then code.emit (Code.branch greedy body next) else (back, code)
  | plus greedy e, next, code => (Code.loop greedy e.compile next code).2
  | opt greedy e, next, code =>
    let (body, code) := e.compile next code
    code.emit (Code.branch greedy body next)

structure Program where
  code : Code
  start : Nat
  groups : Nat
  deriving DecidableEq, Repr

/-- The program of an expression. The instruction at address zero accepts. -/
def Core.program (e : Core) (groups : Nat) : Program :=
  let (start, code) := e.compile 0 #[.accept]
  ⟨code, start, groups⟩

end QualityGate.Pattern
