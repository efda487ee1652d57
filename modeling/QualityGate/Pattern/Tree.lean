import QualityGate.Pattern.Core

/-!
Patterns as trees, in the form in which they are put together while a pattern is read. Neighbouring literals are one
node, sequences and choices have any number of parts, and counted repetition is a node of its own. The marks of open
groups and of bars between alternatives are nodes too, since they stand between the parts that are not finished.
-/

namespace QualityGate.Pattern

/-- Flags that can change inside a pattern. Literals remember the flags that they were read under; `factored` marks those
that were not read but split off from several alternatives. -/
structure Flags where
  fold : Bool := false
  multiLine : Bool := false
  dotMatchesNewline : Bool := false
  lazyByDefault : Bool := false
  factored : Bool := false
  deriving DecidableEq, Repr

inductive Repetition where
  | star
  | plus
  | opt
  | counted (min : Nat) (max : Option Nat)
  deriving DecidableEq, Repr

namespace Repetition

def isMultiple : Repetition → Bool
  | counted min max => 2 ≤ min || max.any (2 ≤ ·)
  | _ => false

def count? : Repetition → Option Nat
  | counted min max => some (max.getD min)
  | _ => none

def core (repetition : Repetition) (greedy : Greedy) (e : Core) : Core :=
  match repetition with
  | star => .starOf greedy e
  | plus => .plusOf greedy e
  | opt => .optOf greedy e
  | counted min max => .counted min max greedy e

/-- The number of instructions of a repetition of something with `size` instructions. -/
def size (repetition : Repetition) (size : Nat) : Nat :=
  match repetition with
  | star => 2 + size
  | plus | opt => 1 + size
  | counted 0 none => 2 + size
  | counted min none => 1 + min * size
  | counted min (some max) => max * size + (max - min)

end Repetition

inductive Label where
  | empty
  | literal (reversed : List Nat) (flags : Flags)
  | set (members : CharSet) (bounds : List Nat)
  | anyButNewline
  | any
  | assertion (condition : Assertion)
  | capture (group : Nat)
  | repetition (kind : Repetition) (greedy : Greedy)
  | sequence
  | choice
  /-- An open group, the number of a capturing one, and the flags before it. -/
  | opening (group : Option Nat) (flags : Flags)
  | bar
  deriving DecidableEq, Repr

namespace Label

def literalSet (c : Nat) (flags : Flags) : CharSet := (CharSet.single c).adapted flags.fold false

def notNewline : CharSet := .complement (.single 0x0A)

def isMark : Label → Bool
  | opening _ _ | bar => true
  | _ => false

def characters : Label → Nat
  | literal reversed _ => reversed.length
  | set _ bounds => bounds.length
  | _ => 0

/-- How much a node that takes one character can take: the kinds of such nodes in increasing order. -/
def breadth? : Label → Option Nat
  | literal [_] _ => some 0
  | set _ _ => some 1
  | anyButNewline => some 2
  | any => some 3
  | _ => none

def size (label : Label) (parts : List Nat) : Nat :=
  let total := parts.foldl (· + ·) 0
  max 1 <|
    match label with
    | literal reversed _ => reversed.length
    | capture _ => 2 + total
    | repetition kind _ => kind.size total
    | sequence => total
    | choice => total + (parts.length - 1)
    | _ => 0

def core (label : Label) (parts : List Core) : Core :=
  match label with
  | literal reversed flags =>
    .sequence (reversed.foldl (fun parts c => .char (literalSet c flags) :: parts) [])
  | set members _ => .char members
  | anyButNewline => .char notNewline
  | any => .char .all
  | assertion condition => .assert condition
  | capture group => .capture group (.sequence parts)
  | repetition kind greedy => kind.core greedy (.sequence parts)
  | sequence => .sequence parts
  | choice => .choice parts
  | empty | opening _ _ | bar => .empty

end Label

inductive Tree where
  | node (label : Label) (parts : List Tree) (height : Nat) (measured : Option Nat)

namespace Tree

def label : Tree → Label
  | node label _ _ _ => label

def parts : Tree → List Tree
  | node _ parts _ _ => parts

def height : Tree → Nat
  | node _ _ height _ => height

def measured : Tree → Option Nat
  | node _ _ _ measured => measured

def make (label : Label) (parts : List Tree) (measured : Option Nat) : Tree :=
  node label parts (1 + parts.foldl (fun height part => max height part.height) 0) measured

def relabel (t : Tree) (label : Label) : Tree := make label [] t.measured

def isMark (t : Tree) : Bool := t.label.isMark

def breadth? (t : Tree) : Option Nat := t.label.breadth?

mutual

def measure : Tree → Tree
  | node label parts height measured =>
    match measured with
    | some size => node label parts height (some size)
    | none =>
      let parts := measureAll [] parts
      node label parts height (some (label.size (parts.map fun part => part.measured.getD 0)))

/-- Measures trees, after those in `done`, which come latest first. -/
def measureAll (done : List Tree) : List Tree → List Tree
  | [] => done.reverse
  | part :: parts => measureAll (part.measure :: done) parts

end

/-- Measures the root of a tree anew, from what its parts were last found to need. -/
def remeasure (t : Tree) : Tree :=
  let parts := measureAll [] t.parts
  node t.label parts t.height (some (t.label.size (parts.map fun part => part.measured.getD 0)))

mutual

def countsWithin (limit : Nat) : Tree → Bool
  | node label parts _ _ =>
    match label with
    | .repetition kind _ =>
      match kind.count? with
      | some 0 => kind ≠ .counted 0 none || allCountWithin limit parts
      | some count => count ≤ limit && allCountWithin (limit / count) parts
      | none => allCountWithin limit parts
    | _ => allCountWithin limit parts

/-- Whether nested counts multiply to at most a limit in every tree. -/
def allCountWithin (limit : Nat) : List Tree → Bool
  | [] => true
  | part :: parts => part.countsWithin limit && allCountWithin limit parts

end

mutual

def core : Tree → Core
  | node label parts _ _ => label.core (cores [] parts)

/-- The patterns of trees, after those in `done`, which come latest first. -/
def cores (done : List Core) : List Tree → List Core
  | [] => done.reverse
  | part :: parts => cores (part.core :: done) parts

end

end Tree

end QualityGate.Pattern
