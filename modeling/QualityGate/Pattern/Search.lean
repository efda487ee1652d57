import QualityGate.Pattern.Grammar
import QualityGate.Pattern.Program
import Std.Data.TreeSet

/-!
Searching a text. From each start the program is followed depth first, the preferred branch first; no split is followed
twice at the same position in one search, which keeps the work in bounds. The first start that leads to acceptance wins,
and there the first accepting path.
-/

namespace QualityGate.Pattern

open Text (byte)

structure Subject where
  units : Array (Nat × Nat)
  bytes : Array UInt8
  deriving DecidableEq, Repr

/-- The code point and width at every offset, after those in `done`. An ill-formed byte reads as the replacement
character. -/
def unitsAfter (done : Array (Nat × Nat)) : Text → Array (Nat × Nat)
  | [] => done
  | b :: rest =>
    let unit := Text.front (b :: rest)
    unitsAfter (done.push ((unit.1.getD Text.replacement).toNat, unit.2)) rest

def Subject.ofText (text : Text) : Subject := ⟨unitsAfter #[] text, text.toArray⟩

def Subject.slice (subject : Subject) (start stop : Nat) : Text := (subject.bytes.extract start stop).toList

def Subject.size (subject : Subject) : Nat := subject.bytes.size

def isWordByte (b : UInt8) : Bool := CharSet.wordChars.contains b.toNat

/-- Whether a condition holds at a position of a text that is searched from `origin` on: what stands before `origin` is
not seen. -/
def Subject.satisfies (subject : Subject) (origin position : Nat) (condition : Assertion) : Bool :=
  let previous := if origin < position then subject.bytes[position - 1]? else none
  let following := subject.bytes[position]?
  let boundary := previous.any isWordByte != following.any isWordByte
  match condition with
  | .beginText => previous.isNone
  | .endText => following.isNone
  | .beginLine => previous.all (· = byte '\n')
  | .endLine => following.all (· = byte '\n')
  | .wordBoundary => boundary
  | .noWordBoundary => !boundary

/-- The bounds recorded so far: the start of group `n` in slot `2 * n`, its end in the next slot. -/
abbrev Slots := Array (Option Nat)

structure Job where
  address : Nat
  position : Nat
  slots : Slots
  deriving DecidableEq, Repr

/-- The addresses that were followed at each position, counted from the origin of the search. Positions that were not
reached yet are left out at the end. -/
abbrev Visited := Array (Std.TreeSet Nat)

def Visited.contains (visited : Visited) (position address : Nat) : Bool :=
  (visited[position]?).any (·.contains address)

def Visited.reach (visited : Visited) (position : Nat) : Visited :=
  (List.range (position + 1 - visited.size)).foldl (fun visited _ => visited.push {}) visited

def Visited.insert (visited : Visited) (position address : Nat) : Visited :=
  (visited.reach position).modify position (·.insert address)

/-- What becomes of a job: acceptance, or the jobs that replace it, the preferred one first. -/
def Job.next (program : Program) (subject : Subject) (origin : Nat) (job : Job) : Option (List Job) :=
  match program.code[job.address]? with
  | some .accept => none
  | some (.char set next) =>
    match subject.units[job.position]? with
    | some (c, width) =>
      some (if set.contains c then [{ job with address := next, position := job.position + width }] else [])
    | none => some []
  | some (.assert condition next) =>
    some (if subject.satisfies origin job.position condition then [{ job with address := next }] else [])
  | some (.save slot next) =>
    some [{ job with address := next, slots := job.slots.setIfInBounds slot (some job.position) }]
  | some (.split first second) => some [{ job with address := first }, { job with address := second }]
  | some .fail | none => some []

def Program.splitsAt (program : Program) (address : Nat) : Bool :=
  match program.code[address]? with
  | some (.split _ _) => true
  | _ => false

def follow (program : Program) (subject : Subject) (origin : Nat) : Nat → List Job → Visited → Option Job × Visited
  | 0, _, visited => (none, visited)
  | _, [], visited => (none, visited)
  | fuel + 1, job :: rest, visited =>
    if program.splitsAt job.address then
      if visited.contains (job.position - origin) job.address then follow program subject origin fuel rest visited
      else
        follow program subject origin fuel (((job.next program subject origin).getD []) ++ rest)
          (visited.insert (job.position - origin) job.address)
    else
      match job.next program subject origin with
      | none => (some job, visited)
      | some jobs => follow program subject origin fuel (jobs ++ rest) visited

structure Match where
  start : Nat
  stop : Nat
  groups : List (Option (Nat × Nat))
  deriving DecidableEq, Repr

def Job.toMatch (groups start : Nat) (job : Job) : Match :=
  ⟨start, job.position, (List.range groups).map fun i =>
    match job.slots[2 * (i + 1)]?, job.slots[2 * (i + 1) + 1]? with
    | some (some a), some (some b) => some (a, b)
    | _, _ => none⟩

/-- Enough steps for a search: every split is followed once at each position, and between two splits the addresses go
down. -/
def Program.steps (program : Program) (subject : Subject) : Nat :=
  2 * (program.code.size + 1) * (program.code.size + 1) * (subject.size + 2)

/-- Tries the starts from `start` on, `left` of them at most. -/
def findFrom (program : Program) (subject : Subject) (origin : Nat) : Nat → Nat → Visited → Option Match
  | 0, _, _ => none
  | left + 1, start, visited =>
    let job : Job := ⟨program.start, start, Array.replicate (2 * program.groups + 2) none⟩
    let fuel := program.steps subject
    match follow program subject origin fuel [job] visited with
    | (some accepted, _) => some (accepted.toMatch program.groups start)
    | (none, visited) =>
      match subject.units[start]? with
      | some (_, width) => findFrom program subject origin left (start + width) visited
      | none => none

/-- The leftmost match in the text from `origin` on. -/
def find? (program : Program) (subject : Subject) (origin : Nat) : Option Match :=
  findFrom program subject origin (subject.size + 1 - origin) origin #[]

/-- The matches one after the other from `origin` on. After an empty match the search goes on one byte later. -/
def matchesFrom (program : Program) (subject : Subject) : Nat → Nat → List Match
  | 0, _ => []
  | fuel + 1, origin =>
    if subject.size < origin then []
    else
      match find? program subject origin with
      | none => []
      | some found =>
        found :: matchesFrom program subject fuel (if found.stop = found.start then found.stop + 1 else found.stop)

end QualityGate.Pattern

namespace QualityGate

structure Pattern where
  program : Pattern.Program
  groupNames : List Text
  deriving DecidableEq, Repr

namespace Pattern

def compile (source : Text) : Except Error Pattern := do
  let (t, names) ← parse source
  return ⟨t.core.program names.length, names⟩

/-- All matches in a prepared text, from left to right, none overlapping another. -/
def matchesIn (pattern : Pattern) (subject : Subject) : List Match :=
  matchesFrom pattern.program subject (subject.size + 2) 0

def allMatches (pattern : Pattern) (text : Text) : List Match := pattern.matchesIn (Subject.ofText text)

/-- The number of the first group with a name, counted from zero. -/
def groupNamed? (pattern : Pattern) (name : Text) : Option Nat := pattern.groupNames.findIdx? (· = name)

end Pattern

end QualityGate
