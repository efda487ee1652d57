import QualityGate.Shell.Condition
import QualityGate.Shell.Lookup

/-!
The commands that a shell runs itself: what they have in common.
-/

namespace QualityGate.Shell

open Text (byte)

abbrev Builtin := (Text → Run Unit) → List Text → Run Unit

def largestNumber : Int := 0x7FFFFFFF

/-- A number that is not negative; anything else is a mistake. -/
def numberOrFault (t : Text) : Run Nat :=
  match decimal? t with
  | some n => if 0 ≤ n && n ≤ largestNumber then return n.toNat else Run.fault
  | none => Run.fault

/-- The letters of the options in front of the arguments, and the arguments. An option that is not allowed is a mistake. -/
def optionsOf (allowed : Text) : Text → List Text → Run (Text × List Text)
  | found, [] => return (found, [])
  | found, first :: rest =>
    if first = "--" then return (found, rest)
    else if first.head? ≠ some (byte '-') || first.length < 2 then return (found, first :: rest)
    else if first.tail.all (allowed.contains ·) then optionsOf allowed (found ++ first.tail) rest
    else Run.fault

def withoutOptions (arguments : List Text) : Run (List Text) := do return (← optionsOf [] [] arguments).2

/-- A text between single quotes, so that a shell reads it as one word. -/
def shellQuoted (t : Text) : Text :=
  let parts := (Text.splitAtByte Text.singleQuote t).map fun part =>
    if part.isEmpty then [] else [Text.singleQuote] ++ part ++ [Text.singleQuote]
  let quoted := Text.join [Text.doubleQuote, Text.singleQuote, Text.doubleQuote] parts
  if quoted.isEmpty then [Text.singleQuote, Text.singleQuote] else quoted

namespace Builtin

def idle (status : Nat) : Builtin := fun _ _ => Run.setStatus status

def say (text : State → List Text → Text) : Builtin := fun _ arguments => do
  let state ← get
  Run.print (text state arguments)
  Run.setStatus 0

def judge (status : State → List Text → Nat) : Builtin := fun _ arguments => do
  Run.setStatus (status (← get) arguments)

end Builtin

end QualityGate.Shell
