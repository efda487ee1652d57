import QualityGate.Shell.Condition
import QualityGate.Shell.Output

/-!
What programs have in common: their options, and the text they read.
-/

namespace QualityGate.Shell.Programs

open Text (byte)

def usageStatus : Nat := 1

def isOption (t : Text) : Bool := 1 < t.length && t.head? = some (byte '-')

/-- The options of a program, each with its value if it takes one, and the other arguments. Options can stand anywhere in
front of `--`; `valued` are the letters of those with a value. Nothing when an option is not among those that are known. -/
def options? (known valued : Text) : Nat → List (UInt8 × Text) → List Text → List Text →
    Option (List (UInt8 × Text) × List Text)
  | 0, _, _, _ => none
  | _, found, plain, [] => some (found.reverse, plain.reverse)
  | fuel + 1, found, plain, first :: rest =>
    if ¬ isOption first then options? known valued fuel found (first :: plain) rest
    else if first = "--" then some (found.reverse, plain.reverse ++ rest)
    else
      let letter := (first.drop 1).headD 0
      let after := first.drop 2
      if valued.contains letter then
        if ¬ after.isEmpty then options? known valued fuel ((letter, after) :: found) plain rest
        else
          match rest with
          | value :: rest => options? known valued fuel ((letter, value) :: found) plain rest
          | [] => none
      else if known.contains letter then
        let found := (letter, []) :: found
        if after.isEmpty then options? known valued fuel found plain rest
        else options? known valued fuel found plain ((byte '-' :: after) :: rest)
      else none

def optionSteps (arguments : List Text) : Nat := (arguments.map List.length).foldl (· + ·) (arguments.length + 1)

structure Arguments where
  options : List (UInt8 × Text)
  plain : List Text
  deriving DecidableEq, Repr

def Arguments.read? (known valued : Text) (arguments : List Text) : Option Arguments :=
  (options? known valued (optionSteps arguments) [] [] arguments).map fun (options, plain) => ⟨options, plain⟩

def Arguments.has (arguments : Arguments) (letter : Char) : Bool := arguments.options.any fun found => found.1 = byte letter

def Arguments.value? (arguments : Arguments) (letter : Char) : Option Text :=
  ((arguments.options.filter fun found => found.1 = byte letter).getLast?).map (·.2)

/-- Runs a program with its arguments, or fails with a status when they cannot be read. -/
def withArguments (known valued : Text) (refused : Nat) (arguments : List Text) (step : Arguments → Run Nat) : Run Nat :=
  match Arguments.read? known valued arguments with
  | some arguments => step arguments
  | none => return refused

def linesOf (t : Text) : List Text :=
  let pieces := Text.splitAtByte (byte '\n') t
  if pieces.getLast? = some [] then pieces.dropLast else pieces

/-- The lines of a text with the line breaks that end them; the last one may have none. -/
def wholeLines (t : Text) : List Text :=
  let lines := (Text.splitAtByte (byte '\n') t).reverse
  let whole := lines.tail.map fun (line : Text) => line ++ [byte '\n']
  (if lines.headD [] = [] then whole else lines.headD [] :: whole).reverse

def ofLines (lines : List Text) : Text := lines.flatMap (· ++ "\n")

def zeroEnded (t : Text) : List Text :=
  let pieces := Text.splitAtByte 0 t
  if pieces.getLast? = some [] then pieces.dropLast else pieces

def leadingOptions (known valued : Text) : List Text → Nat
  | [] => 0
  | [first] => if isOption first then 1 else 0
  | first :: second :: rest =>
    if ¬ isOption first then 0
    else if first = "--" then 1
    else if first.length = 2 && first.getLast?.any (valued.contains ·) then leadingOptions known valued rest + 2
    else leadingOptions known valued (second :: rest) + 1

/-- What can be read at a path. Devices stand for the streams of the program. -/
def readAt (path : Text) : Run (Option Text) := do
  let state ← get
  match state.workspace.find true path with
  | .error _ => return none
  | .ok target =>
    if target.location = Machine.nullDevice then return some []
    match Machine.streamDevices.lookup target.location with
    | some stream =>
      if (state.source? stream).isNone then return none
      set (state.setInput stream [])
      return some (state.inputOf stream)
    | none => return (state.workspace.read path).toOption

def readInput : Run (Option Text) := do
  if ((← get).source? 0).isNone then return none
  return some (← Run.takeInput)

/-- What several files hold, each with its name, and whether all could be read. Without names the input is read. -/
def contents (names : List Text) : Run (List (Text × Text) × Bool) := do
  let names := if names.isEmpty then [Text.ofString "-"] else names
  let found ← names.mapM fun (name : Text) => do
    let content ← if name = "-" then readInput else readAt name
    return content.map fun content => (name, content)
  return (found.filterMap id, found.all Option.isSome)

/-- Makes changes to the workspace one by one; the status says whether all could be made. -/
def changeAll {α : Type} (items : List α) (change : State → α → Option State) : Run Nat := do
  let results ← items.mapM fun item => do
    match change (← get) item with
    | some state =>
      set state
      return true
    | none => return false
  return if results.all id then 0 else 1

def inWorkspace (change : Workspace → Option Workspace) (state : State) : Option State :=
  (change state.workspace).map fun workspace => { state with workspace }

def say (t : Text) : Run Nat := do
  Run.print (t ++ "\n")
  return 0

end QualityGate.Shell.Programs
