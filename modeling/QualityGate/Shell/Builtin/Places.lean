import QualityGate.Shell.Builtin.Basic

/-!
Commands about the working directory. A shell names it by the path it took to get there, links included.
-/

namespace QualityGate.Shell.Builtin

open Text (byte)

/-- The names in a path after following the dots in it, from some names on. -/
def follow (names : List Text) (path : Text) : List Text :=
  (Resolution.names path).foldl (fun names (name : Text) =>
    if name = "." then names else if name = ".." then names.dropLast else names ++ [name]) names

def reached (directory path : Text) : Text :=
  let start := if Path.isAbsolute path then path else directory
  let isDouble := Text.startsWith start "//" && (start.drop 2).head? ≠ some Path.separator
  let names := follow (if Path.isAbsolute path then [] else Resolution.names directory) path
  (if isDouble then Text.ofString "//" else [Path.separator]) ++ Text.join [Path.separator] names

/-- The paths that `cd` tries, each with whether it is shown. -/
def destinations (state : State) (path : Text) : List (Text × Bool) :=
  let first := (Text.splitAtByte Path.separator path).headD []
  if Path.isAbsolute path || first = "." || first = ".." then [(path, false)]
  else
    let path := if path.isEmpty then Text.ofString "." else path
    let others :=
      match (state.binding? "CDPATH").bind (·.value) with
      | none => []
      | some list => (Text.splitAtByte (byte ':') list).map fun (directory : Text) =>
        if directory.isEmpty then (path, false) else (directory ++ [Path.separator] ++ path, true)
    (others.filter fun other => (state.workspace.stat other.1).toOption.any FileNode.isDirectory) ++ [(path, false)]

def changeDirectory : Builtin := fun _ arguments => do
  let state ← get
  let (letters, rest) ← optionsOf "LP" [] arguments
  let goesBack := rest.head? = some (Text.ofString "-")
  let path :=
    if goesBack then state.valueOf "OLDPWD" else rest.headD (state.valueOf "HOME")
  let (path, isShown) := (destinations state path).headD ([], false)
  let isPhysical := letters.getLast? = some (byte 'P')
  let path := if isPhysical then path else reached state.directory path
  match state.workspace.find true path with
  | .ok ⟨location, some (.directory _ _), _⟩ =>
    let workspace := { state.workspace with location }
    let directory := if isPhysical then workspace.path else path
    modify fun state => { state with workspace, directory }
    Run.assign "OLDPWD" state.directory
    Run.assign "PWD" directory
    modify fun state => (state.bind "OLDPWD" { value := some (state.valueOf "OLDPWD"), exported := true }).bind "PWD"
      { value := some directory, exported := true }
    if goesBack || isShown then Run.print (directory ++ "\n")
    Run.setStatus 0
  | _ => Run.fault

def showDirectory : Builtin := fun _ arguments => do
  let (letters, _) ← optionsOf "LP" [] arguments
  let state ← get
  Run.print ((if letters.getLast? = some (byte 'P') then state.workspace.path else state.directory) ++ "\n")
  Run.setStatus 0

end QualityGate.Shell.Builtin
