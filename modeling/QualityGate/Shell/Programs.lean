import QualityGate.Shell.Lookup
import QualityGate.Shell.Programs.Files
import QualityGate.Shell.Programs.Lines
import QualityGate.Shell.Programs.Values

/-!
The programs that scripts use most, by their names. Each takes its arguments, reads its input and the file tree, and gives
a status.
-/

namespace QualityGate.Shell.Programs

def printFormat (arguments : List Text) : Run Nat := do
  match arguments.dropWhile fun t => t = Text.ofString "--" with
  | [] => return 1
  | format :: arguments =>
    let (text, status) := printed format arguments
    Run.print text
    return min status 1

def locate (arguments : List Text) : Run Nat := do
  let state ← get
  let known := arguments.filterMap state.path?
  Run.print (ofLines known)
  return if !arguments.isEmpty && known.length = arguments.length then 0 else 1

def makeTemporary (arguments : List Text) : Run Nat := do
  let state ← get
  let path := "/tmp/tmp." ++ Text.ofNat state.nextPipe
  let node : FileNode := if arguments.contains (Text.ofString "-d") then .directory [] else .file []
  match state.workspace.add path node with
  | .ok workspace =>
    set { state with workspace, nextPipe := state.nextPipe + 1 }
    say path
  | .error _ => return 1

def examine (arguments : List Text) : Run Nat := do
  let workspace := (← get).workspace
  let isThere := fun (path : Text) => isOption path || (workspace.entry path).isOk
  return if !arguments.isEmpty && arguments.all isThere then 0 else 1

def sayAll (arguments : List Text) : Run Nat := do
  Run.print (echoed arguments)
  return 0

def identify (arguments : List Text) : Run Nat :=
  say (if arguments.isEmpty then "uid=0(root) gid=0(root) groups=0(root)"
    else if arguments.any (·.contains (Text.byte 'n')) then "root" else "0")

/-- Writes a word again and again; only so often as anyone could want it. -/
def repeatWord (arguments : List Text) : Run Nat := do
  let line : Text := (if arguments.isEmpty then Text.ofString "y" else Text.join " " arguments) ++ "\n"
  Run.print (Text.times 10000 line)
  return 0

def ofText : List (Text × (List Text → Run Nat)) :=
  [("cat", concatenate), ("tac", reverseLines), ("head", head), ("tail", tail), ("wc", count), ("tee", tee), ("cut", cut),
    ("tr", translate), ("sort", sortLines), ("uniq", uniqueLines), ("cmp", compare), ("diff", compare), ("grep", search),
    ("sed", editStream), ("yes", repeatWord)]

def ofFiles : List (Text × (List Text → Run Nat)) :=
  [("ls", list), ("find", find), ("mkdir", makeDirectories), ("rmdir", removeDirectories), ("rm", remove),
    ("touch", touch), ("cp", copy false), ("mv", copy true), ("ln", link), ("chmod", changeMode), ("readlink", readLink),
    ("realpath", realPath), ("mktemp", makeTemporary), ("stat", examine), ("which", locate)]

def ofValues : List (Text × (List Text → Run Nat)) :=
  [("true", fun _ => return 0), ("false", fun _ => return 1), ("sync", fun _ => return 0), ("tty", fun _ => return 1),
    ("test", fun arguments => return conditionStatus (← get) arguments),
    ("[", fun arguments => return bracketStatus (← get) arguments), ("echo", sayAll), ("printf", printFormat),
    ("sleep", sleep), ("seq", sequence), ("expr", evaluate), ("basename", baseName), ("dirname", directoryName),
    ("printenv", showBindings), ("pwd", fun _ => do say (← get).workspace.path), ("whoami", fun _ => say "root"),
    ("id", identify), ("uname", fun _ => say "Linux"), ("hostname", fun _ => say "localhost"),
    ("nproc", fun _ => say "1"), ("date", fun _ => say "Thu Jan  1 00:00:00 UTC 1970")]

def all : List (Text × (List Text → Run Nat)) := ofText ++ ofFiles ++ ofValues

/-- The status of some programs whose output is not taken; for others it is one. -/
def lossStatuses : List (Text × Nat) := [("grep", 2), ("ls", 2), ("sed", 4), ("sort", 2)]

def run (name : Text) (arguments : List Text) : Run Nat := do
  match all.lookup name with
  | some program =>
    modify fun state => { state with lost := false }
    let status ← program arguments
    return if (← get).lost then (lossStatuses.lookup name).getD 1 else status
  | none => return 0

end QualityGate.Shell.Programs
