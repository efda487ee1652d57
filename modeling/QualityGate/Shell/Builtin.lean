import QualityGate.Shell.Builtin.Jumps
import QualityGate.Shell.Builtin.Names
import QualityGate.Shell.Builtin.Places
import QualityGate.Shell.Builtin.Processes
import QualityGate.Shell.Builtin.Settings
import QualityGate.Shell.Output

/-!
The commands that a shell runs itself, by their names.
-/

namespace QualityGate.Shell

namespace Builtin

def print : Builtin := fun _ arguments => do
  match ← withoutOptions arguments with
  | [] => Run.fault
  | format :: arguments =>
    let (text, status) := printed format arguments
    Run.print text
    if status = faultStatus then Run.fault
    Run.setStatus status

def special : List (Text × Builtin) :=
  [(":", idle 0), ("exit", exit), ("return", leave), ("break", jump .leaveLoops), ("continue", jump .nextRound),
    ("eval", evaluate), (".", source), ("export", declare "export" ({ · with exported := true }) (·.exported)),
    ("readonly", declare "readonly" ({ · with readOnly := true }) (·.readOnly)), ("local", keep), ("unset", unset),
    ("set", configure), ("shift", shift), ("trap", trap), ("times", times)]

def ordinary : List (Text × Builtin) :=
  [("[", judge bracketStatus), ("test", judge conditionStatus), ("echo", say fun _ arguments => echoed arguments),
    ("printf", print), ("true", idle 0), ("false", idle 1), ("read", read), ("getopts", getOptions),
    ("cd", changeDirectory), ("chdir", changeDirectory), ("pwd", showDirectory), ("alias", setAliases),
    ("unalias", removeAliases), ("umask", permissionMask), ("ulimit", limit), ("kill", kill), ("wait", wait),
    ("jobs", jobs), ("fg", resume), ("bg", resume), ("type", describe), ("hash", hash)]

end Builtin

def builtin? (name : Text) : Option Builtin :=
  (Builtin.special.lookup name).orElse fun _ => Builtin.ordinary.lookup name

end QualityGate.Shell
