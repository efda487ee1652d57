import QualityGate.FileTree.Change

/-!
What is on the machine beside the files of a workspace: directories, programs and devices. A program is a file that begins
with a mark, and what follows the mark is its name.
-/

namespace QualityGate.Shell.Machine

def programNames : List String :=
  ["[", "basename", "bash", "cat", "chmod", "cmp", "cp", "cut", "dash", "date", "diff", "dirname", "echo", "env", "expr",
    "false", "find", "grep", "head", "hostname", "id", "ln", "ls", "mkdir", "mktemp", "mv", "nohup", "nproc", "od", "printenv",
    "printf", "pwd", "readlink", "realpath", "rm", "rmdir", "sed", "seq", "sh", "sleep", "sort", "stat", "sync", "tac", "tail",
    "tee", "test", "timeout", "touch", "tr", "true", "tty", "uname", "uniq", "wc", "which", "whoami", "xargs", "yes"]

def programMark : Text := [0x7F, 0x45, 0x4C, 0x46]

def programOf? (content : Text) : Option Text :=
  if Text.startsWith content programMark then some (content.drop programMark.length) else none

def programNode (name : String) : FileNode := .file (programMark ++ Text.ofString name)

def programDirectory : List Text := ["usr", "bin"]

def executables : List (List Text) := programNames.map fun name => programDirectory ++ [Text.ofString name]

def nullDevice : List Text := ["dev", "null"]

def fullDevice : List Text := ["dev", "full"]

def terminalDevice : List Text := ["dev", "tty"]

def streamDevices : List (List Text × Nat) :=
  [(["dev", "stdin"], 0), (["dev", "stdout"], 1), (["dev", "stderr"], 2), (["dev", "fd", "0"], 0), (["dev", "fd", "1"], 1),
    (["dev", "fd", "2"], 2)]

def isDevice (location : List Text) : Bool :=
  [nullDevice, fullDevice, terminalDevice].contains location || (streamDevices.lookup location).isSome

def searchPath : Text := "/usr/local/sbin:/usr/local/bin:/usr/sbin:/usr/bin:/sbin:/bin"

def argumentBound : Nat := 131072

def argumentRoom : Nat := 2093056

def takesArguments (arguments : List Text) : Bool :=
  arguments.all (·.length < argumentBound) && (arguments.map fun t => t.length + 9).foldl (· + ·) 0 ≤ argumentRoom

def emptyDirectories (names : List String) : List (Text × FileNode) :=
  names.map fun name => (Text.ofString name, .directory [])

def emptyFiles (names : List String) : List (Text × FileNode) := names.map fun name => (Text.ofString name, .file [])

def deviceEntries : List (Text × FileNode) :=
  ("fd", .directory (emptyFiles ["0", "1", "2"])) :: emptyFiles ["full", "null", "stderr", "stdin", "stdout", "tty"]

def installedEntries : List (Text × FileNode) :=
  ("bin", .directory (programNames.map fun name => (Text.ofString name, programNode name))) ::
    ("local", .directory (emptyDirectories ["bin", "sbin"])) :: emptyDirectories ["lib", "sbin"]

def entries : List (Text × FileNode) :=
  ("bin", .link "usr/bin") :: ("lib", .link "usr/lib") :: ("sbin", .link "usr/sbin") ::
    ("dev", .directory deviceEntries) :: ("usr", .directory installedEntries) ::
    ("etc", .directory [("passwd", .file "root:x:0:0:root:/root:/bin/sh\n")]) ::
    emptyDirectories ["home", "mnt", "opt", "proc", "root", "run", "srv", "sys", "tmp", "var"]

def entriesOf : FileNode → List (Text × FileNode)
  | .directory entries _ => entries
  | _ => []

def around (root : FileNode) : FileNode :=
  let own := entriesOf root
  .directory (own ++ entries.filter fun entry => (own.lookup entry.1).isNone) root.faults

/-- A file tree on the machine by itself: what is on the machine and was not in the tree `before` is left out. -/
def apartFrom (before after : FileNode) : FileNode :=
  let kept := (entriesOf after).filter fun entry =>
    ((entriesOf before).lookup entry.1).isSome || (entries.lookup entry.1).isNone
  .directory kept after.faults

end QualityGate.Shell.Machine
