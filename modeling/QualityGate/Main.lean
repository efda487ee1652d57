import QualityGate.CommandLine.Program

/-!
The command line on a real machine. The directory that the program runs in, and every path among the arguments, is
read into a file tree; the program runs on that tree, and what it leaves behind is written out. What lies elsewhere on
the machine is not seen.
-/

namespace QualityGate.Machine

def version : Text := "dev"

def bytes (t : Text) : ByteArray := ⟨t.toArray⟩

/-- A text as a string; what is not well-formed is replaced. -/
def shown (t : Text) : String := String.ofList (Text.charsReplaced t)

/-- Reads what is at a path. Directories that every check skips are left empty, and what cannot be read is taken for
something that must not be. -/
partial def load (path : String) : IO FileNode := do
  let place := (← IO.currentDir) / path
  match (← place.symlinkMetadata).type with
  | .file =>
    try return .file (← IO.FS.readBinFile place).toList
    catch _ => return .file [] { opening := some .denied }
  | .symlink =>
    try return .link (Text.ofString (← IO.FS.realPath place).toString)
    catch _ => return .link (Text.ofString (place.toString ++ ".missing"))
  | .other => return .pipe
  | .dir =>
    try
      let entries ← (← place.readDir).toList.mapM fun entry => do
        let name := Text.ofString entry.fileName
        let node ← if excludedDirectories.contains name && (← entry.path.isDir) then pure (.directory [])
          else load entry.path.toString
        return (name, node)
      return .directory entries
    catch _ => return .directory [] { opening := some .denied }

/-- Puts what is at a path into a workspace, if there is anything. -/
def withPath (workspace : Workspace) (path : String) : IO Workspace := do
  let place := (← IO.currentDir) / path
  if ! (← place.pathExists) then return workspace
  let absolute := Path.clean (Text.ofString place.toString)
  let node ← load path
  let parent := (workspace.makeDirectories (Path.directory absolute)).1
  return parent.put (Resolution.names absolute) node

def workspace (arguments : List String) : IO Workspace := do
  let here ← IO.currentDir
  let start : Workspace := ⟨.directory [], Resolution.names (Text.ofString here.toString)⟩
  (here.toString :: arguments).foldlM withPath start

def save (workspace : Workspace) (path : Text) : IO Unit := do
  match workspace.read path with
  | .error _ => return
  | .ok content =>
    let place := (← IO.currentDir) / shown path
    if let some parent := place.parent then IO.FS.createDirAll parent
    IO.FS.writeBinFile place (bytes content)

def wait : IO Unit := do
  while true do
    IO.sleep 1000

def run (arguments : List String) : IO UInt32 := do
  let program : CommandLine.Program := { version }
  let outcome := program.run (← workspace arguments) (arguments.map Text.ofString)
  outcome.written.forM (save outcome.workspace)
  (← IO.getStdout).write (bytes outcome.output.content)
  (← IO.getStderr).write (bytes outcome.errors.content)
  match outcome.failure with
  | none => return 0
  | some (.scan (.standstill _)) =>
    wait
    return 1
  | some failure =>
    (← IO.getStderr).write (bytes ("codegate error: " ++ failure.message ++ "\n"))
    return 1

end QualityGate.Machine

def main (arguments : List String) : IO UInt32 := QualityGate.Machine.run arguments
