import QualityGate.FileTree.Access

/-!
Changes to a file tree: new files, directories, links and pipes. A change that cannot be made leaves the tree as it is.
-/

namespace QualityGate.Workspace

def put (workspace : Workspace) (location : List Text) (node : FileNode) : Workspace :=
  { workspace with root := node.put workspace.root location }

/-- Writes a file. A file that is there is overwritten, a link is followed, also to a file that is not there yet. Nobody
reads from a pipe. -/
def write (workspace : Workspace) (path content : Text) : Except PathFault Workspace :=
  match workspace.find true path with
  | .error fault => .error fault
  | .ok target =>
    if target.slash || target.node?.any FileNode.isDirectory then .error .isDirectory
    else if target.node?.any FileNode.isPipe then .error .notReady
    else
      let faults := (target.node?.map FileNode.faults).getD {}
      match faults.opening with
      | some fault => .error fault
      | none => .ok (workspace.put target.location (.file content faults))

def add (workspace : Workspace) (path : Text) (node : FileNode) : Except PathFault Workspace :=
  match workspace.find false path with
  | .error fault => .error fault
  | .ok target => if target.node?.isSome then .error .taken else .ok (workspace.put target.location node)

def erase (workspace : Workspace) (location : List Text) : Workspace :=
  { workspace with root := workspace.root.erase location }

structure DirectoryFault where
  path : Text
  fault : PathFault
  deriving DecidableEq, Repr

def DirectoryFault.message (error : DirectoryFault) : Text := "mkdir " ++ error.path ++ ": " ++ error.fault.message

/-- Makes a directory whose parent is there; one that is there already is as good. -/
def makeDirectory (workspace : Workspace) (path : Text) : Workspace × Option DirectoryFault :=
  match workspace.add path (.directory []) with
  | .ok workspace => (workspace, none)
  | .error fault =>
    match workspace.entry path with
    | .ok (.directory _ _) => (workspace, none)
    | _ => (workspace, some ⟨path, fault⟩)

def ensureDirectory (workspace : Workspace) (path : Text) : Workspace × Option DirectoryFault :=
  match workspace.stat path with
  | .ok (.directory _ _) => (workspace, none)
  | .ok _ => (workspace, some ⟨path, .notDirectory⟩)
  | .error _ => workspace.makeDirectory path

/-- Makes the directories that a path names one after the other, up to the first that cannot be made; `done` is the part
of the path in front of the rest, backwards. -/
def makeDirectoriesFrom (workspace : Workspace) (done : Text) : Text → Workspace × Option DirectoryFault
  | [] => workspace.ensureDirectory done.reverse
  | b :: rest =>
    if b ≠ Path.separator ∨ done.isEmpty then makeDirectoriesFrom workspace (b :: done) rest
    else
      match workspace.ensureDirectory done.reverse with
      | (workspace, none) => makeDirectoriesFrom workspace (b :: done) rest
      | (workspace, some fault) => (workspace, some fault)

def makeDirectories (workspace : Workspace) (path : Text) : Workspace × Option DirectoryFault :=
  workspace.makeDirectoriesFrom [] path

end QualityGate.Workspace
