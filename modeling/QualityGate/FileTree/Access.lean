import QualityGate.FileTree.Resolution

/-!
What comes of opening what a path leads to. A file is read from its beginning, as far as its faults let it; a pipe into
which nobody writes is waited for without an end. A directory is listed in the same way, and a listing that breaks off
still gives the entries that were seen before.
-/

namespace QualityGate

inductive Access where
  | inspecting
  | opening
  | listing
  | reading
  | closing
  deriving DecidableEq, Repr

def Access.name : Access → Text
  | inspecting => "lstat"
  | opening => "open"
  | listing => "readdirent"
  | reading => "read"
  | closing => "close"

structure AccessFault where
  access : Access
  fault : PathFault
  deriving DecidableEq, Repr

def AccessFault.message (error : AccessFault) (path : Text) : Text :=
  error.access.name ++ " " ++ path ++ ": " ++ error.fault.message

/-- What comes of opening a file: the content as far as it can be read, with why it breaks off there and why the file
cannot be closed; or nothing, now or ever. -/
inductive Opening where
  | failed (fault : PathFault)
  | opened (content : Text) (broken unclosed : Option PathFault)
  | waiting
  deriving DecidableEq, Repr

structure Listing where
  entries : List (Text × FileNode)
  fault : Option AccessFault

namespace FileNode

/-- A directory can be opened, but not read. A link is opened only after it was followed. -/
def opening (node : FileNode) : Opening :=
  match node.faults.opening with
  | some fault => .failed fault
  | none =>
    match node with
    | file content faults =>
      match faults.reading with
      | some (seen, fault) => .opened (content.take seen) (some fault) faults.closing
      | none => .opened content none faults.closing
    | directory _ faults => .opened [] (some .isDirectory) faults.closing
    | link _ => .failed .tooManyLinks
    | pipe _ => .waiting

def listing : FileNode → Listing
  | directory entries faults =>
    match faults.opening, faults.reading with
    | some fault, _ => ⟨[], some ⟨.opening, fault⟩⟩
    | none, some (seen, fault) => ⟨entries.take seen, some ⟨.listing, fault⟩⟩
    | none, none => ⟨entries, none⟩
  | _ => ⟨[], some ⟨.listing, .notDirectory⟩⟩

end FileNode

namespace Workspace

def opening (workspace : Workspace) (path : Text) : Opening :=
  match workspace.stat path with
  | .error fault => .failed fault
  | .ok node => node.opening

def listing (workspace : Workspace) (path : Text) : Listing :=
  match workspace.stat path with
  | .error fault => ⟨[], some ⟨.opening, fault⟩⟩
  | .ok node => node.listing

/-- The whole content at a path, for those who do not wait. -/
def read (workspace : Workspace) (path : Text) : Except PathFault Text :=
  match workspace.opening path with
  | .failed fault => .error fault
  | .opened content none _ => .ok content
  | .opened _ (some fault) _ => .error fault
  | .waiting => .error .notReady

end Workspace

end QualityGate
