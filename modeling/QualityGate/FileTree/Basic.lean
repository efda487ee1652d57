import QualityGate.Path

/-!
A file tree: files, directories, symbolic links and named pipes, and what stands where in it. A location is a list of
names that starts at the root and passes through directories only. What is in a tree need not be of use: the faults of
a node are met by whoever follows a name in it, opens it or reads it. What is said of them is the wording of the
operating system.
-/

namespace QualityGate

inductive PathFault where
  | missing
  | notDirectory
  | isDirectory
  | taken
  | tooManyLinks
  | nameTooLong
  | invalid
  | denied
  | argumentsTooLong
  | inputOutput
  | notReady
  deriving DecidableEq, Repr

def PathFault.message : PathFault → Text
  | missing => "no such file or directory"
  | notDirectory => "not a directory"
  | isDirectory => "is a directory"
  | taken => "file exists"
  | tooManyLinks => "too many levels of symbolic links"
  | nameTooLong => "file name too long"
  | invalid => "invalid argument"
  | denied => "permission denied"
  | argumentsTooLong => "argument list too long"
  | inputOutput => "input/output error"
  | notReady => "resource temporarily unavailable"

structure NodeFaults where
  /-- Met by following a name in a directory. -/
  searching : Option PathFault := none
  opening : Option PathFault := none
  /-- Met after so many bytes of a file, or entries of a directory. -/
  reading : Option (Nat × PathFault) := none
  closing : Option PathFault := none
  deriving DecidableEq, Repr

inductive FileNode where
  | file (content : Text) (faults : NodeFaults := {})
  | directory (entries : List (Text × FileNode)) (faults : NodeFaults := {})
  | link (target : Text)
  | pipe (faults : NodeFaults := {})

namespace FileNode

def isDirectory : FileNode → Bool
  | directory _ _ => true
  | _ => false

def isPipe : FileNode → Bool
  | pipe _ => true
  | _ => false

def faults : FileNode → NodeFaults
  | file _ faults | directory _ faults | pipe faults => faults
  | link _ => {}

def at? : FileNode → List Text → Option FileNode
  | node, [] => some node
  | directory entries _, name :: rest => (entries.lookup name).bind fun node => node.at? rest
  | _, _ :: _ => none

def setEntry (name : Text) (node : FileNode) : List (Text × FileNode) → List (Text × FileNode)
  | [] => [(name, node)]
  | (other, old) :: rest => if other = name then (name, node) :: rest else (other, old) :: setEntry name node rest

/-- The tree with a node put at a location. Nothing changes when the directories on the way are not there. -/
def put (new : FileNode) : FileNode → List Text → FileNode
  | _, [] => new
  | directory entries faults, [name] => directory (setEntry name new entries) faults
  | directory entries faults, name :: rest =>
    match entries.lookup name with
    | some node => directory (setEntry name (put new node rest) entries) faults
    | none => directory entries faults
  | node, _ :: _ => node

def erase : FileNode → List Text → FileNode
  | directory entries faults, [name] => directory (entries.filter fun entry => entry.1 ≠ name) faults
  | directory entries faults, name :: rest =>
    match entries.lookup name with
    | some node => directory (setEntry name (node.erase rest) entries) faults
    | none => directory entries faults
  | node, _ => node

end FileNode

end QualityGate
