import QualityGate.FileTree.Basic

/-!
Where a path leads. Names are followed one by one through the tree: a link in the middle of a path is replaced by its
target, and the dots mean the directory reached and the one above it. In a directory that cannot be searched no name
leads anywhere.
-/

namespace QualityGate

/-- What a path leads to: a location, the node there if there is one, and whether a separator follows the last name,
which asks for a directory. -/
structure Target where
  location : List Text
  node? : Option FileNode
  slash : Bool

def Target.node : Target → Except PathFault FileNode
  | ⟨_, none, _⟩ => .error .missing
  | ⟨_, some node, slash⟩ => if slash && !node.isDirectory then .error .notDirectory else .ok node

namespace Resolution

def maximumName : Nat := 255

def maximumPath : Nat := 4095

def maximumLinks : Nat := 40

def names (path : Text) : List Text := (Text.splitAtByte Path.separator path).filter (!·.isEmpty)

def hasSlash (path : Text) : Bool := path.getLast? = some Path.separator

inductive Stop where
  | done (target : Target)
  | link (here : List Text) (target : Text) (rest : List Text)

/-- Follows names from a location up to the first link that matters. -/
def advance (root : FileNode) (followsLast slash : Bool) (here : List Text) : List Text → Except PathFault Stop
  | [] => .ok (.done ⟨here, root.at? here, slash⟩)
  | name :: rest =>
    match root.at? here with
    | some (.directory entries faults) =>
      match faults.searching with
      | some fault => .error fault
      | none =>
        if name = "." then advance root followsLast slash here rest
        else if name = ".." then advance root followsLast slash here.dropLast rest
        else if maximumName < name.length then .error .nameTooLong
        else
          match entries.lookup name with
          | none => if rest.isEmpty then .ok (.done ⟨here ++ [name], none, slash⟩) else .error .missing
          | some (.link target) =>
            if rest.isEmpty && !followsLast && !slash then .ok (.done ⟨here ++ [name], some (.link target), slash⟩)
            else .ok (.link here target rest)
          | some _ => advance root followsLast slash (here ++ [name]) rest
    | _ => .error .notDirectory

/-- Follows names from a location, through at most the given number of links. -/
def follow (root : FileNode) (followsLast : Bool) :
    Nat → List Text → Bool → List Text → Except PathFault Target
  | links, here, slash, rest =>
    match advance root followsLast slash here rest with
    | .error fault => .error fault
    | .ok (.done target) => .ok target
    | .ok (.link here target rest) =>
      match links with
      | 0 => .error .tooManyLinks
      | links + 1 =>
        follow root followsLast links (if Path.isAbsolute target then [] else here)
          (slash || rest.isEmpty && hasSlash target) (names target ++ rest)

end Resolution

structure Workspace where
  root : FileNode
  location : List Text

namespace Workspace

def path (workspace : Workspace) : Text := Path.separator :: Text.join [Path.separator] workspace.location

/-- What a path leads to; the last name is followed when it is a link, if that is asked for. -/
def find (workspace : Workspace) (followsLast : Bool) (path : Text) : Except PathFault Target :=
  if path.contains 0 then .error .invalid
  else if path.isEmpty then .error .missing
  else if Resolution.maximumPath < path.length then .error .nameTooLong
  else
    Resolution.follow workspace.root followsLast Resolution.maximumLinks
      (if Path.isAbsolute path then [] else workspace.location) (Resolution.hasSlash path) (Resolution.names path)

/-- The node at a path, with the last link followed. -/
def stat (workspace : Workspace) (path : Text) : Except PathFault FileNode :=
  (workspace.find true path).bind Target.node

/-- The node at a path; the last name may be a link. -/
def entry (workspace : Workspace) (path : Text) : Except PathFault FileNode :=
  (workspace.find false path).bind Target.node

end Workspace

end QualityGate
