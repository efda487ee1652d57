import QualityGate.Checking.Checker
import QualityGate.FileTree.Access

/-!
The walk through a directory: every directory before what is in it, and its entries in byte order of their names.
Directories that the check skips are not entered, links to directories are not followed, and of everything else only
files and links are visited, if the check accepts them. A directory that cannot be listed is visited itself, before
those of its entries that were seen; if it is the root, the walk fails.
-/

namespace QualityGate

/-- A file to be checked: where it is, and how it is called in reports. With a fault it is a directory that the walk
could not list. -/
structure ScanTask where
  path : Text
  display : Text
  fault : Option AccessFault := none
  deriving DecidableEq, Repr

inductive WalkStep where
  /-- A directory is entered, or something is passed by. -/
  | pass
  | skip (path : Text)
  | visit (task : ScanTask)
  | fail (path : Text) (fault : AccessFault)
  deriving DecidableEq, Repr

structure Walk where
  workspace : Workspace
  checker : Checker
  root : Text
  given : Text

namespace Walk

/-- How a file under the given directory is called: the name as it was given, less one separator at its end, and the
path from there. -/
def display (walk : Walk) (relative : Text) : Text :=
  let shown := if walk.given = "/" then walk.given else Text.dropEnding walk.given "/"
  if Text.endsWith shown "/" then shown ++ relative else shown ++ "/" ++ relative

def absolute (walk : Walk) (relative : Text) : Text :=
  if walk.root = "/" then walk.root ++ relative else walk.root ++ "/" ++ relative

def leadsToDirectory (walk : Walk) (path : Text) : Bool :=
  match walk.workspace.stat path with
  | .ok node => node.isDirectory
  | .error _ => false

def visit (walk : Walk) (relative : Text) : WalkStep :=
  if walk.checker.accepts (walk.absolute relative) then
    .visit { path := walk.absolute relative, display := walk.display relative }
  else .pass

def visitUnlisted (walk : Walk) (relative : Text) (fault : Option AccessFault) : List WalkStep :=
  match fault with
  | some fault =>
    [.visit { path := walk.absolute relative, display := walk.display relative, fault := some fault }]
  | none => []

def inside (relative name : Text) : Text := if relative.isEmpty then name else relative ++ "/" ++ name

def inOrder (entries : List (Text × List WalkStep)) : List WalkStep :=
  (Text.sortedByName entries).flatMap (·.2)

mutual

def stepsAt (walk : Walk) (relative name : Text) : FileNode → List WalkStep
  | .directory entries _ =>
    if walk.checker.skipsDirectory name then [.skip (walk.absolute relative)]
    else
      let listing := walk.workspace.listing (walk.absolute relative)
      .pass :: walk.visitUnlisted relative listing.fault ++
        inOrder ((walk.stepsIn relative entries).take listing.entries.length)
  | .file _ _ => [walk.visit relative]
  | .link _ => if walk.leadsToDirectory (walk.absolute relative) then [.pass] else [walk.visit relative]
  | .pipe _ => [.pass]

def stepsIn (walk : Walk) (relative : Text) : List (Text × FileNode) → List (Text × List WalkStep)
  | [] => []
  | (name, node) :: rest => (name, walk.stepsAt (inside relative name) name node) :: walk.stepsIn relative rest

end

/-- All steps of a walk. The root is never skipped; a root that is a link is passed by. -/
def steps (walk : Walk) : List WalkStep :=
  match walk.workspace.entry walk.root with
  | .error fault => [.fail walk.root ⟨.inspecting, fault⟩]
  | .ok (.directory entries _) =>
    match (walk.workspace.listing walk.root).fault with
    | some fault => [.pass, .fail walk.root fault]
    | none => .pass :: inOrder (walk.stepsIn [] entries)
  | .ok _ => [.pass]

end Walk

end QualityGate
