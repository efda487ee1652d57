import QualityGate.Shell.Programs.Basic
import QualityGate.Shell.Wildcard

/-!
Programs that change the file tree, or show what is in it.
-/

namespace QualityGate.Shell.Programs

open Text (byte)

/-- Makes directories, with those on the way if that is asked for. -/
def makeDirectories (arguments : List Text) : Run Nat := withArguments "pv" "m" 1 arguments fun arguments =>
  if arguments.plain.isEmpty then return 1
  else changeAll arguments.plain fun state path => inWorkspace (fun workspace =>
    if arguments.has 'p' then
      match workspace.makeDirectories path with
      | (workspace, none) => some workspace
      | (_, some _) => none
    else (workspace.add path (.directory [])).toOption) state

def removeDirectories (arguments : List Text) : Run Nat := withArguments "pv" [] 1 arguments fun arguments =>
  if arguments.plain.isEmpty then return 1
  else changeAll arguments.plain fun state path => inWorkspace (fun workspace =>
    match workspace.find false path with
    | .ok ⟨location, some (.directory [] _), _⟩ => some (workspace.erase location)
    | _ => none) state

def isDots (path : Text) : Bool :=
  let name := ((Resolution.names path).getLast?).getD []
  name = "." || name = ".." || path.all (· = Path.separator)

def remove (arguments : List Text) : Run Nat := withArguments "rRfdvi" [] 1 arguments fun arguments =>
  let forces := arguments.has 'f'
  let descends := arguments.has 'r' || arguments.has 'R'
  if arguments.plain.isEmpty then return if forces then 0 else 1
  else changeAll arguments.plain fun state path =>
    match state.workspace.find false path with
    | .ok ⟨location, some node, _⟩ =>
      let isEmpty := (Machine.entriesOf node).isEmpty
      if node.isDirectory && !descends && !(arguments.has 'd' && isEmpty) || isDots path then none
      else
        let executables := state.executables.filter fun other => !location.isPrefixOf other
        some { state with workspace := state.workspace.erase location, executables }
    | .ok ⟨_, none, _⟩ => if forces then some state else none
    | .error fault => if forces && (fault = .missing || fault = .notDirectory) then some state else none

def touch (arguments : List Text) : Run Nat := withArguments "acm" "drt" 1 arguments fun arguments =>
  if arguments.plain.isEmpty then return 1
  else changeAll arguments.plain fun state path => inWorkspace (fun workspace =>
    match workspace.find true path with
    | .ok ⟨_, some node, slash⟩ => if slash && !node.isDirectory then none else some workspace
    | _ => if arguments.has 'c' then some workspace else (workspace.write path []).toOption) state

/-- Where something goes that is put at a path: into the directory there, or there itself. -/
def destination (workspace : Workspace) (source target : Text) : Text :=
  if (workspace.stat target).toOption.any FileNode.isDirectory then Path.join target (Path.base source) else target

/-- Puts a copy of a node at a path. The node itself goes away if `moves`. -/
def place (moves descends : Bool) (state : State) (source target : Text) : Option State := do
  let workspace := state.workspace
  let target := destination workspace source target
  let ⟨location, node, _⟩ ← (workspace.find (!moves) source).toOption
  let node ← node
  if node.isDirectory && !descends then none
  let ⟨there, old, _⟩ ← (workspace.find (!moves) target).toOption
  if there = location || location.isPrefixOf there then none
  if old.any fun old => old.isDirectory != node.isDirectory then none
  let copied := workspace.put there node
  let others := state.executables.filter fun other => !there.isPrefixOf other
  let copies := (state.executables.filter (location.isPrefixOf ·)).map fun other => there ++ other.drop location.length
  let executables := copies ++ if moves then others.filter fun other => !location.isPrefixOf other else others
  some { state with workspace := if moves then copied.erase location else copied, executables }

def copy (moves : Bool) (arguments : List Text) : Run Nat := withArguments "rRafpvnTL" "t" 1 arguments fun arguments => do
  let descends := moves || arguments.has 'r' || arguments.has 'R' || arguments.has 'a'
  match arguments.plain.getLast?, arguments.plain.dropLast with
  | some target, sources@(_ :: _) =>
    let isDirectory := ((← get).workspace.stat target).toOption.any FileNode.isDirectory
    if 1 < sources.length && !isDirectory then return 1
    changeAll sources fun state source => place moves descends state source target
  | _, _ => return 1

/-- Makes links: to a path, or second names of files, which are copies here. -/
def link (arguments : List Text) : Run Nat := withArguments "sfnvrT" [] 1 arguments fun arguments => do
  match arguments.plain with
  | [] => return 1
  | source :: rest => changeAll [()] fun state _ => do
    let workspace := state.workspace
    let path := destination workspace source (rest.headD ".")
    let target ← (workspace.find false path).toOption
    if target.node?.isSome && !arguments.has 'f' then none
    let node ← if arguments.has 's' then some (.link source) else (workspace.entry source).toOption
    if node.isDirectory then none
    some { state with workspace := workspace.put target.location node }

/-- Whether a mode lets a file be run, if it is a mode. -/
def modeAllows? (wasAllowed : Bool) (mode : Text) : Option Bool :=
  if mode.head?.any isDigit then (digits? 8 mode).map fun n => n &&& 0o111 ≠ 0
  else
    let clauses := Text.splitAtByte (byte ',') mode
    clauses.foldlM (fun allowed clause => do
      let rest := clause.dropWhile fun b => (Text.ofString "ugoa").contains b
      let operator ← rest.head?.filter fun b => (Text.ofString "=+-").contains b
      if ¬ rest.tail.all fun b => (Text.ofString "rwxXstugo").contains b then none
      let names := rest.tail.contains (byte 'x')
      some (if operator = byte '+' then allowed || names else if operator = byte '-' then allowed && !names else names))
      wasAllowed

def changeMode (arguments : List Text) : Run Nat := do
  let arguments := arguments.dropWhile fun t => t = Text.ofString "-R" || t = Text.ofString "-f" || t = Text.ofString "--"
  match arguments with
  | mode :: paths@(_ :: _) => changeAll paths fun state path => do
    let target ← (state.workspace.find true path).toOption
    if target.node?.isNone then none
    let others := state.executables.filter (· ≠ target.location)
    let allows ← modeAllows? (state.executables.contains target.location) mode
    some { state with executables := if allows then target.location :: others else others }
  | _ => return 1

def list (arguments : List Text) : Run Nat :=
  withArguments "aAlhRrtdFi1nopsSuUkmxCgGbBcfNLqQHZX" "ITw" 2 arguments fun arguments => do
    let showsAll := arguments.has 'a' || arguments.has 'A'
    let results ← (if arguments.plain.isEmpty then [Text.ofString "."] else arguments.plain).mapM fun path => do
      match (← get).workspace.stat path with
      | .ok node =>
        if node.isDirectory && !arguments.has 'd' then
          let names := (Text.sortedByName node.listing.entries).map (·.1)
          let dots := if arguments.has 'a' then [Text.ofString ".", Text.ofString ".."] else []
          Run.print (ofLines (dots ++ names.filter fun name => showsAll || name.head? ≠ some (byte '.')))
          return node.listing.fault.isNone
        else
          Run.print (path ++ "\n")
          return true
      | .error _ => return ((← get).workspace.entry path).isOk
    return if results.all id then 0 else 2

def readLink (arguments : List Text) : Run Nat := withArguments "femnqsvz" [] 1 arguments fun arguments => do
  let workspace := (← get).workspace
  let found := arguments.plain.map fun path =>
    if arguments.has 'f' || arguments.has 'e' || arguments.has 'm' then
      (workspace.find true path).toOption.map fun target => { workspace with location := target.location }.path
    else
      match workspace.entry path with
      | .ok (.link target) => some target
      | _ => none
  Run.print (ofLines (found.filterMap id))
  return if !found.isEmpty && found.all Option.isSome then 0 else 1

def realPath (arguments : List Text) : Run Nat := withArguments "emsqLPz" [] 1 arguments fun arguments => do
  let workspace := (← get).workspace
  let found := arguments.plain.map fun path =>
    (workspace.find true path).toOption.map fun target => { workspace with location := target.location }.path
  Run.print (ofLines (found.filterMap id))
  return if !found.isEmpty && found.all Option.isSome then 0 else 1

inductive Question where
  | name (pattern : Text)
  | kind (letter : Text)
  deriving DecidableEq, Repr

/-- The questions among the arguments of `find`; nothing when there are others. -/
def questions? : List Text → Option (List Question)
  | [] => some []
  | [t] => if t = "-print" then some [] else none
  | operator :: value :: rest =>
    if operator = "-name" then (questions? rest).map (.name value :: ·)
    else if operator = "-type" then (questions? rest).map (.kind value :: ·)
    else if operator = "-print" then questions? (value :: rest)
    else none

def Question.holds (path : Text) (node : FileNode) : Question → Bool
  | .name pattern => matchesPattern (mark false pattern) (Path.base path)
  | .kind letter =>
    match node with
    | .file _ _ => letter = "f"
    | .directory _ _ => letter = "d"
    | .link _ => letter = "l"
    | .pipe _ => letter = "p"

def walk : Nat → Text → FileNode → List (Text × FileNode)
  | 0, _, _ => []
  | depth + 1, path, node =>
    (path, node) :: (Text.sortedByName node.listing.entries).flatMap fun (name, inner) =>
      walk depth (Path.dropSeparators path ++ [Path.separator] ++ name) inner

def walkDepth : Nat := 2100

def find (arguments : List Text) : Run Nat := do
  let paths := arguments.takeWhile fun t => ¬ isOption t
  match questions? (arguments.drop paths.length) with
  | none => return 1
  | some questions =>
    let results ← (if paths.isEmpty then [Text.ofString "."] else paths).mapM fun path => do
      match (← get).workspace.entry path with
      | .ok node =>
        let found := (walk walkDepth path node).filter fun (path, node) => questions.all (·.holds path node)
        Run.print (ofLines (found.map (·.1)))
        return true
      | .error _ => return false
    return if results.all id then 0 else 1

end QualityGate.Shell.Programs
