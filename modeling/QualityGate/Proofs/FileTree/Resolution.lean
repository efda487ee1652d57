import QualityGate.FileTree.Access
import QualityGate.Proofs.Lookup
import QualityGate.Proofs.Text.Splitting

/-!
Paths and locations agree. In a tree whose directories are kept as a file system keeps them, a path that goes on from
a directory by the names of a location leads to what stands there, as long as the path is not too long and every
directory on the way can be searched.
-/

namespace QualityGate

/-! ### Trees -/

structure IsEntryName (name : Text) : Prop where
  nonempty : name ≠ []
  notHere : name ≠ "."
  notAbove : name ≠ ".."
  noSeparator : Path.separator ∉ name
  noZero : 0 ∉ name
  short : name.length ≤ Resolution.maximumName

instance (name : Text) : Decidable (IsEntryName name) :=
  decidable_of_iff (name ≠ [] ∧ name ≠ "." ∧ name ≠ ".." ∧ Path.separator ∉ name ∧ 0 ∉ name ∧
      name.length ≤ Resolution.maximumName)
    ⟨fun ⟨a, b, c, d, e, f⟩ => ⟨a, b, c, d, e, f⟩, fun ⟨a, b, c, d, e, f⟩ => ⟨a, b, c, d, e, f⟩⟩

namespace FileNode

/-- A tree in which the entries of each directory have names of their own. -/
inductive WellFormed : FileNode → Prop where
  | file (content : Text) (faults : NodeFaults) : WellFormed (.file content faults)
  | directory {entries : List (Text × FileNode)} {faults : NodeFaults} (distinct : (entries.map (·.1)).Nodup)
      (named : ∀ entry ∈ entries, IsEntryName entry.1) (inner : ∀ entry ∈ entries, WellFormed entry.2) :
      WellFormed (.directory entries faults)
  | link (target : Text) : WellFormed (.link target)
  | pipe (faults : NodeFaults) : WellFormed (.pipe faults)

def isLink : FileNode → Bool
  | link _ => true
  | _ => false

/-- The fault that is met on the way to a location: the first directory above it that cannot be searched has it. -/
def searchFault? : FileNode → List Text → Option PathFault
  | directory entries faults, name :: rest =>
    faults.searching.or ((entries.lookup name).bind fun node => node.searchFault? rest)
  | _, _ => none

theorem at?_directory (entries : List (Text × FileNode)) (faults : NodeFaults) (name : Text) (rest : List Text) :
    (directory entries faults).at? (name :: rest) = (entries.lookup name).bind fun node => node.at? rest := by
  rw [at?]

/-- A location goes on from a node only in a directory. -/
theorem at?_cons {node inner : FileNode} {name : Text} {rest : List Text}
    (there : node.at? (name :: rest) = some inner) :
    ∃ entries faults next, node = .directory entries faults ∧ entries.lookup name = some next ∧
      next.at? rest = some inner := by
  cases node with
  | directory entries faults =>
    rw [at?_directory] at there
    obtain ⟨next, found, there⟩ := Option.bind_eq_some_iff.mp there
    exact ⟨entries, faults, next, rfl, found, there⟩
  | _ => simp [at?] at there

theorem at?_append {root node : FileNode} {here : List Text} (there : root.at? here = some node) (more : List Text) :
    root.at? (here ++ more) = node.at? more := by
  induction here generalizing root with
  | nil =>
    simp only [at?, Option.some.injEq] at there
    rw [List.nil_append, there]
  | cons name rest ih =>
    obtain ⟨entries, faults, next, rfl, found, there⟩ := at?_cons there
    rw [List.cons_append, at?_directory, found, Option.bind_some, ih there]

theorem WellFormed.at? {root node : FileNode} (wellFormed : root.WellFormed) {location : List Text}
    (there : root.at? location = some node) : node.WellFormed := by
  induction location generalizing root with
  | nil =>
    simp only [FileNode.at?, Option.some.injEq] at there
    exact there ▸ wellFormed
  | cons name rest ih =>
    obtain ⟨entries, faults, next, rfl, found, there⟩ := at?_cons there
    cases wellFormed with
    | directory _ _ inner => exact ih (inner _ (mem_of_lookup found)) there

theorem WellFormed.isEntryName {root node : FileNode} (wellFormed : root.WellFormed) {location : List Text}
    (there : root.at? location = some node) : ∀ name ∈ location, IsEntryName name := by
  induction location generalizing root with
  | nil => exact nofun
  | cons first rest ih =>
    obtain ⟨entries, faults, next, rfl, found, there⟩ := at?_cons there
    cases wellFormed with
    | directory _ named inner =>
      have entry := mem_of_lookup found
      exact List.forall_mem_cons.mpr ⟨named _ entry, ih (inner _ entry) there⟩

end FileNode

/-! ### The names in a path -/

namespace Resolution

theorem names_append (s t : Text) : names (s ++ Path.separator :: t) = names s ++ names t := by
  rw [names, Text.splitAtByte_append, List.filter_append]
  rfl

theorem names_of_isEntryName {name : Text} (valid : IsEntryName name) : names name = [name] := by
  rw [names, Text.splitAtByte_of_not_mem valid.noSeparator]
  simp [valid.nonempty]

theorem names_join {location : List Text} (valid : ∀ name ∈ location, IsEntryName name) :
    names (Text.join [Path.separator] location) = location := by
  induction location with
  | nil => rfl
  | cons name rest ih =>
    rw [List.forall_mem_cons] at valid
    cases rest with
    | nil => exact names_of_isEntryName valid.1
    | cons next rest =>
      rw [Text.join, List.append_assoc, List.singleton_append, names_append, names_of_isEntryName valid.1, ih valid.2]
      · rfl
      · exact List.cons_ne_nil _ _

/-- A path that ends with the names of a location has no separator at its end. -/
theorem hasSlash_join {location : List Text} (nonempty : location ≠ [])
    (valid : ∀ name ∈ location, IsEntryName name) (front : Text) :
    hasSlash (front ++ Path.separator :: Text.join [Path.separator] location) = false := by
  obtain ⟨above, last, rfl⟩ := (List.eq_nil_or_concat location).resolve_left nonempty
  have named : IsEntryName last := valid last (by simp)
  have ending : ∃ front',
      front ++ Path.separator :: Text.join [Path.separator] (above ++ [last]) = front' ++ last := by
    by_cases bare : above = []
    · exact ⟨front ++ [Path.separator], by simp [bare, Text.join]⟩
    · rw [Text.join_concat _ bare]
      exact ⟨front ++ Path.separator :: (Text.join [Path.separator] above ++ [Path.separator]), by simp⟩
  obtain ⟨front', spelled⟩ := ending
  rw [List.concat_eq_append, spelled, hasSlash, decide_eq_false_iff_not]
  intro slash
  obtain ⟨byte, final⟩ := Option.ne_none_iff_exists'.mp (mt List.getLast?_eq_none_iff.mp named.nonempty)
  rw [List.getLast?_append, final, Option.some_or, Option.some.injEq] at slash
  exact named.noSeparator (slash ▸ List.mem_of_getLast? final)

/-! ### Following a path further -/

variable {root : FileNode} {here there : List Text} {slash slash' : Bool} {steps more : List Text}
  {entries : List (Text × FileNode)} {faults : NodeFaults}

/-- What following one name does, whatever comes after it: it leads to another location, comes to a link, or leads
nowhere. -/
theorem advance_cons (root : FileNode) (here : List Text) (name : Text) :
    (∃ next, ∀ slash rest, advance root true slash here (name :: rest) = advance root true slash next rest) ∨
      (∃ target, ∀ slash rest, advance root true slash here (name :: rest) = .ok (.link here target rest)) ∨
      ∀ slash rest, (∃ fault, advance root true slash here (name :: rest) = .error fault) ∨
        ∃ place, advance root true slash here (name :: rest) = .ok (.done ⟨place, none, slash⟩) := by
  simp only [advance]
  cases root.at? here with
  | none => exact .inr (.inr fun _ _ => .inl ⟨_, rfl⟩)
  | some node =>
    cases node with
    | directory entries faults =>
      dsimp only
      cases faults.searching with
      | some fault => exact .inr (.inr fun _ _ => .inl ⟨fault, rfl⟩)
      | none =>
      dsimp only
      by_cases dot : name = "."
      · exact .inl ⟨here, fun _ _ => if_pos dot⟩
      by_cases dots : name = ".."
      · exact .inl ⟨here.dropLast, fun _ _ => by rw [if_neg dot, if_pos dots]⟩
      by_cases long : maximumName < name.length
      · exact .inr (.inr fun _ _ => .inl ⟨.nameTooLong, by simp [dot, dots, long]⟩)
      simp only [if_neg dot, if_neg dots, if_neg long]
      cases entries.lookup name with
      | none =>
        refine .inr (.inr fun slash rest => ?_)
        cases rest with
        | nil => exact .inr ⟨here ++ [name], rfl⟩
        | cons _ _ => exact .inl ⟨.missing, rfl⟩
      | some next =>
        cases next with
        | link target => exact .inr (.inl ⟨target, fun _ _ => by simp⟩)
        | _ => exact .inl ⟨here ++ [name], fun _ _ => rfl⟩
    | _ => exact .inr (.inr fun _ _ => .inl ⟨_, rfl⟩)

theorem advance_append_done (more : List Text)
    (followed : advance root true slash here steps = .ok (.done ⟨there, some (.directory entries faults), slash'⟩)) :
    root.at? there = some (.directory entries faults) ∧
      advance root true false here (steps ++ more) = advance root true false there more := by
  induction steps generalizing here with
  | nil =>
    simp only [advance, Except.ok.injEq, Stop.done.injEq, Target.mk.injEq] at followed
    obtain ⟨rfl, found, _⟩ := followed
    exact ⟨found, rfl⟩
  | cons name rest ih =>
    rcases advance_cons root here name with ⟨next, onward⟩ | ⟨target, linked⟩ | stuck
    · rw [onward] at followed
      rw [List.cons_append, onward]
      exact ih followed
    · rw [linked] at followed
      cases followed
    · rcases stuck slash rest with ⟨fault, failed⟩ | ⟨place, missing⟩
      · rw [failed] at followed
        cases followed
      · rw [missing] at followed
        cases followed

theorem advance_append_link {target : Text} {rest : List Text} (more : List Text)
    (followed : advance root true slash here steps = .ok (.link there target rest)) :
    advance root true false here (steps ++ more) = .ok (.link there target (rest ++ more)) := by
  induction steps generalizing here with
  | nil => simp [advance] at followed
  | cons name steps ih =>
    rcases advance_cons root here name with ⟨next, onward⟩ | ⟨target, linked⟩ | stuck
    · rw [onward] at followed
      rw [List.cons_append, onward]
      exact ih followed
    · rw [linked] at followed
      cases followed
      rw [List.cons_append, linked]
    · rcases stuck slash steps with ⟨fault, failed⟩ | ⟨place, missing⟩
      · rw [failed] at followed
        cases followed
      · rw [missing] at followed
        cases followed

/-- A path that leads to a directory leads on from there, through the links that are left. -/
theorem follow_append {links : Nat} (further : more ≠ [])
    (followed : follow root true links here slash steps = .ok ⟨there, some (.directory entries faults), slash'⟩) :
    root.at? there = some (.directory entries faults) ∧
      ∃ left, follow root true links here false (steps ++ more) = follow root true left there false more := by
  -- A link starts the names anew, and the names in `more` stay behind them.
  induction links generalizing here slash steps with
  | zero =>
    rw [follow] at followed
    split at followed
    case h_2 advanced =>
      cases followed
      have ⟨found, onward⟩ := advance_append_done more advanced
      refine ⟨found, 0, ?_⟩
      rw [follow, follow, onward]
    all_goals cases followed
  | succ links ih =>
    rw [follow] at followed
    split at followed
    case h_1 => cases followed
    case h_2 advanced =>
      cases followed
      have ⟨found, onward⟩ := advance_append_done more advanced
      refine ⟨found, links + 1, ?_⟩
      rw [follow, follow, onward]
    case h_3 place target rest advanced =>
      have ⟨found, left, onward⟩ := ih followed
      refine ⟨found, left, ?_⟩
      rw [follow, advance_append_link more advanced]
      have inner : (rest ++ more).isEmpty = false := by simp [further]
      simpa [inner, List.append_assoc] using onward

/-- Names that lead down the tree are followed to what stands there, or to the first directory that cannot be
searched. -/
theorem advance_descend {top node : FileNode} (wellFormed : top.WellFormed) (start : root.at? here = some top)
    (below : top.at? more = some node) (solid : node.isLink = false) :
    advance root true false here more =
      match top.searchFault? more with
      | some fault => .error fault
      | none => .ok (.done ⟨here ++ more, some node, false⟩) := by
  induction more generalizing here top with
  | nil =>
    simp only [FileNode.at?, Option.some.injEq] at below
    cases top <;> rw [advance, start, below, List.append_nil, FileNode.searchFault?] <;> simp
  | cons name rest ih =>
    obtain ⟨entries, faults, next, rfl, found, inside⟩ := FileNode.at?_cons below
    have reached : root.at? (here ++ [name]) = some next := by
      rw [FileNode.at?_append start, FileNode.at?_directory, found, Option.bind_some, FileNode.at?]
    cases wellFormed with
    | directory _ named inner =>
      have entry := mem_of_lookup found
      have valid := named _ entry
      have onward := ih (inner _ entry) reached inside
      rw [List.append_assoc, List.singleton_append] at onward
      rw [advance, start, FileNode.searchFault?, found]
      cases searching : faults.searching with
      | some fault => simp only [searching, Option.some_or]
      | none =>
      simp only [searching, valid.notHere, valid.notAbove, Nat.not_lt.mpr valid.short, if_false, found,
        Option.none_or, Option.bind_some]
      -- A link could only be the last node, and that one is none.
      cases next with
      | link target =>
        cases rest with
        | nil =>
          cases inside
          cases solid
        | cons _ _ => simp [FileNode.at?] at inside
      | _ => exact onward

/-- Where the last name is not a link it does not matter whether it would be followed. -/
theorem advance_unfollowed {stop : Stop} (followed : advance root false slash here steps = .ok stop)
    (solid : ∀ place target, stop ≠ .done ⟨place, some (.link target), slash⟩) :
    advance root true slash here steps = .ok stop := by
  induction steps generalizing here with
  | nil => exact followed
  | cons name rest ih =>
    rw [advance] at followed ⊢
    split at followed
    case h_2 => cases followed
    case h_1 entries faults found =>
      cases searching : faults.searching with
      | some fault =>
        rw [searching] at followed
        cases followed
      | none =>
      rw [searching] at followed
      dsimp only at followed ⊢
      by_cases dot : name = "."
      · rw [if_pos dot] at followed ⊢
        exact ih followed
      by_cases dots : name = ".."
      · rw [if_neg dot, if_pos dots] at followed ⊢
        exact ih followed
      rw [if_neg dot, if_neg dots] at followed ⊢
      split at followed
      case isTrue => cases followed
      case isFalse short =>
        rw [if_neg short]
        cases looked : entries.lookup name with
        | none => simpa only [looked] using followed
        | some node =>
          cases node with
          | link target =>
            simp only [looked] at followed ⊢
            split at followed
            · cases followed
              exact absurd rfl (solid _ _)
            · simpa using followed
          | _ =>
            simp only [looked] at followed ⊢
            exact ih followed

theorem follow_unfollowed {links : Nat} {node : FileNode}
    (followed : follow root false links here slash steps = .ok ⟨there, some node, slash'⟩)
    (solid : node.isLink = false) :
    follow root true links here slash steps = .ok ⟨there, some node, slash'⟩ := by
  induction links generalizing here slash steps with
  | zero =>
    rw [follow] at followed ⊢
    split at followed
    case h_2 advanced =>
      cases followed
      rw [advance_unfollowed advanced fun _ _ same => by cases same; cases solid]
    all_goals cases followed
  | succ links ih =>
    rw [follow] at followed ⊢
    split at followed
    case h_1 => cases followed
    case h_2 advanced =>
      cases followed
      rw [advance_unfollowed advanced fun _ _ same => by cases same; cases solid]
    case h_3 advanced =>
      rw [advance_unfollowed advanced nofun]
      exact ih followed

end Resolution

namespace Workspace

open Resolution

theorem stat_eq_follow (workspace : Workspace) {path : Text} (noZero : 0 ∉ path) (nonempty : path ≠ [])
    (short : path.length ≤ maximumPath) :
    workspace.stat path =
      (follow workspace.root true maximumLinks (if Path.isAbsolute path then [] else workspace.location)
        (hasSlash path) (names path)).bind Target.node := by
  have absent : path.contains 0 = false := by simpa using noZero
  have written : path.isEmpty = false := by simpa using nonempty
  simp only [stat, find, absent, written, Nat.not_lt.mpr short, Bool.false_eq_true, if_false]

theorem stat_tooLong (workspace : Workspace) {path : Text} (noZero : 0 ∉ path)
    (long : maximumPath < path.length) : workspace.stat path = .error .nameTooLong := by
  have absent : path.contains 0 = false := by simpa using noZero
  have written : path.isEmpty = false := by
    cases path with
    | nil => cases long
    | cons _ _ => rfl
  simp only [stat, find, absent, written, long, Bool.false_eq_true, if_false, if_true]
  rfl

/-- A path that leads to a node is spelled as the system wants it, and its names can be followed. -/
theorem follow_of_find {workspace : Workspace} {followsLast : Bool} {path : Text} {node : FileNode}
    (there : (workspace.find followsLast path).bind Target.node = .ok node) :
    (0 ∉ path ∧ path ≠ [] ∧ path.length ≤ maximumPath) ∧
      ∃ location slash,
        follow workspace.root followsLast maximumLinks (if Path.isAbsolute path then [] else workspace.location)
          (hasSlash path) (names path) = .ok ⟨location, some node, slash⟩ ∧
        Target.node ⟨location, some node, slash⟩ = .ok node := by
  unfold find at there
  split at there
  · cases there
  next noZero =>
  split at there
  · cases there
  next nonempty =>
  split at there
  · cases there
  next short =>
  refine ⟨⟨by simpa using noZero, by simpa using nonempty, Nat.not_lt.mp short⟩, ?_⟩
  generalize follow workspace.root followsLast maximumLinks _ _ _ = result at there ⊢
  match result, there with
  | .ok ⟨location, some found, slash⟩, there =>
    have given : Target.node ⟨location, some found, slash⟩ = .ok node := there
    have same : found = node := by
      rw [Target.node] at given
      split at given <;> cases given
      rfl
    exact ⟨location, slash, by rw [same], same ▸ given⟩

theorem stat_of_entry {workspace : Workspace} {path : Text} {node : FileNode}
    (there : workspace.entry path = .ok node) (solid : node.isLink = false) : workspace.stat path = .ok node := by
  obtain ⟨⟨noZero, nonempty, short⟩, location, slash, followed, found⟩ := follow_of_find there
  rw [stat_eq_follow workspace noZero nonempty short, follow_unfollowed followed solid]
  exact found

theorem wellFormed_of_stat {workspace : Workspace} (wellFormed : workspace.root.WellFormed) {path : Text}
    {entries : List (Text × FileNode)} {faults : NodeFaults}
    (there : workspace.stat path = .ok (.directory entries faults)) :
    (FileNode.directory entries faults).WellFormed := by
  obtain ⟨_, location, slash, followed, _⟩ := follow_of_find there
  exact wellFormed.at? (follow_append (List.cons_ne_nil [] []) followed).1

/-- A path that goes on from a directory by the names of a location leads to what stands there, or to the first
directory that cannot be searched. -/
theorem stat_below {workspace : Workspace} (wellFormed : workspace.root.WellFormed) {base path : Text}
    {entries : List (Text × FileNode)} {faults : NodeFaults} {location : List Text} {node : FileNode}
    (there : workspace.stat base = .ok (.directory entries faults)) (nonempty : location ≠ [])
    (inside : (FileNode.directory entries faults).at? location = some node) (solid : node.isLink = false)
    (named : names path = names base ++ location) (rooted : Path.isAbsolute path = Path.isAbsolute base)
    (bare : hasSlash path = false) (noZero : 0 ∉ path) (written : path ≠ [])
    (short : path.length ≤ maximumPath) :
    workspace.stat path =
      match (FileNode.directory entries faults).searchFault? location with
      | some fault => .error fault
      | none => .ok node := by
  obtain ⟨_, here, slash, followed, _⟩ := follow_of_find there
  obtain ⟨start, left, onward⟩ := follow_append nonempty followed
  have down := advance_descend (wellFormed.at? start) start inside solid
  rw [stat_eq_follow workspace noZero written short, rooted, bare, named, onward, follow, down]
  cases (FileNode.directory entries faults).searchFault? location <;> rfl

/-- Only the opening of a pipe does not end. -/
theorem opening_eq_waiting_iff (workspace : Workspace) (path : Text) :
    workspace.opening path = .waiting ↔
      ∃ faults : NodeFaults, workspace.stat path = .ok (.pipe faults) ∧ faults.opening = none := by
  rw [opening]
  cases workspace.stat path with
  | error fault => simp
  | ok node =>
    cases node with
    | link target => simp [FileNode.opening, FileNode.faults]
    | pipe faults | directory _ faults =>
      cases opened : faults.opening <;> simp [FileNode.opening, FileNode.faults, opened]
    | file content faults =>
      cases opened : faults.opening <;> cases broken : faults.reading <;>
        simp [FileNode.opening, FileNode.faults, opened, broken]

end Workspace

end QualityGate
