import QualityGate.Proofs.Path.Elements
import QualityGate.Proofs.Scanning.Recognition

/-!
Reports call a file by the root as it was given and the names from there. That spelling leads back to the file: made
absolute it is the path of the file, whatever dots and separators the root was given with (`display_resolves`). The
argument runs over the elements that cleaning keeps: more separators add none, and names are only put behind them.
-/

namespace QualityGate.Walk

/-- A walk from a root as it was given, seen from the working directory. -/
structure Given (walk : Walk) : Prop where
  written : walk.given ≠ []
  root : walk.root = Path.absolute walk.workspace.path walk.given

/-- How a path under the root of a walk is called in reports. -/
def displayPath (walk : Walk) (path : Text) : Text :=
  let relative := Path.relative walk.root path
  if relative = "." then walk.given else walk.display relative

/-- A name in reports leads back to the path, and begins as the root was given, up to one separator. -/
structure Resolves (walk : Walk) (path display : Text) : Prop where
  back : Path.absolute walk.workspace.path display = path
  begins : walk.given <+: display ∨ ∃ front, walk.given = front ++ [Path.separator] ∧ front <+: display

/-! ### Spelling -/

theorem display_begins (walk : Walk) (relative : Text) :
    walk.given <+: walk.display relative ∨
      ∃ front, walk.given = front ++ [Path.separator] ∧ front <+: walk.display relative := by
  obtain ⟨front, count, small, given, display⟩ := walk.exists_display_eq
  rw [given, display]
  match count, small with
  | 0, _ => exact .inl ⟨Path.separator :: relative, by simp⟩
  | 1, _ => exact .inl ⟨relative, by simp⟩
  | 2, _ => exact .inr ⟨front ++ [Path.separator], by simp [List.replicate], ⟨relative, by simp⟩⟩

theorem displayAt_ne_nil (walk : Walk) (names : List Text) : walk.displayAt names ≠ [] := by
  obtain ⟨front, _, _, _, display⟩ := walk.exists_display_eq
  rw [displayAt, display]
  simp

/-- The root as it was given and a display keep the same elements, up to the names in the display. -/
theorem elements_displayAt (walk : Walk) (written : walk.given ≠ []) {names : List Text} (some : names ≠ [])
    (valid : ∀ name ∈ names, Path.IsName name) :
    Path.elements (Path.full walk.workspace.path (walk.displayAt names)) =
      names.reverse ++ Path.elements (Path.full walk.workspace.path walk.given) := by
  obtain ⟨front, count, -, given, display⟩ := walk.exists_display_eq
  have alike : Path.isAbsolute (front ++ Path.separator :: Text.join [Path.separator] names) =
      Path.isAbsolute (front ++ List.replicate count Path.separator) := by
    rw [Path.isAbsolute, Path.isAbsolute]
    cases front with
    | cons first rest => rfl
    | nil =>
      cases count with
      | zero => exact absurd given written
      | succ count => rfl
  rw [displayAt, display, given, Path.full, Path.full, alike]
  split
  · rw [Path.elements_append_separators, Path.elements_append_join _ some valid]
  · have behind := Path.elements_append_join (walk.workspace.path ++ Path.separator :: front) some valid
    have before := Path.elements_append_separators (walk.workspace.path ++ Path.separator :: front) count
    rw [List.append_assoc, List.cons_append] at behind before
    rw [behind, before]

/-! ### Paths under the root -/

section

variable {walk : Walk} {names : List Text}

theorem Given.exists_root (given : walk.Given) :
    ∃ kept, (∀ name ∈ kept, Path.IsName name) ∧ walk.root = Path.separator :: Text.join [Path.separator] kept ∧
      Path.elements (Path.full walk.workspace.path walk.given) = kept.reverse := by
  refine ⟨(Path.elements (Path.full walk.workspace.path walk.given)).reverse, fun name member => ?_, ?_, ?_⟩
  · exact Path.isName_elements _ name (List.mem_reverse.mp member)
  · rw [given.root, Path.absolute_eq_join rfl given.written]
  · rw [List.reverse_reverse]

theorem Given.under_eq_pathAt (given : walk.Given) (some : names ≠ []) (valid : ∀ name ∈ names, Path.IsName name) :
    Path.under walk.root names = walk.pathAt names := by
  obtain ⟨kept, valid', root, -⟩ := given.exists_root
  rw [pathAt_eq, front, root, Path.under_join valid' valid]
  by_cases top : kept = []
  · rw [top]
    rfl
  · have named : Path.separator :: Text.join [Path.separator] kept ≠ "/" :=
      fun same => Path.join_ne_nil top valid' (List.cons.inj same).2
    rw [if_neg named, Text.join_append _ top some, List.append_assoc]
    rfl

theorem Given.displayPath_eq (given : walk.Given) (valid : ∀ name ∈ names, Path.IsName name) :
    walk.displayPath (Path.under walk.root names) = if names = [] then walk.given else walk.displayAt names := by
  obtain ⟨kept, valid', root, -⟩ := given.exists_root
  rw [displayPath, root, Path.relative_under valid' valid]
  by_cases top : names = []
  · simp [top]
  · have some : names.isEmpty = false := by simpa using top
    simp only [some, Bool.false_eq_true, if_false, Path.join_ne_here top valid, top]
    rfl

theorem Given.resolves (given : walk.Given) (valid : ∀ name ∈ names, Path.IsName name) :
    walk.Resolves (Path.under walk.root names) (walk.displayPath (Path.under walk.root names)) := by
  rw [given.displayPath_eq valid]
  by_cases top : names = []
  · rw [if_pos top, top]
    exact ⟨given.root.symm, .inl (List.prefix_refl _)⟩
  · rw [if_neg top]
    refine ⟨?_, walk.display_begins _⟩
    obtain ⟨kept, valid', root, elements⟩ := given.exists_root
    rw [Path.absolute_eq_join rfl (walk.displayAt_ne_nil names), walk.elements_displayAt given.written top valid,
      elements, root, Path.under_join valid' valid, ← List.reverse_append, List.reverse_reverse]

end

/-! ### The files of a walk -/

/-- A file stands at a location under the root, and is called by it. -/
structure Locates (walk : Walk) (task : ScanTask) (location : List Text) : Prop where
  below : location ≠ []
  valid : ∀ name ∈ location, IsEntryName name
  path : task.path = walk.pathAt location
  display : task.display = walk.displayAt location

section

variable {walk : Walk} {task : ScanTask} {here : List Text}

theorem locates_visit (some : here ≠ []) (valid : ∀ name ∈ here, IsEntryName name)
    (member : .visit task ∈ [walk.visit (Text.join [Path.separator] here)]) : walk.Locates task here := by
  have visits : .visit task = walk.visit (Text.join [Path.separator] here) := List.mem_singleton.mp member
  rw [visit] at visits
  split at visits
  · cases visits
    exact ⟨some, valid, rfl, rfl⟩
  · cases visits

theorem locates_visitUnlisted (some : here ≠ []) (valid : ∀ name ∈ here, IsEntryName name) {fault : Option AccessFault}
    (member : .visit task ∈ walk.visitUnlisted (Text.join [Path.separator] here) fault) : walk.Locates task here := by
  cases fault with
  | none => cases member
  | some fault =>
    cases List.mem_singleton.mp member
    exact ⟨some, valid, rfl, rfl⟩

theorem valid_concat {name : Text} (valid : ∀ name ∈ here, IsEntryName name) (named : IsEntryName name) :
    ∀ other ∈ here ++ [name], IsEntryName other := by
  simpa [or_imp, forall_and] using ⟨valid, named⟩

/-- Every file that is met at a location or below stands at a location, by induction on the tree. -/
theorem exists_locates_stepsAt {node : FileNode} (wellFormed : node.WellFormed) {name : Text} (some : here ≠ [])
    (valid : ∀ name ∈ here, IsEntryName name)
    (member : .visit task ∈ walk.stepsAt (Text.join [Path.separator] here) name node) :
    ∃ location, walk.Locates task location := by
  induction wellFormed generalizing here name with
  | file content faults =>
    rw [stepsAt] at member
    exact ⟨here, locates_visit some valid member⟩
  | link target =>
    rw [stepsAt] at member
    split at member
    · simp at member
    · exact ⟨here, locates_visit some valid member⟩
  | pipe faults =>
    rw [stepsAt] at member
    simp at member
  | @directory entries faults _ named _ ih =>
    rw [stepsAt] at member
    split at member
    · simp at member
    · dsimp only at member
      rcases List.mem_append.mp member with unlisted | inner
      · exact ⟨here, locates_visitUnlisted some valid ((List.mem_cons.mp unlisted).resolve_left (by simp))⟩
      · obtain ⟨item, there, visits⟩ := mem_inOrder.mp inner
        obtain ⟨entry, inside, rfl⟩ := mem_stepsIn (List.mem_of_mem_take there)
        rw [inside_join valid] at visits
        exact ih entry inside (by simp) (valid_concat valid (named entry inside)) visits

theorem exists_locates (wellFormed : walk.workspace.root.WellFormed) (member : task ∈ visited walk.steps) :
    ∃ location, walk.Locates task location := by
  have visits := mem_visited.mp member
  rw [steps] at visits
  split at visits
  · simp at visits
  next entries faults there =>
    split at visits
    · simp at visits
    have inOrder : .visit task ∈ inOrder (walk.stepsIn (Text.join [Path.separator] []) entries) :=
      (List.mem_cons.mp visits).resolve_left (by simp)
    obtain ⟨item, listed, visits⟩ := mem_inOrder.mp inOrder
    obtain ⟨entry, inside, rfl⟩ := mem_stepsIn listed
    have rooted : walk.Rooted entries faults := ⟨wellFormed, there⟩
    cases rooted.top_wellFormed with
    | directory _ named inner =>
      rw [inside_join (List.forall_mem_nil _)] at visits
      exact exists_locates_stepsAt (inner entry inside) (by simp)
        (valid_concat (List.forall_mem_nil _) (named entry inside)) visits
  · simp at visits

end

/-- Under a root as it was given, every path is called by a name that leads back to it and to no other path, and the
files that the walk meets are paths under the root, called by these names. -/
theorem display_resolves (walk : Walk) (given : walk.Given) :
    (∀ names, (∀ name ∈ names, Path.IsName name) →
      walk.Resolves (Path.under walk.root names) (walk.displayPath (Path.under walk.root names))) ∧
    (∀ names other, (∀ name ∈ names, Path.IsName name) → (∀ name ∈ other, Path.IsName name) →
      Path.under walk.root names ≠ Path.under walk.root other →
      walk.displayPath (Path.under walk.root names) ≠ walk.displayPath (Path.under walk.root other)) ∧
    (walk.workspace.root.WellFormed → ∀ task ∈ visited walk.steps, ∃ names, names ≠ [] ∧
      (∀ name ∈ names, Path.IsName name) ∧ task.path = Path.under walk.root names ∧
      task.display = walk.displayPath task.path) := by
  refine ⟨fun names valid => given.resolves valid, fun names other valid valid' different same => ?_,
    fun wellFormed task member => ?_⟩
  · have back := (given.resolves valid).back
    rw [same, (given.resolves valid').back] at back
    exact different back.symm
  · obtain ⟨location, located⟩ := exists_locates wellFormed member
    have valid : ∀ name ∈ location, Path.IsName name :=
      fun name there => Path.isName_of_isEntryName (located.valid name there)
    have path : task.path = Path.under walk.root location := by
      rw [located.path, given.under_eq_pathAt located.below valid]
    exact ⟨location, located.below, valid, path,
      by rw [path, given.displayPath_eq valid, if_neg located.below, located.display]⟩

/-- A root that is given with a detour and with separators at its end. -/
def untidy : Walk :=
  { workspace := ⟨.directory [("w", .directory [("a", .directory [("b.cs", .file [])])])], ["w"]⟩
    checker := .lines {}
    root := "/w/a"
    given := "./x/..//a//" }

theorem untidy_display_resolves :
    untidy.Given ∧ untidy.workspace.root.WellFormed ∧
      visited untidy.steps = [⟨"/w/a/b.cs", "./x/..//a/b.cs", none⟩] ∧
      untidy.Resolves "/w/a/b.cs" "./x/..//a/b.cs" ∧
      untidy.displayPath "/w/a" ≠ untidy.displayPath "/w/a/b.cs" ∧
      (⟨"/w/a/b.cs", "./x/..//a/b.cs", none⟩ : ScanTask).display = untidy.displayPath "/w/a/b.cs" := by
  have given : untidy.Given := ⟨by decide, by decide⟩
  have wellFormed : untidy.workspace.root.WellFormed := by
    refine .directory (by decide) (by decide) (List.forall_mem_singleton.mpr ?_)
    refine .directory (by decide) (by decide) (List.forall_mem_singleton.mpr ?_)
    exact .directory (by decide) (by decide) (List.forall_mem_singleton.mpr (.file [] {}))
  have visits : visited untidy.steps = [⟨"/w/a/b.cs", "./x/..//a/b.cs", none⟩] := by decide +kernel
  have valid : ∀ name ∈ [("b.cs" : Text)], Path.IsName name :=
    List.forall_mem_singleton.mpr ⟨by decide, by decide, by decide, by decide⟩
  obtain ⟨resolves, distinct, met⟩ := display_resolves untidy given
  obtain ⟨names, -, -, -, display⟩ := met wellFormed ⟨"/w/a/b.cs", "./x/..//a/b.cs", none⟩ (by simp [visits])
  exact ⟨given, wellFormed, visits, resolves ["b.cs"] valid,
    distinct [] ["b.cs"] (List.forall_mem_nil _) valid (by decide), display⟩

end QualityGate.Walk
