import QualityGate.Proofs.FileTree.Resolution
import QualityGate.Scanning.Walk

/-!
The paths that a walk spells for the locations under its root: they lead to what stands there, unless they are too
long or a directory on the way cannot be searched, and no two locations are called alike.
-/

namespace QualityGate.Walk

/-- The path of a location under the root of the walk. -/
def pathAt (walk : Walk) (location : List Text) : Text := walk.absolute (Text.join [Path.separator] location)

def displayAt (walk : Walk) (location : List Text) : Text := walk.display (Text.join [Path.separator] location)

abbrev Short (walk : Walk) (location : List Text) : Prop := (walk.pathAt location).length ≤ Resolution.maximumPath

/-! ### Spelling -/

theorem inside_join {here : List Text} (valid : ∀ name ∈ here, IsEntryName name) (name : Text) :
    inside (Text.join [Path.separator] here) name = Text.join [Path.separator] (here ++ [name]) := by
  by_cases top : here = []
  · rw [top]
    rfl
  · have written : Text.join [Path.separator] here ≠ [] := by
      intro empty
      have names := Resolution.names_join valid
      rw [empty] at names
      exact top names.symm
    rw [inside, if_neg (by simpa using written), Text.join_concat _ top]
    rfl

/-- What stands in front of the separator in the path of a location. -/
def front (walk : Walk) : Text := if walk.root = "/" then [] else walk.root

theorem absolute_eq (walk : Walk) (relative : Text) :
    walk.absolute relative = walk.front ++ Path.separator :: relative := by
  unfold absolute front
  split
  case isTrue top =>
    rw [top]
    rfl
  case isFalse =>
    rw [List.append_assoc]
    rfl

theorem pathAt_eq (walk : Walk) (location : List Text) :
    walk.pathAt location = walk.front ++ Path.separator :: Text.join [Path.separator] location := walk.absolute_eq _

theorem names_front (walk : Walk) : Resolution.names walk.front = Resolution.names walk.root := by
  unfold front
  split
  case isTrue top =>
    rw [top]
    decide
  case isFalse => rfl

theorem names_pathAt (walk : Walk) {location : List Text} (valid : ∀ name ∈ location, IsEntryName name) :
    Resolution.names (walk.pathAt location) = Resolution.names walk.root ++ location := by
  rw [pathAt_eq, Resolution.names_append, names_front, Resolution.names_join valid]

theorem isAbsolute_pathAt (walk : Walk) (written : walk.root ≠ []) (location : List Text) :
    Path.isAbsolute (walk.pathAt location) = Path.isAbsolute walk.root := by
  rw [pathAt_eq, front, Path.isAbsolute, Path.isAbsolute]
  split
  case isTrue top =>
    rw [top]
    rfl
  case isFalse =>
    obtain ⟨first, rest, spelled⟩ := List.exists_cons_of_ne_nil written
    rw [spelled]
    rfl

theorem zero_not_mem_pathAt (walk : Walk) (noZero : 0 ∉ walk.root) {location : List Text}
    (valid : ∀ name ∈ location, IsEntryName name) : 0 ∉ walk.pathAt location := by
  have inFront : 0 ∉ walk.front := by
    unfold front
    split
    · exact List.not_mem_nil
    · exact noZero
  have inJoin : 0 ∉ Text.join [Path.separator] location := by
    intro member
    rcases Text.mem_join member with between | ⟨name, there, zero⟩
    · exact absurd between (by decide)
    · exact (valid name there).noZero zero
  rw [pathAt_eq, List.mem_append, List.mem_cons, not_or, not_or]
  exact ⟨inFront, by decide, inJoin⟩

/-- A display is the root as it was given, less separators at its end, and then one separator. -/
theorem exists_display_eq (walk : Walk) :
    ∃ front count, count ≤ 2 ∧ walk.given = front ++ List.replicate count Path.separator ∧
      ∀ relative, walk.display relative = front ++ Path.separator :: relative := by
  by_cases top : walk.given = "/"
  · refine ⟨[], 1, by decide, top, fun relative => ?_⟩
    rw [display, if_pos top, top]
    rfl
  · by_cases ending : Text.endsWith walk.given "/" = true
    · obtain ⟨shown, spelled⟩ := List.isSuffixOf_iff_suffix.mp ending
      have dropped : Text.dropEnding walk.given "/" = shown := by
        rw [Text.dropEnding, if_pos ending, ← spelled, List.length_append, Nat.add_sub_cancel, List.take_left]
      by_cases again : Text.endsWith shown "/" = true
      · obtain ⟨front, spelled'⟩ := List.isSuffixOf_iff_suffix.mp again
        refine ⟨front, 2, by decide, ?_, fun relative => ?_⟩
        · rw [← spelled, ← spelled', List.append_assoc]
          rfl
        · simp only [display, if_neg top, dropped, again, if_true]
          rw [← spelled', List.append_assoc]
          rfl
      · refine ⟨shown, 1, by decide, spelled.symm, fun relative => ?_⟩
        simp only [display, if_neg top, dropped, again, Bool.false_eq_true, if_false, List.append_assoc]
        rfl
    · have kept : Text.dropEnding walk.given "/" = walk.given := if_neg ending
      refine ⟨walk.given, 0, by decide, by simp, fun relative => ?_⟩
      simp only [display, if_neg top, kept, ending, Bool.false_eq_true, if_false, List.append_assoc]
      rfl

theorem displayAt_injective (walk : Walk) {location other : List Text} (valid : ∀ name ∈ location, IsEntryName name)
    (valid' : ∀ name ∈ other, IsEntryName name) (same : walk.displayAt location = walk.displayAt other) :
    location = other := by
  obtain ⟨front, _, _, _, spelled⟩ := walk.exists_display_eq
  rw [displayAt, displayAt, spelled, spelled] at same
  have joined := (List.cons.inj (List.append_cancel_left same)).2
  rw [← Resolution.names_join valid, joined, Resolution.names_join valid']

/-! ### What stands at a location -/

/-- Why the path of a location does not lead there: it is too long, or a directory on the way cannot be searched. -/
def wayFault? (walk : Walk) (top : FileNode) (location : List Text) : Option PathFault :=
  if walk.Short location then top.searchFault? location else some .nameTooLong

/-- A walk from a directory of a well-formed tree. -/
structure Rooted (walk : Walk) (entries : List (Text × FileNode)) (faults : NodeFaults) : Prop where
  wellFormed : walk.workspace.root.WellFormed
  there : walk.workspace.entry walk.root = .ok (.directory entries faults)

namespace Rooted

variable {walk : Walk} {entries : List (Text × FileNode)} {faults : NodeFaults} {location : List Text}
  {node : FileNode}

theorem stat_root (rooted : walk.Rooted entries faults) :
    walk.workspace.stat walk.root = .ok (.directory entries faults) := Workspace.stat_of_entry rooted.there rfl

theorem listing_root (rooted : walk.Rooted entries faults) :
    walk.workspace.listing walk.root = (FileNode.directory entries faults).listing := by
  rw [Workspace.listing, rooted.stat_root]

theorem top_wellFormed (rooted : walk.Rooted entries faults) : (FileNode.directory entries faults).WellFormed :=
  Workspace.wellFormed_of_stat rooted.wellFormed rooted.stat_root

/-- The path of a location leads to what stands there, unless there is a fault on the way. -/
theorem stat_pathAt (rooted : walk.Rooted entries faults) (nonempty : location ≠ [])
    (inside : (FileNode.directory entries faults).at? location = some node) (solid : node.isLink = false) :
    walk.workspace.stat (walk.pathAt location) =
      match walk.wayFault? (.directory entries faults) location with
      | some fault => .error fault
      | none => .ok node := by
  have valid := rooted.top_wellFormed.isEntryName inside
  obtain ⟨⟨noZero, written, _⟩, _⟩ := Workspace.follow_of_find rooted.there
  have noZero' := walk.zero_not_mem_pathAt noZero valid
  unfold wayFault?
  by_cases short : walk.Short location
  · have bare : Resolution.hasSlash (walk.pathAt location) = false := by
      rw [pathAt_eq]
      exact Resolution.hasSlash_join nonempty valid walk.front
    have written' : walk.pathAt location ≠ [] := by
      rw [pathAt_eq]
      simp
    rw [if_pos short]
    exact Workspace.stat_below rooted.wellFormed rooted.stat_root nonempty inside solid (walk.names_pathAt valid)
      (walk.isAbsolute_pathAt written location) bare noZero' written' short
  · rw [if_neg short]
    exact walk.workspace.stat_tooLong noZero' (Nat.not_le.mp short)

theorem opening_pathAt (rooted : walk.Rooted entries faults) (nonempty : location ≠ [])
    (inside : (FileNode.directory entries faults).at? location = some node) (solid : node.isLink = false) :
    walk.workspace.opening (walk.pathAt location) =
      match walk.wayFault? (.directory entries faults) location with
      | some fault => .failed fault
      | none => node.opening := by
  rw [Workspace.opening, rooted.stat_pathAt nonempty inside solid]
  cases walk.wayFault? (.directory entries faults) location <;> rfl

theorem listing_pathAt (rooted : walk.Rooted entries faults) (nonempty : location ≠ [])
    (inside : (FileNode.directory entries faults).at? location = some node) (solid : node.isLink = false) :
    walk.workspace.listing (walk.pathAt location) =
      match walk.wayFault? (.directory entries faults) location with
      | some fault => ⟨[], some ⟨.opening, fault⟩⟩
      | none => node.listing := by
  rw [Workspace.listing, rooted.stat_pathAt nonempty inside solid]
  cases walk.wayFault? (.directory entries faults) location <;> rfl

end Rooted

end QualityGate.Walk
