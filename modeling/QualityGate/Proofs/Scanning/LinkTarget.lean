import QualityGate.Proofs.Reporting.Accounts
import QualityGate.Proofs.Scanning.Delivery

/-!
A target that is a link to a directory. The scan takes it for a directory, because the path leads to one, but the walk
meets the link itself and passes it by. So nothing is reported and the scan succeeds, and it agrees with the scan of the
directory only when that can be listed and nothing in it is to be reported.
-/

namespace QualityGate

theorem tally_eq_empty_iff (reports : List FileReport) : tally reports = {} ↔ reports = [] := by
  constructor
  · intro nothing
    have total := (accounts_collect [] [] reports).total
    rw [nothing] at total
    exact List.length_eq_zero_iff.mp (Int.natCast_eq_zero.mp total.symm)
  · rintro rfl
    rfl

namespace Scan

variable {σ : Type} {scan : Scan} {target : Text} {entries : List (Text × FileNode)} {faults : NodeFaults}

/-- A target that is itself a link, and leads to a directory. -/
structure LinkedTo (scan : Scan) (target : Text) (entries : List (Text × FileNode)) (faults : NodeFaults) : Prop where
  named : Text.trim target ≠ []
  link : ∃ destination, scan.workspace.entry (scan.walkOf target).root = .ok (.link destination)
  leads : scan.workspace.stat (scan.walkOf target).root = .ok (.directory entries faults)

theorem LinkedTo.courseOf_eq (linked : scan.LinkedTo target entries faults) : scan.courseOf target = ⟨[], none⟩ := by
  obtain ⟨named, ⟨destination, link⟩, leads⟩ := linked
  have link : (scan.walkOf target).workspace.entry (scan.walkOf target).root = .ok (.link destination) := link
  have passed : (scan.walkOf target).steps = [.pass] := by rw [Walk.steps, link]
  simp only [courseOf, if_neg named, leads, passed, course]

theorem LinkedTo.outcome_run (linked : scan.LinkedTo target entries faults) (positive : 0 < scan.workers)
    {receive : Receiver σ} (quiet : Quiet receive) (state : σ) (log : List LogEntry) :
    Outcome.of (scan.run receive { state, log } target) = ⟨state, {}, none⟩ := by
  rw [scan.outcome_run_eq positive quiet, linked.courseOf_eq]
  rfl

/-- Locations have no reports and no failure only if there are none of them. -/
theorem inTurn_eq_nothing_iff (walk : Walk) (top : FileNode) (locations : List (List Text)) :
    (walk.inTurn top locations ⟨[], none⟩).reports = [] ∧ (walk.inTurn top locations ⟨[], none⟩).ending = none ↔
      locations = [] := by
  cases locations with
  | nil => exact iff_of_true ⟨rfl, rfl⟩ rfl
  | cons location rest =>
    refine iff_of_false ?_ (List.cons_ne_nil _ _)
    rw [Walk.inTurn, List.foldr_cons]
    cases walk.reportAt? top location with
    | none =>
      rintro ⟨-, unending⟩
      cases unending
    | some report =>
      rintro ⟨unreported, -⟩
      cases unreported

/-- The scan of a link to a directory succeeds without any report. The scan of the directory reports all that is due in
it, or fails if it cannot be listed, so the two agree only if it can be and nothing is due. -/
theorem linked_target_unscanned (scan : Scan) (positive : 0 < scan.workers)
    (wellFormed : scan.workspace.root.WellFormed) {receive : Receiver σ} (taking : Taking receive) (state : σ)
    (log : List LogEntry) (target real : Text) (entries : List (Text × FileNode)) (faults : NodeFaults)
    (linked : scan.LinkedTo target entries faults) (named : Text.trim real ≠ [])
    (directory : scan.workspace.entry (scan.walkOf real).root = .ok (.directory entries faults)) :
    Outcome.of (scan.run receive { state, log } target) = ⟨state, {}, none⟩ ∧
      ((FileNode.directory entries faults).listing.fault = none →
        ∃ locations : List (List Text),
          (∀ location, location ∈ locations ↔ (scan.walkOf real).Due (.directory entries faults) location) ∧
          locations.Pairwise (· < ·) ∧
          Outcome.of (scan.run receive { state, log } real) =
            .taking receive state {} ((scan.walkOf real).inTurn (.directory entries faults) locations ⟨[], none⟩)) ∧
      (∀ fault, (FileNode.directory entries faults).listing.fault = some fault →
        Outcome.of (scan.run receive { state, log } real) =
          ⟨state, {}, some (.unlisted (scan.walkOf real).root fault)⟩) ∧
      ((scan.run receive { state, log } target).1.summary = (scan.run receive { state, log } real).1.summary ∧
          (scan.run receive { state, log } target).2 = (scan.run receive { state, log } real).2 ↔
        (FileNode.directory entries faults).listing.fault = none ∧
          ∀ location, ¬ (scan.walkOf real).Due (.directory entries faults) location) := by
  have rooted : (scan.walkOf real).Rooted entries faults := ⟨wellFormed, directory⟩
  have passed := linked.outcome_run positive taking.quiet state log
  have uncounted : (scan.run receive { state, log } target).1.summary = {} := congrArg Outcome.summary passed
  have unfailing : (scan.run receive { state, log } target).2 = none := congrArg Outcome.failure passed
  refine ⟨passed, fun listed => scan.outcome_run_listed positive taking state log named rooted listed,
    fun fault unlisted => scan.outcome_run_unlisted positive taking state log named rooted unlisted, ?_⟩
  rw [uncounted, unfailing]
  cases listed : (FileNode.directory entries faults).listing.fault with
  | some fault =>
    have failed : (scan.run receive { state, log } real).2 = some _ :=
      congrArg Outcome.failure (scan.outcome_run_unlisted positive taking state log named rooted listed)
    rw [failed]
    exact iff_of_false (fun same => nomatch same.2) (fun same => nomatch same.1)
  | none =>
    obtain ⟨locations, members, -, outcome⟩ :=
      scan.outcome_run_listed positive taking state log named rooted listed
    have counted : (scan.run receive { state, log } real).1.summary = tally _ := congrArg Outcome.summary outcome
    have failed : (scan.run receive { state, log } real).2 = _ := congrArg Outcome.failure outcome
    have nothing := inTurn_eq_nothing_iff (scan.walkOf real) (.directory entries faults) locations
    rw [counted, failed, eq_comm, tally_eq_empty_iff, eq_comm (a := none)]
    refine nothing.trans ?_
    rw [List.eq_nil_iff_forall_not_mem]
    exact ⟨fun none => ⟨rfl, fun location due => none location ((members location).mpr due)⟩,
      fun none location member => none.2 location ((members location).mp member)⟩

/-- A directory with one file, and a link to it. -/
def linkedDirectory : Scan :=
  ⟨⟨.directory [("real", .directory [("a.txt", .file [])]), ("link", .link "real")], []⟩, .lines {}, 1⟩

theorem linkedDirectory_linkedTo : linkedDirectory.LinkedTo "link" [("a.txt", .file [])] {} :=
  ⟨by decide, ⟨"real", rfl⟩, rfl⟩

theorem linkedDirectory_wellFormed : linkedDirectory.workspace.root.WellFormed := by
  have inner : (FileNode.directory [("a.txt", .file [])]).WellFormed :=
    .directory (by decide) (by decide) (by simpa using .file [] {})
  exact .directory (by decide) (by decide) (by simpa using ⟨inner, .link _⟩)

theorem linked_target_unscanned_one_file :
    linkedDirectory.LinkedTo "link" [("a.txt", .file [])] {} ∧
      linkedDirectory.workspace.entry (linkedDirectory.walkOf "real").root = .ok (.directory [("a.txt", .file [])]) ∧
      Outcome.of (linkedDirectory.run (ParallelScan.recording fun _ => none) { state := [] } "link") =
        ⟨[], {}, none⟩ := by
  have unscanned := linked_target_unscanned linkedDirectory (by decide) linkedDirectory_wellFormed taking_recording []
    [] "link" "real" [("a.txt", .file [])] {} linkedDirectory_linkedTo (by decide) rfl
  exact ⟨linkedDirectory_linkedTo, rfl, unscanned.1⟩

/-- A file in a directory is reported when the directory is scanned, and not when a link to it is. -/
theorem linked_target_loses_file :
    linkedDirectory.LinkedTo "link" [("a.txt", .file [])] {} ∧
      linkedDirectory.workspace.entry (linkedDirectory.walkOf "real").root = .ok (.directory [("a.txt", .file [])]) ∧
      (linkedDirectory.run (ParallelScan.recording fun _ => none) { state := [] } "real").1.state =
        [{ path := "real/a.txt" }] ∧
      (linkedDirectory.run (ParallelScan.recording fun _ => none) { state := [] } "link").1.state = [] ∧
      (linkedDirectory.run (ParallelScan.recording fun _ => none) { state := [] } "link").2 = none :=
  ⟨linkedDirectory_linkedTo, rfl, by decide +kernel, by decide +kernel, by decide +kernel⟩

end Scan

end QualityGate
