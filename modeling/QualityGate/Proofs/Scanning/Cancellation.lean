import QualityGate.Proofs.Scanning.Delivery
import QualityGate.Proofs.Scanning.Slots

/-!
A cancelled scan with several workers. The slots stand for the files of the walk in their order, so whatever is
delivered is delivered in that order and without a gap. A cancellation ends the walk early and turns reports that are
still to be made into reports that say so; it changes no other report and no count.
-/

namespace QualityGate

/-- The report on a file that was not opened because the scan was cancelled. -/
def ScanTask.cancelledReport (task : ScanTask) : FileReport :=
  { path := task.display, error := some ⟨task.display, cancelledMessage⟩ }

/-- The reports that a scan can give on a file: the one that it gives when nobody cancels it, and the one that says that
it was cancelled. -/
def Scan.MayReport (scan : Scan) (task : ScanTask) (report : FileReport) : Prop :=
  scan.reportOf task = some report ∨ report = task.cancelledReport

theorem Scan.mayReport_of_report {scan : Scan} {cancelled : Bool} {task : ScanTask} {report : FileReport}
    {entries : List LogEntry} (made : scan.report cancelled task = some (report, entries)) :
    scan.MayReport task report := by
  cases cancelled with
  | false => exact .inl (by rw [reportOf, made]; rfl)
  | true =>
    cases fault : task.fault with
    | some fault =>
      -- A directory that could not be listed is not opened in either case.
      refine .inl ?_
      simp only [Scan.report, attempt, fault] at made
      simp only [reportOf, Scan.report, attempt, fault, made, Option.map_some]
    | none =>
      refine .inr ?_
      simp only [Scan.report, attempt, fault, if_true, Option.map_some, Option.some.injEq] at made
      exact (congrArg Prod.fst made).symm

namespace ParallelScan

namespace State

variable {scan : Scan} {receive : Receiver (List FileReport)} {files : List ScanTask}
  {state next : State (List FileReport)}

/-- A scan of `files` in which no report was refused: the slots stand for the files in their order, and the reports
delivered so far are on the first of them. -/
structure InStep (scan : Scan) (files : List ScanTask) (state : State (List FileReport)) : Prop where
  accepted : state.refusal = none
  assigned : Assigned scan scan.MayReport files state
  toCome : (∃ failure, state.walker = .ended (some failure)) ∨ files.drop state.nextSlot = visited (ahead state.walker)
  order : List.range state.progress.state.length ++ state.outstanding = List.range state.nextSlot
  delivered : List.Forall₂ scan.MayReport (files.take state.progress.state.length) state.progress.state

namespace InStep

theorem start (scan : Scan) (steps : List WalkStep) (log : List LogEntry) (cancelled : Bool) :
    InStep scan (visited steps) (State.start { state := [], log, cancelled } steps) where
  accepted := rfl
  assigned :=
    { starts := fun _ _ _ starting => nomatch starting
      holds := fun _ _ member => nomatch member
      waits := fun _ _ member => nomatch member
      made := fun _ _ member => by rcases member with worked | filled <;> contradiction }
  toCome := .inr rfl
  order := rfl
  delivered := .nil

theorem ahead_eq (inv : InStep scan files state) (moving : ∀ failure, state.walker ≠ .ended failure) :
    files.drop state.nextSlot = visited (ahead state.walker) :=
  inv.toCome.resolve_left fun ⟨failure, ended⟩ => moving (some failure) ended

/-- The walker moves on without a new slot. -/
theorem walk (inv : InStep scan files state) {walker : Walker} (log : List LogEntry)
    (fresh : ∀ slot task rest, walker ≠ .starting slot task rest)
    (toCome : (∃ failure, walker = .ended (some failure)) ∨ files.drop state.nextSlot = visited (ahead walker)) :
    InStep scan files { state with walker, progress := { state.progress with log } } :=
  { inv with
    assigned := { inv.assigned with starts := fun slot task rest starting => absurd starting (fresh slot task rest) }
    toCome }

theorem queue (inv : InStep scan files state) {task : ScanTask} {rest : List WalkStep}
    (walker : state.walker = .queueing task rest) :
    InStep scan files
      { state with
        walker := .starting state.nextSlot task rest
        queue := state.queue ++ [state.nextSlot]
        nextSlot := state.nextSlot + 1 } := by
  have here : files.drop state.nextSlot = task :: visited rest := by
    rw [inv.ahead_eq (by simp [walker]), walker]
    rfl
  refine { inv with assigned := { inv.assigned with starts := ?_ }, toCome := .inr ?_, order := ?_ }
  · intro slot new rest' starting
    cases starting
    have first := congrArg List.head? here
    rwa [List.head?_drop] at first
  · have later := congrArg List.tail here
    rwa [List.tail_drop] at later
  · have longer : outstanding
        { state with
          walker := .starting state.nextSlot task rest
          queue := state.queue ++ [state.nextSlot]
          nextSlot := state.nextSlot + 1 } = state.outstanding ++ [state.nextSlot] := by
      unfold outstanding
      cases state.output <;> rfl
    rw [longer, ← List.append_assoc, inv.order, List.range_succ]

theorem deliver (keeping : Keeping receive) (inv : InStep scan files state) {slot : Nat} {report : FileReport}
    (output : state.output = .slot slot) (ready : state.filled.lookup slot = some report) :
    InStep scan files
      { state with
        output := .queue
        filled := state.filled.filter (·.1 ≠ slot)
        progress := (state.progress.deliver receive report).1
        refusal := (state.progress.deliver receive report).2 } := by
  have order : List.range state.progress.state.length ++ slot :: state.queue = List.range state.nextSlot := by
    rw [← inv.order, outstanding, output]
  -- The slots in front of this one are those of the reports that were delivered.
  obtain rfl : slot = state.progress.state.length := by
    have here := congrArg (·[state.progress.state.length]?) order
    simp only [List.getElem?_append_right, List.length_range, Nat.le_refl, Nat.sub_self,
      List.getElem?_cons_zero] at here
    obtain ⟨_, same⟩ := List.getElem?_eq_some_iff.mp here.symm
    rw [List.getElem_range] at same
    exact same.symm
  obtain ⟨task, file, given⟩ := inv.assigned.made _ report (.inr (mem_of_lookup ready))
  have received : (state.progress.deliver receive report).1.state = state.progress.state ++ [report] :=
    keeping.keeps state.progress.state report
  refine
    { accepted := ?_
      assigned := inv.assigned.empty _ _ _ _
      toCome := inv.toCome
      order := ?_
      delivered := ?_ }
  · simp only [ScanProgress.deliver, keeping.unrefused, Option.map_none]
  · dsimp only [outstanding]
    rw [received, List.length_append, List.length_singleton, List.range_succ, List.append_assoc, List.singleton_append,
      order]
  · dsimp only
    rw [received, List.length_append, List.length_singleton, List.take_add_one, file]
    exact List.rel_append inv.delivered (.cons given .nil)

theorem moves (keeping : Keeping receive) (inv : InStep scan files state) (move : Moves scan receive state next) :
    InStep scan files next := by
  cases move with
  | finish walker | pass walker _ | skip walker _ | visit walker _ =>
    refine inv.walk _ (by simp) (.inr ?_)
    rw [inv.ahead_eq (by simp [walker]), walker]
    rfl
  | stop _ _ | fail _ _ | giveUp _ _ => exact inv.walk _ (by simp) (.inl ⟨_, rfl⟩)
  | queue walker _ => exact inv.queue walker
  | start walker _ =>
    refine { inv with assigned := inv.assigned.start walker, toCome := .inr ?_ }
    rw [inv.ahead_eq (by simp [walker]), walker]
    rfl
  | check held made => exact { inv with assigned := inv.assigned.check held (Scan.mayReport_of_report made) _ }
  | wait held waits => exact { inv with assigned := inv.assigned.wait held (Scan.reportOf_of_report waits).2 }
  | fill held => exact { inv with assigned := inv.assigned.fill held }
  | take output queue =>
    have order := inv.order
    rw [outstanding, output, queue] at order
    exact { inv with assigned := { inv.assigned with }, order }
  | close output queue _ =>
    have order := inv.order
    rw [outstanding, output] at order
    exact { inv with assigned := { inv.assigned with }, order }
  | drop _ _ refused => exact absurd (refused.symm.trans inv.accepted) (by simp)
  | deliver output ready _ => exact inv.deliver keeping output ready

theorem cancel (inv : InStep scan files state) :
    InStep scan files { state with progress := { state.progress with cancelled := true } } :=
  { inv with assigned := { inv.assigned with } }

theorem perform (keeping : Keeping receive) {actions : List Action} {last : State (List FileReport)}
    (inv : InStep scan files state) (performed : state.perform scan receive actions = some last) :
    InStep scan files last :=
  perform_induction (fun _ _ inv move => inv.moves keeping move) (fun _ inv => inv.cancel) inv performed

/-- When the scan has ended as if nobody had cancelled it, all files are delivered. -/
theorem complete (inv : InStep scan files state) (bounded : Bounded scan state) (ended : state.output = .ended)
    (succeeded : state.failure = none) : files.take state.progress.state.length = files := by
  obtain ⟨queue, failure, walker⟩ := bounded.closed ended
  obtain rfl : failure = none := by
    simpa [State.failure, standstill?_of_ended ended, inv.accepted, walker] using succeeded
  have reached : files.length ≤ state.nextSlot := by
    have rest : files.drop state.nextSlot = [] := by
      rw [inv.toCome.resolve_left (by simp [walker]), walker]
      rfl
    exact List.drop_eq_nil_iff.mp rest
  have all : state.progress.state.length = state.nextSlot := by
    have order := inv.order
    rw [outstanding, ended] at order
    simpa [queue] using congrArg List.length order
  rw [all]
  exact List.take_of_length_le reached

end InStep

end State

end ParallelScan

end QualityGate
