import Mathlib.Logic.Relation
import QualityGate.Proofs.Scanning.Cancellation

/-!
The moments of a scan that may be cancelled at any time. A scan with several workers is the system of its parts; a scan
with one worker, or of a single file, goes from one look at the cancellation to the next, or waits at a pipe for ever.
Whatever happens, the reports that are delivered are on the first files of the target (`Moment.Reported`), and the scan
as it is run is one way to go through its moments (`Scan.leads_run`).
-/

namespace QualityGate

variable {σ : Type} {scan : Scan} {receive : Receiver σ}

/-- A receiver that keeps all reports that it is given. It may refuse one, or cancel the scan. -/
def Receiver.Records (receive : Receiver (List FileReport)) : Prop :=
  ∀ received report, (receive received report).state = received ++ [report]

/-! ### One worker -/

namespace SoloScan

/-- What a scan with one worker is about to do. The walk looks at the cancellation before each step, and so does the
check of a file. -/
inductive Stage where
  | walking (rest : List WalkStep)
  | checking (task : ScanTask) (rest : List WalkStep)
  | waiting (task : ScanTask)
  | ended (failure : Option ScanFailure)
  deriving DecidableEq, Repr

structure State (σ : Type) where
  progress : ScanProgress σ
  stage : Stage

inductive Step (scan : Scan) (receive : Receiver σ) : State σ → State σ → Prop where
  | finish (progress : ScanProgress σ) : Step scan receive ⟨progress, .walking []⟩ ⟨progress, .ended none⟩
  | stop {progress : ScanProgress σ} (cancelled : progress.cancelled = true) (step : WalkStep) (rest : List WalkStep) :
      Step scan receive ⟨progress, .walking (step :: rest)⟩ ⟨progress, .ended (some .cancelled)⟩
  | pass {progress : ScanProgress σ} (going : progress.cancelled = false) (rest : List WalkStep) :
      Step scan receive ⟨progress, .walking (.pass :: rest)⟩ ⟨progress, .walking rest⟩
  | skip {progress : ScanProgress σ} (going : progress.cancelled = false) (path : Text) (rest : List WalkStep) :
      Step scan receive ⟨progress, .walking (.skip path :: rest)⟩
        ⟨progress.logging (Scan.excludedEntry path), .walking rest⟩
  | visit {progress : ScanProgress σ} (going : progress.cancelled = false) (task : ScanTask) (rest : List WalkStep) :
      Step scan receive ⟨progress, .walking (.visit task :: rest)⟩ ⟨progress, .checking task rest⟩
  | fail {progress : ScanProgress σ} (going : progress.cancelled = false) (path : Text) (fault : AccessFault)
      (rest : List WalkStep) :
      Step scan receive ⟨progress, .walking (.fail path fault :: rest)⟩
        ⟨progress, .ended (some (.unlisted path fault))⟩
  | check {progress after : ScanProgress σ} {task : ScanTask} (taken : scan.check receive progress task = (after, none))
      (rest : List WalkStep) : Step scan receive ⟨progress, .checking task rest⟩ ⟨after, .walking rest⟩
  | refuse {progress after : ScanProgress σ} {task : ScanTask} {reason : Text}
      (refused : scan.check receive progress task = (after, some (.refused reason))) (rest : List WalkStep) :
      Step scan receive ⟨progress, .checking task rest⟩ ⟨after, .ended (some (.refused reason))⟩
  | wait {progress : ScanProgress σ} {task : ScanTask} (waits : scan.report progress.cancelled task = none)
      (rest : List WalkStep) : Step scan receive ⟨progress, .checking task rest⟩ ⟨progress, .waiting task⟩
  /-- The scan is cancelled from outside. -/
  | cancel (progress : ScanProgress σ) (stage : Stage) :
      Step scan receive ⟨progress, stage⟩ ⟨{ progress with cancelled := true }, stage⟩

abbrev Leads (scan : Scan) (receive : Receiver σ) : State σ → State σ → Prop :=
  Relation.ReflTransGen (Step scan receive)

/-- A file is waited for, or its report is taken or refused. -/
theorem check_cases (scan : Scan) (receive : Receiver σ) (progress : ScanProgress σ) (task : ScanTask) :
    (scan.report progress.cancelled task = none ∧
        scan.check receive progress task = (progress, some (.standstill task.path))) ∨
      ∃ report entries, scan.report progress.cancelled task = some (report, entries) ∧
        scan.check receive progress task =
          ({ progress with log := progress.log ++ entries }.deliver receive report) := by
  cases made : scan.report progress.cancelled task with
  | none => exact .inl ⟨rfl, by simp only [Scan.check, made]⟩
  | some pair =>
    obtain ⟨report, entries⟩ := pair
    exact .inr ⟨report, entries, rfl, by simp only [Scan.check, made]⟩

/-- How a scan comes to a result: it ends so, or it waits at a file. -/
inductive Comes (scan : Scan) (files : List ScanTask) (result : ScanProgress σ × Option ScanFailure) :
    State σ → Prop where
  | ended : Comes scan files result ⟨result.1, .ended result.2⟩
  | waiting {task : ScanTask} (member : task ∈ files) (waits : scan.reportOf task = none)
      (failure : result.2 = some (.standstill task.path)) : Comes scan files result ⟨result.1, .waiting task⟩

theorem Comes.mono {files more : List ScanTask} {result : ScanProgress σ × Option ScanFailure} {state : State σ}
    (comes : Comes scan files result state) (within : files ⊆ more) : Comes scan more result state := by
  cases comes with
  | ended => exact .ended
  | waiting member waits failure => exact .waiting (within member) waits failure

theorem leads_check (scan : Scan) (receive : Receiver σ) (progress : ScanProgress σ) (task : ScanTask) :
    ∃ last, Leads scan receive ⟨progress, .checking task []⟩ last ∧
      Comes scan [task] (scan.check receive progress task) last := by
  rcases check_cases scan receive progress task with ⟨waits, checked⟩ | ⟨report, entries, -, checked⟩
  · refine ⟨⟨progress, .waiting task⟩, .single (.wait waits []), ?_⟩
    rw [checked]
    exact .waiting (List.mem_singleton_self task) (Scan.reportOf_of_report waits).2 rfl
  · refine ⟨⟨_, .ended _⟩, ?_, .ended⟩
    rw [ScanProgress.deliver] at checked
    cases refusal : (receive progress.state report).refusal with
    | some reason =>
      rw [refusal, Option.map_some] at checked
      rw [checked]
      exact .single (.refuse checked [])
    | none =>
      rw [refusal, Option.map_none] at checked
      rw [checked]
      exact .head (.check checked []) (.single (.finish _))

/-- The scan in sequence is the one that nobody cancels from outside. -/
theorem leads_inSequence (scan : Scan) (receive : Receiver σ) (progress : ScanProgress σ) (steps : List WalkStep) :
    ∃ last, Leads scan receive ⟨progress, .walking steps⟩ last ∧
      Comes scan (visited steps) (scan.inSequence receive progress steps) last := by
  -- Every step of the walk is one step here, and a file two: it is visited and then checked.
  induction steps generalizing progress with
  | nil => exact ⟨_, .single (.finish progress), .ended⟩
  | cons step rest ih =>
    cases going : progress.cancelled with
    | true =>
      simp only [Scan.inSequence, going, if_true]
      exact ⟨_, .single (.stop going step rest), .ended⟩
    | false =>
      simp only [Scan.inSequence, going, Bool.false_eq_true, if_false]
      cases step with
      | pass =>
        obtain ⟨last, leads, comes⟩ := ih progress
        exact ⟨last, .head (.pass going rest) leads, comes⟩
      | skip path =>
        obtain ⟨last, leads, comes⟩ := ih (progress.logging (Scan.excludedEntry path))
        exact ⟨last, .head (.skip going path rest) leads, comes⟩
      | fail path fault => exact ⟨_, .single (.fail going path fault rest), .ended⟩
      | visit task =>
        rcases check_cases scan receive progress task with ⟨waits, checked⟩ | ⟨report, entries, -, checked⟩
        · refine ⟨⟨progress, .waiting task⟩, .head (.visit going task rest) (.single (.wait waits rest)), ?_⟩
          simp only [checked]
          exact .waiting List.mem_cons_self (Scan.reportOf_of_report waits).2 rfl
        · rw [ScanProgress.deliver] at checked
          cases refusal : (receive progress.state report).refusal with
          | some reason =>
            rw [refusal, Option.map_some] at checked
            simp only [checked]
            exact ⟨_, .head (.visit going task rest) (.single (.refuse checked rest)), .ended⟩
          | none =>
            rw [refusal, Option.map_none] at checked
            simp only [checked]
            obtain ⟨last, leads, comes⟩ := ih _
            exact ⟨last, .head (.visit going task rest) (.head (.check checked rest) leads),
              comes.mono (List.subset_cons_self _ _)⟩

def ahead : Stage → List ScanTask
  | .walking rest => visited rest
  | .checking task rest => task :: visited rest
  | .waiting _ | .ended _ => []

/-- The scan has ended early, or will not end. -/
def Stage.BreaksOff : Stage → Prop
  | .ended (some _) | .waiting _ => True
  | _ => False

/-- The reports so far are on the first of the files, and unless the scan breaks off the others are ahead. -/
def Reported (scan : Scan) (files : List ScanTask) (state : State (List FileReport)) : Prop :=
  ∃ done, List.Forall₂ scan.MayReport done state.progress.state ∧
    (state.stage.BreaksOff ∧ done <+: files ∨ files = done ++ ahead state.stage)

theorem Reported.step {receive : Receiver (List FileReport)} (records : receive.Records) {files : List ScanTask}
    {state next : State (List FileReport)} (reported : Reported scan files state)
    (step : Step scan receive state next) : Reported scan files next := by
  obtain ⟨done, given, rest⟩ := reported
  -- The check of a file adds one report on it.
  have checked : ∀ {progress after : ScanProgress (List FileReport)} {task : ScanTask} {failure : Option ScanFailure},
      scan.check receive progress task = (after, failure) → failure ≠ some (.standstill task.path) →
      List.Forall₂ scan.MayReport done progress.state → List.Forall₂ scan.MayReport (done ++ [task]) after.state := by
    intro progress after task failure checked moving given
    rcases check_cases scan receive progress task with ⟨-, waits⟩ | ⟨report, entries, made, delivered⟩
    · cases checked.symm.trans waits
      exact absurd rfl moving
    · have received : after.state = progress.state ++ [report] := by
        rw [show after = _ from congrArg Prod.fst (checked.symm.trans delivered)]
        exact records _ _
      rw [received]
      exact List.rel_append given (.cons (Scan.mayReport_of_report made) .nil)
  cases step with
  | finish _ => exact ⟨done, given, .inr (rest.resolve_left nofun)⟩
  | stop _ _ _ | fail _ _ _ _ | wait _ _ =>
    have split := rest.resolve_left nofun
    exact ⟨done, given, .inl ⟨trivial, split ▸ List.prefix_append done _⟩⟩
  | pass _ _ | skip _ _ _ | visit _ _ _ => exact ⟨done, given, .inr (rest.resolve_left nofun)⟩
  | @check _ after task taken more =>
    refine ⟨done ++ [task], checked taken nofun given, .inr ?_⟩
    rw [rest.resolve_left nofun, List.append_assoc]
    rfl
  | @refuse _ after task reason refused more =>
    refine ⟨done ++ [task], checked refused nofun given, .inl ⟨trivial, visited more, ?_⟩⟩
    rw [rest.resolve_left nofun, List.append_assoc]
    rfl
  | cancel _ _ => exact ⟨done, given, rest⟩

end SoloScan

/-! ### Several workers -/

/-- The receiver that takes all reports and is the same otherwise. -/
def Receiver.accepting (receive : Receiver σ) : Receiver σ := fun state report =>
  { receive state report with refusal := none }

namespace ParallelScan.State

variable {state next last : State σ}

theorem Moves.accepting (move : Moves scan receive state next) (accepted : state.refusal = none) :
    Moves scan receive.accepting state { next with refusal := none } := by
  obtain ⟨progress, walker, nextSlot, queue, working, filled, output, refusal⟩ := state
  cases accepted
  cases move with
  | finish walker => exact .finish walker
  | stop walker stopped => exact .stop walker stopped
  | pass walker going => exact .pass walker going
  | skip walker going => exact .skip walker going
  | visit walker going => exact .visit walker going
  | fail walker going => exact .fail walker going
  | queue walker room => exact .queue walker room
  | giveUp walker stopped => exact .giveUp walker stopped
  | start walker free => exact .start walker free
  | check held made => exact .check held made
  | wait held waits => exact .wait held waits
  | fill held => exact .fill held
  | take output queue => exact .take output queue
  | close output queue walker => exact .close output queue walker
  | drop _ _ refused => cases refused
  | deliver output ready accepted => exact .deliver output ready accepted

/-- The reports so far are on the first of the files: no report was refused and the slots are in step with the files, or
they stay as they were when one was. -/
def Reported (scan : Scan) (files : List ScanTask) (state : State (List FileReport)) : Prop :=
  InStep scan files state ∨
    ∃ failure before, state.refusal = some failure ∧ InStep scan files before ∧
      before.progress.state = state.progress.state

section

variable {receive : Receiver (List FileReport)} {files : List ScanTask} {state next last : State (List FileReport)}

theorem Reported.moves (records : receive.Records) (reported : Reported scan files state)
    (move : Moves scan receive state next) : Reported scan files next := by
  rcases reported with inStep | ⟨failure, before, refused, inStep, same⟩
  -- Up to its refusal a report is received as if the receiver took all of them.
  · have keeping : Keeping receive.accepting := ⟨records, fun _ _ => rfl⟩
    have accepted : InStep scan files { next with refusal := none } :=
      inStep.moves keeping (move.accepting inStep.accepted)
    cases refusal : next.refusal with
    | none =>
      rw [← refusal] at accepted
      exact .inl accepted
    | some failure => exact .inr ⟨failure, _, refusal, accepted, rfl⟩
  · obtain ⟨still, unchanged, -⟩ := move.refused refused
    exact .inr ⟨failure, before, still, inStep, same.trans unchanged.symm⟩

end

end ParallelScan.State

/-! ### Both -/

inductive Moment (σ : Type) where
  | one (state : SoloScan.State σ)
  | several (state : ParallelScan.State σ)

namespace Moment

def progress : Moment σ → ScanProgress σ
  | one state => state.progress
  | several state => state.progress

/-- The steps that the walk has not come to yet. -/
def left : Moment σ → List WalkStep
  | one ⟨_, .walking rest⟩ | one ⟨_, .checking _ rest⟩ => rest
  | one ⟨_, .waiting _⟩ | one ⟨_, .ended _⟩ => []
  | several state =>
    match state.walker with
    | .walking rest | .queueing _ rest | .starting _ _ rest => rest
    | .ended _ => []

def HasEnded : Moment σ → Prop
  | one state => ∃ failure, state.stage = .ended failure
  | several state => state.output = .ended

/-- The file at which a scan waits for ever. -/
def standstill? : Moment σ → Option ScanTask
  | one ⟨_, .waiting task⟩ => some task
  | one _ => none
  | several state => state.standstill?

def failure : Moment σ → Option ScanFailure
  | one ⟨_, .ended failure⟩ => failure
  | one ⟨_, .waiting task⟩ => some (.standstill task.path)
  | one _ => none
  | several state => state.failure

/-- One moment of a scan leads to another, in some order of what its parts do and with some cancellations. -/
def Leads (scan : Scan) (receive : Receiver σ) : Moment σ → Moment σ → Prop
  | one state, one last => SoloScan.Leads scan receive state last
  | several state, several last => ∃ actions, state.perform scan receive actions = some last
  | _, _ => False

/-- What every step of one worker, every move of the parts of several and every cancellation keeps is kept. -/
theorem Leads.invariant {Inv : Moment σ → Prop}
    (step : ∀ state next, Inv (one state) → SoloScan.Step scan receive state next → Inv (one next))
    (moves : ∀ state next, Inv (several state) → ParallelScan.State.Moves scan receive state next → Inv (several next))
    (cancel : ∀ state : ParallelScan.State σ, Inv (several state) →
      Inv (several { state with progress := { state.progress with cancelled := true } }))
    {moment last : Moment σ} (holds : Inv moment) (leads : moment.Leads scan receive last) : Inv last := by
  cases moment with
  | one state =>
    cases last with
    | several _ => cases leads
    | one last =>
      induction leads with
      | refl => exact holds
      | tail _ next ih => exact step _ _ ih next
  | several state =>
    cases last with
    | one _ => cases leads
    | several last =>
      obtain ⟨actions, performed⟩ := leads
      have kept := @ParallelScan.State.perform_induction σ scan receive state fun state => Inv (several state)
      exact kept moves cancel holds performed

/-- The reports so far are on the first of the files. -/
def Reported (scan : Scan) (files : List ScanTask) : Moment (List FileReport) → Prop
  | one state => SoloScan.Reported scan files state
  | several state => ParallelScan.State.Reported scan files state ∧ ParallelScan.State.Bounded scan state

section

variable {receive : Receiver (List FileReport)} {files : List ScanTask} {moment last : Moment (List FileReport)}

theorem Reported.leads (records : receive.Records) (reported : moment.Reported scan files)
    (leads : moment.Leads scan receive last) : last.Reported scan files := by
  refine leads.invariant ?_ ?_ ?_ reported
  · intro state next reported step
    exact SoloScan.Reported.step records reported step
  · rintro state next ⟨reported, bounded⟩ move
    exact ⟨reported.moves records move, bounded.moves move⟩
  · rintro state ⟨reported, bounded⟩
    exact ⟨reported.imp (fun inStep => inStep.cancel) id, bounded.limited, bounded.newest, bounded.closed⟩

/-- The reports are on all files when the scan has ended without a failure. -/
theorem Reported.given (reported : moment.Reported scan files) :
    ∃ done, done <+: files ∧ List.Forall₂ scan.MayReport done moment.progress.state ∧
      (moment.HasEnded → moment.failure = none → done = files) := by
  match moment, reported with
  | one ⟨progress, stage⟩, ⟨done, given, rest⟩ =>
    refine ⟨done, ?_, given, ?_⟩
    · rcases rest with ⟨-, front⟩ | split
      · exact front
      · exact split ▸ List.prefix_append done _
    · rintro ⟨failure, rfl⟩ succeeded
      obtain rfl : failure = none := succeeded
      rw [rest.resolve_left nofun]
      exact (List.append_nil done).symm
  | several state, ⟨.inl inStep, bounded⟩ =>
    exact ⟨_, List.take_prefix _ _, inStep.delivered, inStep.complete bounded⟩
  | several state, ⟨.inr ⟨failure, before, refused, inStep, same⟩, bounded⟩ =>
    refine ⟨_, List.take_prefix _ _, same ▸ inStep.delivered, fun ended succeeded => ?_⟩
    have moving := ParallelScan.State.standstill?_of_ended ended
    simp [Moment.failure, ParallelScan.State.failure, moving, refused] at succeeded

end

end Moment

namespace Scan

/-- The file that a target is, if it is one. -/
def soleTask (scan : Scan) (target : Text) : ScanTask :=
  { path := (scan.walkOf target).root, display := Text.trim target }

def entering (scan : Scan) (progress : ScanProgress σ) (steps : List WalkStep) : Moment σ :=
  if scan.workers = 1 then .one ⟨progress, .walking steps⟩ else .several (ParallelScan.State.start progress steps)

/-- The first moment of a scan of a target, or why it does not begin. -/
def beginning (scan : Scan) (progress : ScanProgress σ) (target : Text) : Except ScanFailure (Moment σ) :=
  let walk := scan.walkOf target
  if Text.trim target = [] then .error .emptyPath
  else
    match scan.workspace.stat walk.root with
    | .error fault => .error (.unreachable walk.root fault)
    | .ok (.directory _ _) => .ok (scan.entering (progress.logging (scan.startedEntry walk.root)) walk.steps)
    | .ok _ =>
      if scan.checker.accepts walk.root then .ok (.one ⟨progress, .checking (scan.soleTask target) []⟩)
      else .error (.unsupported scan.checker.name (Path.base walk.root))

/-- A scan does not begin, or it is of a file, or of a directory. -/
theorem beginning_cases (scan : Scan) (receive : Receiver σ) (progress : ScanProgress σ) (target : Text) :
    (∃ failure, scan.beginning progress target = .error failure ∧ scan.tasks target = .error failure ∧
        scan.run receive progress target = (progress, some failure)) ∨
      (scan.beginning progress target = .ok (.one ⟨progress, .checking (scan.soleTask target) []⟩) ∧
        scan.tasks target = .ok [scan.soleTask target] ∧
        scan.run receive progress target = scan.check receive progress (scan.soleTask target)) ∨
      ∃ later, later = progress.logging (scan.startedEntry (scan.walkOf target).root) ∧
        scan.beginning progress target = .ok (scan.entering later (scan.walkOf target).steps) ∧
        scan.tasks target = .ok (visited (scan.walkOf target).steps) ∧
        scan.run receive progress target =
          if scan.workers = 1 then scan.inSequence receive later (scan.walkOf target).steps
          else scan.inParallel receive later (scan.walkOf target).steps := by
  have root : Path.absolute scan.workspace.path (Text.trim target) = (scan.walkOf target).root := rfl
  by_cases blank : Text.trim target = []
  · refine .inl ⟨.emptyPath, ?_⟩
    simp [beginning, tasks, run, blank]
  cases found : scan.workspace.stat (scan.walkOf target).root with
  | error fault =>
    refine .inl ⟨.unreachable (scan.walkOf target).root fault, ?_⟩
    simp [beginning, tasks, run, blank, root, found]
  | ok node =>
    cases node with
    | directory entries faults =>
      refine .inr (.inr ⟨_, rfl, ?_⟩)
      simp only [beginning, tasks, run, blank, root, found, List.isEmpty_iff, if_false, true_and]
      rfl
    | _ =>
      by_cases accepted : scan.checker.accepts (scan.walkOf target).root = true
      · refine .inr (.inl ?_)
        simp only [beginning, tasks, run, blank, root, found, accepted, List.isEmpty_iff, if_true, if_false, true_and]
        exact ⟨rfl, rfl⟩
      · refine .inl ⟨.unsupported scan.checker.name (Path.base (scan.walkOf target).root), ?_⟩
        simp [beginning, tasks, run, blank, root, found, accepted]

/-- The scan is over, or it waits for ever at one of its files, because opening that one does not end. -/
def Settles (scan : Scan) (files : List ScanTask) (moment : Moment σ) : Prop :=
  moment.HasEnded ∨ ∃ task ∈ files, scan.workspace.opening task.path = .waiting ∧ moment.standstill? = some task

theorem settles_of_comes {files : List ScanTask} {result : ScanProgress σ × Option ScanFailure}
    {state : SoloScan.State σ} (comes : SoloScan.Comes scan files result state) :
    scan.Settles files (.one state) ∧ result = (state.progress, (Moment.one state).failure) := by
  cases comes with
  | ended => exact ⟨.inl ⟨_, rfl⟩, rfl⟩
  | @waiting task member waits failure =>
    refine ⟨.inr ⟨task, member, ((scan.reportOf_eq_none_iff task).mp waits).2, rfl⟩, ?_⟩
    exact Prod.ext rfl failure

/-- A scan as it is run goes from its first moment to its end, or to a standstill. -/
theorem leads_run {scan : Scan} (positive : 0 < scan.workers) (receive : Receiver σ) {progress : ScanProgress σ}
    {target : Text} {first : Moment σ} (begun : scan.beginning progress target = .ok first) {files : List ScanTask}
    (tasks : scan.tasks target = .ok files) :
    ∃ last, first.Leads scan receive last ∧ scan.Settles files last ∧
      scan.run receive progress target = (last.progress, last.failure) := by
  rcases scan.beginning_cases receive progress target with
    ⟨failure, begun', -, -⟩ | ⟨begun', tasks', run⟩ | ⟨later, -, begun', tasks', run⟩
  · rw [begun] at begun'
    cases begun'
  · cases begun.symm.trans begun'
    cases tasks.symm.trans tasks'
    obtain ⟨last, leads, comes⟩ := SoloScan.leads_check scan receive progress (scan.soleTask target)
    rw [run]
    exact ⟨.one last, leads, settles_of_comes comes⟩
  · cases begun.symm.trans begun'
    cases tasks.symm.trans tasks'
    rw [run, entering]
    by_cases alone : scan.workers = 1
    · simp only [if_pos alone]
      obtain ⟨last, leads, comes⟩ := SoloScan.leads_inSequence scan receive later (scan.walkOf target).steps
      exact ⟨.one last, leads, settles_of_comes comes⟩
    · simp only [if_neg alone]
      obtain ⟨ends, actions, -, performed⟩ :=
        ParallelScan.run_settles positive receive later (scan.walkOf target).steps
      refine ⟨.several _, ⟨actions, performed⟩, ?_, rfl⟩
      refine ends.imp id fun ⟨task, stands, _⟩ => ?_
      obtain ⟨slot, -, held⟩ := ParallelScan.State.standstill?_eq_some stands
      obtain ⟨known, waits⟩ := (ParallelScan.State.sourced_perform performed).waits slot task (mem_of_lookup held)
      exact ⟨task, known, ((scan.reportOf_eq_none_iff task).mp waits).2, stands⟩

/-- A scan begins with no report and with all files of its target ahead. -/
theorem reported_beginning {scan : Scan} {log : List LogEntry} {cancelled : Bool} {target : Text}
    {first : Moment (List FileReport)} (begun : scan.beginning { state := [], log, cancelled } target = .ok first) :
    ∃ files, scan.tasks target = .ok files ∧ first.Reported scan files := by
  rcases scan.beginning_cases (ParallelScan.recording fun _ => none) { state := [], log, cancelled } target with
    ⟨failure, begun', -, -⟩ | ⟨begun', files, -⟩ | ⟨later, rfl, begun', files, -⟩
  · rw [begun] at begun'
    cases begun'
  · cases begun.symm.trans begun'
    exact ⟨_, files, [], .nil, .inr rfl⟩
  · obtain rfl : first = _ := by simpa using begun.symm.trans begun'
    refine ⟨_, files, ?_⟩
    rw [entering]
    split
    · exact ⟨[], .nil, .inr rfl⟩
    · exact ⟨.inl (.start scan _ _ cancelled), Nat.zero_le _, nofun, nofun⟩

end Scan

end QualityGate
