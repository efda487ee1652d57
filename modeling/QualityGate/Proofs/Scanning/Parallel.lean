import QualityGate.Proofs.Lookup
import QualityGate.Proofs.Scanning.Moves
import QualityGate.Proofs.Scanning.Sequence

/-!
A scan with several workers shows what a scan with one worker shows, in whatever order its parts move. As long as no
report was refused, the files whose slots are still out, followed by the steps that the walker has not taken, have the
course that the scan with one worker has still to deliver; after a refusal nothing that is shown changes any more.
-/

namespace QualityGate.ParallelScan

namespace State

variable {σ : Type} {scan : Scan} {receive : Receiver σ} {state next : State σ}

/-- The state after actions, if each of them is possible when its turn comes. -/
def perform (scan : Scan) (receive : Receiver σ) : State σ → List Action → Option (State σ)
  | state, [] => some state
  | state, action :: rest => (state.act? scan receive action).bind (perform scan receive · rest)

/-- What a scan shows when it has come to a state. -/
def outcome (state : State σ) : Scan.Outcome σ := ⟨state.progress.state, state.progress.summary, state.failure⟩

/-- The slots that the output has not emptied yet, in order. -/
def outstanding (state : State σ) : List Nat :=
  match state.output with
  | .slot slot => slot :: state.queue
  | _ => state.queue

/-- The steps for which there is no slot yet. The failure of a walk is kept until everything before it is delivered. -/
def ahead : Walker → List WalkStep
  | .walking rest => rest
  | .queueing task rest => .visit task :: rest
  | .starting _ _ rest => rest
  | .ended (some (.unlisted path fault)) => [.fail path fault]
  | .ended _ => []

theorem mem_setWork {slot : Nat} {work : Work} {working : List (Nat × Work)} {item : Nat × Work}
    (member : item ∈ setWork slot work working) : item = (slot, work) ∨ item ∈ working := by
  obtain ⟨old, among, rfl⟩ := List.mem_map.mp member
  split
  · exact .inl rfl
  · exact .inr among

/-! ### What slots stand for -/

/-- The slots stand for files, numbered in their order, and the reports on them are such as there may be. -/
structure Assigned (scan : Scan) (may : ScanTask → FileReport → Prop) (tasks : List ScanTask) (state : State σ) :
    Prop where
  starts : ∀ slot task rest, state.walker = .starting slot task rest → tasks[slot]? = some task
  holds : ∀ slot task, (slot, Work.task task) ∈ state.working → tasks[slot]? = some task
  waits : ∀ slot task, (slot, Work.waiting task) ∈ state.working →
    tasks[slot]? = some task ∧ scan.reportOf task = none
  made : ∀ slot report, (slot, Work.report report) ∈ state.working ∨ (slot, report) ∈ state.filled →
    ∃ task, tasks[slot]? = some task ∧ may task report

namespace Assigned

variable {may : ScanTask → FileReport → Prop} {tasks : List ScanTask}

theorem append (assigned : Assigned scan may tasks state) (more : List ScanTask) :
    Assigned scan may (tasks ++ more) state := by
  have kept : ∀ {slot : Nat} {task : ScanTask}, tasks[slot]? = some task → (tasks ++ more)[slot]? = some task := by
    intro slot task held
    rw [List.getElem?_append_left (List.getElem?_eq_some_iff.mp held).1, held]
  refine ⟨fun slot task rest walker => kept (assigned.starts slot task rest walker),
    fun slot task member => kept (assigned.holds slot task member),
    fun slot task member => (assigned.waits slot task member).imp_left kept, fun slot report member => ?_⟩
  obtain ⟨task, held, given⟩ := assigned.made slot report member
  exact ⟨task, kept held, given⟩

theorem start (assigned : Assigned scan may tasks state) {slot : Nat} {task : ScanTask} {rest : List WalkStep}
    (walker : state.walker = .starting slot task rest) :
    Assigned scan may tasks
      { state with walker := .walking rest, working := state.working ++ [(slot, .task task)] } := by
  refine
    { starts := fun _ _ _ starting => nomatch starting
      holds := ?_
      waits := ?_
      made := ?_ }
  · intro slot' task' member
    rcases List.mem_append.mp member with old | new
    · exact assigned.holds slot' task' old
    · cases List.mem_singleton.mp new
      exact assigned.starts slot task rest walker
  · intro slot' task' member
    rcases List.mem_append.mp member with old | new
    · exact assigned.waits slot' task' old
    · cases List.mem_singleton.mp new
  · intro slot' report member
    refine assigned.made slot' report (member.imp_left fun among => ?_)
    rcases List.mem_append.mp among with old | new
    · exact old
    · cases List.mem_singleton.mp new

theorem check (assigned : Assigned scan may tasks state) {slot : Nat} {task : ScanTask} {report : FileReport}
    (held : state.working.lookup slot = some (.task task)) (given : may task report) (progress : ScanProgress σ) :
    Assigned scan may tasks { state with working := setWork slot (.report report) state.working, progress } := by
  refine ⟨assigned.starts, ?_, ?_, ?_⟩
  · intro slot' task' member
    rcases mem_setWork member with new | old
    · cases new
    · exact assigned.holds slot' task' old
  · intro slot' task' member
    rcases mem_setWork member with new | old
    · cases new
    · exact assigned.waits slot' task' old
  · rintro slot' report' (worked | filled)
    · rcases mem_setWork worked with new | old
      · cases new
        exact ⟨task, assigned.holds slot task (mem_of_lookup held), given⟩
      · exact assigned.made slot' report' (.inl old)
    · exact assigned.made slot' report' (.inr filled)

theorem wait (assigned : Assigned scan may tasks state) {slot : Nat} {task : ScanTask}
    (held : state.working.lookup slot = some (.task task)) (waits : scan.reportOf task = none) :
    Assigned scan may tasks { state with working := setWork slot (.waiting task) state.working } := by
  refine ⟨assigned.starts, ?_, ?_, ?_⟩
  · intro slot' task' member
    rcases mem_setWork member with new | old
    · cases new
    · exact assigned.holds slot' task' old
  · intro slot' task' member
    rcases mem_setWork member with new | old
    · cases new
      exact ⟨assigned.holds slot task (mem_of_lookup held), waits⟩
    · exact assigned.waits slot' task' old
  · rintro slot' report' (worked | filled)
    · rcases mem_setWork worked with new | old
      · cases new
      · exact assigned.made slot' report' (.inl old)
    · exact assigned.made slot' report' (.inr filled)

theorem fill (assigned : Assigned scan may tasks state) {slot : Nat} {report : FileReport}
    (held : state.working.lookup slot = some (.report report)) :
    Assigned scan may tasks
      { state with
        working := state.working.filter (·.1 ≠ slot)
        filled := state.filled ++ [(slot, report)] } := by
  refine ⟨assigned.starts, fun slot' task member => assigned.holds slot' task (List.mem_filter.mp member).1,
    fun slot' task member => assigned.waits slot' task (List.mem_filter.mp member).1, ?_⟩
  rintro slot' report' (worked | filled)
  · exact assigned.made slot' report' (.inl (List.mem_filter.mp worked).1)
  · rcases List.mem_append.mp filled with old | new
    · exact assigned.made slot' report' (.inr old)
    · cases List.mem_singleton.mp new
      exact assigned.made slot report (.inl (mem_of_lookup held))

theorem empty (assigned : Assigned scan may tasks state) (slot : Nat) (output : Output) (progress : ScanProgress σ)
    (refusal : Option ScanFailure) :
    Assigned scan may tasks
      { state with output, filled := state.filled.filter (·.1 ≠ slot), progress, refusal } := by
  refine ⟨assigned.starts, assigned.holds, assigned.waits, ?_⟩
  rintro slot' report (worked | filled)
  · exact assigned.made slot' report (.inl worked)
  · exact assigned.made slot' report (.inr (List.mem_filter.mp filled).1)

end Assigned

/-! ### What is still to be delivered -/

/-- A scan under way in which no report was refused: `tasks` are the files that have got a slot, in order, and the
first `done` of them are delivered. -/
structure UnderWay (scan : Scan) (receive : Receiver σ) (goal : Scan.Outcome σ) (tasks : List ScanTask) (done : Nat)
    (state : State σ) : Prop
    extends Assigned scan (fun task report => scan.reportOf task = some report) tasks state where
  accepted : state.refusal = none
  uncancelled : state.progress.cancelled = false
  slots : state.nextSlot = tasks.length
  bound : done ≤ tasks.length
  order : state.outstanding = List.range' done (tasks.length - done)
  remaining : (scan.course ((tasks.drop done).map .visit ++ ahead state.walker)).outcome receive state.progress.state
    state.progress.summary = goal
  walked : ∀ failure, state.walker = .ended (some failure) → ∃ path fault, failure = .unlisted path fault
  closed : state.output = .ended → state.queue = [] ∧ ∃ failure, state.walker = .ended failure

variable {goal : Scan.Outcome σ} {tasks : List ScanTask} {done : Nat}

namespace UnderWay

theorem going (inv : UnderWay scan receive goal tasks done state) : state.stopped = false := by
  simp [stopped, inv.accepted, inv.uncancelled]

/-- The output does not end before the walker. -/
theorem unclosed (inv : UnderWay scan receive goal tasks done state)
    (moving : ∀ failure, state.walker ≠ .ended failure) : state.output ≠ .ended := by
  intro ended
  obtain ⟨-, failure, stands⟩ := inv.closed ended
  exact moving failure stands

/-- The walker moves on without a new slot. -/
theorem walk (inv : UnderWay scan receive goal tasks done state) {walker : Walker} {log : List LogEntry}
    (same : scan.course (ahead walker) = scan.course (ahead state.walker))
    (fresh : ∀ slot task rest, walker ≠ .starting slot task rest)
    (walked : ∀ failure, walker = .ended (some failure) → ∃ path fault, failure = .unlisted path fault)
    (moving : ∀ failure, state.walker ≠ .ended failure) :
    UnderWay scan receive goal tasks done { state with walker, progress := { state.progress with log } } :=
  { inv with
    starts := fun slot task rest starting => absurd starting (fresh slot task rest)
    remaining := by
      rw [Scan.course_append_congr same]
      exact inv.remaining
    walked
    closed := fun ended => absurd ended (inv.unclosed moving) }

theorem queue (inv : UnderWay scan receive goal tasks done state) {task : ScanTask} {rest : List WalkStep}
    (walker : state.walker = .queueing task rest) :
    UnderWay scan receive goal (tasks ++ [task]) done
      { state with
        walker := .starting state.nextSlot task rest
        queue := state.queue ++ [state.nextSlot]
        nextSlot := state.nextSlot + 1 } := by
  have bound := inv.bound
  refine
    { inv.toAssigned.append [task], inv with
      slots := by simp [inv.slots]
      bound := by simp; omega
      starts := ?_
      order := ?_
      remaining := ?_
      walked := fun failure ended => nomatch ended
      closed := fun ended => absurd ended (inv.unclosed (by simp [walker])) }
  · intro slot new rest' starting
    cases starting
    simp [inv.slots]
  · have longer : (tasks ++ [task]).length - done = tasks.length - done + 1 := by simp; omega
    have last : done + (tasks.length - done) = state.nextSlot := by rw [inv.slots]; omega
    rw [longer, List.range'_concat, ← inv.order, Nat.one_mul, last]
    unfold outstanding
    cases state.output <;> rfl
  · rw [List.drop_append_of_le_length bound, List.map_append, List.append_assoc]
    have remaining := inv.remaining
    rw [walker] at remaining
    exact remaining

theorem start (inv : UnderWay scan receive goal tasks done state) {slot : Nat} {task : ScanTask}
    {rest : List WalkStep} (walker : state.walker = .starting slot task rest) :
    UnderWay scan receive goal tasks done
      { state with walker := .walking rest, working := state.working ++ [(slot, .task task)] } := by
  refine
    { inv.toAssigned.start walker, inv with
      remaining := ?_
      walked := fun failure ended => nomatch ended
      closed := fun ended => absurd ended (inv.unclosed (by simp [walker])) }
  have remaining := inv.remaining
  rw [walker] at remaining
  exact remaining

theorem check (inv : UnderWay scan receive goal tasks done state) {slot : Nat} {task : ScanTask} {report : FileReport}
    (held : state.working.lookup slot = some (.task task)) (made : scan.reportOf task = some report)
    (log : List LogEntry) :
    UnderWay scan receive goal tasks done
      { state with
        working := setWork slot (.report report) state.working
        progress := { state.progress with log } } :=
  { inv.toAssigned.check held made _, inv with }

theorem wait (inv : UnderWay scan receive goal tasks done state) {slot : Nat} {task : ScanTask}
    (held : state.working.lookup slot = some (.task task)) (waits : scan.reportOf task = none) :
    UnderWay scan receive goal tasks done
      { state with working := setWork slot (.waiting task) state.working } :=
  { inv.toAssigned.wait held waits, inv with }

theorem fill (inv : UnderWay scan receive goal tasks done state) {slot : Nat} {report : FileReport}
    (held : state.working.lookup slot = some (.report report)) :
    UnderWay scan receive goal tasks done
      { state with
        working := state.working.filter (·.1 ≠ slot)
        filled := state.filled ++ [(slot, report)] } :=
  { inv.toAssigned.fill held, inv with }

theorem take (inv : UnderWay scan receive goal tasks done state) {slot : Nat} {rest : List Nat}
    (output : state.output = .queue) (queue : state.queue = slot :: rest) :
    UnderWay scan receive goal tasks done { state with output := .slot slot, queue := rest } := by
  refine { inv with order := ?_, closed := fun ended => nomatch ended }
  rw [← inv.order, outstanding, outstanding, output, queue]

theorem close (inv : UnderWay scan receive goal tasks done state) {failure : Option ScanFailure}
    (output : state.output = .queue) (queue : state.queue = []) (walker : state.walker = .ended failure) :
    UnderWay scan receive goal tasks done { state with output := .ended } := by
  refine { inv with order := ?_, closed := fun _ => ⟨queue, failure, walker⟩ }
  rw [← inv.order, outstanding, outstanding, output]

/-- The output waits for the slot of the first file that is not delivered yet. -/
theorem first (inv : UnderWay scan receive goal tasks done state) {slot : Nat} (output : state.output = .slot slot)
    {task : ScanTask} (stands : tasks[slot]? = some task) :
    tasks.drop done = task :: tasks.drop (done + 1) ∧
      state.queue = List.range' (done + 1) (tasks.length - (done + 1)) := by
  have order := inv.order
  have some : tasks.length - done = tasks.length - (done + 1) + 1 := by
    cases none : tasks.length - done with
    | zero => simp [outstanding, output, none] at order
    | succ count => omega
  rw [outstanding, output, some, List.range'_succ, List.cons.injEq] at order
  obtain ⟨rfl, queue⟩ := order
  obtain ⟨inside, rfl⟩ := List.getElem?_eq_some_iff.mp stands
  exact ⟨List.drop_eq_getElem_cons inside, queue⟩

end UnderWay

/-- What a scan shows is settled: it is under way to the goal, or it has come there by a refusal. -/
def HeadsFor (scan : Scan) (receive : Receiver σ) (goal : Scan.Outcome σ) (state : State σ) : Prop :=
  (∃ tasks done, UnderWay scan receive goal tasks done state) ∨
    ∃ failure, state.refusal = some failure ∧ ⟨state.progress.state, state.progress.summary, some failure⟩ = goal

theorem UnderWay.deliver (quiet : Scan.Quiet receive) (inv : UnderWay scan receive goal tasks done state) {slot : Nat}
    {report : FileReport} (output : state.output = .slot slot) (ready : state.filled.lookup slot = some report) :
    HeadsFor scan receive goal
      { state with
        output := .queue
        filled := state.filled.filter (·.1 ≠ slot)
        progress := (state.progress.deliver receive report).1
        refusal := (state.progress.deliver receive report).2 } := by
  obtain ⟨task, stands, made⟩ := inv.made slot report (.inr (mem_of_lookup ready))
  obtain ⟨first, queue⟩ := inv.first output stands
  have remaining := inv.remaining
  rw [first, List.map_cons, List.cons_append, Scan.course, made, Scan.Course.after, Scan.Course.outcome,
    Scan.handOver] at remaining
  -- A refusal settles what is shown; otherwise one more file is delivered.
  cases refusal : (receive state.progress.state report).refusal with
  | some reason =>
    simp only [refusal] at remaining
    refine .inr ⟨.refused reason, ?_, ?_⟩
    · simp [ScanProgress.deliver, refusal]
    · exact remaining
  | none =>
    simp only [refusal] at remaining
    have more : done < tasks.length := by
      have length := congrArg List.length first
      simp only [List.length_drop, List.length_cons] at length
      omega
    exact .inl ⟨tasks, done + 1,
      { inv.toAssigned.empty slot _ _ _, inv with
        accepted := by simp [ScanProgress.deliver, refusal]
        uncancelled := by simp [ScanProgress.deliver, inv.uncancelled, quiet state.progress.state report]
        bound := more
        order := queue
        remaining := remaining
        closed := fun ended => by cases ended }⟩

theorem UnderWay.moves (quiet : Scan.Quiet receive) (inv : UnderWay scan receive goal tasks done state)
    (move : Moves scan receive state next) : HeadsFor scan receive goal next := by
  cases move with
  | finish walker =>
    exact .inl ⟨tasks, done, inv.walk (by rw [walker]; rfl) (by simp) (by simp) (by simp [walker])⟩
  | stop _ stopped => exact absurd (stopped.symm.trans inv.going) (by simp)
  | pass walker =>
    exact .inl ⟨tasks, done, inv.walk (by rw [walker]; rfl) (by simp) (by simp) (by simp [walker])⟩
  | skip walker =>
    exact .inl ⟨tasks, done, inv.walk (by rw [walker]; rfl) (by simp) (by simp) (by simp [walker])⟩
  | visit walker =>
    exact .inl ⟨tasks, done, inv.walk (by rw [walker]; rfl) (by simp) (by simp) (by simp [walker])⟩
  | @queue task rest walker _ => exact .inl ⟨tasks ++ [task], done, inv.queue walker⟩
  | giveUp _ stopped => exact absurd (stopped.symm.trans inv.going) (by simp)
  | start walker _ => exact .inl ⟨tasks, done, inv.start walker⟩
  | fail walker =>
    exact .inl ⟨tasks, done, inv.walk (by rw [walker]; rfl) (by simp) (by simp) (by simp [walker])⟩
  | check held made =>
    rw [inv.going] at made
    exact .inl ⟨tasks, done, inv.check held (by rw [Scan.reportOf, made]; rfl) _⟩
  | wait held waits => exact .inl ⟨tasks, done, inv.wait held (Scan.reportOf_of_report waits).2⟩
  | fill held => exact .inl ⟨tasks, done, inv.fill held⟩
  | take output queue => exact .inl ⟨tasks, done, inv.take output queue⟩
  | close output queue walker => exact .inl ⟨tasks, done, inv.close output queue walker⟩
  | drop _ _ refused => exact absurd (refused.symm.trans inv.accepted) (by simp)
  | deliver output ready _ => exact inv.deliver quiet output ready

/-- After a refusal nothing that is shown changes. -/
theorem Moves.refused (move : Moves scan receive state next) {failure : ScanFailure}
    (refused : state.refusal = some failure) :
    next.refusal = some failure ∧ next.progress.state = state.progress.state ∧
      next.progress.summary = state.progress.summary := by
  cases move with
  | deliver _ _ accepted => exact absurd (refused.symm.trans accepted) (by simp)
  | _ => exact ⟨refused, rfl, rfl⟩

theorem HeadsFor.moves (quiet : Scan.Quiet receive) (heads : HeadsFor scan receive goal state)
    (move : Moves scan receive state next) : HeadsFor scan receive goal next := by
  rcases heads with ⟨tasks, done, inv⟩ | ⟨failure, refused, reached⟩
  · exact inv.moves quiet move
  · obtain ⟨still, sameState, sameSummary⟩ := move.refused refused
    exact .inr ⟨failure, still, by rw [sameState, sameSummary, reached]⟩

theorem HeadsFor.perform (quiet : Scan.Quiet receive) {actions : List Action} (inside : .cancel ∉ actions)
    (heads : HeadsFor scan receive goal state) (performed : state.perform scan receive actions = some next) :
    HeadsFor scan receive goal next := by
  induction actions generalizing state with
  | nil =>
    cases performed
    exact heads
  | cons action rest ih =>
    rw [List.mem_cons, not_or] at inside
    obtain ⟨middle, possible, performed⟩ := Option.bind_eq_some_iff.mp performed
    exact ih inside.2 (heads.moves quiet (moves_of_act (Ne.symm inside.1) possible)) performed

theorem headsFor_start (scan : Scan) (receive : Receiver σ) (progress : ScanProgress σ)
    (uncancelled : progress.cancelled = false) (steps : List WalkStep) :
    HeadsFor scan receive ((scan.course steps).outcome receive progress.state progress.summary)
      (State.start progress steps) :=
  .inl ⟨[], 0,
    { accepted := rfl
      uncancelled
      slots := rfl
      bound := Nat.le_refl 0
      order := rfl
      starts := fun _ _ _ starting => nomatch starting
      holds := fun _ _ member => nomatch member
      waits := fun _ _ member => nomatch member
      made := fun _ _ member => by rcases member with worked | filled <;> contradiction
      remaining := rfl
      walked := fun _ ended => nomatch ended
      closed := fun ended => nomatch ended }⟩

theorem standstill?_of_ended (ended : state.output = .ended) : state.standstill? = none := by
  rw [standstill?, ended]

/-- When the output has ended, the goal is reached. -/
theorem HeadsFor.outcome_eq (heads : HeadsFor scan receive goal state) (ended : state.output = .ended) :
    state.outcome = goal := by
  rcases heads with ⟨tasks, done, inv⟩ | ⟨failure, refused, reached⟩
  · obtain ⟨queue, failure, walker⟩ := inv.closed ended
    have order := inv.order
    rw [outstanding, ended] at order
    have none : tasks.drop done = [] := by
      rw [queue] at order
      have empty := congrArg List.length order
      rw [List.length_range', List.length_nil] at empty
      exact List.drop_eq_nil_of_le (by omega)
    have remaining := inv.remaining
    rw [none, walker] at remaining
    rw [← remaining, outcome, State.failure, standstill?_of_ended ended, inv.accepted, walker]
    cases failure with
    | none => rfl
    | some failure =>
      obtain ⟨path, fault, rfl⟩ := inv.walked failure walker
      rfl
  · rw [outcome, State.failure, standstill?_of_ended ended, refused]
    exact reached

theorem standstill?_eq_some {task : ScanTask} (stands : state.standstill? = some task) :
    ∃ slot, state.output = .slot slot ∧ state.working.lookup slot = some (.waiting task) := by
  unfold standstill? at stands
  split at stands
  · rename_i slot output
    split at stands
    · rename_i held
      cases stands
      exact ⟨slot, output, held⟩
    · cases stands
  · cases stands

/-- When the output waits for a worker that waits itself, and nothing was refused, the goal is reached too. -/
theorem HeadsFor.outcome_of_standstill (heads : HeadsFor scan receive goal state) {task : ScanTask}
    (stands : state.standstill? = some task) (accepted : state.refusal = none) : state.outcome = goal := by
  rcases heads with ⟨tasks, done, inv⟩ | ⟨failure, refused, _⟩
  · obtain ⟨slot, output, held⟩ := standstill?_eq_some stands
    obtain ⟨there, waits⟩ := inv.waits slot task (mem_of_lookup held)
    obtain ⟨first, -⟩ := inv.first output there
    have remaining := inv.remaining
    rw [first, List.map_cons, List.cons_append, Scan.course, waits] at remaining
    rw [← remaining, outcome, State.failure, stands]
    rfl
  · exact absurd (refused.symm.trans accepted) (by simp)

end State

/-- A receiver that keeps the reports, and refuses to go on as the reports so far tell it. -/
def recording (sink : List FileReport → Option Text) : Receiver (List FileReport) := fun received report =>
  { state := received ++ [report], refusal := sink (received ++ [report]) }

/-- A receiver that keeps the reports and never refuses one. It may cancel the scan. -/
structure Keeping (receive : Receiver (List FileReport)) : Prop where
  keeps : ∀ received report, (receive received report).state = received ++ [report]
  unrefused : ∀ received report, (receive received report).refusal = none

theorem Keeping.foldl_eq {receive : Receiver (List FileReport)} (keeping : Keeping receive)
    (received reports : List FileReport) :
    reports.foldl (fun received report => (receive received report).state) received = received ++ reports := by
  induction reports generalizing received with
  | nil => exact (List.append_nil received).symm
  | cons report reports ih => rw [List.foldl_cons, ih, keeping.keeps, List.append_assoc, List.singleton_append]

theorem keeping_recording : Keeping (recording fun _ => none) := ⟨fun _ _ => rfl, fun _ _ => rfl⟩

theorem quiet_recording (sink : List FileReport → Option Text) : Scan.Quiet (recording sink) := fun _ _ => rfl

/-- Whatever the order in which walker, workers and output act, a scan that ends without being cancelled from outside
has delivered the reports, counted the summary and met the failure of the scan with one worker. -/
theorem outcome_of_interleaving (scan : Scan) (sink : List FileReport → Option Text) (log : List LogEntry)
    (steps : List WalkStep) (actions : List Action) (last : State (List FileReport)) (inside : .cancel ∉ actions)
    (performed : (State.start { state := [], log } steps).perform scan (recording sink) actions = some last)
    (ended : last.output = .ended) :
    last.outcome = Scan.Outcome.of (scan.inSequence (recording sink) { state := [], log } steps) := by
  have quiet := quiet_recording sink
  have start := State.headsFor_start scan (recording sink) { state := [], log } rfl steps
  rw [Scan.outcome_inSequence scan quiet rfl steps]
  exact (start.perform quiet inside performed).outcome_eq ended

/-- Two workers finish out of order, and the second report is refused. -/
theorem outcome_of_refused_interleaving :
    let scan : Scan := ⟨⟨.directory [("a", .file "x\n"), ("b", .file "y")], []⟩, .lines {}, 2⟩
    let sink : List FileReport → Option Text := fun reports => if reports.length = 2 then some "full" else none
    let steps : List WalkStep :=
      [.visit { path := "/a", display := "a" }, .pass, .visit { path := "/b", display := "b" },
        .visit { path := "/c", display := "c" }]
    let actions : List Action :=
      [.walk, .walk, .walk, .walk, .walk, .walk, .walk, .check 1, .fill 1, .check 0, .emit, .fill 0, .walk, .emit,
        .walk, .emit, .walk, .emit, .check 2, .emit, .fill 2, .walk, .emit, .emit]
    ∃ last, (State.start { state := [] } steps).perform scan (recording sink) actions = some last ∧
      last.output = .ended ∧
      last.outcome = Scan.Outcome.of (scan.inSequence (recording sink) { state := [] } steps) := by
  intro scan sink steps actions
  have run : ∃ last, (State.start { state := [] } steps).perform scan (recording sink) actions = some last ∧
      last.output = .ended := ⟨_, rfl, rfl⟩
  obtain ⟨last, performed, ended⟩ := run
  exact ⟨last, performed, ended, outcome_of_interleaving scan sink [] steps actions last (by decide) performed ended⟩

end QualityGate.ParallelScan
