import QualityGate.Proofs.Scanning.Slots

/-!
The fixed order of a scan with several workers. In this order no slot is put into the queue before the one in front of
it is emptied, unless the output waits at a pipe, and then nothing is refused any more. So the scan comes to its end or
to a standstill within its limit, and shows what the scan with one worker shows.
-/

namespace QualityGate.ParallelScan

namespace State

variable {σ : Type} {scan : Scan} {receive : Receiver σ} {state next : State σ} {history : List (SlotEvent × Nat)}

/-- What the first possible action on the agenda is. -/
theorem advance_cases (advanced : state.advance? scan receive = some next) :
    state.emit? receive = some next ∨ state.emit? receive = none ∧
      ((∃ item ∈ state.working, state.fill? item.1 = some next ∨ state.check? scan item.1 = some next) ∨
        (∀ item ∈ state.working, state.fill? item.1 = none ∧ state.check? scan item.1 = none) ∧
          (state.walk? scan = some next ∨ state.giveUp? = some next)) := by
  have order : state.advance? scan receive =
      (((state.emit? receive).or (state.working.findSome? fun item => state.fill? item.1)).or
        (state.working.findSome? fun item => state.check? scan item.1)).or ((state.walk? scan).or state.giveUp?) := by
    rw [advance?, agenda, show [Action.walk, .giveUp] = [.walk] ++ [.giveUp] from rfl]
    simp only [List.findSome?_append, List.findSome?_map, List.findSome?_singleton]
    rfl
  rw [order] at advanced
  simp only [Option.or_eq_some_iff, Option.or_eq_none_iff, List.findSome?_eq_none_iff] at advanced
  rcases advanced with
    ((emitted | ⟨idle, filled⟩) | ⟨⟨idle, unfilled⟩, checked⟩) | ⟨⟨⟨idle, unfilled⟩, unchecked⟩, walked⟩
  · exact .inl emitted
  · obtain ⟨item, member, done⟩ := List.exists_of_findSome?_eq_some filled
    exact .inr ⟨idle, .inl ⟨item, member, .inl done⟩⟩
  · obtain ⟨item, member, done⟩ := List.exists_of_findSome?_eq_some checked
    exact .inr ⟨idle, .inl ⟨item, member, .inr done⟩⟩
  · refine .inr ⟨idle, .inr ⟨fun item member => ⟨unfilled item member, unchecked item member⟩, ?_⟩⟩
    exact walked.imp_right (·.2)

theorem emit_frame (emitted : state.emit? receive = some next) :
    next.walker = state.walker ∧ next.working = state.working := by
  unfold emit? at emitted
  split at emitted
  · cases emitted
  · split at emitted
    all_goals
      cases emitted
      try exact ⟨rfl, rfl⟩
  · split at emitted
    · cases emitted
    · dsimp only at emitted
      split at emitted <;> cases emitted <;> exact ⟨rfl, rfl⟩

theorem fill_walker {slot : Nat} (filled : state.fill? slot = some next) : next.walker = state.walker := by
  unfold fill? at filled
  split at filled <;> cases filled
  rfl

theorem check_walker {slot : Nat} (checked : state.check? scan slot = some next) : next.walker = state.walker := by
  unfold check? at checked
  split at checked
  · split at checked <;> cases checked <;> rfl
  · cases checked

/-- At most one slot is out, and no worker waits. -/
structure Alone (state : State σ) : Prop where
  single : state.outstanding.length ≤ 1
  unwaiting : ∀ slot task, (slot, Work.waiting task) ∉ state.working

/-- Only a new slot and a worker that begins to wait change that. -/
theorem Alone.moves (alone : Alone state) (move : Moves scan receive state next) :
    Alone next ∨
      (∃ task rest, state.walker = .queueing task rest ∧ next.walker ≠ state.walker ∧ next.working = state.working ∧
        next.outstanding = state.outstanding ++ [state.nextSlot]) ∨
      ∃ slot task, state.working.lookup slot = some (.task task) ∧ state.refusal = none ∧
        next = { state with working := setWork slot (.waiting task) state.working } := by
  obtain ⟨single, unwaiting⟩ := alone
  cases move with
  | finish | stop | pass | skip | visit | fail | giveUp => exact .inl ⟨single, unwaiting⟩
  | @queue task rest walker _ =>
    refine .inr (.inl ⟨task, rest, walker, by simp [walker], rfl, ?_⟩)
    unfold outstanding
    cases state.output <;> rfl
  | start =>
    refine .inl ⟨single, fun slot task member => ?_⟩
    rcases List.mem_append.mp member with old | new
    · exact unwaiting slot task old
    · cases List.mem_singleton.mp new
  | check =>
    refine .inl ⟨single, fun slot task member => ?_⟩
    exact unwaiting slot task ((mem_setWork member).resolve_left nofun)
  | @wait slot task held waits =>
    have going := (Scan.reportOf_of_report waits).1
    rw [stopped, Bool.or_eq_false_iff, Option.isSome_eq_false_iff, Option.isNone_iff_eq_none] at going
    exact .inr (.inr ⟨slot, task, held, going.2, rfl⟩)
  | fill => exact .inl ⟨single, fun slot task member => unwaiting slot task (List.mem_filter.mp member).1⟩
  | take output queue =>
    rw [outstanding, output, queue] at single
    exact .inl ⟨single, unwaiting⟩
  | close output _ _ =>
    rw [outstanding, output] at single
    exact .inl ⟨single, unwaiting⟩
  | drop output _ _ | deliver output _ _ =>
    rw [outstanding, output, List.length_cons] at single
    exact .inl ⟨by show state.queue.length ≤ 1; omega, unwaiting⟩

/-- The first slot that is out is the one for which the output waits, if the output has nothing to do. -/
theorem output_of_idle (bounded : Bounded scan state) (idle : state.emit? receive = none) {slot : Nat}
    (out : state.outstanding = [slot]) : state.output = .slot slot := by
  cases output : state.output with
  | ended =>
    rw [outstanding, output, (bounded.closed output).1] at out
    cases out
  | queue =>
    rw [outstanding, output] at out
    simp [emit?, output, show state.queue = [slot] from out] at idle
  | slot first =>
    rw [outstanding, output, List.cons.injEq] at out
    rw [out.1]

/-- A worker that begins to wait holds up the output. -/
theorem Alone.heldUp (alone : Alone state) (ledger : Ledger history state) (bounded : Bounded scan state)
    (idle : state.emit? receive = none) {slot : Nat} {task : ScanTask}
    (held : state.working.lookup slot = some (.task task)) :
    HeldUp slot task { state with working := setWork slot (.waiting task) state.working } := by
  have unfilled : slot ∈ state.unfilled := List.mem_append_left _ (List.mem_map_of_mem (mem_of_lookup held))
  have out : state.outstanding = [slot] := by
    have among := ledger.out_of_unfilled unfilled
    obtain ⟨only, same⟩ := List.length_eq_one_iff.mp
      (Nat.le_antisymm alone.single (List.length_pos_of_mem among))
    rw [same, List.mem_singleton] at among
    rw [same, among]
  refine ⟨output_of_idle bounded idle out, ?_, ledger.lookup_filled unfilled⟩
  have distinct := (List.nodup_append.mp ledger.nodup_unfilled).1
  refine lookup_of_mem (by rwa [map_fst_setWork]) (List.mem_map.mpr ⟨_, mem_of_lookup held, if_pos rfl⟩)

/-- The walker does not put a slot into the queue while another one is out. -/
theorem Alone.outstanding_eq (alone : Alone state) (ledger : Ledger history state) (bounded : Bounded scan state)
    (idle : state.emit? receive = none)
    (resting : ∀ item ∈ state.working, state.fill? item.1 = none ∧ state.check? scan item.1 = none)
    {task : ScanTask} {rest : List WalkStep} (walker : state.walker = .queueing task rest) :
    state.outstanding = [] := by
  refine Classical.byContradiction fun some => ?_
  obtain ⟨slot, out⟩ := List.length_eq_one_iff.mp
    (Nat.le_antisymm alone.single (List.length_pos_iff.mpr some))
  have output := output_of_idle bounded idle out
  rcases ledger.kept (by rw [out]; exact List.mem_singleton_self slot) with ⟨_, _, starting⟩ | ⟨work, member⟩ | filled
  · exact nomatch walker.symm.trans starting
  · obtain ⟨unfilled, unchecked⟩ := resting _ member
    obtain ⟨found, held⟩ := exists_lookup_of_mem member
    cases found with
    | waiting task => exact alone.unwaiting slot task (mem_of_lookup held)
    | report report => simp [fill?, held] at unfilled
    | task task =>
      simp only [check?, held] at unchecked
      split at unchecked <;> cases unchecked
  · obtain ⟨report, member⟩ := filled
    obtain ⟨found, ready⟩ := exists_lookup_of_mem member
    simp only [emit?, output, ready] at idle
    split at idle <;> cases idle

/-- One slot at a time is out, or the output waits at a pipe and nothing was refused. -/
def Orderly (state : State σ) : Prop := Alone state ∨ state.refusal = none ∧ ∃ slot task, HeldUp slot task state

theorem Orderly.advance (orderly : Orderly state) (ledger : Ledger history state) (bounded : Bounded scan state)
    (advanced : state.advance? scan receive = some next) (move : Moves scan receive state next) : Orderly next := by
  rcases orderly with alone | ⟨accepted, slot, task, stuck⟩
  · rcases alone.moves move with kept | ⟨task, rest, walker, moved, same, longer⟩ | ⟨slot, task, held, accepted, rfl⟩
    · exact .inl kept
    · rcases advance_cases advanced with emitted | ⟨idle, ⟨item, _, filled | checked⟩ | ⟨resting, _⟩⟩
      · exact absurd (emit_frame emitted).1 moved
      · exact absurd (fill_walker filled) moved
      · exact absurd (check_walker checked) moved
      · have none := alone.outstanding_eq ledger bounded idle resting walker
        exact .inl ⟨by simp [longer, none], by rw [same]; exact alone.unwaiting⟩
    · rcases advance_cases advanced with emitted | ⟨idle, _⟩
      · have changed : (slot, Work.waiting task) ∈ setWork slot (.waiting task) state.working :=
          List.mem_map.mpr ⟨_, mem_of_lookup held, if_pos rfl⟩
        rw [show setWork slot (.waiting task) state.working = state.working from (emit_frame emitted).2] at changed
        exact absurd changed (alone.unwaiting slot task)
      · exact .inr ⟨accepted, slot, task, alone.heldUp ledger bounded idle held⟩
  · obtain ⟨still, same⟩ := stuck.moves move
    exact .inr ⟨same.trans accepted, slot, task, still⟩

/-- The scan in the fixed order ends, or stands still without a refusal, when its limit covers the work that is left,
and it is one of the orders in which the actions can happen. -/
theorem run_ends (positive : 0 < scan.workers) (receive : Receiver σ) {limit : Nat} (ledger : Ledger history state)
    (bounded : Bounded scan state) (orderly : Orderly state) (enough : state.weight ≤ limit) :
    ((state.run scan receive limit).output = .ended ∨
        ∃ task, (state.run scan receive limit).standstill? = some task ∧
          (state.run scan receive limit).refusal = none) ∧
      ∃ actions, .cancel ∉ actions ∧
        state.perform scan receive actions = some (state.run scan receive limit) := by
  induction limit generalizing state history with
  | zero =>
    refine ⟨.inl ?_, [], List.not_mem_nil, rfl⟩
    cases output : state.output with
    | ended => exact output
    | _ =>
      simp only [weight, output, outputWeight] at enough
      omega
  | succ limit ih =>
    rw [run]
    cases advanced : state.advance? scan receive with
    | none =>
      refine ⟨?_, [], List.not_mem_nil, rfl⟩
      by_cases ended : state.output = .ended
      · exact .inl ended
      -- Nothing on the agenda can be done, so the output waits for a worker that waits.
      rcases exists_act positive receive ledger bounded ended with
        ⟨action, member, possible⟩ | ⟨slot, task, output, held⟩
      · rw [advance?, List.findSome?_eq_none_iff] at advanced
        rw [advanced action member] at possible
        cases possible
      · rcases orderly with alone | ⟨accepted, _⟩
        · exact absurd (mem_of_lookup held) (alone.unwaiting slot task)
        · exact .inr ⟨task, by simp only [standstill?, output, held], accepted⟩
    | some next =>
      obtain ⟨action, member, possible⟩ := List.exists_of_findSome?_eq_some advanced
      have move := moves_of_act (agenda_ne_cancel member) possible
      have less := move.weight_lt
      obtain ⟨ends, actions, inside, performed⟩ := ih (ledger.touch (touches_of_act possible)) (bounded.moves move)
        (orderly.advance ledger bounded advanced move) (by omega)
      refine ⟨ends, action :: actions, ?_, ?_⟩
      · rw [List.mem_cons, not_or]
        exact ⟨Ne.symm (agenda_ne_cancel member), inside⟩
      · rw [perform, possible]
        exact performed

end State

variable {σ : Type}

/-- The scan in the fixed order ends, or stands still without a refusal. -/
theorem run_settles {scan : Scan} (positive : 0 < scan.workers) (receive : Receiver σ) (progress : ScanProgress σ)
    (steps : List WalkStep) :
    let last := (State.start progress steps).run scan receive (actionLimit steps)
    (last.output = .ended ∨ ∃ task, last.standstill? = some task ∧ last.refusal = none) ∧
      ∃ actions, .cancel ∉ actions ∧ (State.start progress steps).perform scan receive actions = some last := by
  have bounded : State.Bounded scan (State.start progress steps) := ⟨Nat.zero_le _, nofun, nofun⟩
  have alone : State.Alone (State.start progress steps) := ⟨Nat.zero_le _, nofun⟩
  exact State.run_ends positive receive (State.Ledger.start progress steps) bounded (.inl alone)
    (State.weight_start progress steps)

theorem outcome_inParallel (scan : Scan) (positive : 0 < scan.workers) {receive : Receiver σ}
    (quiet : Scan.Quiet receive) (progress : ScanProgress σ) (uncancelled : progress.cancelled = false)
    (steps : List WalkStep) :
    Scan.Outcome.of (scan.inParallel receive progress steps) =
      (scan.course steps).outcome receive progress.state progress.summary := by
  obtain ⟨ends, actions, inside, performed⟩ := run_settles positive receive progress steps
  have heads := (State.headsFor_start scan receive progress uncancelled steps).perform quiet inside performed
  rcases ends with ended | ⟨task, stands, accepted⟩
  · exact heads.outcome_eq ended
  · exact heads.outcome_of_standstill stands accepted

end QualityGate.ParallelScan
