import Mathlib.Data.List.Nodup
import QualityGate.Proofs.Scanning.Schedule

/-!
What happens to the slots of a scan with several workers. Every slot is put into the queue, taken from it, filled and
emptied at most once, and the slots to which each of this has not happened yet are in the state (`Ledger`), however
the scan is cancelled or refused. So something can happen until everything has ended, and then every slot has come all
the way; only a file whose opening does not end can keep the output waiting, and then it waits for ever (`HeldUp`).
-/

namespace QualityGate.ParallelScan

inductive SlotEvent where
  | queued
  | taken
  | filled
  | emptied
  deriving DecidableEq, Repr

/-- The slots to which something happened, in order. -/
def slotsOf (event : SlotEvent) (history : List (SlotEvent × Nat)) : List Nat :=
  history.filterMap fun item => if item.1 = event then some item.2 else none

@[simp] theorem slotsOf_append (event : SlotEvent) (front back : List (SlotEvent × Nat)) :
    slotsOf event (front ++ back) = slotsOf event front ++ slotsOf event back := List.filterMap_append

theorem slotsOf_singleton (event happened : SlotEvent) (slot : Nat) :
    slotsOf event [(happened, slot)] = if happened = event then [slot] else [] := by
  cases event <;> cases happened <;> rfl

theorem slotsOf_concat (event happened : SlotEvent) (slot : Nat) (history : List (SlotEvent × Nat)) :
    slotsOf event (history ++ (some (happened, slot)).toList) =
      slotsOf event history ++ if happened = event then [slot] else [] := by
  rw [Option.toList_some, slotsOf_append, slotsOf_singleton]

namespace State

variable {σ : Type} {scan : Scan} {receive : Receiver σ} {state next : State σ} {action : Action}

/-- What an action does to a slot. The walker puts new slots into the queue, the workers fill them, and the output takes
them from the queue and empties them. -/
def event? (state : State σ) : Action → Option (SlotEvent × Nat)
  | .walk =>
    match state.walker with
    | .queueing _ _ => some (.queued, state.nextSlot)
    | _ => none
  | .fill slot => some (.filled, slot)
  | .emit =>
    match state.output with
    | .queue => state.queue.head?.map (SlotEvent.taken, ·)
    | .slot slot => some (.emptied, slot)
    | .ended => none
  | _ => none

/-- What happens to the slots while actions are performed. -/
def history (scan : Scan) (receive : Receiver σ) : State σ → List Action → List (SlotEvent × Nat)
  | _, [] => []
  | state, action :: rest =>
    match state.act? scan receive action with
    | none => []
    | some next => (state.event? action).toList ++ history scan receive next rest

def unstarted : Walker → List Nat
  | .starting slot _ _ => [slot]
  | _ => []

def unfilled (state : State σ) : List Nat := state.working.map (·.1) ++ unstarted state.walker

/-- What an action does to the slots, with what it leaves alone. -/
inductive Touches (state next : State σ) : Option (SlotEvent × Nat) → Prop where
  | nothing (slots : next.nextSlot = state.nextSlot) (queue : next.queue = state.queue)
      (out : next.outstanding = state.outstanding) (unfilled : next.unfilled = state.unfilled)
      (filled : next.filled = state.filled) : Touches state next none
  | queued (slots : next.nextSlot = state.nextSlot + 1) (queue : next.queue = state.queue ++ [state.nextSlot])
      (out : next.outstanding = state.outstanding ++ [state.nextSlot])
      (unfilled : next.unfilled = state.unfilled ++ [state.nextSlot]) (filled : next.filled = state.filled) :
      Touches state next (some (.queued, state.nextSlot))
  | taken {slot : Nat} (slots : next.nextSlot = state.nextSlot) (queue : state.queue = slot :: next.queue)
      (out : next.outstanding = state.outstanding) (unfilled : next.unfilled = state.unfilled)
      (filled : next.filled = state.filled) : Touches state next (some (.taken, slot))
  | filled {slot : Nat} {work : Work} {report : FileReport} (slots : next.nextSlot = state.nextSlot)
      (queue : next.queue = state.queue) (out : next.outstanding = state.outstanding)
      (held : (slot, work) ∈ state.working)
      (unfilled : next.unfilled = (state.working.filter (·.1 ≠ slot)).map (·.1) ++ unstarted state.walker)
      (filled : next.filled = state.filled ++ [(slot, report)]) : Touches state next (some (.filled, slot))
  | emptied {slot : Nat} {report : FileReport} (slots : next.nextSlot = state.nextSlot)
      (queue : next.queue = state.queue) (out : state.outstanding = slot :: next.outstanding)
      (unfilled : next.unfilled = state.unfilled) (ready : (slot, report) ∈ state.filled)
      (filled : next.filled = state.filled.filter (·.1 ≠ slot)) : Touches state next (some (.emptied, slot))

theorem map_fst_setWork (slot : Nat) (work : Work) (working : List (Nat × Work)) :
    (setWork slot work working).map (·.1) = working.map (·.1) := by
  rw [setWork, List.map_map]
  refine List.map_congr_left fun item _ => ?_
  dsimp only [Function.comp]
  split
  next same => exact same.symm
  · rfl

/-- Walker and log change, and no file waits for a worker before or after. -/
theorem touches_nothing (walker : Walker) (log : List LogEntry) (before : unstarted state.walker = [])
    (after : unstarted walker = []) :
    Touches state { state with walker, progress := { state.progress with log } } none :=
  .nothing rfl rfl rfl (by simp only [unfilled, before, after]) rfl

theorem touches_of_walk (possible : state.walk? scan = some next) : Touches state next (state.event? .walk) := by
  unfold walk? at possible
  split at possible
  next walker =>
    cases possible
    simp only [event?, walker]
    exact touches_nothing _ _ (by rw [walker]; rfl) rfl
  next step rest walker =>
    simp only [event?, walker]
    have before : unstarted state.walker = [] := by rw [walker]; rfl
    split at possible
    · cases possible
      exact touches_nothing _ _ before rfl
    · cases step with
      | pass | skip | visit | fail =>
        cases possible
        exact touches_nothing _ _ before rfl
  next task rest walker =>
    split at possible
    · cases possible
      simp only [event?, walker]
      refine .queued rfl rfl ?_ ?_ rfl
      · unfold outstanding
        cases state.output <;> rfl
      · simp [unfilled, walker, unstarted]
    · cases possible
  next slot task rest walker =>
    split at possible
    · cases possible
      simp only [event?, walker]
      exact .nothing rfl rfl rfl (by simp [unfilled, walker, unstarted]) rfl
    · cases possible
  · cases possible

theorem touches_of_emit (possible : state.emit? receive = some next) : Touches state next (state.event? .emit) := by
  unfold emit? at possible
  split at possible
  · cases possible
  next output =>
    simp only [event?, output]
    split at possible
    next slot rest _ queue =>
      cases possible
      rw [queue]
      exact .taken rfl queue (by simp only [outstanding, output, queue]) rfl rfl
    next failure queue walker =>
      cases possible
      have none : state.queue.head?.map (SlotEvent.taken, ·) = none := by rw [queue]; rfl
      rw [none]
      exact .nothing rfl rfl (by simp only [outstanding, output]) rfl rfl
    · cases possible
  next slot output =>
    simp only [event?, output]
    split at possible
    · cases possible
    next report ready =>
      have out : state.outstanding = slot :: state.queue := by rw [outstanding, output]
      dsimp only at possible
      split at possible
      · cases possible
        exact .emptied rfl rfl out rfl (mem_of_lookup ready) rfl
      · cases possible
        exact .emptied rfl rfl out rfl (mem_of_lookup ready) rfl

theorem touches_of_act (possible : state.act? scan receive action = some next) :
    Touches state next (state.event? action) := by
  cases action with
  | walk => exact touches_of_walk possible
  | giveUp =>
    simp only [act?, giveUp?] at possible
    split at possible
    next walker =>
      split at possible
      · cases possible
        exact touches_nothing _ _ (by rw [walker]; rfl) rfl
      · cases possible
    · cases possible
  | check slot =>
    simp only [act?, check?] at possible
    split at possible
    · split at possible
      all_goals
        cases possible
        exact .nothing rfl rfl rfl (by simp only [unfilled, map_fst_setWork]) rfl
    · cases possible
  | fill slot =>
    simp only [act?, fill?] at possible
    split at possible
    next report held =>
      cases possible
      exact .filled rfl rfl rfl (mem_of_lookup held) rfl rfl
    · cases possible
  | emit => exact touches_of_emit possible
  | cancel =>
    cases possible
    exact .nothing rfl rfl rfl rfl rfl

/-- What is known of the slots from what has happened to them. They are numbered as they are put into the queue, taken
and emptied in that order, and filled in any order. -/
structure Ledger (history : List (SlotEvent × Nat)) (state : State σ) : Prop where
  queued : slotsOf .queued history = List.range state.nextSlot
  taken : slotsOf .taken history ++ state.queue = List.range state.nextSlot
  emptied : slotsOf .emptied history ++ state.outstanding = List.range state.nextSlot
  filled : (slotsOf .filled history ++ state.unfilled).Perm (List.range state.nextSlot)
  ready : (slotsOf .filled history).Perm (slotsOf .emptied history ++ state.filled.map (·.1))

variable {history : List (SlotEvent × Nat)}

namespace Ledger

theorem start (progress : ScanProgress σ) (steps : List WalkStep) : Ledger [] (State.start progress steps) :=
  ⟨rfl, rfl, rfl, .refl _, .refl _⟩

theorem nodup_unfilled (ledger : Ledger history state) : state.unfilled.Nodup :=
  (List.nodup_append.mp (ledger.filled.nodup_iff.mpr List.nodup_range)).2.1

theorem nodup_filled (ledger : Ledger history state) : (state.filled.map (·.1)).Nodup := by
  have filled := (List.nodup_append.mp (ledger.filled.nodup_iff.mpr List.nodup_range)).1
  exact (List.nodup_append.mp (ledger.ready.nodup_iff.mp filled)).2.1

end Ledger

/-- Without the pairs of one key, a list with distinct keys has one key less. -/
theorem perm_map_filter_ne {β : Type} {items : List (Nat × β)} {key : Nat} {value : β}
    (distinct : (items.map (·.1)).Nodup) (member : (key, value) ∈ items) :
    (items.map (·.1)).Perm (key :: (items.filter (·.1 ≠ key)).map (·.1)) := by
  have without : (items.filter (·.1 ≠ key)).map (·.1) = (items.map (·.1)).erase key := by
    rw [distinct.erase_eq_filter, List.filter_map]
    refine congrArg _ (List.filter_congr fun item _ => ?_)
    rw [Bool.eq_iff_iff]
    simp
  rw [without]
  exact List.perm_cons_erase (List.mem_map.mpr ⟨_, member, rfl⟩)

theorem Ledger.touch {event : Option (SlotEvent × Nat)} (ledger : Ledger history state)
    (touches : Touches state next event) : Ledger (history ++ event.toList) next := by
  have distinct := ledger.nodup_unfilled
  have distinct' := ledger.nodup_filled
  obtain ⟨queued, taken, emptied, filled, ready⟩ := ledger
  cases touches with
  | nothing slots queue out unfilled held =>
    rw [Option.toList_none, List.append_nil]
    exact ⟨by rw [slots, queued], by rw [slots, queue, taken], by rw [slots, out, emptied],
      by rw [slots, unfilled]; exact filled, by rw [held]; exact ready⟩
  | queued slots queue out unfilled held =>
    constructor <;> simp only [slotsOf_concat, reduceCtorEq, if_true, if_false, List.append_nil, slots, List.range_succ]
    · rw [queued]
    · rw [queue, ← List.append_assoc, taken]
    · rw [out, ← List.append_assoc, emptied]
    · rw [unfilled, ← List.append_assoc]
      exact filled.append_right _
    · rw [held]
      exact ready
  | taken slots queue out unfilled held =>
    constructor <;> simp only [slotsOf_concat, reduceCtorEq, if_true, if_false, List.append_nil, slots]
    · exact queued
    · rw [List.append_assoc, List.singleton_append, ← queue, taken]
    · rw [out, emptied]
    · rw [unfilled]
      exact filled
    · rw [held]
      exact ready
  | @filled slot work report slots queue out held unfilled more =>
    constructor <;> simp only [slotsOf_concat, reduceCtorEq, if_true, if_false, List.append_nil, slots]
    · exact queued
    · rw [queue, taken]
    · rw [out, emptied]
    · have keys := perm_map_filter_ne (List.nodup_append.mp distinct).1 held
      rw [unfilled, List.append_assoc, List.singleton_append, ← List.cons_append]
      exact ((keys.symm.append_right _).append_left _).trans filled
    · rw [more, List.map_append, ← List.append_assoc]
      exact ready.append_right _
  | @emptied slot report slots queue out unfilled held less =>
    constructor <;> simp only [slotsOf_concat, reduceCtorEq, if_true, if_false, List.append_nil, slots]
    · exact queued
    · rw [queue, taken]
    · rw [List.append_assoc, List.singleton_append, ← out, emptied]
    · rw [unfilled]
      exact filled
    · have keys := perm_map_filter_ne distinct' held
      rw [less, List.append_assoc, List.singleton_append]
      exact ready.trans (keys.append_left _)

theorem Ledger.perform {actions : List Action} {last : State σ} (ledger : Ledger history state)
    (performed : state.perform scan receive actions = some last) :
    Ledger (history ++ state.history scan receive actions) last := by
  induction actions generalizing state history with
  | nil =>
    cases performed
    rw [State.history, List.append_nil]
    exact ledger
  | cons action rest ih =>
    obtain ⟨middle, possible, performed⟩ := Option.bind_eq_some_iff.mp performed
    have onward := ih (ledger.touch (touches_of_act possible)) performed
    rw [List.append_assoc] at onward
    rwa [State.history, possible]

namespace Ledger

/-- The slots that are out come after all that were emptied, and are in order. -/
theorem order (ledger : Ledger history state) :
    (slotsOf .emptied history ++ state.outstanding).Pairwise (· < ·) := by
  rw [ledger.emptied]
  exact List.pairwise_lt_range

theorem bounded (ledger : Ledger history state) {slot : Nat} (out : slot ∈ state.outstanding) :
    slot < state.nextSlot := by
  rw [← List.mem_range, ← ledger.emptied]
  exact List.mem_append_right _ out

/-- A slot that is out is with the walker or a worker, or it is filled. -/
theorem kept (ledger : Ledger history state) {slot : Nat} (out : slot ∈ state.outstanding) :
    (∃ task rest, state.walker = .starting slot task rest) ∨ (∃ work, (slot, work) ∈ state.working) ∨
      ∃ report, (slot, report) ∈ state.filled := by
  have known := ledger.filled.mem_iff.mpr (List.mem_range.mpr (ledger.bounded out))
  rcases List.mem_append.mp known with filled | unfilled
  · rcases List.mem_append.mp (ledger.ready.mem_iff.mp filled) with emptied | ready
    · exact absurd ((List.pairwise_append.mp ledger.order).2.2 slot emptied slot out) (Nat.lt_irrefl slot)
    · obtain ⟨⟨_, report⟩, member, rfl⟩ := List.mem_map.mp ready
      exact .inr (.inr ⟨report, member⟩)
  · rcases List.mem_append.mp unfilled with working | waits
    · obtain ⟨⟨_, work⟩, member, rfl⟩ := List.mem_map.mp working
      exact .inr (.inl ⟨work, member⟩)
    · cases walker : state.walker with
      | starting other task rest =>
        rw [walker, unstarted, List.mem_singleton] at waits
        exact .inl ⟨task, rest, by rw [waits]⟩
      | _ => simp [walker, unstarted] at waits

theorem not_filled (ledger : Ledger history state) {slot : Nat} (unfilled : slot ∈ state.unfilled) :
    slot ∉ slotsOf .filled history := by
  have distinct := ledger.filled.nodup_iff.mpr List.nodup_range
  exact fun filled => (List.nodup_append.mp distinct).2.2 slot filled slot unfilled rfl

theorem lookup_filled (ledger : Ledger history state) {slot : Nat} (unfilled : slot ∈ state.unfilled) :
    state.filled.lookup slot = none := by
  refine lookup_eq_none_of_not_mem fun filled => ledger.not_filled unfilled ?_
  exact ledger.ready.mem_iff.mpr (List.mem_append_right _ filled)

/-- A slot without a report is out. -/
theorem out_of_unfilled (ledger : Ledger history state) {slot : Nat} (unfilled : slot ∈ state.unfilled) :
    slot ∈ state.outstanding := by
  have known := ledger.filled.mem_iff.mp (List.mem_append_right _ unfilled)
  rw [← ledger.emptied] at known
  refine (List.mem_append.mp known).resolve_left fun emptied => ledger.not_filled unfilled ?_
  exact ledger.ready.mem_iff.mpr (List.mem_append_left _ emptied)

end Ledger

/-! ### Limits -/

/-- There are no more workers than there may be, the file that waits for one has the newest slot, and the output has not
ended before the walker. -/
structure Bounded (scan : Scan) (state : State σ) : Prop where
  limited : state.working.length ≤ scan.workers
  newest : ∀ slot task rest, state.walker = .starting slot task rest → state.nextSlot = slot + 1
  closed : state.output = .ended → state.queue = [] ∧ ∃ failure, state.walker = .ended failure

theorem Bounded.moves (bounded : Bounded scan state) (move : Moves scan receive state next) : Bounded scan next := by
  obtain ⟨limited, newest, closed⟩ := bounded
  have unclosed : (∀ failure, state.walker ≠ .ended failure) → state.output ≠ .ended := by
    intro moving ended
    obtain ⟨-, failure, walker⟩ := closed ended
    exact moving failure walker
  cases move with
  | finish walker | stop walker _ | pass walker _ | skip walker _ | visit walker _ | fail walker _ | giveUp walker _ =>
    exact ⟨limited, nofun, fun ended => absurd ended (unclosed (by simp [walker]))⟩
  | queue walker _ =>
    refine ⟨limited, ?_, fun ended => absurd ended (unclosed (by simp [walker]))⟩
    intro slot task rest starting
    cases starting
    rfl
  | start walker free =>
    refine ⟨?_, nofun, fun ended => absurd ended (unclosed (by simp [walker]))⟩
    rw [List.length_append]
    exact free
  | check _ _ | wait _ _ =>
    refine ⟨?_, newest, closed⟩
    rw [setWork, List.length_map]
    exact limited
  | fill _ => exact ⟨Nat.le_trans (List.length_filter_le _ _) limited, newest, closed⟩
  | close _ queue walker => exact ⟨limited, newest, fun _ => ⟨queue, _, walker⟩⟩
  | take _ _ | drop _ _ _ | deliver _ _ _ => exact ⟨limited, newest, nofun⟩

/-- What holds at first and is kept by every move and by a cancellation holds after all actions. -/
theorem perform_induction {Inv : State σ → Prop}
    (moves : ∀ state next : State σ, Inv state → Moves scan receive state next → Inv next)
    (cancel : ∀ state : State σ, Inv state → Inv { state with progress := { state.progress with cancelled := true } })
    {actions : List Action} {last : State σ} (holds : Inv state)
    (performed : state.perform scan receive actions = some last) : Inv last := by
  induction actions generalizing state with
  | nil =>
    cases performed
    exact holds
  | cons action rest ih =>
    obtain ⟨middle, possible, performed⟩ := Option.bind_eq_some_iff.mp performed
    refine ih ?_ performed
    by_cases outside : action = .cancel
    · subst outside
      cases possible
      exact cancel state holds
    · exact moves state middle holds (moves_of_act outside possible)

/-- The walker and the output have ended, and no file is with a worker. -/
structure Finished (state : State σ) : Prop where
  output : state.output = .ended
  walker : ∃ failure, state.walker = .ended failure
  working : state.working = []

/-- When the output has ended, everything has happened to every slot. -/
theorem Ledger.complete (ledger : Ledger history state) (bounded : Bounded scan state) (ended : state.output = .ended) :
    state.Finished ∧ ∀ event, (slotsOf event history).Perm (List.range state.nextSlot) := by
  obtain ⟨queue, walker⟩ := bounded.closed ended
  obtain ⟨queued, taken, emptied, filled, ready⟩ := ledger
  rw [queue, List.append_nil] at taken
  rw [outstanding, ended] at emptied
  simp only [queue, List.append_nil] at emptied
  -- As many slots are filled as there are, because each of them was emptied, so none is left over.
  have total := filled.length_eq
  have counted := ready.length_eq
  rw [emptied] at counted
  simp only [List.length_append] at total counted
  have none : state.unfilled = [] := List.length_eq_zero_iff.mp (by omega)
  rw [none, List.append_nil] at filled
  refine ⟨⟨ended, walker, List.map_eq_nil_iff.mp (List.append_eq_nil_iff.mp none).1⟩, fun event => ?_⟩
  cases event with
  | queued => exact .of_eq queued
  | taken => exact .of_eq taken
  | filled => exact filled
  | emptied => exact .of_eq emptied

/-! ### Who can move -/

theorem exists_act_of_working (scan : Scan) (receive : Receiver σ) {slot : Nat} {work : Work}
    (member : (slot, work) ∈ state.working) :
    (∃ action ∈ state.agenda, (state.act? scan receive action).isSome = true) ∨
      ∃ task, state.working.lookup slot = some (.waiting task) := by
  obtain ⟨found, held⟩ := exists_lookup_of_mem member
  cases found with
  | waiting task => exact .inr ⟨task, held⟩
  | task task =>
    refine .inl ⟨.check slot, ?_, ?_⟩
    · simp only [agenda, List.mem_append, List.mem_map]
      exact .inl (.inr ⟨_, member, rfl⟩)
    · simp only [act?, check?, held]
      split <;> rfl
  | report report =>
    refine .inl ⟨.fill slot, ?_, by simp [act?, fill?, held]⟩
    simp only [agenda, List.mem_append, List.mem_map]
    exact .inl (.inl (.inr ⟨_, member, rfl⟩))

/-- If the file that waits for a worker is the first that is out, no worker holds another: it is also the newest. -/
theorem Ledger.working_eq_nil (ledger : Ledger history state) (bounded : Bounded scan state) {slot : Nat}
    {task : ScanTask} {rest : List WalkStep} (walker : state.walker = .starting slot task rest)
    (first : state.outstanding = slot :: state.queue) : state.working = [] := by
  refine List.eq_nil_iff_forall_not_mem.mpr fun item member => ?_
  have unfilled : item.1 ∈ state.unfilled := List.mem_append_left _ (List.mem_map_of_mem member)
  have out := ledger.out_of_unfilled unfilled
  have newest := bounded.newest slot task rest walker
  have below := ledger.bounded out
  have distinct := ledger.nodup_unfilled
  rw [State.unfilled, walker, List.nodup_append] at distinct
  have other := distinct.2.2 item.1 (List.mem_map_of_mem member) slot (by simp [unstarted])
  have sorted := (List.pairwise_append.mp ledger.order).2.1
  rw [first, List.pairwise_cons] at sorted
  rw [first, List.mem_cons] at out
  have later := sorted.1 item.1 (out.resolve_left other)
  omega

/-- When the output waits for a slot, there is one in the queue, or the walker can go on, or the output ends. -/
theorem Ledger.exists_act_of_idle (ledger : Ledger history state) (positive : 0 < scan.workers)
    (receive : Receiver σ) (output : state.output = .queue) :
    ∃ action ∈ state.agenda, (state.act? scan receive action).isSome = true := by
  have emits : .emit ∈ state.agenda := by simp [agenda]
  have walks : .walk ∈ state.agenda := by simp [agenda]
  cases queue : state.queue with
  | cons slot rest => exact ⟨.emit, emits, by simp [act?, emit?, output, queue]⟩
  | nil =>
    cases walker : state.walker with
    | walking steps =>
      refine ⟨.walk, walks, ?_⟩
      cases steps with
      | nil => simp [act?, walk?, walker]
      | cons step rest =>
        by_cases stopped : state.stopped = true
        · simp [act?, walk?, walker, stopped]
        · cases step <;> simp [act?, walk?, walker, stopped]
    | queueing task rest =>
      have room : state.queue.length < capacity scan := by
        rw [queue, capacity]
        simpa using positive
      exact ⟨.walk, walks, by simp [act?, walk?, walker, room]⟩
    | starting slot task rest =>
      -- Its slot would be in the queue, or the output would wait for it.
      have held : slot ∈ state.unfilled := by simp [unfilled, walker, unstarted]
      have out := ledger.out_of_unfilled held
      simp [outstanding, output, queue] at out
    | ended failure => exact ⟨.emit, emits, by simp [act?, emit?, output, queue, walker]⟩

/-- As long as the output has not ended, something on the agenda can be done, or the output waits for a worker that
waits itself. -/
theorem exists_act (positive : 0 < scan.workers) (receive : Receiver σ) (ledger : Ledger history state)
    (bounded : Bounded scan state) (unended : state.output ≠ .ended) :
    (∃ action ∈ state.agenda, (state.act? scan receive action).isSome = true) ∨
      ∃ slot task, state.output = .slot slot ∧ state.working.lookup slot = some (.waiting task) := by
  cases output : state.output with
  | ended => exact absurd output unended
  | queue => exact .inl (ledger.exists_act_of_idle positive receive output)
  | slot slot =>
    have first : state.outstanding = slot :: state.queue := by rw [outstanding, output]
    have listed : slot ∈ state.outstanding := by simp [first]
    rcases ledger.kept listed with ⟨task, rest, walker⟩ | ⟨work, member⟩ | filled
    · have none := ledger.working_eq_nil bounded walker first
      exact .inl ⟨.walk, by simp [agenda], by simp [act?, walk?, walker, none, positive]⟩
    · rcases exists_act_of_working scan receive member with acts | ⟨task, held⟩
      · exact .inl acts
      · exact .inr ⟨slot, task, rfl, held⟩
    · obtain ⟨report, member⟩ := filled
      obtain ⟨found, ready⟩ := exists_lookup_of_mem member
      refine .inl ⟨.emit, by simp [agenda], ?_⟩
      simp only [act?, emit?, output, ready]
      split <;> rfl

theorem agenda_ne_cancel {action : Action} (member : action ∈ state.agenda) : action ≠ .cancel := by
  rintro rfl
  simp [agenda] at member

/-! ### Files that are waited for -/

def carried : Walker → List ScanTask
  | .walking rest => visited rest
  | .queueing task rest | .starting _ task rest => task :: visited rest
  | .ended _ => []

/-- Walker and workers have files of the walk, and the workers that wait have reason to. -/
structure Sourced (scan : Scan) (files : List ScanTask) (state : State σ) : Prop where
  carried : ∀ task ∈ carried state.walker, task ∈ files
  held : ∀ slot task, (slot, Work.task task) ∈ state.working → task ∈ files
  waits : ∀ slot task, (slot, Work.waiting task) ∈ state.working → task ∈ files ∧ scan.reportOf task = none

theorem Sourced.moves {files : List ScanTask} (sourced : Sourced scan files state)
    (move : Moves scan receive state next) : Sourced scan files next := by
  obtain ⟨carried, held, waits⟩ := sourced
  cases move with
  | finish walker | stop walker _ | fail walker _ | giveUp walker _ => exact ⟨nofun, held, waits⟩
  | pass walker _ | skip walker _ | visit walker _ | queue walker _ =>
    rw [walker] at carried
    exact ⟨carried, held, waits⟩
  | @start slot task rest walker _ =>
    rw [walker] at carried
    refine ⟨fun task' later => carried task' (List.mem_cons_of_mem _ later), fun slot' task' member => ?_,
      fun slot' task' member => ?_⟩
    · rcases List.mem_append.mp member with old | new
      · exact held slot' task' old
      · cases List.mem_singleton.mp new
        exact carried task List.mem_cons_self
    · rcases List.mem_append.mp member with old | new
      · exact waits slot' task' old
      · cases List.mem_singleton.mp new
  | check _ _ =>
    refine ⟨carried, fun slot' task' member => ?_, fun slot' task' member => ?_⟩
    · exact held slot' task' ((mem_setWork member).resolve_left nofun)
    · exact waits slot' task' ((mem_setWork member).resolve_left nofun)
  | @wait slot task holds waiting =>
    refine ⟨carried, fun slot' task' member => ?_, fun slot' task' member => ?_⟩
    · exact held slot' task' ((mem_setWork member).resolve_left nofun)
    · rcases mem_setWork member with new | old
      · cases new
        exact ⟨held slot task (mem_of_lookup holds), (Scan.reportOf_of_report waiting).2⟩
      · exact waits slot' task' old
  | fill _ =>
    exact ⟨carried, fun slot' task' member => held slot' task' (List.mem_filter.mp member).1,
      fun slot' task' member => waits slot' task' (List.mem_filter.mp member).1⟩
  | take _ _ | close _ _ _ | drop _ _ _ | deliver _ _ _ => exact ⟨carried, held, waits⟩

theorem sourced_perform {progress : ScanProgress σ} {steps : List WalkStep} {actions : List Action} {last : State σ}
    (performed : (State.start progress steps).perform scan receive actions = some last) :
    Sourced scan (visited steps) last := by
  have start : Sourced scan (visited steps) (State.start progress steps) := ⟨fun _ member => member, nofun, nofun⟩
  exact perform_induction (fun _ _ sourced move => sourced.moves move)
    (fun _ sourced => ⟨sourced.carried, sourced.held, sourced.waits⟩) start performed

/-- The output waits for a slot that nobody will ever fill. -/
structure HeldUp (slot : Nat) (task : ScanTask) (state : State σ) : Prop where
  output : state.output = .slot slot
  held : state.working.lookup slot = some (.waiting task)
  unfilled : state.filled.lookup slot = none

theorem lookup_setWork_ne {slot other : Nat} (different : slot ≠ other) (work : Work) (working : List (Nat × Work)) :
    (setWork other work working).lookup slot = working.lookup slot := by
  induction working with
  | nil => rfl
  | cons item working ih =>
    rw [setWork_cons]
    split
    next same =>
      rw [List.lookup_cons, List.lookup_cons, ih, same, beq_false_of_ne different]
    next => rw [List.lookup_cons, List.lookup_cons, ih]

theorem lookup_filter_ne {β : Type} {key other : Nat} (different : key ≠ other) (items : List (Nat × β)) :
    (items.filter (·.1 ≠ other)).lookup key = items.lookup key := by
  induction items with
  | nil => rfl
  | cons item items ih =>
    rw [List.filter_cons]
    split
    next => rw [List.lookup_cons, List.lookup_cons, ih]
    next dropped =>
      have same : item.1 = other := by simpa using dropped
      rw [ih, List.lookup_cons, same, beq_false_of_ne different]

/-- Whatever else happens, the output goes on waiting, and nothing is refused that was not refused before. -/
theorem HeldUp.moves {slot : Nat} {task : ScanTask} (stuck : HeldUp slot task state)
    (move : Moves scan receive state next) : HeldUp slot task next ∧ next.refusal = state.refusal := by
  obtain ⟨output, held, unfilled⟩ := stuck
  have another : ∀ {other : Nat} {work : Work}, state.working.lookup other = some work → work ≠ .waiting task →
      slot ≠ other := by
    rintro other work found different rfl
    exact different (Option.some.inj (found.symm.trans held))
  cases move with
  | finish | stop | pass | skip | visit | fail | queue | giveUp => exact ⟨⟨output, held, unfilled⟩, rfl⟩
  | start =>
    refine ⟨⟨output, ?_, unfilled⟩, rfl⟩
    rw [List.lookup_append, held, Option.some_or]
  | check found _ | wait found _ =>
    refine ⟨⟨output, ?_, unfilled⟩, rfl⟩
    rw [lookup_setWork_ne (another found nofun)]
    exact held
  | @fill other report found =>
    have different := another found nofun
    refine ⟨⟨output, ?_, ?_⟩, rfl⟩
    · exact (lookup_filter_ne different state.working).trans held
    · show (state.filled ++ [(other, report)]).lookup slot = none
      rw [List.lookup_append, unfilled, Option.none_or, List.lookup_cons, beq_false_of_ne different]
      rfl
  | take idle _ | close idle _ _ => exact nomatch output.symm.trans idle
  | drop taken ready _ | deliver taken ready _ =>
    cases output.symm.trans taken
    exact nomatch unfilled.symm.trans ready

theorem HeldUp.perform {slot : Nat} {task : ScanTask} {actions : List Action} {last : State σ}
    (stuck : HeldUp slot task state) (performed : state.perform scan receive actions = some last) :
    HeldUp slot task last :=
  perform_induction (fun _ _ stuck move => (stuck.moves move).1)
    (fun _ stuck => ⟨stuck.output, stuck.held, stuck.unfilled⟩) stuck performed

theorem Ledger.heldUp (ledger : Ledger history state) {slot : Nat} {task : ScanTask}
    (output : state.output = .slot slot) (held : state.working.lookup slot = some (.waiting task)) :
    HeldUp slot task state :=
  ⟨output, held, ledger.lookup_filled (List.mem_append_left _ (List.mem_map_of_mem (mem_of_lookup held)))⟩

end State

variable {σ : Type}

-- A link that the check accepts leads to a pipe. The walk is over, and the output waits for the worker that opens it.
example :
    let scan : Scan := ⟨⟨.directory [("a.cs", .link "p"), ("p", .pipe)], []⟩, .lines {}, 2⟩
    let steps := Walk.steps ⟨scan.workspace, scan.checker, "/", "."⟩
    ((State.start { state := [] } steps).perform scan (recording fun _ => none)
        [.walk, .walk, .walk, .walk, .walk, .walk, .emit, .check 0]).map
      (fun last => (last.advance? scan (recording fun _ => none)).isNone && last.standstill?.isSome) = some true := by
  decide +kernel

end QualityGate.ParallelScan
