import QualityGate.Proofs.Scanning.Parallel

/-!
The work that is left in a scan with several workers. Every move uses up some of it, so there are no more moves than
the limit of the scan.
-/

namespace QualityGate.ParallelScan

namespace State

variable {σ : Type} {scan : Scan} {receive : Receiver σ} {state next : State σ}

/-- The moves that the walker's next files still cost; a file costs seven from its visit to its delivery. -/
def walkerWeight : Walker → Nat
  | .walking rest => 7 * rest.length + 1
  | .queueing _ rest => 7 * rest.length + 7
  | .starting _ _ rest => 7 * rest.length + 4
  | .ended _ => 0

/-- The most moves that a worker still makes. -/
def workWeight : Work → Nat
  | .task _ => 2
  | .waiting _ => 1
  | .report _ => 1

def workingWeight (working : List (Nat × Work)) : Nat :=
  working.foldr (fun item rest => workWeight item.2 + rest) 0

/-- The moves of the output besides those for the slots in the queue. -/
def outputWeight : Output → Nat
  | .queue => 1
  | .slot _ => 2
  | .ended => 0

/-- The most moves that are left. -/
def weight (state : State σ) : Nat :=
  walkerWeight state.walker + 2 * state.queue.length + workingWeight state.working + outputWeight state.output

theorem one_le_workWeight (work : Work) : 1 ≤ workWeight work := by
  cases work with
  | task => exact Nat.le_succ 1
  | waiting | report => exact Nat.le_refl 1

@[simp] theorem workingWeight_cons (item : Nat × Work) (working : List (Nat × Work)) :
    workingWeight (item :: working) = workWeight item.2 + workingWeight working := rfl

@[simp] theorem workingWeight_append (front back : List (Nat × Work)) :
    workingWeight (front ++ back) = workingWeight front + workingWeight back := by
  induction front with
  | nil => exact (Nat.zero_add _).symm
  | cons item front ih => rw [List.cons_append, workingWeight_cons, workingWeight_cons, ih, Nat.add_assoc]

theorem workingWeight_filter_le (keep : Nat × Work → Bool) (working : List (Nat × Work)) :
    workingWeight (working.filter keep) ≤ workingWeight working := by
  induction working with
  | nil => exact Nat.le_refl _
  | cons item working ih =>
    rw [List.filter_cons, workingWeight_cons]
    split
    · rw [workingWeight_cons]
      omega
    · omega

theorem workingWeight_filter_lt {slot : Nat} {work : Work} {working : List (Nat × Work)}
    (member : (slot, work) ∈ working) : workingWeight (working.filter (·.1 ≠ slot)) < workingWeight working := by
  obtain ⟨front, back, rfl⟩ := List.append_of_mem member
  have front_le := workingWeight_filter_le (·.1 ≠ slot) front
  have back_le := workingWeight_filter_le (·.1 ≠ slot) back
  have positive := one_le_workWeight (slot, work).2
  rw [List.filter_append, List.filter_cons_of_neg (by simp), workingWeight_append, workingWeight_append,
    workingWeight_cons]
  omega

theorem setWork_append (slot : Nat) (work : Work) (front back : List (Nat × Work)) :
    setWork slot work (front ++ back) = setWork slot work front ++ setWork slot work back := List.map_append

theorem setWork_cons (slot : Nat) (work : Work) (item : Nat × Work) (working : List (Nat × Work)) :
    setWork slot work (item :: working) =
      (if item.1 = slot then (slot, work) else item) :: setWork slot work working := rfl

theorem workingWeight_setWork_le (slot : Nat) {work : Work} (light : workWeight work = 1)
    (working : List (Nat × Work)) : workingWeight (setWork slot work working) ≤ workingWeight working := by
  induction working with
  | nil => exact Nat.le_refl _
  | cons item working ih =>
    have least := one_le_workWeight item.2
    rw [setWork_cons, workingWeight_cons, workingWeight_cons]
    split
    · show workWeight work + _ ≤ _
      omega
    · omega

theorem workingWeight_setWork_lt {slot : Nat} {task : ScanTask} {working : List (Nat × Work)}
    (held : (slot, .task task) ∈ working) {work : Work} (light : workWeight work = 1) :
    workingWeight (setWork slot work working) < workingWeight working := by
  obtain ⟨front, back, rfl⟩ := List.append_of_mem held
  have front_le := workingWeight_setWork_le slot light front
  have back_le := workingWeight_setWork_le slot light back
  rw [setWork_append, setWork_cons, workingWeight_append, workingWeight_append, workingWeight_cons,
    workingWeight_cons, if_pos rfl]
  have two : workWeight (slot, Work.task task).2 = 2 := rfl
  show _ + (workWeight work + _) < _
  omega

theorem Moves.weight_lt (move : Moves scan receive state next) : next.weight < state.weight := by
  cases move with
  | finish walker | stop walker _ | pass walker _ | skip walker _ | visit walker _ | fail walker _ =>
    simp only [weight, walker, walkerWeight, List.length_cons, List.length_nil]
    omega
  | queue walker _ =>
    simp only [weight, walker, walkerWeight, List.length_append, List.length_cons, List.length_nil]
    omega
  | giveUp walker _ =>
    simp only [weight, walker, walkerWeight]
    omega
  | @start slot task _ walker _ =>
    have two : workingWeight [(slot, .task task)] = 2 := rfl
    simp only [weight, walker, walkerWeight, workingWeight_append, two]
    omega
  | @check _ _ report _ held _ =>
    have light : workWeight (.report report) = 1 := rfl
    have less := workingWeight_setWork_lt (mem_of_lookup held) light
    simp only [weight]
    omega
  | @wait _ task held _ =>
    have light : workWeight (.waiting task) = 1 := rfl
    have less := workingWeight_setWork_lt (mem_of_lookup held) light
    simp only [weight]
    omega
  | fill held =>
    have less := workingWeight_filter_lt (mem_of_lookup held)
    simp only [weight]
    omega
  | take output queue =>
    simp only [weight, output, queue, outputWeight, List.length_cons]
    omega
  | close output _ _ | drop output _ _ | deliver output _ _ =>
    simp only [weight, output, outputWeight]
    omega

theorem weight_start (progress : ScanProgress σ) (steps : List WalkStep) :
    (State.start progress steps).weight ≤ actionLimit steps := by
  have cost : (State.start progress steps).weight = 7 * steps.length + 1 + 0 + 0 + 1 := rfl
  rw [cost, actionLimit]
  omega

end State

end QualityGate.ParallelScan
