import Mathlib.Data.Finset.Card
import Mathlib.Data.Finset.Prod
import QualityGate.Proofs.Pattern.Compilation

/-!
The search follows every path that can matter. Where it finds nothing there is no path to acceptance
(`Explores.dead`), although it turns back at splits that it has seen; what it finds lies at the end of a path that
takes the preferred branch wherever that can come to acceptance further on (`Explores.prefers`). It never runs out of steps
(`explores_follow`).
-/

namespace QualityGate.Pattern

/-! ### The places that were seen -/

namespace Visited

theorem contains_push (visited : Visited) (position address : Nat) :
    contains (visited.push {}) position address = visited.contains position address := by
  unfold contains
  rw [Array.getElem?_push]
  split
  next last =>
    subst last
    simp
  · rfl

theorem contains_reach (visited : Visited) (room position address : Nat) :
    (visited.reach room).contains position address = visited.contains position address := by
  unfold reach
  induction List.range (room + 1 - visited.size) generalizing visited with
  | nil => rfl
  | cons _ rest ih => rw [List.foldl_cons, ih, contains_push]

theorem lt_size_reach (visited : Visited) (room : Nat) : room < (visited.reach room).size := by
  have size : ∀ (steps : List Nat) (visited : Visited),
      (steps.foldl (fun visited _ => visited.push {}) visited).size = visited.size + steps.length := by
    intro steps
    induction steps with
    | nil => exact fun _ => rfl
    | cons _ rest ih =>
      intro visited
      rw [List.foldl_cons, ih, Array.size_push, List.length_cons]
      omega
  rw [reach, size, List.length_range]
  omega

theorem contains_insert (visited : Visited) (position address other place : Nat) :
    (visited.insert position address).contains other place = true ↔
      (other = position ∧ place = address) ∨ visited.contains other place = true := by
  rw [← contains_reach visited position other place, insert]
  generalize room : visited.reach position = ready
  have inside : position < ready.size := room ▸ lt_size_reach visited position
  unfold contains
  rw [Array.getElem?_modify]
  by_cases same : position = other
  · subst same
    rw [if_pos rfl, Array.getElem?_eq_getElem inside, Option.map_some, Option.any_some, Option.any_some,
      Std.TreeSet.contains_insert, Bool.or_eq_true, beq_iff_eq, Nat.compare_eq_eq]
    simp only [true_and, eq_comm]
  · rw [if_neg same]
    simp [Ne.symm same]

/-- Whether an address was followed at a position of the text, in a search from `origin` on. -/
def Saw (visited : Visited) (origin address position : Nat) : Prop :=
  origin ≤ position ∧ visited.contains (position - origin) address = true

theorem saw_insert {visited : Visited} {origin position address other place : Nat} (within : origin ≤ position) :
    (visited.insert (position - origin) address).Saw origin other place ↔
      (other = address ∧ place = position) ∨ visited.Saw origin other place := by
  unfold Saw
  rw [contains_insert]
  constructor
  · rintro ⟨after, ⟨same, rfl⟩ | seen⟩
    · exact .inl ⟨rfl, by omega⟩
    · exact .inr ⟨after, seen⟩
  · rintro (⟨rfl, rfl⟩ | ⟨after, seen⟩)
    · exact ⟨within, .inl ⟨rfl, rfl⟩⟩
    · exact ⟨after, .inr seen⟩

theorem not_saw_empty (origin address position : Nat) : ¬ Saw #[] origin address position := by
  rintro ⟨-, seen⟩
  simp [contains] at seen

/-- The places of a text and a program that were not seen yet. -/
def unseen (visited : Visited) (positions addresses : Nat) : Finset (Nat × Nat) :=
  (Finset.range positions ×ˢ Finset.range addresses).filter fun place => visited.contains place.1 place.2 = false

theorem card_unseen_le (visited : Visited) (positions addresses : Nat) :
    (visited.unseen positions addresses).card ≤ positions * addresses := by
  refine (Finset.card_filter_le _ _).trans ?_
  rw [Finset.card_product, Finset.card_range, Finset.card_range]

theorem card_unseen_insert {visited : Visited} {positions addresses position address : Nat} (inText : position < positions)
    (inCode : address < addresses) (fresh : visited.contains position address = false) :
    ((visited.insert position address).unseen positions addresses).card < (visited.unseen positions addresses).card := by
  refine Finset.card_lt_card ((Finset.ssubset_iff_of_subset ?_).mpr ⟨(position, address), ?_, ?_⟩)
  · intro place member
    simp only [unseen, Finset.mem_filter, ← Bool.not_eq_true, contains_insert, not_or] at member ⊢
    exact ⟨member.1, member.2.2⟩
  · simp [unseen, inText, inCode, fresh]
  · simp only [unseen, Finset.mem_filter, ← Bool.not_eq_true, contains_insert]
    simp

end Visited

/-! ### Exploring -/

section Explores

variable (program : Program) (subject : Subject) (origin : Nat)

/-- A job is replaced by others: by none at a split that was seen, by its two branches at another one. -/
inductive Expands : Visited → Job → List Job → Visited → Prop where
  | seen {visited : Visited} {job : Job} (splits : program.splitsAt job.address = true)
      (saw : visited.Saw origin job.address job.position) : Expands visited job [] visited
  | split {visited : Visited} {job : Job} {jobs : List Job} (splits : program.splitsAt job.address = true)
      (within : origin ≤ job.position) (next : job.next program subject origin = some jobs) :
      Expands visited job jobs (visited.insert (job.position - origin) job.address)
  | move {visited : Visited} {job : Job} {jobs : List Job} (unsplit : program.splitsAt job.address = false)
      (next : job.next program subject origin = some jobs) : Expands visited job jobs visited

/-- Jobs are explored one after the other, each with all that replaces it, until one accepts. -/
inductive Explores : Visited → List Job → Option Job → Visited → Prop where
  | nil {visited : Visited} : Explores visited [] none visited
  | found {visited : Visited} {job : Job} {rest : List Job} (accepts : program.code[job.address]? = some .accept) :
      Explores visited (job :: rest) (some job) visited
  | enter {visited entered after : Visited} {job winner : Job} {jobs rest : List Job}
      (expands : Expands program subject origin visited job jobs entered)
      (inner : Explores entered jobs (some winner) after) : Explores visited (job :: rest) (some winner) after
  | pass {visited entered left after : Visited} {job : Job} {jobs rest : List Job} {result : Option Job}
      (expands : Expands program subject origin visited job jobs entered) (inner : Explores entered jobs none left)
      (others : Explores left rest result after) : Explores visited (job :: rest) result after

end Explores

variable {program : Program} {subject : Subject} {origin : Nat} {visited after : Visited} {jobs : List Job}
  {result : Option Job}

theorem Explores.of_append {front rest : List Job}
    (explored : Explores program subject origin visited (front ++ rest) result after) :
    (∃ winner, result = some winner ∧ Explores program subject origin visited front (some winner) after) ∨
      ∃ between, Explores program subject origin visited front none between ∧
        Explores program subject origin between rest result after := by
  induction front generalizing visited with
  | nil => exact .inr ⟨visited, .nil, explored⟩
  | cons job front ih =>
    cases explored with
    | found accepts => exact .inl ⟨job, rfl, .found accepts⟩
    | enter expands inner => exact .inl ⟨_, rfl, .enter expands inner⟩
    | pass expands inner others =>
      rcases ih others with ⟨winner, rfl, here⟩ | ⟨between, here, there⟩
      · exact .inl ⟨winner, rfl, .pass expands inner here⟩
      · exact .inr ⟨between, .pass expands inner here, there⟩

theorem Expands.saw_mono {entered : Visited} {job : Job} (expands : Expands program subject origin visited job jobs entered)
    {address position : Nat} (saw : visited.Saw origin address position) : entered.Saw origin address position := by
  cases expands with
  | split splits within => exact (Visited.saw_insert within).mpr (.inr saw)
  | _ => exact saw

theorem Expands.saw_cases {entered : Visited} {job : Job} (expands : Expands program subject origin visited job jobs entered)
    {address position : Nat} (saw : entered.Saw origin address position) :
    visited.Saw origin address position ∨ address = job.address ∧ position = job.position := by
  cases expands with
  | split splits within => exact ((Visited.saw_insert within).mp saw).symm
  | _ => exact .inl saw

theorem Explores.saw_mono (explored : Explores program subject origin visited jobs result after) {address position : Nat}
    (saw : visited.Saw origin address position) : after.Saw origin address position := by
  induction explored with
  | nil | found => exact saw
  | enter expands _ ih => exact ih (expands.saw_mono saw)
  | pass expands _ _ ih ih' => exact ih' (ih (expands.saw_mono saw))

/-! ### What cannot come to acceptance -/

section Dead

variable {seen other : Nat → Nat → Prop} {job : Job}

theorem Accepts.mono (accepts : Accepts program subject origin other job)
    (fewer : ∀ address position, seen address position → other address position) :
    Accepts program subject origin seen job := by
  induction accepts with
  | here accepts => exact .here accepts
  | step fresh moves _ ih => exact .step (fun splits saw => fresh splits (fewer _ _ saw)) moves ih

/-- A split on a path to acceptance from which the path goes on. -/
structure Accepts.Last (program : Program) (subject : Subject) (origin : Nat) (seen other : Nat → Nat → Prop)
    (job place after : Job) : Prop where
  splits : program.splitsAt place.address = true
  saw : other place.address place.position
  fresh : ¬ seen place.address place.position
  behind : job.position ≤ place.position
  moves : Moves program subject origin place after
  accepts : Accepts program subject origin other after

/-- A path avoids some further places, or there is a last one of them on it. -/
theorem Accepts.last (accepts : Accepts program subject origin seen job) (other : Nat → Nat → Prop) :
    Accepts program subject origin other job ∨ ∃ place after, Last program subject origin seen other job place after := by
  induction accepts with
  | here accepts => exact .inl (.here accepts)
  | @step job after fresh moves more ih =>
    rcases ih with avoids | ⟨place, behind, last⟩
    · by_cases here : program.splitsAt job.address = true ∧ other job.address job.position
      · exact .inr ⟨job, after, here.1, here.2, fresh here.1, Nat.le_refl _, moves, avoids⟩
      · exact .inl (.step (fun splits saw => here ⟨splits, saw⟩) moves avoids)
    · exact .inr ⟨place, behind, { last with behind := Nat.le_trans moves.position_le last.behind }⟩

theorem Accepts.not_seen (accepts : Accepts program subject origin seen job)
    (splits : program.splitsAt job.address = true) : ¬ seen job.address job.position := by
  cases accepts with
  | here accepts =>
    obtain ⟨a, b, there⟩ := Program.splitsAt_iff.mp splits
    cases there.symm.trans accepts
  | step fresh => exact fresh splits

theorem Expands.next {entered : Visited} (expands : Expands program subject origin visited job jobs entered)
    (fresh : program.splitsAt job.address = true → ¬ visited.Saw origin job.address job.position) :
    job.next program subject origin = some jobs := by
  cases expands with
  | seen splits saw => exact absurd saw (fresh splits)
  | split _ _ next | move _ next => exact next

/-- A path goes on through one of the jobs that replace a job at the same place. -/
theorem Expands.accepts {entered : Visited} {place next : Job}
    (expands : Expands program subject origin visited job jobs entered)
    (same : place.address = job.address ∧ place.position = job.position)
    (fresh : program.splitsAt job.address = true → ¬ visited.Saw origin job.address job.position)
    (moves : Moves program subject origin place next) (accepts : Accepts program subject origin seen next) :
    ∃ after ∈ jobs, Accepts program subject origin seen after := by
  obtain ⟨slots, moves⟩ := moves.of_slots job.slots
  rw [same.1, same.2] at moves
  exact ⟨_, (Job.mem_next_iff (expands.next fresh)).mpr moves, accepts.of_slots slots⟩

/-- When nothing is found, neither the jobs that were explored nor the splits that were seen on the way can come to
acceptance without a split that was seen before. -/
theorem Explores.dead (explored : Explores program subject origin visited jobs result after) (none : result = none) :
    (∀ job ∈ jobs, ¬ Accepts program subject origin (visited.Saw origin) job) ∧
      ∀ place : Job, program.splitsAt place.address = true → after.Saw origin place.address place.position →
        ¬ visited.Saw origin place.address place.position →
        ¬ Accepts program subject origin (visited.Saw origin) place := by
  induction explored with
  | nil => exact ⟨nofun, fun _ _ saw fresh => absurd saw fresh⟩
  | found | enter => cases none
  | @pass visited entered left after job jobs rest _ expands inner others ih ih' =>
    have ih := ih rfl
    have ih' := ih' none
    have inAfter : ∀ address position, entered.Saw origin address position → after.Saw origin address position :=
      fun _ _ saw => others.saw_mono (inner.saw_mono saw)
    -- A path that avoids all that is seen by the end would have to begin with a job that was explored.
    have unseen : ∀ start : Job, Accepts program subject origin (visited.Saw origin) start → (start = job ∨ start ∈ rest) →
        ¬ Accepts program subject origin (after.Saw origin) start := by
      rintro start accepts (rfl | member) avoids
      · have fresh := accepts.not_seen
        have next := expands.next fresh
        cases avoids with
        | here accepting =>
          rw [Job.next_eq_none_iff.mpr accepting] at next
          cases next
        | step _ moves more =>
          obtain ⟨child, member, accepts⟩ := expands.accepts ⟨rfl, rfl⟩ fresh moves more
          exact ih.1 child member (accepts.mono inAfter)
      · exact ih'.1 start member (avoids.mono fun _ _ saw => others.saw_mono saw)
    -- On any other path there is a last split that is seen by the end, and it goes on unseen from there.
    have turn : ∀ start place next : Job,
        ¬ Accepts.Last program subject origin (visited.Saw origin) (after.Saw origin) start place next := by
      intro start place next last
      by_cases inLeft : left.Saw origin place.address place.position
      · by_cases inEntered : entered.Saw origin place.address place.position
        · have same := (expands.saw_cases inEntered).resolve_left last.fresh
          have fresh : ¬ visited.Saw origin job.address job.position := same.1 ▸ same.2 ▸ last.fresh
          obtain ⟨child, member, accepts⟩ := expands.accepts same (fun _ => fresh) last.moves last.accepts
          exact ih.1 child member (accepts.mono inAfter)
        · refine ih.2 place last.splits inLeft inEntered (.step (fun _ => inEntered) last.moves ?_)
          exact last.accepts.mono inAfter
      · refine ih'.2 place last.splits last.saw inLeft (.step (fun _ => inLeft) last.moves ?_)
        exact last.accepts.mono fun _ _ saw => others.saw_mono saw
    constructor
    · intro start member accepts
      rcases accepts.last (after.Saw origin) with avoids | ⟨place, next, last⟩
      · exact unseen start accepts (List.mem_cons.mp member) avoids
      · exact turn start place next last
    · intro start splits saw fresh accepts
      rcases accepts.last (after.Saw origin) with avoids | ⟨place, next, last⟩
      · exact avoids.not_seen splits saw
      · exact turn start place next last

/-- No split that was seen from a position on can come to acceptance. -/
def Visited.Settled (program : Program) (subject : Subject) (origin : Nat) (visited : Visited) (bound : Nat) : Prop :=
  ∀ place : Job, program.splitsAt place.address = true → visited.Saw origin place.address place.position →
    bound ≤ place.position → ¬ Accepts program subject origin (fun _ _ => False) place

theorem Visited.Settled.mono {bound further : Nat} (settled : visited.Settled program subject origin bound)
    (le : bound ≤ further) : visited.Settled program subject origin further :=
  fun place splits saw beyond => settled place splits saw (Nat.le_trans le beyond)

theorem Visited.settled_empty (program : Program) (subject : Subject) (origin bound : Nat) :
    Settled program subject origin #[] bound :=
  fun _ _ saw => absurd saw (not_saw_empty _ _ _)

/-- A path all of whose splits lie further on meets nothing that was seen. -/
theorem Visited.Settled.refuses {bound : Nat} (settled : visited.Settled program subject origin bound)
    (dead : ¬ Accepts program subject origin (visited.Saw origin) job) :
    ¬ Accepts program subject origin (fun _ position => position < bound) job := by
  intro accepts
  rcases accepts.last (visited.Saw origin) with avoids | ⟨place, next, last⟩
  · exact dead avoids
  · refine settled place last.splits last.saw (Nat.le_of_not_lt last.fresh) (.step (fun _ => id) last.moves ?_)
    exact last.accepts.mono fun _ _ => False.elim

theorem Explores.settled (explored : Explores program subject origin visited jobs none after) {bound : Nat}
    (settled : visited.Settled program subject origin bound) : after.Settled program subject origin bound := by
  intro place splits saw beyond accepts
  by_cases before : visited.Saw origin place.address place.position
  · exact settled place splits before beyond accepts
  · rcases accepts.last (visited.Saw origin) with avoids | ⟨split, next, last⟩
    · exact (explored.dead rfl).2 place splits saw before avoids
    · refine settled split last.splits last.saw (Nat.le_trans beyond last.behind) (.step (fun _ => id) last.moves ?_)
      exact last.accepts.mono fun _ _ => False.elim

/-- What is found lies at the end of a path that prefers first branches, from the first job that can come to acceptance. -/
theorem Explores.prefers (explored : Explores program subject origin visited jobs result after) {winner : Job}
    (found : result = some winner) (settled : ∀ job ∈ jobs, visited.Settled program subject origin (job.position + 1)) :
    ∃ front job rest n, jobs = front ++ job :: rest ∧ Prefers program subject origin n job winner ∧
      ∀ other ∈ front, ¬ Accepts program subject origin (visited.Saw origin) other := by
  induction explored with
  | nil => cases found
  | found accepts =>
    cases found
    exact ⟨[], _, _, 0, rfl, .done accepts, nofun⟩
  | @enter visited entered after job _ jobs rest expands inner ih =>
    have here := settled job List.mem_cons_self
    suffices path : ∃ n, Prefers program subject origin n job winner from
      ⟨[], job, rest, path.choose, rfl, path.choose_spec, nofun⟩
    cases expands with
    | seen => cases inner
    | split splits within next =>
      obtain ⟨a, b, there⟩ := Program.splitsAt_iff.mp splits
      obtain rfl : [{ job with address := a }, { job with address := b }] = jobs := by
        rw [Job.next, there] at next
        exact Option.some.inj next
      have entered : (visited.insert (job.position - origin) job.address).Settled program subject origin
          (job.position + 1) := by
        intro place splits saw beyond
        rcases (Visited.saw_insert within).mp saw with ⟨-, same⟩ | saw
        · omega
        · exact here place splits saw beyond
      obtain ⟨front, child, after, n, split, path, dead⟩ := ih found (by simp [entered])
      rcases front with _ | ⟨first, _ | ⟨second, front⟩⟩
      · obtain ⟨rfl, -⟩ := List.cons.inj split
        exact ⟨n + 1, .first there path⟩
      · obtain ⟨rfl, -⟩ : { job with address := b } = child ∧ [] = after := by simpa using (List.cons.inj split).2
        obtain rfl := (List.cons.inj split).1
        have refused := entered.refuses (dead _ List.mem_cons_self)
        exact ⟨n + 1, .second there (fun accepts => refused (accepts.mono fun _ _ => Nat.le_of_lt_succ)) path⟩
      · simp at split
    | move unsplit next =>
      have moves : ∀ child ∈ jobs, Moves program subject origin job child :=
        fun child member => (Job.mem_next_iff next).mp member
      obtain ⟨front, child, after, n, rfl, path, -⟩ :=
        ih found fun child member => here.mono (Nat.succ_le_succ (moves child member).position_le)
      exact ⟨n + 1, .move unsplit (moves child (by simp)) path⟩
  | @pass visited entered left after job jobs rest _ expands inner others ih ih' =>
    have alone : Explores program subject origin visited [job] none left := .pass expands inner .nil
    have rest' := fun other member => alone.settled (settled other (List.mem_cons_of_mem _ member))
    obtain ⟨front, winning, behind, n, rfl, path, dead⟩ := ih' found rest'
    refine ⟨job :: front, winning, behind, n, rfl, path, fun other member accepts => ?_⟩
    rcases List.mem_cons.mp member with rfl | member
    · exact (alone.dead rfl).1 other List.mem_cons_self accepts
    · rcases accepts.last (left.Saw origin) with avoids | ⟨place, next, last⟩
      · exact dead other member avoids
      · refine (alone.dead rfl).2 place last.splits last.saw last.fresh (.step (fun _ => last.fresh) last.moves ?_)
        exact last.accepts.mono fun _ _ saw => alone.saw_mono saw

end Dead

/-! ### The number of steps -/

theorem Explores.of_expands {entered : Visited} {job : Job} {children rest : List Job}
    (expands : Expands program subject origin visited job children entered)
    (explored : Explores program subject origin entered (children ++ rest) result after) :
    Explores program subject origin visited (job :: rest) result after := by
  rcases explored.of_append with ⟨winner, rfl, inner⟩ | ⟨between, inner, others⟩
  · exact .enter expands inner
  · exact .pass expands inner others

/-- A job at an address of the program and a position of the text from `origin` on. -/
structure Job.Fits (program : Program) (text : Text) (origin : Nat) (job : Job) : Prop where
  after : origin ≤ job.position
  within : job.position ≤ text.length
  inCode : job.address < program.code.size

/-- The sum of the addresses of some jobs, each counted from one. -/
def load : List Job → Nat
  | [] => 0
  | job :: rest => job.address + 1 + load rest

theorem load_append (front rest : List Job) : load (front ++ rest) = load front + load rest := by
  induction front with
  | nil => rw [List.nil_append, load, Nat.zero_add]
  | cons job front ih =>
    rw [List.cons_append, load, load, ih]
    omega

section Steps

variable {text : Text} {e : Core} {job : Job} {fuel : Nat}

theorem Job.Fits.moves {next : Job} (fits : job.Fits program text origin) (runs : program.Runs e)
    (moves : Moves program (.ofText text) origin job next) : next.Fits program text origin := by
  obtain ⟨after, within, inCode⟩ := fits
  cases moves with
  | char there read =>
    have down : _ < job.address := runs.grounded _ _ there
    have fits := Subject.unit_fits read
    exact ⟨Nat.le_trans after (Nat.le_add_right _ _), fits.2, Nat.lt_trans down inCode⟩
  | assert there | save there =>
    have down : _ < job.address := runs.grounded _ _ there
    exact ⟨after, within, Nat.lt_trans down inCode⟩
  | first there => exact ⟨after, within, (runs.grounded _ _ there).1⟩
  | second there => exact ⟨after, within, (runs.grounded _ _ there).2⟩

/-- Between two splits the addresses go down. -/
theorem load_next (runs : program.Runs e) (unsplit : program.splitsAt job.address = false)
    (next : job.next program subject origin = some jobs) : load jobs ≤ job.address := by
  rw [Job.next] at next
  split at next
  case h_2 set target there =>
    have down : target < job.address := runs.grounded _ _ there
    split at next
    · cases next
      split
      · exact down
      · exact Nat.zero_le _
    · cases next
      exact Nat.zero_le _
  case h_3 condition target there =>
    have down : target < job.address := runs.grounded _ _ there
    cases next
    split
    · exact down
    · exact Nat.zero_le _
  case h_4 slot target there =>
    have down : target < job.address := runs.grounded _ _ there
    cases next
    exact down
  case h_5 a b there => exact absurd (Program.splitsAt_iff.mpr ⟨a, b, there⟩) (by simp [unsplit])
  all_goals
    cases next
    try exact Nat.zero_le _

theorem load_split (subject : Subject) (origin : Nat) (runs : program.Runs e)
    (splits : program.splitsAt job.address = true) :
    ∃ children, job.next program subject origin = some children ∧ load children ≤ 2 * program.code.size := by
  obtain ⟨a, b, there⟩ := Program.splitsAt_iff.mp splits
  have grounded : a < program.code.size ∧ b < program.code.size := runs.grounded _ _ there
  refine ⟨[{ job with address := a }, { job with address := b }], by rw [Job.next, there], ?_⟩
  simp only [load]
  omega

/-- A bound for the steps that are left: each split that was not seen can add two jobs. -/
def weight (program : Program) (text : Text) (jobs : List Job) (visited : Visited) : Nat :=
  load jobs + 2 * (program.code.size + 1) * (visited.unseen (text.length + 1) program.code.size).card

theorem weight_insert {children : List Job} (rest : List Job) (fits : job.Fits program text origin)
    (fresh : visited.contains (job.position - origin) job.address = false) (small : load children ≤ 2 * program.code.size) :
    weight program text (children ++ rest) (visited.insert (job.position - origin) job.address) <
      weight program text (job :: rest) visited := by
  have inText : job.position - origin < text.length + 1 := Nat.lt_succ_of_le (Nat.le_trans (Nat.sub_le _ _) fits.within)
  have fewer := Visited.card_unseen_insert inText fits.inCode fresh
  have scaled := Nat.mul_le_mul_left (2 * (program.code.size + 1)) fewer
  rw [Nat.mul_succ] at scaled
  simp only [weight, load_append, load]
  omega

theorem explores_follow (runs : program.Runs e) (fuel : Nat) (jobs : List Job) (visited : Visited)
    (fits : ∀ job ∈ jobs, job.Fits program text origin) (enough : weight program text jobs visited ≤ fuel) :
    Explores program (.ofText text) origin visited jobs (follow program (.ofText text) origin fuel jobs visited).1
      (follow program (.ofText text) origin fuel jobs visited).2 := by
  induction fuel generalizing jobs visited with
  | zero =>
    cases jobs with
    | nil => exact .nil
    | cons job rest =>
      simp only [weight, load] at enough
      omega
  | succ fuel ih =>
    cases jobs with
    | nil => exact .nil
    | cons job rest =>
      have here := fits job List.mem_cons_self
      have others : ∀ other ∈ rest, other.Fits program text origin := fun other member => fits other (.tail _ member)
      have children : ∀ {children}, job.next program (.ofText text) origin = some children →
          ∀ child ∈ children ++ rest, child.Fits program text origin := by
        intro children next child member
        rcases List.mem_append.mp member with member | member
        · exact here.moves runs ((Job.mem_next_iff next).mp member)
        · exact others child member
      rw [follow]
      split
      next splits =>
        split
        next seen =>
          refine .of_expands (.seen splits ⟨here.after, seen⟩) (ih rest visited others ?_)
          simp only [weight, load] at enough ⊢
          omega
        next fresh =>
          obtain ⟨two, next, small⟩ := load_split (.ofText text) origin runs splits
          have less := weight_insert rest here (Bool.eq_false_of_not_eq_true fresh) small
          rw [next, Option.getD_some]
          exact .of_expands (.split splits here.after next) (ih _ _ (children next) (by omega))
      next unsplit =>
        have unsplit := Bool.eq_false_of_not_eq_true unsplit
        split
        next next => exact .found (Job.next_eq_none_iff.mp next)
        next jobs next =>
          refine .of_expands (.move unsplit next) (ih _ visited (children next) ?_)
          have less := load_next runs unsplit next
          simp only [weight, load, load_append] at enough ⊢
          omega

theorem weight_le_steps (fits : job.Fits program text origin) (visited : Visited) :
    weight program text [job] visited ≤ program.steps (.ofText text) := by
  have card := Nat.mul_le_mul_left (2 * (program.code.size + 1))
    (visited.card_unseen_le (text.length + 1) program.code.size)
  have room : (text.length + 1) * program.code.size + (program.code.size + 1) ≤
      (program.code.size + 1) * (text.length + 2) := by
    rw [Nat.mul_add _ (text.length + 1) 1, Nat.mul_one, Nat.mul_comm]
    exact Nat.add_le_add_right (Nat.mul_le_mul_right _ (Nat.le_succ _)) _
  have scaled := Nat.mul_le_mul_left (2 * (program.code.size + 1)) room
  rw [Nat.mul_add] at scaled
  have inCode := fits.inCode
  have last : program.code.size + 1 ≤ 2 * (program.code.size + 1) * (program.code.size + 1) :=
    Nat.le_mul_of_pos_left _ (by omega)
  simp only [weight, load, Program.steps, Subject.size_ofText, Nat.mul_assoc] at *
  omega

end Steps

end QualityGate.Pattern
