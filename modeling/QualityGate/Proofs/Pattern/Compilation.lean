import QualityGate.Proofs.Pattern.Matching

/-!
The program of an expression. `Codes` says what code for an expression is, without the way in which it is put together,
and the compiler writes such code (`Core.program_spec`). A program can accept wherever its expression takes something
(`Accepts.of_takes`), and on every path to acceptance the expression takes what lies on it (`Prefers.takes`).
-/

namespace QualityGate.Pattern

/-! ### Code for an expression -/

/-- In some code an expression is written out from one address on, and goes on at another. -/
inductive Codes (code : Code) : Core → Nat → Nat → Prop where
  | empty {next : Nat} : Codes code .empty next next
  | char {set : CharSet} {start next : Nat} (there : code[start]? = some (.char set next)) :
      Codes code (.char set) start next
  | assert {condition : Assertion} {start next : Nat} (there : code[start]? = some (.assert condition next)) :
      Codes code (.assert condition) start next
  | capture {group start body stop next : Nat} {e : Core} (opens : code[start]? = some (.save (2 * group) body))
      (inner : Codes code e body stop) (closes : code[stop]? = some (.save (2 * group + 1) next)) :
      Codes code (.capture group e) start next
  | seq {a b : Core} {start middle next : Nat} (first : Codes code a start middle) (second : Codes code b middle next) :
      Codes code (.seq a b) start next
  | alt {a b : Core} {start first second next : Nat} (splits : code[start]? = some (.split first second))
      (left : Codes code a first next) (right : Codes code b second next) : Codes code (.alt a b) start next
  | star {greedy : Greedy} {e : Core} {start body back next : Nat}
      (enters : code[start]? = some (Code.branch greedy body next))
      (returns : code[back]? = some (Code.branch greedy body next)) (inner : Codes code e body back) :
      Codes code (.star greedy e) start next
  | plus {greedy : Greedy} {e : Core} {body back next : Nat} (returns : code[back]? = some (Code.branch greedy body next))
      (inner : Codes code e body back) : Codes code (.plus greedy e) body next
  | opt {greedy : Greedy} {e : Core} {start body next : Nat} (splits : code[start]? = some (Code.branch greedy body next))
      (inner : Codes code e body next) : Codes code (.opt greedy e) start next

/-- An instruction at an address of code of some size leads into the code, and further down unless it is a split. -/
def Instruction.Grounded (size address : Nat) : Instruction → Prop
  | .char _ next | .assert _ next | .save _ next => next < address
  | .split first second => first < size ∧ second < size
  | .fail | .accept => True

theorem Instruction.Grounded.mono {size larger address : Nat} {instruction : Instruction}
    (grounded : instruction.Grounded size address) (le : size ≤ larger) : instruction.Grounded larger address := by
  cases instruction with
  | split first second => exact ⟨Nat.lt_of_lt_of_le grounded.1 le, Nat.lt_of_lt_of_le grounded.2 le⟩
  | _ => exact grounded

theorem Code.grounded_branch (greedy : Greedy) {body next size : Nat} (inBody : body < size) (inNext : next < size)
    (address : Nat) : (branch greedy body next).Grounded size address := by
  cases greedy
  · exact ⟨inNext, inBody⟩
  · exact ⟨inBody, inNext⟩

/-- Code that was added to: what was there stays, and whatever code agrees with it on the new part is as `spec` says. -/
structure Code.Adds (code after : Code) (spec : Code → Prop) : Prop where
  size_le : code.size ≤ after.size
  kept : ∀ i < code.size, after[i]? = code[i]?
  grounded : ∀ i instruction, code.size ≤ i → after[i]? = some instruction → instruction.Grounded after.size i
  spec : ∀ final : Code, (∀ i, code.size ≤ i → i < after.size → final[i]? = after[i]?) → spec final

namespace Code.Adds

variable {code middle after : Code} {spec spec' : Code → Prop}

theorem refl (code : Code) (holds : ∀ final, spec final) : Adds code code spec :=
  ⟨Nat.le_refl _, fun _ _ => rfl, fun _ _ past there => absurd (Array.getElem?_eq_some_iff.mp there).1 (by omega),
    fun final _ => holds final⟩

theorem trans (first : Adds code middle spec) (second : Adds middle after spec') :
    Adds code after fun final => spec final ∧ spec' final where
  size_le := Nat.le_trans first.size_le second.size_le
  kept i inside := (second.kept i (Nat.lt_of_lt_of_le inside first.size_le)).trans (first.kept i inside)
  grounded i instruction past there := by
    by_cases inside : i < middle.size
    · rw [second.kept i inside] at there
      exact (first.grounded i instruction past there).mono second.size_le
    · exact second.grounded i instruction (Nat.le_of_not_lt inside) there
  spec final agrees := by
    refine ⟨first.spec final fun i past inside => ?_, second.spec final fun i past inside => ?_⟩
    · rw [agrees i past (Nat.lt_of_lt_of_le inside second.size_le), second.kept i inside]
    · exact agrees i (Nat.le_trans first.size_le past) inside

theorem imp (adds : Adds code after spec) (implies : ∀ final, spec final → spec' final) : Adds code after spec' :=
  { adds with spec := fun final agrees => implies final (adds.spec final agrees) }

theorem emit (code : Code) (instruction : Instruction) (grounded : instruction.Grounded (code.size + 1) code.size) :
    Adds code (code.emit instruction).2 fun final => final[code.size]? = some instruction where
  size_le := by simp [Code.emit]
  kept i inside := by
    rw [Code.emit, Array.getElem?_push_lt inside]
    exact (Array.getElem?_eq_getElem inside).symm
  grounded i other past there := by
    have last : i = code.size := by
      have inside := (Array.getElem?_eq_some_iff.mp there).1
      simp only [Code.emit, Array.size_push] at inside
      omega
    subst last
    obtain rfl : instruction = other := by simpa [Code.emit] using there
    simpa [Code.emit] using grounded
  spec final agrees := by
    rw [agrees code.size (Nat.le_refl _) (by simp [Code.emit])]
    simp [Code.emit]

/-- A placeholder that is replaced once the code after it is there. -/
theorem patch {instruction : Instruction} (adds : Adds (code.push .fail) after spec)
    (grounded : instruction.Grounded after.size code.size) :
    Adds code (after.setIfInBounds code.size instruction) fun final =>
      spec final ∧ final[code.size]? = some instruction where
  size_le := by
    have := adds.size_le
    rw [Array.size_push] at this
    rw [Array.size_setIfInBounds]
    omega
  kept i inside := by
    have kept := adds.kept i (by rw [Array.size_push]; omega)
    rw [Array.getElem?_push_lt inside, ← Array.getElem?_eq_getElem inside] at kept
    rw [Array.getElem?_setIfInBounds_ne (by omega), kept]
  grounded i other past there := by
    rw [Array.size_setIfInBounds]
    by_cases here : code.size = i
    · subst here
      have inside := (Array.getElem?_eq_some_iff.mp there).1
      rw [Array.size_setIfInBounds] at inside
      rw [Array.getElem?_setIfInBounds_self_of_lt inside, Option.some.injEq] at there
      exact there ▸ grounded
    · rw [Array.getElem?_setIfInBounds_ne here] at there
      exact adds.grounded i other (by rw [Array.size_push]; omega) there
  spec final agrees := by
    have room : code.size < after.size := by
      have := adds.size_le
      rw [Array.size_push] at this
      omega
    simp only [Array.size_setIfInBounds] at agrees
    refine ⟨adds.spec final fun i past inside => ?_, ?_⟩
    · rw [Array.size_push] at past
      rw [agrees i (by omega) inside, Array.getElem?_setIfInBounds_ne (by omega)]
    · rw [agrees _ (Nat.le_refl _) room, Array.getElem?_setIfInBounds_self_of_lt room]

end Code.Adds

/-- What the compiler adds for an expression: an address in the code, and code for the expression from there on. -/
def Core.Compiled (e : Core) (next : Nat) (code : Code) (result : Compiled) : Prop :=
  result.1 < result.2.size ∧ code.Adds result.2 fun final => Codes final e result.1 next

/-- A loop whose body the compiler writes. -/
theorem Code.adds_loop {e : Core} (greedy : Greedy) {next : Nat} {code : Code} (inside : next < code.size)
    (body : ∀ next code, next < code.size → e.Compiled next code (e.compile next code)) :
    let result := code.loop greedy e.compile next
    result.2.1 < result.2.2.size ∧ result.1 < result.2.2.size ∧ code.Adds result.2.2 fun final =>
      Codes final e result.2.1 result.1 ∧ final[result.1]? = some (branch greedy result.2.1 next) := by
  have compiled := body code.size (code.push .fail) (by simp)
  obtain ⟨start, adds⟩ := compiled
  have room : code.size < (e.compile code.size (code.push .fail)).2.size := by
    have := adds.size_le
    rw [Array.size_push] at this
    omega
  have patched := adds.patch (Code.grounded_branch greedy start (Nat.lt_trans inside room) code.size)
  simp only [Code.loop, Code.emit, Array.size_setIfInBounds]
  exact ⟨start, room, patched⟩

theorem Core.compiled_compile (e : Core) (next : Nat) (code : Code) (inside : next < code.size) :
    e.Compiled next code (e.compile next code) := by
  induction e generalizing next code with
  | empty => exact ⟨inside, .refl code fun _ => .empty⟩
  | char set =>
    have added := Code.Adds.emit code (.char set next) inside
    exact ⟨by simp [Core.compile, Code.emit], added.imp fun _ there => .char there⟩
  | assert condition =>
    have added := Code.Adds.emit code (.assert condition next) inside
    exact ⟨by simp [Core.compile, Code.emit], added.imp fun _ there => .assert there⟩
  | capture group e ih =>
    have closing := Code.Adds.emit code (.save (2 * group + 1) next) inside
    have body := ih code.size (code.emit (.save (2 * group + 1) next)).2 (by simp [Code.emit])
    have opening := Code.Adds.emit _ (.save (2 * group) _) body.1
    refine ⟨by simp [Core.compile, Code.emit], ((closing.trans body.2).trans opening).imp fun final all => ?_⟩
    exact .capture all.2 all.1.2 all.1.1
  | seq a b iha ihb =>
    have second := ihb next code inside
    have first := iha _ _ second.1
    exact ⟨first.1, (second.2.trans first.2).imp fun final both => .seq both.2 both.1⟩
  | alt a b iha ihb =>
    have second := ihb next code inside
    have first := iha next _ (Nat.lt_of_lt_of_le inside second.2.size_le)
    have split := Code.Adds.emit (a.compile next (b.compile next code).2).2 (.split _ _)
      ⟨Nat.lt_succ_of_lt first.1, Nat.lt_succ_of_lt (Nat.lt_of_lt_of_le second.1 first.2.size_le)⟩
    refine ⟨by simp [Core.compile, Code.emit], ((second.2.trans first.2).trans split).imp fun final all => ?_⟩
    exact .alt all.2 all.1.2 all.1.1
  | star greedy e ih =>
    obtain ⟨start, back, loop⟩ := Code.adds_loop greedy inside ih
    rw [Core.compile]
    dsimp only
    split
    · have split := Code.Adds.emit _ (Code.branch greedy _ next)
        (Code.grounded_branch greedy (Nat.lt_succ_of_lt start)
          (Nat.lt_succ_of_lt (Nat.lt_of_lt_of_le inside loop.size_le)) _)
      exact ⟨by simp [Code.emit], (loop.trans split).imp fun final all => .star all.2 all.1.2 all.1.1⟩
    · exact ⟨back, loop.imp fun final all => .star all.2 all.2 all.1⟩
  | plus greedy e ih =>
    obtain ⟨start, -, loop⟩ := Code.adds_loop greedy inside ih
    exact ⟨start, loop.imp fun final all => .plus all.2 all.1⟩
  | opt greedy e ih =>
    have body := ih next code inside
    have split := Code.Adds.emit _ (Code.branch greedy _ next)
      (Code.grounded_branch greedy (Nat.lt_succ_of_lt body.1)
        (Nat.lt_succ_of_lt (Nat.lt_of_lt_of_le inside body.2.size_le)) _)
    exact ⟨by simp [Core.compile, Code.emit], (body.2.trans split).imp fun final both => .opt both.2 both.1⟩

/-- A program for an expression: the expression is written out from the start to the accepting instruction at zero. -/
structure Program.Runs (program : Program) (e : Core) : Prop where
  accepts : program.code[0]? = some .accept
  codes : Codes program.code e program.start 0
  start_lt : program.start < program.code.size
  grounded : ∀ i (instruction : Instruction), program.code[i]? = some instruction →
    instruction.Grounded program.code.size i

theorem Core.program_spec (e : Core) (groups : Nat) : (e.program groups).Runs e := by
  obtain ⟨start, adds⟩ := e.compiled_compile 0 #[.accept] (by simp)
  have kept : (e.program groups).code[0]? = some .accept := (adds.kept 0 (by simp)).trans (by simp)
  refine ⟨kept, adds.spec _ fun _ _ _ => rfl, start, fun i instruction there => ?_⟩
  cases i with
  | zero =>
    rw [kept, Option.some.injEq] at there
    exact there ▸ trivial
  | succ i => exact adds.grounded (i + 1) instruction (by simp) there

/-! ### Paths of a program -/

section Paths

variable (program : Program) (subject : Subject) (origin : Nat)

inductive Moves : Job → Job → Prop where
  | char {job : Job} {set : CharSet} {next c width : Nat} (there : program.code[job.address]? = some (.char set next))
      (read : subject.units[job.position]? = some (c, width)) (member : set.contains c = true) :
      Moves job { job with address := next, position := job.position + width }
  | assert {job : Job} {condition : Assertion} {next : Nat}
      (there : program.code[job.address]? = some (.assert condition next))
      (holds : subject.satisfies origin job.position condition = true) : Moves job { job with address := next }
  | save {job : Job} {slot next : Nat} (there : program.code[job.address]? = some (.save slot next)) :
      Moves job { job with address := next, slots := job.slots.setIfInBounds slot (some job.position) }
  | first {job : Job} {a b : Nat} (there : program.code[job.address]? = some (.split a b)) :
      Moves job { job with address := a }
  | second {job : Job} {a b : Nat} (there : program.code[job.address]? = some (.split a b)) :
      Moves job { job with address := b }

/-- A job can come to acceptance without a split at a place that was seen. -/
inductive Accepts (seen : Nat → Nat → Prop) : Job → Prop where
  | here {job : Job} (accepts : program.code[job.address]? = some .accept) : Accepts seen job
  | step {job after : Job} (fresh : program.splitsAt job.address = true → ¬ seen job.address job.position)
      (moves : Moves program subject origin job after) (more : Accepts seen after) : Accepts seen job

/-- A path of some length to acceptance. Where it takes the second branch of a split, the first cannot come to acceptance
with all its splits further on in the text. -/
inductive Prefers : Nat → Job → Job → Prop where
  | done {job : Job} (accepts : program.code[job.address]? = some .accept) : Prefers 0 job job
  | move {job after last : Job} {n : Nat} (unsplit : program.splitsAt job.address = false)
      (moves : Moves program subject origin job after) (more : Prefers n after last) : Prefers (n + 1) job last
  | first {job last : Job} {a b n : Nat} (there : program.code[job.address]? = some (.split a b))
      (more : Prefers n { job with address := a } last) : Prefers (n + 1) job last
  | second {job last : Job} {a b n : Nat} (there : program.code[job.address]? = some (.split a b))
      (refused : ¬ Accepts program subject origin (fun _ position => position ≤ job.position) { job with address := a })
      (more : Prefers n { job with address := b } last) : Prefers (n + 1) job last

end Paths

variable {program : Program} {subject : Subject} {origin : Nat} {seen : Nat → Nat → Prop}

theorem Program.splitsAt_iff {address : Nat} :
    program.splitsAt address = true ↔ ∃ a b, program.code[address]? = some (.split a b) := by
  rw [Program.splitsAt]
  split
  case h_1 a b there => exact ⟨fun _ => ⟨a, b, there⟩, fun _ => rfl⟩
  case h_2 other => exact ⟨nofun, fun ⟨a, b, there⟩ => (other a b there).elim⟩

/-- A job without further jobs accepts. -/
theorem Job.next_eq_none_iff {job : Job} :
    job.next program subject origin = none ↔ program.code[job.address]? = some .accept := by
  rw [Job.next]
  repeat' split
  all_goals simp_all

/-- The jobs that replace a job are those it moves to. -/
theorem Job.mem_next_iff {job after : Job} {jobs : List Job} (next : job.next program subject origin = some jobs) :
    after ∈ jobs ↔ Moves program subject origin job after := by
  constructor
  · intro member
    rw [Job.next] at next
    split at next
    case h_2 set target there =>
      split at next
      case h_1 c width read =>
        cases next
        split at member
        case isTrue contained =>
          obtain rfl := List.mem_singleton.mp member
          exact .char there read contained
        case isFalse => cases member
      case h_2 =>
        cases next
        cases member
    case h_3 condition target there =>
      cases next
      split at member
      case isTrue holds =>
        obtain rfl := List.mem_singleton.mp member
        exact .assert there holds
      case isFalse => cases member
    case h_4 slot target there =>
      cases next
      obtain rfl := List.mem_singleton.mp member
      exact .save there
    case h_5 a b there =>
      cases next
      rcases List.mem_cons.mp member with rfl | member
      · exact .first there
      · obtain rfl := List.mem_singleton.mp member
        exact .second there
    -- Acceptance has no further jobs, and a failure none at all.
    all_goals
      cases next
      try cases member
  · intro moves
    rw [Job.next] at next
    cases moves with
    | char there read contained =>
      simp only [there, read, contained, if_true, Option.some.injEq] at next
      simp [← next]
    | assert there holds =>
      simp only [there, holds, if_true, Option.some.injEq] at next
      simp [← next]
    | save there =>
      simp only [there, Option.some.injEq] at next
      simp [← next]
    | first there | second there =>
      simp only [there, Option.some.injEq] at next
      simp [← next]

theorem Moves.position_le {job after : Job} (moves : Moves program subject origin job after) :
    job.position ≤ after.position := by
  cases moves with
  | char => exact Nat.le_add_right _ _
  | _ => exact Nat.le_refl _

/-- Steps do not depend on the bounds that were recorded. -/
theorem Moves.of_slots {job after : Job} (moves : Moves program subject origin job after) (slots : Slots) :
    ∃ slots', Moves program subject origin { job with slots } { after with slots := slots' } := by
  cases moves with
  | char there read member => exact ⟨slots, .char there read member⟩
  | assert there holds => exact ⟨slots, .assert there holds⟩
  | save there => exact ⟨_, .save there⟩
  | first there => exact ⟨slots, .first there⟩
  | second there => exact ⟨slots, .second there⟩

theorem Accepts.of_slots {job : Job} (accepts : Accepts program subject origin seen job) (slots : Slots) :
    Accepts program subject origin seen { job with slots } := by
  induction accepts generalizing slots with
  | here accepts => exact .here accepts
  | step fresh moves more ih =>
    obtain ⟨slots', moves'⟩ := moves.of_slots slots
    exact .step fresh moves' (ih slots')

theorem Accepts.of_branch {greedy : Greedy} {address body next : Nat} {here : Place}
    (there : program.code[address]? = some (Code.branch greedy body next))
    (fresh : ¬ seen address here.position)
    (either : Accepts program subject origin seen (here.job body) ∨ Accepts program subject origin seen (here.job next)) :
    Accepts program subject origin seen (here.job address) := by
  rcases either with more | more
  all_goals
    refine .step (fun _ => fresh) ?_ more
    cases greedy
  · exact .second there
  · exact .first there
  · exact .first there
  · exact .second there

/-- A program can accept wherever its expression can take something. -/
theorem Accepts.of_takes {e : Core} {here there : Place} (takes : Takes subject origin e here there) {start next : Nat}
    (codes : Codes program.code e start next)
    (after : Accepts program subject origin (fun _ _ => False) (there.job next)) :
    Accepts program subject origin (fun _ _ => False) (here.job start) := by
  induction takes generalizing start next with
  | empty =>
    cases codes
    exact after
  | char read member =>
    cases codes with
    | char there => exact .step (fun _ => id) (.char there read member) after
  | assert holds =>
    cases codes with
    | assert there => exact .step (fun _ => id) (.assert there holds) after
  | capture _ ih =>
    cases codes with
    | capture opens inner closes =>
      exact .step (fun _ => id) (.save opens) (ih inner (.step (fun _ => id) (.save closes) after))
  | seq _ _ first second =>
    cases codes with
    | seq before behind => exact first before (second behind after)
  | altFirst _ ih =>
    cases codes with
    | alt splits left right => exact .step (fun _ => id) (.first splits) (ih left after)
  | altSecond _ ih =>
    cases codes with
    | alt splits left right => exact .step (fun _ => id) (.second splits) (ih right after)
  | starDone =>
    cases codes with
    | star enters returns inner => exact .of_branch enters id (.inr after)
  | starMore _ _ round more =>
    cases codes with
    | star enters returns inner =>
      exact .of_branch enters id (.inl (round inner (more (.star returns returns inner) after)))
  | plus _ _ round more =>
    cases codes with
    | plus returns inner => exact round inner (more (.star returns returns inner) after)
  | optNone =>
    cases codes with
    | opt splits inner => exact .of_branch splits id (.inr after)
  | optSome _ ih =>
    cases codes with
    | opt splits inner => exact .of_branch splits id (.inl (ih inner after))

namespace Prefers

variable {here : Place} {last : Job} {address n : Nat}

theorem char_cases {set : CharSet} {next : Nat} (there : program.code[address]? = some (.char set next))
    (prefers : Prefers program subject origin n (here.job address) last) :
    ∃ c width m, m ≤ n ∧ subject.units[here.position]? = some (c, width) ∧ set.contains c = true ∧
      Prefers program subject origin m ((here.ahead width).job next) last := by
  cases prefers with
  | done accepts => cases there.symm.trans accepts
  | move _ moves more =>
    cases moves with
    | char there' read member =>
      cases there.symm.trans there'
      exact ⟨_, _, _, Nat.le_succ _, read, member, more⟩
    | assert there' | save there' | first there' | second there' => cases there.symm.trans there'
  | first there' | second there' => cases there.symm.trans there'

theorem assert_cases {condition : Assertion} {next : Nat}
    (there : program.code[address]? = some (.assert condition next))
    (prefers : Prefers program subject origin n (here.job address) last) :
    ∃ m, m ≤ n ∧ subject.satisfies origin here.position condition = true ∧
      Prefers program subject origin m (here.job next) last := by
  cases prefers with
  | done accepts => cases there.symm.trans accepts
  | move _ moves more =>
    cases moves with
    | assert there' holds =>
      cases there.symm.trans there'
      exact ⟨_, Nat.le_succ _, holds, more⟩
    | char there' | save there' | first there' | second there' => cases there.symm.trans there'
  | first there' | second there' => cases there.symm.trans there'

theorem save_cases {slot next : Nat} (there : program.code[address]? = some (.save slot next))
    (prefers : Prefers program subject origin n (here.job address) last) :
    ∃ m, m ≤ n ∧ Prefers program subject origin m ((here.mark slot).job next) last := by
  cases prefers with
  | done accepts => cases there.symm.trans accepts
  | move _ moves more =>
    cases moves with
    | save there' =>
      cases there.symm.trans there'
      exact ⟨_, Nat.le_succ _, more⟩
    | char there' | assert there' | first there' | second there' => cases there.symm.trans there'
  | first there' | second there' => cases there.symm.trans there'

theorem split_cases {a b : Nat} (there : program.code[address]? = some (.split a b))
    (prefers : Prefers program subject origin n (here.job address) last) :
    ∃ m, m < n ∧ (Prefers program subject origin m (here.job a) last ∨
      ¬ Accepts program subject origin (fun _ position => position ≤ here.position) (here.job a) ∧
        Prefers program subject origin m (here.job b) last) := by
  have splits : program.splitsAt address = true := Program.splitsAt_iff.mpr ⟨a, b, there⟩
  cases prefers with
  | done accepts => cases there.symm.trans accepts
  | move unsplit => exact absurd (splits.symm.trans unsplit) (by decide)
  | first there' more =>
    cases there.symm.trans there'
    exact ⟨_, Nat.lt_succ_self _, .inl more⟩
  | second there' refused more =>
    cases there.symm.trans there'
    exact ⟨_, Nat.lt_succ_self _, .inr ⟨refused, more⟩⟩

theorem branch_cases {greedy : Greedy} {body next : Nat}
    (there : program.code[address]? = some (Code.branch greedy body next))
    (prefers : Prefers program subject origin n (here.job address) last) :
    ∃ m, m < n ∧ (Prefers program subject origin m (here.job body) last ∨
      Prefers program subject origin m (here.job next) last) := by
  cases greedy with
  | true =>
    obtain ⟨m, shorter, more⟩ := prefers.split_cases there
    exact ⟨m, shorter, more.imp_right And.right⟩
  | false =>
    obtain ⟨m, shorter, more⟩ := prefers.split_cases there
    exact ⟨m, shorter, (more.imp_right And.right).symm⟩

/-- What is left of a path after the code of an expression, with what the expression took on the way. -/
def Passes (program : Program) (subject : Subject) (origin : Nat) (e : Core) (next n : Nat) (here : Place) (last : Job) :
    Prop :=
  ∃ there m, m ≤ n ∧ Takes subject origin e here there ∧ Prefers program subject origin m (there.job next) last

/-- The rounds of a loop, from the branch at its end. -/
theorem passes_loop {greedy : Greedy} {e : Core} {body back next : Nat}
    (returns : program.code[back]? = some (Code.branch greedy body next))
    (inner : ∀ n here, Prefers program subject origin n (here.job body) last →
      Passes program subject origin e back n here last)
    (n : Nat) (here : Place) (prefers : Prefers program subject origin n (here.job back) last) :
    Passes program subject origin (.star greedy e) next n here last := by
  induction n using Nat.strongRecOn generalizing here with
  | ind n ih =>
    obtain ⟨m, shorter, round | leave⟩ := prefers.branch_cases returns
    · obtain ⟨between, k, le, takes, rest⟩ := inner m here round
      obtain ⟨there, l, le', more, left⟩ := ih k (by omega) between rest
      exact ⟨there, l, by omega, .starMore takes more, left⟩
    · exact ⟨here, m, by omega, .starDone, leave⟩

/-- On every path to acceptance the code of an expression takes what the expression takes. -/
theorem takes {e : Core} {start next : Nat} (codes : Codes program.code e start next) (n : Nat) (here : Place)
    (prefers : Prefers program subject origin n (here.job start) last) :
    Passes program subject origin e next n here last := by
  induction codes generalizing n here with
  | empty => exact ⟨here, n, Nat.le_refl _, .empty, prefers⟩
  | char there =>
    obtain ⟨c, width, m, le, read, member, more⟩ := prefers.char_cases there
    exact ⟨_, m, le, .char read member, more⟩
  | assert there =>
    obtain ⟨m, le, holds, more⟩ := prefers.assert_cases there
    exact ⟨_, m, le, .assert holds, more⟩
  | capture opens _ closes ih =>
    obtain ⟨m, le, more⟩ := prefers.save_cases opens
    obtain ⟨there, k, le', inner, more⟩ := ih m _ more
    obtain ⟨l, le'', more⟩ := more.save_cases closes
    exact ⟨_, l, by omega, .capture inner, more⟩
  | seq _ _ first second =>
    obtain ⟨between, m, le, before, more⟩ := first n here prefers
    obtain ⟨there, k, le', behind, more⟩ := second m between more
    exact ⟨there, k, by omega, .seq before behind, more⟩
  | alt splits _ _ left right =>
    obtain ⟨m, shorter, more | ⟨-, more⟩⟩ := prefers.split_cases splits
    · obtain ⟨there, k, le, chosen, more⟩ := left m here more
      exact ⟨there, k, by omega, .altFirst chosen, more⟩
    · obtain ⟨there, k, le, chosen, more⟩ := right m here more
      exact ⟨there, k, by omega, .altSecond chosen, more⟩
  | star enters returns _ ih =>
    obtain ⟨m, shorter, round | leave⟩ := prefers.branch_cases enters
    · obtain ⟨between, k, le, takes, rest⟩ := ih m here round
      obtain ⟨there, l, le', more, left⟩ := passes_loop returns ih k between rest
      exact ⟨there, l, by omega, .starMore takes more, left⟩
    · exact ⟨here, m, by omega, .starDone, leave⟩
  | plus returns _ ih =>
    obtain ⟨between, k, le, takes, rest⟩ := ih n here prefers
    obtain ⟨there, l, le', more, left⟩ := passes_loop returns ih k between rest
    exact ⟨there, l, by omega, .plus takes more, left⟩
  | opt splits _ ih =>
    obtain ⟨m, shorter, round | leave⟩ := prefers.branch_cases splits
    · obtain ⟨there, k, le, takes, more⟩ := ih m here round
      exact ⟨there, k, by omega, .optSome takes, more⟩
    · exact ⟨here, m, by omega, .optNone, leave⟩

end Prefers

/-! ### The expression of a source -/

/-- The expression that a source stands for, with the names of its groups. -/
def expressionOf? (source : Text) : Option (Core × List Text) :=
  (parse source).toOption.map fun (tree, names) => (tree.core, names)

theorem compile_eq_ok_iff {source : Text} {pattern : Pattern} :
    compile source = .ok pattern ↔
      ∃ e names, expressionOf? source = some (e, names) ∧ pattern = ⟨e.program names.length, names⟩ := by
  unfold compile expressionOf?
  cases parse source with
  | error refusal => simp [bind, Except.bind, Except.toOption]
  | ok parsed =>
    constructor
    · intro compiled
      cases compiled
      exact ⟨_, _, rfl, rfl⟩
    · rintro ⟨e, names, expression, rfl⟩
      cases expression
      rfl

end QualityGate.Pattern
