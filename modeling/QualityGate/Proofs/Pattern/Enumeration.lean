import QualityGate.Proofs.Pattern.Search

/-!
Searching a text again and again. A search finds the first start from which the expression can take anything
(`finds_find?`), and the next one goes on behind what was found, so that the matches are in order and apart and no start is
passed over (`Enumerates`, `Enumerates.enumerated`).
-/

namespace QualityGate.Pattern

/-! ### Starts -/

/-- The positions where a character begins for one who reads a text from a position on. -/
inductive Subject.Boundary (subject : Subject) : Nat → Nat → Prop where
  | here {start : Nat} : Boundary subject start start
  | next {start c width i : Nat} (read : subject.units[start]? = some (c, width))
      (further : Boundary subject (start + width) i) : Boundary subject start i

theorem Subject.Boundary.le {subject : Subject} {start i : Nat} (boundary : subject.Boundary start i) : start ≤ i := by
  induction boundary with
  | here => exact Nat.le_refl _
  | next _ _ ih => exact Nat.le_trans (Nat.le_add_right _ _) ih

theorem Subject.Boundary.le_length {text : Text} {start i : Nat} (boundary : (ofText text).Boundary start i)
    (inside : start ≤ text.length) : i ≤ text.length := by
  induction boundary with
  | here => exact inside
  | next read _ ih => exact ih (unit_fits read).2

/-- An expression can take what lies between two positions of a text that is searched from `origin` on. -/
def Core.Spans (e : Core) (text : Text) (origin start stop : Nat) : Prop :=
  ∃ slots slots', Takes (.ofText text) origin e ⟨start, slots⟩ ⟨stop, slots'⟩

/-- An expression can take something from a position on. -/
def Core.Starts (e : Core) (text : Text) (origin start : Nat) : Prop := ∃ stop, e.Spans text origin start stop

variable {program : Program} {e : Core} {text : Text} {origin start : Nat} {visited : Visited}

theorem Core.Starts.of_unconditional (starts : e.Starts text origin start) (free : e.unconditional = true) (other : Nat) :
    e.Starts text other start := by
  obtain ⟨stop, slots, slots', takes⟩ := starts
  exact ⟨stop, slots, slots', takes.of_unconditional free other⟩

/-- The place where a match begins. -/
def Program.blank (program : Program) (start : Nat) : Place := ⟨start, Array.replicate (2 * program.groups + 2) none⟩

theorem Core.Starts.accepts (starts : e.Starts text origin start) (runs : program.Runs e) :
    Accepts program (.ofText text) origin (fun _ _ => False) ((program.blank start).job program.start) := by
  obtain ⟨stop, slots, slots', takes⟩ := starts
  exact (Accepts.of_takes takes runs.codes (.here runs.accepts)).of_slots _

/-! ### One search -/

/-- What a search comes to that tries the boundaries from `start` on: a path from the first of them from which the
expression can take something. -/
inductive Finds (program : Program) (e : Core) (text : Text) (origin start : Nat) : Option Match → Prop where
  | nothing (passed : ∀ i, (Subject.ofText text).Boundary start i → ¬ e.Starts text origin i) :
      Finds program e text origin start none
  | found {i n : Nat} {last : Job} (boundary : (Subject.ofText text).Boundary start i)
      (path : Prefers program (.ofText text) origin n ((program.blank i).job program.start) last)
      (passed : ∀ j, (Subject.ofText text).Boundary start j → j < i → ¬ e.Starts text origin j) :
      Finds program e text origin start (some (last.toMatch program.groups i))

theorem Finds.later {c width : Nat} {result : Option Match} (read : (Subject.ofText text).units[start]? = some (c, width))
    (refused : ¬ e.Starts text origin start) (finds : Finds program e text origin (start + width) result) :
    Finds program e text origin start result := by
  have later : ∀ i, (Subject.ofText text).Boundary start i →
      i = start ∨ (Subject.ofText text).Boundary (start + width) i := by
    intro i boundary
    cases boundary with
    | here => exact .inl rfl
    | next read' further =>
      rw [read, Option.some.injEq, Prod.mk.injEq] at read'
      exact .inr (read'.2 ▸ further)
  cases finds with
  | nothing passed =>
    refine .nothing fun i boundary => ?_
    rcases later i boundary with rfl | boundary
    · exact refused
    · exact passed i boundary
  | found boundary path passed =>
    refine .found (.next read boundary) path fun i before less => ?_
    rcases later i before with rfl | before
    · exact refused
    · exact passed i before less

/-- One start: it leads to acceptance, or the expression can take nothing there and what was seen stays settled. -/
theorem follow_start (runs : program.Runs e) (within : origin ≤ start) (inside : start ≤ text.length)
    (settled : visited.Settled program (.ofText text) origin 0) {result : Option Job} {after : Visited}
    (followed : follow program (.ofText text) origin (program.steps (.ofText text))
      [(program.blank start).job program.start] visited = (result, after)) :
    (∃ n last, result = some last ∧
        Prefers program (.ofText text) origin n ((program.blank start).job program.start) last) ∨
      result = none ∧ ¬ e.Starts text origin start ∧ after.Settled program (.ofText text) origin 0 := by
  have fits : ((program.blank start).job program.start).Fits program text origin := ⟨within, inside, runs.start_lt⟩
  have explored := explores_follow runs (program.steps (.ofText text)) [(program.blank start).job program.start] visited
    (by simpa using fits) (weight_le_steps fits visited)
  rw [followed] at explored
  cases result with
  | some last =>
    obtain ⟨front, job, rest, n, single, path, -⟩ := explored.prefers rfl fun _ _ => settled.mono (Nat.zero_le _)
    obtain ⟨rfl, same⟩ := List.append_eq_singleton_iff.mp single.symm |>.resolve_right (by simp)
    obtain ⟨rfl, -⟩ := List.cons.inj same
    exact .inl ⟨n, last, rfl, path⟩
  | none =>
    refine .inr ⟨rfl, fun starts => ?_, explored.settled settled⟩
    have refused := settled.refuses ((explored.dead rfl).1 _ List.mem_cons_self)
    exact refused ((starts.accepts runs).mono fun _ _ before => Nat.not_lt_zero _ before)

theorem finds_findFrom (runs : program.Runs e) (left : Nat) (within : origin ≤ start) (inside : start ≤ text.length)
    (enough : text.length < start + left) (settled : visited.Settled program (.ofText text) origin 0) :
    Finds program e text origin start (findFrom program (.ofText text) origin left start visited) := by
  induction left generalizing start visited with
  | zero => omega
  | succ left ih =>
    rw [findFrom]
    split
    next accepted after followed =>
      rcases follow_start runs within inside settled followed with ⟨n, last, same, path⟩ | ⟨none, -⟩
      · cases same
        exact .found .here path fun i boundary before => absurd boundary.le (Nat.not_le.mpr before)
      · cases none
    next after followed =>
      rcases follow_start runs within inside settled followed with ⟨n, last, same, -⟩ | ⟨-, refused, settled⟩
      · cases same
      · split
        next c width read =>
          have fits := Subject.unit_fits read
          exact .later read refused (ih (by omega) fits.2 (by omega) settled)
        next none =>
          refine .nothing fun i boundary => ?_
          cases boundary with
          | here => exact refused
          | next read => cases none.symm.trans read

theorem finds_find? (runs : program.Runs e) (inside : origin ≤ text.length) :
    Finds program e text origin origin (find? program (.ofText text) origin) := by
  rw [find?, Subject.size_ofText]
  exact finds_findFrom runs _ (Nat.le_refl _) inside (by omega) (Visited.settled_empty _ _ _ _)

/-! ### What is found -/

/-- A match of an expression: it takes the text between the bounds, and the groups that take part lie in it. -/
structure Match.Valid (e : Core) (text : Text) (origin : Nat) (found : Match) : Prop where
  spans : e.Spans text origin found.start found.stop
  start_le : found.start ≤ found.stop
  stop_le : found.stop ≤ text.length
  groups : ∀ a b, some (a, b) ∈ found.groups → found.start ≤ a ∧ a ≤ b ∧ b ≤ found.stop

theorem Prefers.eq_done {n : Nat} {job last : Job} {subject : Subject} (accepts : program.code[job.address]? = some .accept)
    (path : Prefers program subject origin n job last) : last = job := by
  cases path with
  | done => rfl
  | move _ moves =>
    cases moves with
    | char there | assert there | save there | first there | second there => cases accepts.symm.trans there
  | first there | second there => cases accepts.symm.trans there

/-- A path from the start of a program is the path of its expression. -/
theorem Prefers.takes_start {n : Nat} {here : Place} {last : Job} {subject : Subject} (runs : program.Runs e)
    (path : Prefers program subject origin n (here.job program.start) last) :
    ∃ there : Place, Takes subject origin e here there ∧ last = there.job 0 := by
  obtain ⟨there, m, -, takes, more⟩ := Prefers.takes runs.codes n here path
  exact ⟨there, takes, more.eq_done runs.accepts⟩

theorem Job.getElem?_groups_iff {job : Job} {groups group a b : Nat} :
    (job.toMatch groups start).groups[group]? = some (some (a, b)) ↔
      group < groups ∧ Takes.Bounds job.slots (group + 1) a b := by
  rw [Job.toMatch, List.getElem?_map]
  by_cases room : group < groups
  · rw [List.getElem?_range room, Option.map_some, Option.some.injEq]
    unfold Takes.Bounds
    constructor
    · intro bounds
      split at bounds
      next left right =>
        cases bounds
        exact ⟨room, left, right⟩
      next => cases bounds
    · rintro ⟨-, left, right⟩
      rw [left, right]
  · rw [List.getElem?_eq_none (by rw [List.length_range]; omega), Option.map_none]
    simp [room]

theorem Takes.valid {there : Place} (takes : Takes (.ofText text) origin e (program.blank start) there)
    (inside : start ≤ text.length) : ((there.job 0).toMatch program.groups start).Valid e text origin := by
  refine ⟨⟨_, _, takes⟩, takes.position_le, takes.position_le_size inside, fun a b member => ?_⟩
  obtain ⟨group, there⟩ := List.mem_iff_getElem?.mp member
  have bounds := (Job.getElem?_groups_iff.mp there).2
  have even : (program.blank start).slots.size = 2 * (program.groups + 1) := by
    rw [Program.blank, Array.size_replicate]
    omega
  rcases takes.slots even (group + 1) with ⟨kept, -⟩ | ⟨a', b', bounds', after, ordered, before⟩
  · -- No group has bounds before the match begins.
    have blank := bounds.1.symm.trans kept
    simp only [Program.blank, Array.getElem?_replicate] at blank
    split at blank <;> cases blank
  · obtain rfl : a = a' := by simpa using bounds.1.symm.trans bounds'.1
    obtain rfl : b = b' := by simpa using bounds.2.symm.trans bounds'.2
    exact ⟨after, ordered, before⟩

theorem Finds.valid {found : Match} (finds : Finds program e text origin start (some found)) (runs : program.Runs e)
    (inside : start ≤ text.length) :
    (Subject.ofText text).Boundary start found.start ∧ found.Valid e text origin ∧
      ∀ i, (Subject.ofText text).Boundary start i → i < found.start → ¬ e.Starts text origin i := by
  cases finds with
  | found boundary path passed =>
    obtain ⟨there, takes, rfl⟩ := path.takes_start runs
    exact ⟨boundary, takes.valid (boundary.le_length inside), passed⟩

/-! ### One search after the other -/

/-- Where the search goes on after a match. -/
def Match.resume (found : Match) : Nat := if found.stop = found.start then found.stop + 1 else found.stop

theorem Match.start_lt_resume {found : Match} (ordered : found.start ≤ found.stop) :
    found.start < found.resume ∧ found.stop ≤ found.resume := by
  unfold resume
  split <;> omega

/-- Where the search stands after some matches. -/
def resumeAfter (origin : Nat) : List Match → Nat
  | [] => origin
  | found :: rest => resumeAfter found.resume rest

/-- Matches that are found one after the other, each by a search that goes on behind the one before. -/
inductive Enumerates (program : Program) (e : Core) (text : Text) : Nat → List Match → Prop where
  | past {origin : Nat} (past : text.length < origin) : Enumerates program e text origin []
  | done {origin : Nat} (inside : origin ≤ text.length) (finds : Finds program e text origin origin none) :
      Enumerates program e text origin []
  | found {origin : Nat} {found : Match} {rest : List Match} (inside : origin ≤ text.length)
      (finds : Finds program e text origin origin (some found)) (more : Enumerates program e text found.resume rest) :
      Enumerates program e text origin (found :: rest)

theorem enumerates_matchesFrom (runs : program.Runs e) (fuel : Nat) (enough : text.length + 2 ≤ origin + fuel) :
    Enumerates program e text origin (matchesFrom program (.ofText text) fuel origin) := by
  induction fuel generalizing origin with
  | zero => exact .past (by omega)
  | succ fuel ih =>
    rw [matchesFrom, Subject.size_ofText]
    split
    next past => exact .past past
    next inside =>
      have inside : origin ≤ text.length := Nat.le_of_not_lt inside
      have finds := finds_find? runs inside
      split
      next none =>
        rw [none] at finds
        exact .done inside finds
      next found some =>
        rw [some] at finds
        have valid := finds.valid runs inside
        have after := Match.start_lt_resume valid.2.1.start_le
        have before := valid.1.le
        exact .found inside finds (ih (show text.length + 2 ≤ found.resume + fuel by omega))

/-- The matches of an expression in a text that is searched from `origin` on, again and again. -/
structure Enumerated (e : Core) (text : Text) (origin : Nat) (found : List Match) : Prop where
  ordered : found.Pairwise fun one other => one.start < other.start ∧ one.stop ≤ other.start
  valid : ∀ before one after, found = before ++ one :: after →
    (Subject.ofText text).Boundary (resumeAfter origin before) one.start ∧ one.Valid e text (resumeAfter origin before)
  complete : ∀ before after, found = before ++ after → ∀ i, (Subject.ofText text).Boundary (resumeAfter origin before) i →
    i ≤ text.length → (∀ one ∈ after.head?, i < one.start) → ¬ e.Starts text (resumeAfter origin before) i

theorem Enumerates.origin_le {found : List Match} (enumerates : Enumerates program e text origin found)
    (runs : program.Runs e) : ∀ one ∈ found, origin ≤ one.start := by
  induction enumerates with
  | past | done => exact fun _ member => absurd member List.not_mem_nil
  | found inside finds _ ih =>
    have valid := finds.valid runs inside
    have after := Match.start_lt_resume valid.2.1.start_le
    have before := valid.1.le
    intro one member
    rcases List.mem_cons.mp member with rfl | member
    · exact before
    · have later := ih one member
      omega

/-- Every match lies at the end of a path from its start. -/
theorem Enumerates.path {found : List Match} (enumerates : Enumerates program e text origin found) {one : Match}
    (member : one ∈ found) :
    ∃ origin n last, Prefers program (.ofText text) origin n ((program.blank one.start).job program.start) last ∧
      one = last.toMatch program.groups one.start := by
  induction enumerates with
  | past | done => cases member
  | found _ finds _ ih =>
    rcases List.mem_cons.mp member with rfl | member
    · cases finds with
      | found _ path => exact ⟨_, _, _, path, rfl⟩
    · exact ih member

theorem Enumerates.enumerated {found : List Match} (enumerates : Enumerates program e text origin found)
    (runs : program.Runs e) : Enumerated e text origin found := by
  induction enumerates with
  | past past =>
    refine ⟨.nil, by simp, fun before after split i boundary inside => ?_⟩
    obtain ⟨rfl, -⟩ := List.append_eq_nil_iff.mp split.symm
    exact absurd boundary.le (by simp only [resumeAfter]; omega)
  | done inside finds =>
    refine ⟨.nil, by simp, fun before after split i boundary _ _ => ?_⟩
    obtain ⟨rfl, -⟩ := List.append_eq_nil_iff.mp split.symm
    cases finds with
    | nothing passed => exact passed i boundary
  | @found origin found rest inside finds more ih =>
    obtain ⟨boundary, valid, passed⟩ := finds.valid runs inside
    have after := Match.start_lt_resume valid.start_le
    refine ⟨List.pairwise_cons.mpr ⟨fun one member => ?_, ih.ordered⟩, ?_, ?_⟩
    · have later := more.origin_le runs one member
      omega
    · intro before one behind split
      cases before with
      | nil =>
        obtain ⟨rfl, -⟩ := List.cons.inj split
        exact ⟨boundary, valid⟩
      | cons first before =>
        obtain ⟨rfl, rest⟩ := List.cons.inj split
        exact ih.valid before one behind rest
    · intro before behind split i here inText ahead
      cases before with
      | nil =>
        rw [List.nil_append] at split
        subst split
        exact passed i here (ahead found rfl)
      | cons first before =>
        obtain ⟨rfl, rest⟩ := List.cons.inj split
        exact ih.complete before behind rest i here inText ahead

theorem enumerates_matchesIn (e : Core) (names : List Text) (text : Text) :
    Enumerates (e.program names.length) e text 0 (matchesIn ⟨e.program names.length, names⟩ (.ofText text)) := by
  refine enumerates_matchesFrom (e.program_spec names.length) _ ?_
  rw [Subject.size_ofText]
  omega

theorem enumerated_matchesIn (e : Core) (names : List Text) (text : Text) :
    Enumerated e text 0 (matchesIn ⟨e.program names.length, names⟩ (.ofText text)) :=
  (enumerates_matchesIn e names text).enumerated (e.program_spec names.length)

end QualityGate.Pattern
