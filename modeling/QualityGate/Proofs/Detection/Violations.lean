import QualityGate.Detection.Detector
import QualityGate.Proofs.Detection.Attribution

/-!
The violations of a text, method by method. The detector carries a place in the type list and a line counter from one
method to the next; `violations_eq_records` shows that the record of each method depends only on that method and on
the offsets of the methods before it.
-/

namespace QualityGate

/-! ### Line numbers -/

theorem newlines_take_add_slice (text : Text) {start stop : Nat} (ordered : start ≤ stop) :
    Text.newlines (text.take start) + Text.newlines (text.slice start stop) = Text.newlines (text.take stop) := by
  have split : stop = start + (stop - start) := by omega
  rw [Text.slice, Text.newlines, Text.newlines, Text.newlines, ← List.count_append, ← List.take_add, ← split]

/-- What the counter remembers is right, if it remembers anything. -/
def LineCounter.Valid (text : Text) (counter : LineCounter) : Prop :=
  counter.line ≠ 0 → counter.line = 1 + Text.newlines (text.take counter.offset)

theorem LineCounter.lineAt_eq {text : Text} {counter : LineCounter} (valid : counter.Valid text) (offset : Nat) :
    counter.lineAt text offset =
      (1 + Text.newlines (text.take offset), ⟨offset, 1 + Text.newlines (text.take offset)⟩) := by
  unfold lineAt
  by_cases restart : counter.line = 0 ∨ offset < counter.offset
  · have top := newlines_take_add_slice text (Nat.zero_le offset)
    rw [List.take_zero] at top
    simp only [restart, if_true, ← top]
    simp [Text.newlines]
  · simp only [restart, if_false]
    rw [not_or, Nat.not_lt] at restart
    rw [valid restart.1, Nat.add_assoc, newlines_take_add_slice text restart.2]

theorem LineCounter.valid_at (text : Text) (offset : Nat) :
    LineCounter.Valid text ⟨offset, 1 + Text.newlines (text.take offset)⟩ := fun _ => rfl

namespace Detector

/-! ### The record of one method -/

def bodyOffsets (text : Text) (methods : List MethodDeclaration) : List Int :=
  (methods.filter fun method => (method.body? text).isSome).map (·.offset)

/-- The largest offset among a method and the methods with a body before it. -/
def reach (text : Text) (earlier : List MethodDeclaration) (declaration : MethodDeclaration) : Int :=
  (bodyOffsets text earlier).foldr max declaration.offset

/-- The owner of a method by its position: in sequence, the last type of the longest beginning of the type list that
lies within reach; by nesting, the type around the method that opens last, of several that open together the first
listed. -/
def positionalOwner (attribution : Attribution) (text : Text) (types : List TypeDeclaration)
    (earlier : List MethodDeclaration) (declaration : MethodDeclaration) : Text :=
  match attribution with
  | .sequential => lastName (types.takeWhile (·.offset ≤ reach text earlier declaration))
  | .nesting =>
    let around := (types.filterMap (·.scope? text)).filter (·.encloses declaration.offset)
    ((around.argmax (·.start)).map (·.name)).getD noEnclosingType

/-- The record of a method, if it has a body and the body is too long. -/
def record? (detector : Detector) (path text : Text) (types : List TypeDeclaration)
    (earlier : List MethodDeclaration) (declaration : MethodDeclaration) : Option MethodViolation :=
  match declaration.body? text with
  | none => none
  | some body =>
    if detector.threshold < 1 + body.text.newlines then
      some
        { path
          file := Path.base path
          owner :=
            if declaration.receiver ≠ [] then declaration.receiver
            else if declaration.free then noEnclosingType
            else positionalOwner detector.attribution text types earlier declaration
          method := declaration.name
          line := 1 + Text.newlines (text.take declaration.offset.toNat)
          lineCount := 1 + body.text.newlines
          truncated := body.closed = false }
    else none

theorem le_reach_iff (text : Text) (earlier : List MethodDeclaration) (declaration : MethodDeclaration)
    (offset : Int) :
    offset ≤ reach text earlier declaration ↔
      offset ≤ declaration.offset ∨ ∃ other ∈ bodyOffsets text earlier, offset ≤ other := by
  unfold reach
  induction bodyOffsets text earlier with
  | nil => simp
  | cons first rest ih =>
    simp only [List.foldr_cons, le_max_iff, ih, List.mem_cons, exists_eq_or_imp]
    exact or_left_comm

theorem reached_eq_le_reach (text : Text) (earlier : List MethodDeclaration) (declaration : MethodDeclaration) :
    SequentialOwner.reached (declaration.offset :: bodyOffsets text earlier) =
      fun type => decide (type.offset ≤ reach text earlier declaration) := by
  funext type
  rw [SequentialOwner.reached, List.any_cons, Bool.eq_iff_iff]
  simp only [Bool.or_eq_true, decide_eq_true_eq, List.any_eq_true, le_reach_iff]

theorem bodyOffsets_append (text : Text) (earlier : List MethodDeclaration) (declaration : MethodDeclaration) :
    bodyOffsets text (earlier ++ [declaration]) =
      bodyOffsets text earlier ++ if (declaration.body? text).isSome then [declaration.offset] else [] := by
  unfold bodyOffsets
  cases found : declaration.body? text <;> simp [found]

/-! ### What is carried from method to method -/

/-- What is carried after the methods `earlier`: the place that their offsets lead to, and a counter that is right. -/
structure Progress.Follows (text : Text) (types : List TypeDeclaration) (earlier : List MethodDeclaration)
    (progress : Progress) : Prop where
  sequential : progress.sequential = .after types (bodyOffsets text earlier)
  lines : progress.lines.Valid text

variable {text : Text} {types : List TypeDeclaration} {earlier : List MethodDeclaration} {progress : Progress}
  {declaration : MethodDeclaration}

/-- A method without a body changes nothing that is carried. -/
theorem Progress.Follows.skip (follows : progress.Follows text types earlier)
    (bodyless : declaration.body? text = none) : progress.Follows text types (earlier ++ [declaration]) := by
  refine ⟨?_, follows.lines⟩
  rw [bodyOffsets_append, bodyless]
  simpa using follows.sequential

theorem Progress.Follows.owner_eq (follows : progress.Follows text types earlier) {body : MethodBody}
    (found : declaration.body? text = some body) :
    progress.sequential.owner declaration.offset = .after types (bodyOffsets text (earlier ++ [declaration])) := by
  rw [follows.sequential, SequentialOwner.owner_after, bodyOffsets_append, found]
  rfl

/-- The name that judging takes from the position is the one of the record. -/
theorem positionalOwner_eq (detector : Detector) (follows : progress.Follows text types earlier) {body : MethodBody}
    (found : declaration.body? text = some body) {scopes : List TypeScope}
    (nested : detector.attribution = .nesting → scopes = typeScopes text types) :
    (match detector.attribution with
      | .sequential => (progress.sequential.owner declaration.offset).current
      | .nesting => nestingOwner scopes declaration.offset) =
      positionalOwner detector.attribution text types earlier declaration := by
  cases choice : detector.attribution with
  | sequential =>
    simp only [positionalOwner, follows.owner_eq found, SequentialOwner.after, bodyOffsets_append, found,
      Option.isSome_some, if_true, SequentialOwner.reached_append, reached_eq_le_reach]
  | nesting =>
    simp only [positionalOwner, nestingOwner, nested choice, innermost?_eq_argmax, typeScopes_eq]

theorem ownerName_eq (declaration : MethodDeclaration) (positional : Text) :
    ownerName declaration positional =
      if declaration.receiver ≠ [] then declaration.receiver
      else if declaration.free then noEnclosingType
      else positional := by
  unfold ownerName
  cases declaration.receiver <;> rfl

theorem judge_eq (detector : Detector) (path : Text) (follows : progress.Follows text types earlier)
    {body : MethodBody} (found : declaration.body? text = some body) {scopes : List TypeScope}
    (nested : detector.attribution = .nesting → scopes = typeScopes text types) :
    (detector.judge path text scopes progress declaration body).1 =
        detector.record? path text types earlier declaration ∧
      (detector.judge path text scopes progress declaration body).2.Follows text types
        (earlier ++ [declaration]) := by
  have owner := positionalOwner_eq detector follows found nested
  have count : body.lineCount = 1 + body.text.newlines := Nat.add_comm _ _
  have truncated : (!body.closed) = decide (body.closed = false) := by cases body.closed <;> rfl
  simp only [judge, record?, found, exceeds, count, LineCounter.lineAt_eq follows.lines, truncated]
  by_cases long : detector.threshold < 1 + body.text.newlines
  · simp only [long, decide_true, if_true, Option.some.injEq, MethodViolation.mk.injEq, ← ownerName_eq]
    exact ⟨⟨trivial, trivial, congrArg (ownerName declaration) owner, trivial, rfl, rfl, trivial⟩,
      follows.owner_eq found, LineCounter.valid_at text _⟩
  · simp only [long, decide_false, Bool.false_eq_true, if_false, true_and]
    exact ⟨follows.owner_eq found, follows.lines⟩

theorem judgeAll_eq (detector : Detector) (path : Text) {scopes : List TypeScope}
    (nested : detector.attribution = .nesting → scopes = typeScopes text types) (methods : List MethodDeclaration)
    (follows : progress.Follows text types earlier) :
    detector.judgeAll path text scopes progress methods =
      methods.zipIdx.filterMap fun (declaration, index) =>
        detector.record? path text types (earlier ++ methods.take index) declaration := by
  induction methods generalizing earlier progress with
  | nil => rfl
  | cons declaration rest ih =>
    -- The methods before one of `rest` are `earlier`, then `declaration`, then the beginning of `rest`.
    have shifted : ((rest.zipIdx 1).filterMap fun (later, index) =>
          detector.record? path text types (earlier ++ (declaration :: rest).take index) later) =
        rest.zipIdx.filterMap fun (later, index) =>
          detector.record? path text types (earlier ++ [declaration] ++ rest.take index) later := by
      rw [show rest.zipIdx 1 = _ from List.zipIdx_succ, List.filterMap_map]
      simp [Function.comp_def]
    rw [List.zipIdx_cons, List.filterMap_cons, shifted]
    simp only [List.take_zero, List.append_nil, judgeAll]
    cases found : declaration.body? text with
    | none =>
      rw [ih (follows.skip found)]
      simp [record?, found]
    | some body =>
      obtain ⟨record, next⟩ := judge_eq detector path follows found nested
      simp only [ih next, record]
      cases detector.record? path text types earlier declaration <;> rfl

/-! ### Sorted declarations -/

theorem reach_of_sorted {methods : List MethodDeclaration} (sorted : methods.Pairwise (·.offset ≤ ·.offset))
    {index : Nat} (present : methods[index]? = some declaration) :
    reach text (methods.take index) declaration = declaration.offset := by
  have split : methods = methods.take index ++ declaration :: methods.drop (index + 1) := by
    obtain ⟨inside, rfl⟩ := List.getElem?_eq_some_iff.mp present
    rw [← List.drop_eq_getElem_cons inside, List.take_append_drop]
  rw [split, List.pairwise_append] at sorted
  have largest : ∀ offset, offset ≤ reach text (methods.take index) declaration → offset ≤ declaration.offset := by
    intro offset within
    rcases (le_reach_iff ..).mp within with near | ⟨other, member, below⟩
    · exact near
    · obtain ⟨method, among, rfl⟩ := List.mem_map.mp member
      exact below.trans (sorted.2.2 method (List.mem_of_mem_filter among) declaration List.mem_cons_self)
  exact le_antisymm (largest _ le_rfl) ((le_reach_iff ..).mpr (.inl le_rfl))

theorem takeWhile_eq_filter_of_sorted {types : List TypeDeclaration} (sorted : types.Pairwise (·.offset ≤ ·.offset))
    (offset : Int) : types.takeWhile (·.offset ≤ offset) = types.filter (·.offset ≤ offset) := by
  induction types with
  | nil => rfl
  | cons type rest ih =>
    rw [List.pairwise_cons] at sorted
    by_cases near : type.offset ≤ offset
    · simp [near, ih sorted.2]
    · have none : ∀ other ∈ rest, ¬ other.offset ≤ offset := fun other member within =>
        near ((sorted.1 other member).trans within)
      simpa [near] using none

/-! ### The violations -/

/-- The violations are, in the order of the methods, the records of the methods that are too long, each a function of
the method and of the methods before it. When types and methods stand in the order of their offsets, the owner in
sequence is the last type declared at or before the method. -/
theorem violations_eq_records (detector : Detector) (path text : Text) (types : List TypeDeclaration)
    (methods : List MethodDeclaration) :
    (detector.violations path text ⟨types, methods⟩ =
      methods.zipIdx.filterMap fun (declaration, index) =>
        detector.record? path text types (methods.take index) declaration) ∧
    (types.Pairwise (·.offset ≤ ·.offset) → methods.Pairwise (·.offset ≤ ·.offset) →
      ∀ declaration index, methods[index]? = some declaration →
        positionalOwner .sequential text types (methods.take index) declaration =
          lastName (types.filter (·.offset ≤ declaration.offset))) := by
  refine ⟨?_, fun sortedTypes sortedMethods declaration index present => ?_⟩
  · have start : Progress.Follows text types [] ⟨⟨types, noEnclosingType⟩, {}⟩ :=
      ⟨(SequentialOwner.after_nil types).symm, fun asked => absurd rfl asked⟩
    unfold violations
    rw [judgeAll_eq detector path _ methods start]
    · simp only [List.nil_append]
    · intro choice
      simp only [choice]
  · rw [positionalOwner, reach_of_sorted sortedMethods present, takeWhile_eq_filter_of_sorted sortedTypes]

/-- Two types and three methods in order: one with a body, one without, and one whose body is not closed. -/
theorem violations_of_sorted_declarations :
    let text : Text := "class A\x7b\x7d class B\x7b void F()\x7b\n\n\x7d void G(); void H()\x7b\n\n"
    let types : List TypeDeclaration := [⟨"class", "A", 0⟩, ⟨"class", "B", 10⟩]
    let methods : List MethodDeclaration :=
      [{ name := "F", offset := 19 }, { name := "G", offset := 32 }, { name := "H", offset := 42 }]
    types.Pairwise (·.offset ≤ ·.offset) ∧ methods.Pairwise (·.offset ≤ ·.offset) ∧
      positionalOwner .sequential text types (methods.take 2) { name := "H", offset := 42 } =
        lastName (types.filter (·.offset ≤ 42)) := by
  intro text types methods
  have sortedTypes : types.Pairwise (·.offset ≤ ·.offset) := by decide
  have sortedMethods : methods.Pairwise (·.offset ≤ ·.offset) := by decide
  exact ⟨sortedTypes, sortedMethods,
    (violations_eq_records ⟨2, .sequential⟩ "a.cs" text types methods).2 sortedTypes sortedMethods _ 2 rfl⟩

end Detector

end QualityGate
