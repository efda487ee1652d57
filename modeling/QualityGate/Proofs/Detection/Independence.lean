import QualityGate.Language.Basic
import QualityGate.Proofs.Detection.Body
import QualityGate.Proofs.Detection.Violations
import QualityGate.Proofs.GoSource.Places

/-!
Results that do not depend on the attribution. Where every method has a receiver or is free, no owner is looked up by
position, so the violations are the same in sequence and by nesting (`violations_eq_receiverRecords`). Go sources are
so, also those with faults. A careful run cuts the text as the detector does, but stops at a piece that does not lie
inside it; when the declarations lie in the text, it never stops (`carefulViolations_eq`).
-/

namespace QualityGate

/-! ### Pieces of a text -/

def Text.Holds (text : Text) (offset : Int) : Prop := 0 ≤ offset ∧ offset ≤ text.length

/-- The piece of a text between two offsets, if they are in order and inside the text. -/
def Text.cut? (text : Text) (start stop : Int) : Option Text :=
  if 0 ≤ start ∧ start ≤ stop ∧ stop ≤ text.length then some (text.slice start.toNat stop.toNat) else none

theorem Text.cut?_eq {text : Text} {start stop : Int} (first : 0 ≤ start) (ordered : start ≤ stop)
    (inside : stop ≤ text.length) : text.cut? start stop = some (text.slice start.toNat stop.toNat) :=
  if_pos ⟨first, ordered, inside⟩

/-- What a brace encloses lies inside the text. -/
theorem Text.cut?_matchBrace {text : Text} {opening : Nat} (opens : text[opening]? = some (byte '{')) :
    text.cut? opening (Delimiter.matchBrace text opening).stop =
      some (text.slice opening (Delimiter.matchBrace text opening).stop) := by
  have matched : Delimiter.Matched _ _ text opening (Delimiter.matchBrace text opening) :=
    Delimiter.matched_matchAt (byte '}') opens
  have after := matched.nonempty
  have before := matched.within
  rw [cut?_eq (by omega) (by omega) (by omega), Int.toNat_natCast, Int.toNat_natCast]

/-- The first opening brace at or after an offset, searched in the piece of the text from there on. -/
def carefulBrace (text : Text) (start : Int) : Option (Option Nat) := do
  let rest ← text.cut? start text.length
  return (rest.findIdx? (· = Text.byte '{')).map (start.toNat + ·)

theorem carefulBrace_eq {text : Text} {start : Int} (placed : text.Holds start) :
    carefulBrace text start = some ((braceFrom? text start.toNat).map (·.1)) := by
  have whole : text.slice start.toNat text.length = text.drop start.toNat := by
    rw [Text.slice, List.take_of_length_le]
    exact Nat.le_of_eq List.length_drop
  unfold carefulBrace braceFrom?
  rw [Text.cut?_eq placed.1 placed.2 (Int.le_refl _), Int.toNat_natCast, whole]
  simp [Function.comp_def]

/-! ### A careful run -/

/-- The body of a declaration, cut from the text with care. -/
def MethodDeclaration.carefulBody (text : Text) (declaration : MethodDeclaration) : Option (Option MethodBody) := do
  let start := declaration.searchStart
  if start < 0 ∨ text.length ≤ start then return none
  let some opening ← carefulBrace text start | return none
  let found := Delimiter.matchBrace text opening
  let inside ← text.cut? opening found.stop
  return some ⟨inside, opening, found.stop, found.closed⟩

theorem MethodDeclaration.carefulBody_eq (text : Text) (declaration : MethodDeclaration) :
    declaration.carefulBody text = some (declaration.body? text) := by
  unfold carefulBody
  by_cases outside : declaration.searchStart < 0 ∨ text.length ≤ declaration.searchStart
  · rw [body?_eq_none_iff.mpr (outside.imp_right .inl)]
    exact if_pos outside
  · simp only [outside, if_false]
    rw [not_or, Int.not_lt, Int.not_le] at outside
    obtain ⟨first, last⟩ := outside
    rw [carefulBrace_eq ⟨first, Int.le_of_lt last⟩, body?, if_neg (Int.not_lt.mpr first)]
    cases found : braceFrom? text declaration.searchStart.toNat with
    | none => rfl
    | some brace =>
      obtain ⟨opening, rest⟩ := brace
      obtain ⟨-, -, opens, rfl⟩ := braceFrom?_eq_some_iff.mp found
      obtain ⟨bound, -⟩ := List.getElem?_eq_some_iff.mp opens
      simp only [Option.map_some, Option.bind_eq_bind, Option.bind_some, Text.cut?_matchBrace opens]
      rw [Delimiter.matchBrace_eq_drop text opening bound, Text.slice, Nat.add_sub_cancel_left]
      rfl

def carefulScopes (text : Text) : List TypeDeclaration → Option (List TypeScope)
  | [] => some []
  | type :: rest => do
    let brace ← carefulBrace text type.offset
    let scopes ← carefulScopes text rest
    match brace with
    | none => return scopes
    | some opening => return ⟨type.name, opening, (Delimiter.matchBrace text opening).stop⟩ :: scopes

theorem carefulScopes_eq {text : Text} {types : List TypeDeclaration}
    (placed : ∀ type ∈ types, text.Holds type.offset) : carefulScopes text types = some (typeScopes text types) := by
  rw [typeScopes_eq]
  induction types with
  | nil => rfl
  | cons type rest ih =>
    obtain ⟨here, later⟩ := List.forall_mem_cons.mp placed
    rw [carefulScopes, carefulBrace_eq here, ih later, List.filterMap_cons, TypeDeclaration.scope?]
    cases braceFrom? text type.offset.toNat <;> rfl

def LineCounter.carefulLineAt (counter : LineCounter) (text : Text) (offset : Int) : Option (Nat × LineCounter) := do
  let known := if counter.line = 0 ∨ offset < counter.offset then ⟨0, 1⟩ else counter
  let between ← text.cut? known.offset offset
  let line := known.line + between.newlines
  return (line, ⟨offset.toNat, line⟩)

theorem LineCounter.carefulLineAt_eq (counter : LineCounter) {text : Text} {offset : Int} (placed : text.Holds offset) :
    counter.carefulLineAt text offset = some (counter.lineAt text offset.toNat) := by
  obtain ⟨first, inside⟩ := placed
  have same : offset < counter.offset ↔ offset.toNat < counter.offset := (Int.toNat_lt first).symm
  unfold carefulLineAt lineAt
  simp only [same]
  -- The counter starts again at the top rather than look back, so a piece never ends before it starts.
  by_cases restart : counter.line = 0 ∨ offset.toNat < counter.offset
  · simp only [restart, if_true, Text.cut?_eq (Int.natCast_nonneg 0) first inside]
    rfl
  · simp only [restart, if_false]
    rw [not_or, ← same, Int.not_lt] at restart
    rw [Text.cut?_eq (Int.natCast_nonneg _) restart.2 inside]
    rfl

namespace Detector

def carefulJudge (detector : Detector) (path text : Text) (scopes : List TypeScope) (progress : Progress)
    (declaration : MethodDeclaration) (body : MethodBody) : Option (Option MethodViolation × Progress) := do
  let sequential := progress.sequential.owner declaration.offset
  let positional :=
    match detector.attribution with
    | .sequential => sequential.current
    | .nesting => nestingOwner scopes declaration.offset
  if detector.exceeds body then
    let (line, lines) ← progress.lines.carefulLineAt text declaration.offset
    return (some ⟨path, Path.base path, ownerName declaration positional, declaration.name, line, body.lineCount,
      !body.closed⟩, ⟨sequential, lines⟩)
  else return (none, { progress with sequential })

def carefulJudgeAll (detector : Detector) (path text : Text) (scopes : List TypeScope) (progress : Progress) :
    List MethodDeclaration → Option (List MethodViolation)
  | [] => some []
  | declaration :: rest => do
    match ← declaration.carefulBody text with
    | none => carefulJudgeAll detector path text scopes progress rest
    | some body =>
      let (violation, progress) ← carefulJudge detector path text scopes progress declaration body
      let later ← carefulJudgeAll detector path text scopes progress rest
      return violation.toList ++ later

/-- The violations of a text, none if a piece of it would be cut outside its bounds. -/
def carefulViolations (detector : Detector) (path text : Text) (declarations : Declarations) :
    Option (List MethodViolation) := do
  let scopes ←
    match detector.attribution with
    | .sequential => some []
    | .nesting => carefulScopes text declarations.types
  detector.carefulJudgeAll path text scopes ⟨⟨declarations.types, noEnclosingType⟩, {}⟩ declarations.methods

variable (detector : Detector) (path : Text) {text : Text} (scopes : List TypeScope) (progress : Progress)

theorem carefulJudge_eq {declaration : MethodDeclaration} (body : MethodBody) (placed : text.Holds declaration.offset) :
    detector.carefulJudge path text scopes progress declaration body =
      some (detector.judge path text scopes progress declaration body) := by
  unfold carefulJudge judge
  rw [LineCounter.carefulLineAt_eq _ placed]
  cases detector.exceeds body with
  | false => rfl
  | true => rfl

theorem carefulJudgeAll_eq {methods : List MethodDeclaration} (placed : ∀ method ∈ methods, text.Holds method.offset) :
    detector.carefulJudgeAll path text scopes progress methods =
      some (detector.judgeAll path text scopes progress methods) := by
  induction methods generalizing progress with
  | nil => rfl
  | cons declaration rest ih =>
    obtain ⟨here, later⟩ := List.forall_mem_cons.mp placed
    rw [carefulJudgeAll, judgeAll, MethodDeclaration.carefulBody_eq]
    cases declaration.body? text with
    | none => exact ih progress later
    | some body =>
      have judged := carefulJudge_eq detector path scopes progress body here
      simp only [Option.bind_eq_bind, Option.bind_some, judged, ih _ later]
      rfl

/-- When the declarations lie in the text, no piece of it is cut outside its bounds. -/
theorem carefulViolations_eq {declarations : Declarations}
    (types : ∀ type ∈ declarations.types, text.Holds type.offset)
    (methods : ∀ method ∈ declarations.methods, text.Holds method.offset) :
    detector.carefulViolations path text declarations = some (detector.violations path text declarations) := by
  unfold carefulViolations violations
  rw [carefulScopes_eq types]
  cases detector.attribution with
  | sequential => exact carefulJudgeAll_eq detector path [] _ methods
  | nesting => exact carefulJudgeAll_eq detector path _ _ methods

example : (⟨1, .nesting⟩ : Detector).carefulViolations "a.cs" "class A" ⟨[⟨"class", "A", 8⟩], []⟩ = none := by decide

/-! ### Owners that are receivers -/

/-- The record of a method, if it has a body and the body is too long. The method is put under its receiver, or under no
type if it has none. -/
def receiverRecord? (threshold : Nat) (path text : Text) (method : MethodDeclaration) : Option MethodViolation :=
  (method.body? text).bind fun body =>
    if threshold < 1 + body.text.newlines then
      some
        { path
          file := Path.base path
          owner := if method.receiver = [] then noEnclosingType else method.receiver
          method := method.name
          line := 1 + Text.newlines (text.take method.offset.toNat)
          lineCount := 1 + body.text.newlines
          truncated := body.closed = false }
    else none

theorem record?_eq_receiverRecord? (types : List TypeDeclaration) (earlier : List MethodDeclaration)
    {method : MethodDeclaration} (owned : method.free = method.receiver.isEmpty) :
    detector.record? path text types earlier method = receiverRecord? detector.threshold path text method := by
  unfold record? receiverRecord?
  cases method.body? text with
  | none => rfl
  | some body =>
    rw [owned]
    cases method.receiver with
    | nil => rfl
    | cons b receiver => rfl

/-- Where every method has a receiver or is free, the record of a method depends on nothing but the method. -/
theorem violations_eq_receiverRecords {types : List TypeDeclaration} {methods : List MethodDeclaration}
    (owned : ∀ method ∈ methods, method.free = method.receiver.isEmpty) :
    detector.violations path text ⟨types, methods⟩ =
      methods.filterMap (receiverRecord? detector.threshold path text) := by
  have start : Progress.Follows text types [] ⟨⟨types, noEnclosingType⟩, {}⟩ :=
    ⟨(SequentialOwner.after_nil types).symm, fun asked => absurd rfl asked⟩
  have records : ∀ entry ∈ methods.zipIdx,
      detector.record? path text types ([] ++ methods.take entry.2) entry.1 =
        receiverRecord? detector.threshold path text entry.1 := fun entry member =>
    record?_eq_receiverRecord? detector path _ _ (owned entry.1 (List.fst_mem_of_mem_zipIdx member))
  unfold violations
  rw [judgeAll_eq detector path _ methods start, List.filterMap_congr records]
  · nth_rewrite 2 [← List.zipIdx_map_fst 0 methods]
    rw [List.filterMap_map]
    rfl
  · intro choice
    simp only [choice]

/-- The violations of a Go source, also of one with faults, do not depend on the attribution: a method is free exactly
if it has no receiver, so it is put under the name that its receiver's type is built on, or under no type. Neither run
cuts the text outside its bounds. -/
theorem go_violations_independent (path text : Text) (threshold : Int) :
    let found := Language.go.declarations text
    (∀ method ∈ found.methods, (method.free = true ↔ method.receiver = []) ∧
      ∃ node ∈ GoSource.nodes text, node.methodDeclaration? = some method ∧
        GoSource.IsReceiver node.parts method.receiver) ∧
    (ofThreshold threshold .sequential).violations path text found =
      (ofThreshold threshold .nesting).violations path text found ∧
    ∀ attribution,
      let detector := ofThreshold threshold attribution
      detector.violations path text found =
          found.methods.filterMap (receiverRecord? detector.threshold path text) ∧
        detector.carefulViolations path text found = some (detector.violations path text found) := by
  intro found
  have owned : ∀ method ∈ found.methods, method.free = method.receiver.isEmpty := fun method member =>
    (GoSource.mem_methods member).2.1
  have records : ∀ attribution, (ofThreshold threshold attribution).violations path text found =
      found.methods.filterMap (receiverRecord? (ofThreshold threshold attribution).threshold path text) := fun _ =>
    violations_eq_receiverRecords _ path owned
  refine ⟨fun method member => ⟨?_, (GoSource.mem_methods member).2.2⟩, ?_,
    fun attribution => ⟨records attribution, ?_⟩⟩
  · rw [owned method member, List.isEmpty_iff]
  · exact (records .sequential).trans (records .nesting).symm
  · exact carefulViolations_eq _ path (fun _ => GoSource.mem_types) fun _ member => (GoSource.mem_methods member).1

-- The first receiver is built on `T`, the second on no name; `S` is declared before both.
example :
    let text : Text := "package p\ntype S struct \x7b\x7d\nfunc (t *(T[int])) m() \x7b\n\x7d\nfunc (f []S) g() \x7b\n"
    ((ofThreshold 1 .sequential).violations "a.go" text (Language.go.declarations text)).map (·.owner) =
      [("T" : Text), noEnclosingType] := by
  decide +kernel

end Detector

end QualityGate
