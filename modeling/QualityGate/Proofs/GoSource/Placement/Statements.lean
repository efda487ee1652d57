import QualityGate.GoSource.File
import QualityGate.Proofs.GoSource.Placement.Expressions

/-!
Readings of statements and declarations stay within the bound, so all readings that recursion leads back to do
(`isPlaced_readings`), and so does the reading of a file.
-/

namespace QualityGate.GoSource

open Placed (Within)

variable {bound : Nat} {self : Self}

/-! ### Nodes -/

theorem within_typeSet {first : Node} {terms : List (Node × Nat)} (placed : Within bound first)
    (inner : ∀ term ∈ terms, Within bound term.1) : Within bound (Node.typeSet first terms) := by
  unfold Node.typeSet
  induction terms generalizing first with
  | nil => exact placed
  | cons term terms ih =>
    rw [List.forall_mem_cons] at inner
    exact ih (by simp [placed, inner.1]) inner.2

theorem within_splitSet {forced : Bool} {terms : List (Node × Nat)} {node parameter : Node} {constraint : Option Node}
    (placed : Within bound node) (inner : ∀ term ∈ terms, Within bound term.1)
    (found : node.splitSet forced terms = some (parameter, constraint)) :
    Within bound parameter ∧ Within bound constraint := by
  fun_induction Node.splitSet forced terms node generalizing parameter constraint with
  | case1 => cases found; exact ⟨placed, within_none⟩
  | case3 forced terms start stop a b =>
    simp only [within_mk, within_cons] at placed
    cases found
    exact ⟨placed.2.1, within_some.mpr (within_typeSet (by simp [placed]) inner)⟩
  | case5 forced terms start stop a b _ ih =>
    simp only [within_mk, within_cons] at placed
    exact ih placed.2.1 (List.forall_mem_cons.mpr ⟨placed.2.2.1, inner⟩) found
  | case7 forced terms spread start stop function argument =>
    simp only [within_mk, within_cons] at placed
    cases found
    exact ⟨placed.2.1, within_some.mpr (within_typeSet (by simp [placed]) inner)⟩
  | case2 | case4 | case6 | case8 | case9 => cases found

theorem within_typeDeclarationNode {name type : Node} {parameters : List Node} (start : name.start ≤ bound)
    (named : Within bound name) (placed : Within bound parameters) (typed : Within bound type) :
    Within bound (typeDeclarationNode name parameters type) := by
  simp [typeDeclarationNode, start, named, placed, typed]

instance : Placed LoopHead where
  Within bound
    | .ranged targets x => Within bound targets ∧ Within bound x
    | .plain initial condition post => Within bound initial ∧ Within bound condition ∧ Within bound post

theorem within_ofRange {statement : Node} (placed : Within bound statement) (targets : Nat) :
    Within bound (LoopHead.ofRange statement targets) := by
  have parts := within_parts placed
  refine ⟨within_of_subset (List.take_subset targets _) parts, ?_⟩
  cases found : statement.parts.getLast? with
  | none => rw [List.getLastD_eq_getLast?, found]; exact placed
  | some last =>
    rw [List.getLastD_eq_getLast?, found]
    exact parts last (List.mem_of_getLast? found)

/-- The receiver that is read for a function is the base name of the type in its receiver list. -/
theorem receiver_eq {list : Option Node} {name : Node} (fields : ∀ node ∈ list, node.kind = .fields)
    (named : name.name?.isSome) (rest : List Node) :
    (list.bind fun fields =>
        fields.parts.head?.map fun field => (field.parts.getLast?.map Node.baseName).getD []).getD [] =
      ((receiverType? (list.toList ++ name :: rest)).map Node.baseName).getD [] := by
  cases list with
  | none =>
    obtain ⟨kind, start, stop, parts⟩ := name
    cases kind <;> first | rfl | cases named
  | some list =>
    obtain ⟨kind, start, stop, parts⟩ := list
    obtain rfl : kind = .fields := fields _ rfl
    cases parts <;> rfl

namespace Gives

/-! ### Declarations -/

theorem readImport : Keeps bound readImport := by
  refine .bind .position fun start _ => .bind .token fun found _ => ?_
  extract_lets finish path
  have finished : Keeps bound (finish ()) :=
    .bind .position fun _ _ => .bind .expectSemicolon fun _ _ => .pure (by simp)
  have pathed : Keeps bound (path ()) := by
    refine .bind .get fun s _ => ?_
    split
    · exact .bind .next fun _ _ => finished
    split
    · exact .bind (.fault _) fun _ _ => .bind .next fun _ _ => finished
    · exact .bind (.fault _) fun _ _ => .bind (.advance _) fun _ _ => finished
  split
  · exact .bind .readName fun _ _ => pathed
  · exact .bind .next fun _ _ => pathed
  · exact pathed

theorem readValues (calls : self.IsPlaced bound) (constant : Bool) : Keeps bound (readValues self constant) := by
  refine .bind (.oneOrMore .readName_keeps) fun names named => ?_
  extract_lets start values onward
  have assigned : Keeps bound values := by
    refine .bind (.sees _) fun sign _ => ?_
    split
    · exact .bind .next fun _ _ => .readExpressions calls true
    · exact .pure within_nil
  have finish : ∀ found, Within bound found → Keeps bound (onward found) := by
    rintro ⟨type, values⟩ ⟨typed, valued⟩
    exact .bind .position fun _ _ => .bind .expectSemicolon fun _ _ => .pure (by simp_all)
  split
  · refine .bind .get fun s _ => ?_
    split
    · exact .bind (.pure ⟨within_none, within_nil⟩) finish
    · exact .bind calls.type fun _ type => .bind assigned fun _ values => .bind (.pure ⟨type, values⟩) finish
  · refine .bind (.sees _) fun sign _ => ?_
    split
    · exact .bind (.pure within_none) fun _ type => .bind assigned fun _ values => .bind (.pure ⟨type, values⟩) finish
    · exact .bind (.readType calls) fun _ type => .bind (.pure (within_some.mpr type)) fun _ type =>
        .bind assigned fun _ values => .bind (.pure ⟨type, values⟩) finish

section

variable {name : Node}

theorem readGenericType (calls : self.IsPlaced bound) (start : name.start ≤ bound) (named : Within bound name)
    (opening : Nat) {parameter : Node} {constraint : Option Node} (begun : Within bound parameter)
    (constrained : Within bound constraint) : Keeps bound (readGenericType self name opening parameter constraint) := by
  refine .bind (.readParameterList calls (within_some.mpr begun) constrained _ _) fun fields placed =>
    .bind (.expect _) fun close _ => .bind (.sees _) fun sign _ => ?_
  extract_lets onward
  have finish : Keeps bound (onward ()) :=
    .bind (.readType calls) fun _ type => .pure (within_typeDeclarationNode start named (by simp [placed]) type)
  split
  · exact .bind .next fun _ _ => finish
  · exact finish

theorem readBracketedType (calls : self.IsPlaced bound) (start : name.start ≤ bound) (named : Within bound name) :
    Keeps bound (readBracketedType self name) := by
  have array : ∀ (opening : Nat) {length : Option Node}, Within bound length → Keeps bound (do
      let type ← GoSource.readArrayType self opening length
      return typeDeclarationNode name [] type) := fun opening _ placed =>
    .bind (.readArrayType calls opening placed) fun _ type =>
      .pure (within_typeDeclarationNode start named within_nil type)
  refine .bind .position fun opening _ => .bind .next fun _ _ => .bind (.sees _) fun identifier _ => ?_
  split
  · refine .bind .readName fun first begun => .bind (.sees _) fun bracket _ => ?_
    extract_lets onward
    have decided : ∀ x, Within bound x → Keeps bound (onward x) := by
      intro x placed
      refine .bind .get fun s _ => ?_
      split
      next parameter constraint found =>
        obtain ⟨begun, constrained⟩ := within_splitSet placed (List.forall_mem_nil _) found
        split
        · exact .readGenericType calls start named opening begun constrained
        · exact array opening (within_some.mpr placed)
      · exact array opening (within_some.mpr placed)
    split
    · exact .bind (.pure begun.1) decided
    · exact .bind (.enclosed (.bind (.readPrimary calls (within_some.mpr begun.1)) fun _ left =>
        .readBinary calls (within_some.mpr left) 1)) decided
  · exact array opening within_none

end

theorem readTypeDeclaration (calls : self.IsPlaced bound) : Keeps bound (readTypeDeclaration self) := by
  refine .bind .readName fun name named => .bind (.sees _) fun bracket _ => ?_
  extract_lets onward onward'
  have finish : ∀ declaration, Within bound declaration → Keeps bound (onward declaration) := fun _ placed =>
    .bind .expectSemicolon fun _ _ => .pure placed
  split
  · exact .bind (.readBracketedType calls named.2.2 named.1) finish
  · have plain : Keeps bound (onward' ()) :=
      .bind (.readType calls) fun _ type =>
        .bind (.pure (within_typeDeclarationNode named.2.2 named.1 within_nil type)) finish
    refine .bind (.sees _) fun sign _ => ?_
    split
    · exact .bind .next fun _ _ => plain
    · exact plain

theorem readGroup (keyword : Keyword) {item : Reading Node} (each : Keeps bound item) :
    Keeps bound (readGroup keyword item) := by
  refine .bind (.expect _) fun start _ => .bind (.sees _) fun paren _ => ?_
  split
  · exact .bind .next fun _ _ => .bind (.many _ each) fun _ items => .bind (.expect _) fun _ _ =>
      .bind .expectSemicolon fun _ _ => .pure (by simp [items])
  · exact .bind each fun _ only => .pure (by simp [only])

theorem readFunction (calls : self.IsPlaced bound) : Keeps bound (readFunction self) := by
  refine .bind (.expect _) fun start here => .bind (.sees _) fun paren _ => ?_
  extract_lets onward
  have function : ∀ list, Within bound list ∧ (∀ node ∈ list, node.kind = .fields) → Keeps bound (onward list) := by
    rintro list ⟨listed, fields⟩
    refine .bind .readName fun name named => .bind (.sees _) fun bracket _ => ?_
    extract_lets receiverName onward
    have signature : ∀ parameters, Within bound parameters → Keeps bound (onward parameters) := by
      intro parameters placed
      refine .bind (.readSignature calls start) fun signature signed => .bind .token fun found _ => ?_
      extract_lets onward
      have finish : ∀ body, Within bound body → Keeps bound (onward body) := by
        intro body bodied
        refine .pure ?_
        have receiver := receiver_eq fields named.2.1 (parameters.toList ++ [signature] ++ body.toList)
        simp only [within_mk, Kind.Admits, within_append, within_toList, within_cons, within_nil, and_true]
        exact ⟨⟨here, by simpa using receiver⟩, ⟨⟨⟨listed, named.1⟩, placed⟩, signed⟩, bodied⟩
      have body : Keeps bound (do
          let body ← GoSource.readBlock self
          GoSource.expectSemicolon
          let body ← Pure.pure (some body)
          onward body) := .bind (.readBlock calls) fun _ body => .bind .expectSemicolon fun _ _ =>
        .bind (.pure (within_some.mpr body)) finish
      split
      · exact body
      · refine .bind .next fun _ _ => .bind (.sees _) fun brace _ => ?_
        split
        · exact .bind .faultHere fun _ _ => body
        · exact .bind (.pure within_none) finish
      · exact .bind .expectSemicolon fun _ _ => .bind (.pure within_none) finish
    split
    · exact .bind (.readTypeParameters calls) signature
    · exact .bind (.pure within_none) signature
  split
  · exact .bind (.readParenthesized calls true) fun list placed =>
      .bind (.pure ⟨within_some.mpr placed.1, fun _ same => by cases same; exact placed.2⟩) function
  · exact .bind (.pure ⟨within_none, by simp⟩) function

theorem readDeclaration (calls : self.IsPlaced bound) (stops : Token → Bool) :
    Keeps bound (readDeclaration self stops) := by
  refine .bind .token fun found _ => ?_
  split
  · exact .readGroup _ .readImport
  · exact .readGroup _ (.readValues calls true)
  · exact .readGroup _ (.readValues calls false)
  · exact .readGroup _ (.readTypeDeclaration calls)
  · exact .readFunction calls
  · exact .badUntil stops

/-! ### Simple statements -/

theorem readAssignment (calls : self.IsPlaced bound) (extra : Extra) {targets : List Node}
    (placed : Within bound targets) : Keeps bound (readAssignment self extra targets) := by
  refine .bind .token fun operator _ => .bind .position fun place _ => .bind .next fun _ _ =>
    .bind (.sees _) fun word _ => ?_
  split
  · exact .bind .next fun _ _ => .bind (.readRightHandSide calls) fun _ x => .pure (by simp [placed, x])
  · exact .bind (.readExpressions calls true) fun _ values => .pure (by simp [placed, values])

theorem readSimple (calls : self.IsPlaced bound) (extra : Extra) : Keeps bound (readSimple self extra) := by
  refine .bind (.readExpressions calls false) fun targets placed => .bind .get fun s _ => ?_
  extract_lets x onward
  have first : Within bound x := by
    cases targets with
    | nil => simp [x]
    | cons target rest => exact (within_cons.mp placed).1
  have continued : Keeps bound (onward ()) := by
    dsimp only [onward]
    split
    · refine .bind .next fun _ _ => ?_
      split
      · exact .bind calls.statement fun _ statement => .pure (by simp [first, statement])
      · exact .bind (.fault _) fun _ _ => .pure (by simp)
    · exact .bind .next fun _ _ => .bind (.readRightHandSide calls) fun _ value => .pure (by simp [first, value])
    · exact .bind .next fun _ _ => .pure (by simp [first])
    · exact .bind .next fun _ _ => .pure (by simp [first])
    · exact .pure (by simp [first])
  split
  · exact .readAssignment calls extra placed
  split
  · exact .bind (.fault _) fun _ _ => continued
  · exact continued

theorem asExpression {statement : Option Node} (placed : Within bound statement) :
    Keeps bound (asExpression statement) := by
  unfold GoSource.asExpression
  split
  · exact .pure within_none
  · simp only [within_some, within_mk, within_cons] at placed
    exact .pure (within_some.mpr placed.2.1)
  · exact .bind (.fault _) fun _ _ => .pure (by simp)

/-! ### Control statements -/

theorem readDeferredCall (calls : self.IsPlaced bound) : Keeps bound (readDeferredCall self) := by
  refine .bind (.readRightHandSide calls) fun x placed => ?_
  extract_lets inner onward
  have called : Keeps bound (onward ()) := by
    dsimp only [onward]
    split
    · exact .pure (within_some.mpr (within_unparen placed))
    · exact .pure within_none
    · exact .bind (.fault _) fun _ _ => .pure within_none
  split
  · exact .bind (.fault _) fun _ _ => called
  · exact called

theorem readDeferred (calls : self.IsPlaced bound) (word : Keyword) (length : Nat) :
    Keeps bound (readDeferred self word length) := by
  refine .bind (.expect _) fun start _ => .bind (.readDeferredCall calls) fun call placed =>
    .bind .expectSemicolon fun _ _ => ?_
  cases call with
  | none => exact .pure (by simp)
  | some call => exact .pure (by simp [within_some.mp placed])

theorem readReturn (calls : self.IsPlaced bound) : Keeps bound (readReturn self) := by
  refine .bind (.expect _) fun start _ => .bind .get fun s _ => ?_
  extract_lets onward
  have finish : ∀ results, Within bound results → Keeps bound (onward results) := fun _ results =>
    .bind .expectSemicolon fun _ _ => .pure (by simp [results])
  split
  · exact .bind (.pure within_nil) finish
  · exact .bind (.readExpressions calls true) finish

theorem readBranch (word : Keyword) (length : Nat) : Keeps bound (readBranch word length) := by
  refine .bind (.expect _) fun start _ => .bind (.sees _) fun identifier _ => ?_
  extract_lets labeled onward
  have finish : ∀ label, Within bound label → Keeps bound (onward label) := fun _ _ =>
    .bind .expectSemicolon fun _ _ => .pure (by simp)
  split
  · exact .bind .readName fun _ label => .bind (.pure (within_some.mpr label.1)) finish
  · exact .bind (.pure within_none) finish

theorem readIfInitial (calls : self.IsPlaced bound) : Keeps bound (readIfInitial self) := by
  refine .bind (.sees _) fun semicolon _ => ?_
  split
  · exact .pure within_none
  refine .bind (.sees _) fun word _ => ?_
  extract_lets onward
  have simple : Keeps bound (onward ()) :=
    .bind (.readSimple calls .nothing) fun _ statement => .pure (within_some.mpr statement.1)
  split
  · exact .bind .next fun _ _ => .bind .faultHere fun _ _ => simple
  · exact simple

theorem readIfHead (calls : self.IsPlaced bound) : Keeps bound (readIfHead self) := by
  refine .bind (.sees _) fun brace _ => ?_
  split
  · exact .bind .faultHere fun _ _ => .pure within_nil
  refine .inHead (.bind (.readIfInitial calls) fun initial placed => .bind (.sees _) fun brace _ => ?_)
  split
  · exact .bind (.asExpression placed) fun _ condition => .pure (by simp [condition])
  refine .bind .get fun s _ => ?_
  extract_lets separator separated finish onward
  have conditioned : Keeps bound (onward ()) := by
    refine .bind (.sees _) fun brace _ => ?_
    split
    · split
      · exact .bind (.fault _) fun _ _ => .pure (by simp [placed])
      · exact .pure (by simp [placed])
    · exact .bind (.readSimple calls .nothing) fun _ condition =>
        .bind (.asExpression (within_some.mpr condition.1)) fun _ condition => .pure (by simp [placed, condition])
  split
  · exact .bind .next fun _ _ => conditioned
  · exact .bind (.expect _) fun _ _ => conditioned

theorem readIf (calls : self.IsPlaced bound) : Keeps bound (readIf self) := by
  refine .nested (.bind (.expect _) fun start _ => .bind (.readIfHead calls) fun head headed =>
    .bind (.readBlock calls) fun body bodied => .bind (.sees _) fun word _ => ?_)
  split
  · refine .bind .next fun _ _ => .bind .token fun found _ => ?_
    extract_lets onward
    have finish : ∀ otherwise, Within bound otherwise → Keeps bound (onward otherwise) := fun _ otherwise =>
      .pure (by simp [headed, bodied, otherwise])
    split
    · exact .bind calls.ifStatement finish
    · exact .bind (.readBlock calls) fun _ block => .bind .expectSemicolon fun _ _ => .bind (.pure block) finish
    · exact .bind .position fun _ _ => .bind .faultHere fun _ _ => .bind (.pure (by simp)) finish
  · exact .bind .expectSemicolon fun _ _ => .pure (by simp [headed, bodied])

theorem readCaseClause (calls : self.IsPlaced bound) : Keeps bound (readCaseClause self) := by
  refine .bind .position fun start _ => .bind (.sees _) fun word _ => ?_
  extract_lets onward
  have finish : ∀ expressions, Within bound expressions → Keeps bound (onward expressions) := fun _ expressions =>
    .bind (.expect _) fun _ _ => .bind (.readStatements calls) fun _ body => .pure (by simp [expressions, body])
  split
  · exact .bind .next fun _ _ => .bind (.readExpressions calls true) finish
  · exact .bind (.expect _) fun _ _ => .bind (.pure within_nil) finish

theorem readClauses {clause : Reading Node} (each : Keeps bound clause) : Keeps bound (readClauses clause) :=
  .bind (.expect _) fun _ _ => .bind (.many _ each) fun _ clauses => .bind (.expect _) fun _ _ =>
    .bind .expectSemicolon fun _ _ => .pure (by simp [clauses])

theorem isTypeSwitchGuard (statement : Option Node) : Keeps bound (isTypeSwitchGuard statement) := by
  unfold GoSource.isTypeSwitchGuard
  split
  · exact .pure trivial
  · split
    · split
      · exact .bind (.fault _) fun _ _ => .pure trivial
      · exact .pure trivial
      · exact .pure trivial
    · exact .pure trivial
  · exact .pure trivial

theorem readSwitch (calls : self.IsPlaced bound) : Keeps bound (readSwitch self) := by
  refine .bind (.expect _) fun start _ => ?_
  extract_lets simple finish headed
  have simply : Keeps bound simple :=
    .bind (.readSimple calls .nothing) fun _ statement => .pure (within_some.mpr statement.1)
  have finished : ∀ head, Within bound head → Keeps bound (finish head) := by
    rintro ⟨initial, tag⟩ ⟨initial', tag'⟩
    refine .bind (.isTypeSwitchGuard tag) fun isTypeSwitch _ =>
      .bind (.readClauses (.readCaseClause calls)) fun body bodied => ?_
    split
    · exact .bind (.pure tag') fun _ tag => .pure (by simp_all)
    · exact .bind (.asExpression tag') fun _ tag => .pure (by simp_all)
  have tagged : ∀ first, Within bound first → Keeps bound (headed first) := by
    intro first placed
    refine .bind (.sees _) fun semicolon _ => ?_
    split
    · refine .bind .next fun _ _ => .bind (.sees _) fun brace _ => ?_
      split
      · exact .bind (.pure within_none) fun _ tag => .pure ⟨placed, tag⟩
      · exact .bind simply fun _ tag => .pure ⟨placed, tag⟩
    · exact .pure ⟨within_none, placed⟩
  refine .bind (.sees _) fun brace _ => ?_
  split
  · exact .bind (.pure ⟨within_none, within_none⟩) finished
  refine .bind (.inHead (.bind (.sees _) fun semicolon _ => ?_)) finished
  split
  · exact .bind (.pure within_none) tagged
  · exact .bind simply tagged

theorem readCommunication (calls : self.IsPlaced bound) : Keeps bound (readCommunication self) := by
  refine .bind (.readExpressions calls false) fun targets placed => .bind .get fun s _ => ?_
  have some' : ∀ count, Within bound (targets.take count) := fun count =>
    within_of_subset (List.take_subset count targets) placed
  have sent : Keeps bound (do
      GoSource.next
      let value ← GoSource.readRightHandSide self
      return targets.take 1 ++ [value]) :=
    .bind .next fun _ _ => .bind (.readRightHandSide calls) fun _ value => .pure (by simp [some' 1, value])
  have assigned : Keeps bound (do
      GoSource.next
      let value ← GoSource.readRightHandSide self
      return targets.take 2 ++ [value]) :=
    .bind .next fun _ _ => .bind (.readRightHandSide calls) fun _ value => .pure (by simp [some' 2, value])
  dsimp only
  split
  · split
    · exact .bind (.fault _) fun _ _ => sent
    · exact sent
  · split
    · exact .bind (.fault _) fun _ _ => assigned
    · exact assigned
  · split
    · exact .bind (.fault _) fun _ _ => assigned
    · exact assigned
  · split
    · exact .bind (.fault _) fun _ _ => .pure (some' 1)
    · exact .pure (some' 1)

theorem readSelectClause (calls : self.IsPlaced bound) : Keeps bound (readSelectClause self) := by
  refine .bind .position fun start _ => .bind (.sees _) fun word _ => ?_
  extract_lets onward
  have finish : ∀ communication, Within bound communication → Keeps bound (onward communication) :=
    fun _ communication => .bind (.expect _) fun _ _ => .bind (.readStatements calls) fun _ body =>
      .pure (by simp [communication, body])
  split
  · exact .bind .next fun _ _ => .bind (.readCommunication calls) finish
  · exact .bind (.expect _) fun _ _ => .bind (.pure within_nil) finish

theorem readSelect (calls : self.IsPlaced bound) : Keeps bound (readSelect self) :=
  .bind (.expect _) fun _ _ => .bind (.readClauses (.readSelectClause calls)) fun _ body => .pure (by simp [body])

theorem readLoopHead (calls : self.IsPlaced bound) : Keeps bound (readLoopHead self) := by
  refine .bind (.sees _) fun brace _ => ?_
  split
  · exact .pure ⟨within_none, within_none, within_none⟩
  refine .inHead (.bind (.sees _) fun word _ => ?_)
  extract_lets simple onward
  have simply : Keeps bound simple :=
    .bind (.readSimple calls .nothing) fun _ statement => .pure (within_some.mpr statement.1)
  split
  · exact .bind .next fun _ _ => .bind (.readRightHandSide calls) fun _ x => .pure ⟨within_nil, x⟩
  have headed : ∀ found, Within bound found → Keeps bound (onward found) := by
    rintro ⟨first, isRange⟩ ⟨placed, -⟩
    dsimp -zeta only [onward]
    split
    · split
      · exact .pure (within_ofRange (within_some.mp placed) _)
      · exact .pure ⟨within_none, placed, within_none⟩
    refine .bind (.sees _) fun semicolon _ => ?_
    split
    · refine .bind .next fun _ _ => .bind (.sees _) fun semicolon _ => ?_
      extract_lets onward
      have posted : ∀ condition, Within bound condition → Keeps bound (onward condition) := by
        intro condition conditioned
        refine .bind .expectSemicolon fun _ _ => .bind (.sees _) fun brace _ => ?_
        split
        · exact .bind (.pure within_none) fun _ post => .pure ⟨placed, conditioned, post⟩
        · exact .bind simply fun _ post => .pure ⟨placed, conditioned, post⟩
      split
      · exact .bind (.pure within_none) posted
      · refine .bind (.sees _) fun brace _ => ?_
        split
        · exact .bind .faultHere fun _ _ => .bind simply posted
        · exact .bind simply posted
    · exact .pure ⟨within_none, placed, within_none⟩
  refine .bind (.sees _) fun semicolon _ => ?_
  split
  · exact .bind (.pure ⟨within_none, trivial⟩) headed
  · exact .bind (.readSimple calls .range) fun _ statement =>
      .bind (.pure ⟨within_some.mpr statement.1, trivial⟩) headed

theorem readFor (calls : self.IsPlaced bound) : Keeps bound (readFor self) := by
  refine .bind (.expect _) fun start _ => .bind (.readLoopHead calls) fun head placed =>
    .bind (.readBlock calls) fun body bodied => .bind .expectSemicolon fun _ _ => ?_
  cases head with
  | ranged targets x =>
    obtain ⟨targets', x'⟩ := placed
    dsimp only
    split
    · exact .bind (.fault _) fun _ _ => .pure (by simp)
    · exact .pure (by simp [targets', x', bodied])
  | plain initial condition post =>
    obtain ⟨initial', condition', post'⟩ := placed
    exact .bind (.asExpression condition') fun _ condition => .pure (by simp [initial', condition, post', bodied])

/-! ### Statements -/

theorem readStatement (calls : self.IsPlaced bound) : Keeps bound (readStatement self) := by
  refine .nested (.bind .get fun s _ => ?_)
  split
  · refine .bind (.readSimple calls .label) fun found placed => ?_
    obtain ⟨statement, isRange⟩ := found
    dsimp only
    split
    · exact .bind .expectSemicolon fun _ _ => .pure placed.1
    · exact .pure placed.1
  split
  · exact .readDeclaration calls _
  · exact .readDeclaration calls _
  · exact .readDeclaration calls _
  · exact .readDeferred calls _ _
  · exact .readDeferred calls _ _
  · exact .readReturn calls
  · exact .readBranch _ _
  · exact .readBranch _ _
  · exact .readBranch _ _
  · exact .readBranch _ _
  · exact .bind (.readBlock calls) fun _ block => .bind .expectSemicolon fun _ _ => .pure block
  · exact calls.ifStatement
  · exact .readSwitch calls
  · exact .readSelect calls
  · exact .readFor calls
  · exact .bind .next fun _ _ => .pure (by simp)
  · exact .pure (by simp)
  · exact .badUntil _

end Gives

/-! ### Files -/

/-- Readings stay within the bound however deep they recur. -/
theorem isPlaced_readings (bound depth : Nat) : (readings depth).IsPlaced bound := by
  induction depth with
  | zero => exact ⟨fun _ => .giveUp, .giveUp, .giveUp, fun _ => .giveUp, .giveUp, .giveUp⟩
  | succ depth ih =>
    constructor
    case expression => exact fun precedence => .apart (.readBinary ih within_none precedence)
    case unary => exact .apart (.readUnary ih)
    case type => exact .apart (.readTypeEntry ih)
    case literalValue => exact fun placed => .apart (.readLiteralValue ih placed)
    case statement => exact .apart (.readStatement ih)
    case ifStatement => exact .apart (.readIf ih)

namespace Gives

theorem readPackageClause : Keeps bound readPackageClause :=
  .bind (.expect _) fun _ _ => .bind .readName fun _ _ => .bind .expectSemicolon fun _ _ => .pure within_nil

theorem readLaterDeclaration (calls : self.IsPlaced bound) (previousImports : Bool) :
    Keeps bound (readLaterDeclaration self previousImports) := by
  refine .bind (.sees _) fun word _ => ?_
  split
  · exact .bind .faultHere fun _ _ => .readDeclaration calls _
  · exact .readDeclaration calls _

theorem readLaterDeclarations (calls : self.IsPlaced bound) (fuel : Nat) (previousImports : Bool) {found : List Node}
    (placed : Within bound found) : Keeps bound (readLaterDeclarations self fuel previousImports found) := by
  induction fuel generalizing previousImports found with
  | zero => exact .pure placed
  | succ fuel ih =>
    refine .bind (.sees _) fun ended _ => ?_
    split
    · exact .pure placed
    · exact .bind (.sees _) fun _ _ => .bind (.readLaterDeclaration calls _) fun _ declaration =>
        .later (ih _ (within_cons.mpr ⟨declaration, placed⟩))

theorem readBody (calls : self.IsPlaced bound) : Keeps bound (readBody self) :=
  .bind (.many _ (.readGroup _ .readImport)) fun _ imports => .bind .get fun _ _ =>
    .bind (.readLaterDeclarations calls _ true within_nil) fun _ later => .pure (by simp [imports, later])

end Gives

end QualityGate.GoSource
