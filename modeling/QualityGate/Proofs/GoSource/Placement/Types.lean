import QualityGate.Proofs.GoSource.Placement.Rules

/-!
Readings of types, fields and parameter lists stay within the bound. Each lemma follows its reading step by step; the
readings that recursion leads back to are assumed to do so (`Self.IsPlaced`).
-/

namespace QualityGate.GoSource

open Placed (Within)

/-- The readings that can be called stay within the bound. -/
structure Self.IsPlaced (bound : Nat) (readings : Self) : Prop where
  expression (precedence : Nat) : Keeps bound (readings (.expression precedence) : Reading Node)
  unary : Keeps bound (readings .unary : Reading Node)
  type : Keeps bound (readings .type : Reading (Option Node))
  literalValue {type : Option Node} (placed : Within bound type) :
    Keeps bound (readings (.literalValue type) : Reading Node)
  statement : Keeps bound (readings .statement : Reading Node)
  ifStatement : Keeps bound (readings .ifStatement : Reading Node)

variable {bound : Nat} {self : Self}

/-! ### Nodes -/

@[simp] theorem within_indexed {x : Node} {indices : List Node} {close : Nat} :
    Within bound (indexed x indices close) ↔ Within bound x ∧ Within bound indices := by
  simp [indexed]

@[simp] theorem within_fieldsNode {opening close : Nat} {fields : List Node} :
    Within bound (fieldsNode opening close fields) ↔ Within bound fields := by
  simp [fieldsNode]

instance : Placed Parameter := ⟨fun bound parameter => Within bound parameter.name ∧ Within bound parameter.type⟩

@[simp] theorem within_parameter {name type : Option Node} :
    Within bound (Parameter.mk name type) ↔ Within bound name ∧ Within bound type := Iff.rfl

theorem within_spoiled {parameter : Parameter} (placed : Within bound parameter) : Within bound parameter.spoiled := by
  refine ⟨placed.1, ?_⟩
  intro type found
  obtain ⟨original, -, rfl⟩ := Option.map_eq_some_iff.mp found
  simp

theorem within_field {parameter : Parameter} (placed : Within bound parameter) : Within bound parameter.field := by
  obtain ⟨name, type⟩ := parameter
  obtain ⟨named, typed⟩ := placed
  cases type <;> simp_all [Parameter.field]

theorem within_join {parameter : Parameter} {following : Option Parameter} {fields : List Node}
    (placed : Within bound parameter) (inner : Within bound fields) :
    Within bound (parameter.join (following, fields)).2 := by
  have alone : Within bound (parameter.field :: fields) := within_cons.mpr ⟨within_field placed, inner⟩
  unfold Parameter.join
  dsimp only
  split
  next name start stop parts later named =>
    have first : Within bound name := placed.1 name named
    split
    · simp_all
    · exact alone
  · exact alone

theorem within_groupFields {parameters : List Parameter} (placed : Within bound parameters) :
    Within bound (groupFields parameters) := by
  unfold groupFields
  induction parameters with
  | nil => exact within_nil
  | cons parameter rest ih =>
    obtain ⟨first, others⟩ := within_cons.mp placed
    exact within_join first (ih others)

instance : Placed Distribution :=
  ⟨fun bound distribution => Within bound distribution.parameters ∧ Within bound distribution.later⟩

theorem within_add (stop : Nat) {distribution : Distribution} {parameter : Parameter}
    (placed : Within bound distribution) (added : Within bound parameter) :
    Within bound (distribution.add stop parameter) := by
  obtain ⟨parameters, later⟩ := placed
  obtain ⟨named, typed⟩ := added
  unfold Distribution.add
  split
  next type found =>
    rw [found] at typed
    refine ⟨within_cons.mpr ⟨⟨?_, typed⟩, parameters⟩, typed⟩
    cases name : parameter.name with
    | none => simp [blankName]
    | some name' =>
      rw [name] at named
      exact named
  next type absent found =>
    rw [found] at later
    exact ⟨within_cons.mpr ⟨⟨named, later⟩, parameters⟩, by rw [found]; exact later⟩
  next absent absent' =>
    exact ⟨within_cons.mpr ⟨⟨named, by simp⟩, parameters⟩, by rw [absent']; exact within_none⟩

theorem within_foldl_add (stop : Nat) {found : List Parameter} {distribution : Distribution}
    (placed : Within bound found) (start : Within bound distribution) :
    Within bound (found.foldl (Distribution.add stop) distribution) := by
  induction found generalizing distribution with
  | nil => exact start
  | cons parameter rest ih =>
    obtain ⟨first, others⟩ := within_cons.mp placed
    exact ih others (within_add stop start first)

/-! ### Types -/

namespace Gives

theorem readExpression (calls : self.IsPlaced bound) : Keeps bound (readExpression self) := calls.expression 1

theorem readRightHandSide (calls : self.IsPlaced bound) : Keeps bound (readRightHandSide self) :=
  .onSide true (.readExpression calls)

theorem readType (calls : self.IsPlaced bound) : Keeps bound (readType self) := by
  refine .bind calls.type fun found placed => ?_
  cases found with
  | some type => exact .pure (within_some.mp placed)
  | none => exact .badUntil _

theorem readTypeName {begun : Option Node} (placed : Within bound begun) : Keeps bound (readTypeName begun) := by
  unfold GoSource.readTypeName
  extract_lets onward
  have qualified : ∀ name, Within bound name → Keeps bound (onward name) := by
    intro name named
    refine .bind (.sees _) fun period _ => ?_
    split
    · exact .bind .next fun _ _ => .bind .readName fun _ selected => .pure (by simp [named, selected])
    · exact .pure named
  cases begun with
  | some name => exact .bind (.pure (within_some.mp placed)) qualified
  | none => exact .bind .readName fun name named => qualified name named.1

theorem readTypeArguments (calls : self.IsPlaced bound) {type : Node} (placed : Within bound type) :
    Keeps bound (readTypeArguments self type) := by
  refine .bind (.expect _) fun opening _ => .bind (.enclosed (.listUntil _ (.readType calls))) fun arguments inner =>
    .bind (.expectClosing _) fun close _ => ?_
  split
  · exact .bind (.fault close) fun _ _ => .pure (by simp [placed])
  · exact .pure (by simp [placed, inner])

theorem readQualifiedName (calls : self.IsPlaced bound) {begun : Option Node} (placed : Within bound begun) :
    Keeps bound (readQualifiedName self begun) := by
  refine .bind (.readTypeName placed) fun type typed => .bind (.sees _) fun bracket _ => ?_
  split
  · exact .readTypeArguments calls typed
  · exact .pure typed

theorem readArrayType (calls : self.IsPlaced bound) (opening : Nat) {length : Option Node}
    (placed : Within bound length) : Keeps bound (readArrayType self opening length) := by
  unfold GoSource.readArrayType
  extract_lets onward
  have measured : ∀ length, Within bound length → Keeps bound (onward length) := by
    intro length placed
    refine .bind (.sees _) fun comma _ => ?_
    extract_lets onward
    have closed : Keeps bound (onward ()) :=
      .bind (.expect _) fun _ _ => .bind (.readType calls) fun _ element => .pure (by simp [placed, element])
    split
    · exact .bind .faultHere fun _ _ => .bind .next fun _ _ => closed
    · exact closed
  cases length with
  | some length => exact .bind (.pure placed) measured
  | none =>
    refine .bind (.enclosed (.bind (.sees _) fun ellipsis _ => ?_)) measured
    split
    · exact .bind .position fun _ _ => .bind .next fun _ _ => .pure (by simp)
    refine .bind (.sees _) fun bracket _ => ?_
    split
    · exact .pure within_none
    · exact .bind (.readRightHandSide calls) fun _ length => .pure (within_some.mpr length)

theorem readIndices (calls : self.IsPlaced bound) (fuel : Nat) {indices : List Node} (placed : Within bound indices) :
    Keeps bound (readIndices self fuel indices) := by
  induction fuel generalizing indices with
  | zero => exact .pure (by simp [placed])
  | succ fuel ih =>
    refine .bind (.readRightHandSide calls) fun index inner => .bind (.sees _) fun comma _ => ?_
    split
    · refine .bind .position fun comma here => .bind .next fun _ _ => .bind (.sees _) fun bracket _ => ?_
      split
      · exact .pure (by simp [placed, inner, here])
      · exact .later (ih (by simp [placed, inner]))
    · exact .pure (by simp [placed, inner])

theorem readArrayOrInstance (calls : self.IsPlaced bound) {name : Node} (placed : Within bound name) :
    Keeps bound (readArrayOrInstance self name) := by
  refine .bind (.expect _) fun opening _ => .bind (.sees _) fun bracket _ => ?_
  extract_lets onward
  have closed : ∀ found, Within bound found → Keeps bound (onward found) := by
    rintro ⟨indices, trailing⟩ ⟨inner, -⟩
    refine .bind (.expect _) fun close _ => ?_
    split
    · exact .bind (.readType calls) fun _ element => .pure (by simp [placed, element])
    next length =>
      refine .bind calls.type fun found typed => ?_
      cases found with
      | none => exact .pure (by simp [placed, inner])
      | some element =>
        have element' : Within bound element := within_some.mp typed
        have length' : Within bound length := (within_cons.mp inner).1
        cases trailing with
        | none => exact .pure (by simp [placed, element', length'])
        | some comma => exact .bind (.fault comma) fun _ _ => .pure (by simp [placed, element', length'])
    · exact .pure (by simp [placed, inner])
  split
  · exact .bind (.pure ⟨within_nil, within_none⟩) closed
  · exact .bind (.enclosed (.bind .get fun _ _ => .readIndices calls _ within_nil)) closed

/-! ### Type sets -/

theorem readTerm (calls : self.IsPlaced bound) : Keeps bound (readTerm self) := by
  refine .bind (.sees _) fun tilde _ => ?_
  split
  · exact .bind .position fun _ _ => .bind .next fun _ _ => .bind (.readType calls) fun _ type => .pure (by simp [type])
  · refine .bind calls.type fun found placed => ?_
    cases found with
    | some type => exact .pure (within_some.mp placed)
    | none => exact .badUntil _

theorem readMoreTerms (calls : self.IsPlaced bound) (fuel : Nat) {x : Node} (placed : Within bound x) :
    Keeps bound (readMoreTerms self fuel x) := by
  induction fuel generalizing x with
  | zero => exact .pure placed
  | succ fuel ih =>
    refine .bind (.sees _) fun bar _ => ?_
    split
    · exact .bind .next fun _ _ => .bind (.readTerm calls) fun y term => .later (ih (by simp [placed, term]))
    · exact .pure placed

theorem readTypeSet (calls : self.IsPlaced bound) {first : Option Node} (placed : Within bound first) :
    Keeps bound (readTypeSet self first) := by
  cases first with
  | some term =>
    exact .bind (.pure (within_some.mp placed)) fun _ term => .bind .get fun _ _ => .readMoreTerms calls _ term
  | none => exact .bind (.readTerm calls) fun _ term => .bind .get fun _ _ => .readMoreTerms calls _ term

/-! ### Parameters -/

theorem readVariadic (calls : self.IsPlaced bound) : Keeps bound (readVariadic self) :=
  .bind (.expect _) fun _ _ => .bind (.readType calls) fun _ type => .pure (by simp [type])

theorem extendConstraint (calls : self.IsPlaced bound) (typeSets : Bool) {parameter : Parameter}
    (placed : Within bound parameter) : Keeps bound (extendConstraint self typeSets parameter) := by
  unfold GoSource.extendConstraint
  split
  next type found =>
    refine .bind (.sees _) fun bar _ => ?_
    split
    · exact .bind (.readTypeSet calls (by rw [← found]; exact placed.2)) fun _ type =>
        .pure ⟨placed.1, within_some.mpr type⟩
    · exact .pure placed
  · exact .pure placed

theorem readAfterName (calls : self.IsPlaced bound) (typeSets : Bool) {name : Node} (placed : Within bound name) :
    Keeps bound (readAfterName self typeSets name) := by
  refine .bind .token fun found _ => ?_
  split
  · exact .bind (.readType calls) fun _ type => .extendConstraint calls typeSets (by simp [placed, type])
  split
  · exact .bind (.readArrayOrInstance calls placed) fun _ found =>
      .extendConstraint calls typeSets (by simp [found.1, found.2])
  · exact .bind (.readVariadic calls) fun _ type => .pure (by simp [placed, type])
  · exact .bind (.readQualifiedName calls (within_some.mpr placed)) fun _ type =>
      .extendConstraint calls typeSets (by simp [type])
  · split
    · exact .bind (.readTypeSet calls within_none) fun _ type => .pure (by simp [placed, type])
    · exact .pure (by simp [placed])
  · split
    · exact .bind (.readTypeSet calls (within_some.mpr placed)) fun _ type => .pure (by simp [type])
    · exact .pure (by simp [placed])
  · exact .pure (by simp [placed])

theorem readParameter (calls : self.IsPlaced bound) (typeSets : Bool) {name : Option Node}
    (placed : Within bound name) : Keeps bound (readParameter self typeSets name) := by
  cases name with
  | some name => exact .readAfterName calls typeSets (within_some.mp placed)
  | none =>
    refine .bind .token fun found _ => ?_
    split
    · exact .bind (.readTypeSet calls within_none) fun _ type => .pure (by simp [type])
    split
    · exact .bind .readName fun _ name => .readAfterName calls typeSets name.1
    split
    · exact .bind (.readType calls) fun _ type => .extendConstraint calls typeSets (by simp [type])
    split
    · exact .bind (.readVariadic calls) fun _ type => .pure (by simp [type])
    · exact .bind .faultHere fun _ _ => .bind (.advance _) fun _ _ => .pure (by simp)

theorem readParameters (calls : self.IsPlaced bound) (closing : Token) (fuel : Nat) {name type : Option Node}
    {parameters : List Parameter} (named : Within bound name) (typed : Within bound type)
    (placed : Within bound parameters) : Keeps bound (readParameters self closing fuel name type parameters) := by
  induction fuel generalizing name type parameters with
  | zero => exact .pure placed
  | succ fuel ih =>
    refine .bind (.sees _) fun closed _ => .bind (.sees _) fun ended _ => ?_
    split
    · exact .pure placed
    extract_lets typeSets onward
    have separated : ∀ parameter, Within bound parameter → Keeps bound (onward parameter) := by
      intro parameter first
      have more : Within bound (if parameter.name.isNone ∧ parameter.type.isNone then parameters
          else parameter :: parameters) := by
        split
        · exact placed
        · exact within_cons.mpr ⟨first, placed⟩
      refine .bind (.goesOn closing) fun onward _ => ?_
      split
      · exact .bind .next fun _ _ => .later (ih within_none within_none more)
      · exact .pure more
    cases type with
    | none => exact .bind (.readParameter calls _ named) separated
    | some type =>
      dsimp only
      split
      · exact .bind (.readTypeSet calls typed) fun _ type => .bind (.pure ⟨named, within_some.mpr type⟩) separated
      · exact .bind (.pure (within_some.mp typed)) fun _ type =>
          .bind (.pure ⟨named, within_some.mpr type⟩) separated

theorem checkVariadic (allowed : Bool) {parameters : List Parameter} (placed : Within bound parameters) :
    Keeps bound (checkVariadic allowed parameters) := by
  unfold GoSource.checkVariadic
  extract_lets last misplaced numbered onward
  have checked : Keeps bound (onward ()) := by
    refine .pure ?_
    intro parameter member
    obtain ⟨entry, inside, rfl⟩ := List.mem_map.mp member
    have original := placed entry.1 (List.fst_mem_of_mem_zipIdx inside)
    split
    · exact within_spoiled original
    · exact original
  split
  · exact .bind (.fault _) fun _ _ => checked
  · exact checked

theorem readParameterList (calls : self.IsPlaced bound) {name type : Option Node} (named : Within bound name)
    (typed : Within bound type) (closing : Token) (variadic : Bool) :
    Keeps bound (readParameterList self name type closing variadic) := by
  unfold GoSource.readParameterList
  extract_lets typeParameters
  refine .bind .get fun s _ => ?_
  extract_lets start
  refine .bind (.readParameters calls closing _ named typed within_nil) fun found placed => ?_
  extract_lets named typed unnamed onward
  have finish : ∀ {parameters}, Within bound parameters → Keeps bound (do
      let parameters ← GoSource.checkVariadic variadic parameters
      return groupFields parameters) := fun placed =>
    .bind (.checkVariadic variadic placed) fun _ checked => .pure (within_groupFields checked)
  split
  · exact .pure within_nil
  split
  · have typesOnly : Within bound unnamed := by
      intro parameter member
      obtain ⟨original, inside, rfl⟩ := List.mem_map.mp member
      have given := placed original (List.mem_reverse.mp inside)
      split
      next name named => exact ⟨within_none, by rw [← named]; exact given.1⟩
      · exact given
    split
    · split
      · exact .bind .faultHere fun _ _ => finish typesOnly
      · exact .bind (.fault start) fun _ _ => finish typesOnly
    · exact finish typesOnly
  · refine .bind .position fun stop _ => ?_
    extract_lets distribution onward
    have distributed : Within bound distribution := within_foldl_add stop placed ⟨within_nil, within_none⟩
    split
    · split
      · exact .bind .faultHere fun _ _ => finish distributed.1
      · exact .bind (.fault _) fun _ _ => finish distributed.1
    · exact finish distributed.1

theorem readTypeParameters (calls : self.IsPlaced bound) : Keeps bound (readTypeParameters self) := by
  refine .bind (.expect _) fun opening _ => .bind (.sees _) fun bracket _ => ?_
  extract_lets onward
  have closed : ∀ fields, Within bound fields → Keeps bound (onward fields) := by
    intro fields placed
    refine .bind (.expect _) fun close _ => ?_
    split
    · exact .bind (.fault close) fun _ _ => .pure within_none
    · exact .pure (by simp [placed])
  split
  · exact .bind (.pure within_nil) closed
  · exact .bind (.readParameterList calls within_none within_none _ _) closed

/-- A list in parentheses is a node of fields. -/
theorem readParenthesized (calls : self.IsPlaced bound) (variadic : Bool) :
    Gives bound (readParenthesized self variadic) fun list => Within bound list ∧ list.kind = .fields := by
  refine .bind (.expect _) fun opening _ => .bind (.sees _) fun closed _ => ?_
  extract_lets onward
  have finish : ∀ fields, Within bound fields →
      Gives bound (onward fields) fun list => Within bound list ∧ list.kind = .fields := fun fields placed =>
    .bind (.expect _) fun close _ => .pure ⟨within_fieldsNode.mpr placed, rfl⟩
  split
  · exact .bind (.pure within_nil) finish
  · exact .bind (.readParameterList calls within_none within_none _ _) finish

theorem readResults (calls : self.IsPlaced bound) : Keeps bound (readResults self) := by
  refine .bind (.sees _) fun opening _ => ?_
  split
  · exact .bind (.readParenthesized calls false) fun _ results => .pure (within_some.mpr results.1)
  · refine .bind calls.type fun found placed => ?_
    cases found with
    | none => exact .pure within_none
    | some type => exact .pure (by simp [within_some.mp placed])

theorem readSignature (calls : self.IsPlaced bound) (start : Nat) : Keeps bound (readSignature self start) :=
  .bind (.readParenthesized calls true) fun _ parameters => .bind (.readResults calls) fun _ results =>
    .pure (by simp [parameters, results])

theorem readFunctionType (calls : self.IsPlaced bound) : Keeps bound (readFunctionType self) := by
  refine .bind (.expect _) fun start _ => .bind (.sees _) fun bracket _ => ?_
  split
  · refine .bind (.readTypeParameters calls) fun found _ => ?_
    cases found with
    | none => exact .readSignature calls start
    | some parameters => exact .bind (.fault _) fun _ _ => .readSignature calls start
  · exact .readSignature calls start

/-! ### Structures and interfaces -/

theorem readParenthesizedEmbedded (calls : self.IsPlaced bound) (starAllowed : Bool) :
    Keeps bound (readParenthesizedEmbedded self starAllowed) := by
  refine .bind .faultHere fun _ _ => .bind .next fun _ _ => .bind .position fun start _ =>
    .bind (.sees _) fun star _ => ?_
  extract_lets onward
  have closed : ∀ type, Within bound type → Keeps bound (onward type) := by
    intro type placed
    refine .bind (.sees _) fun paren _ => ?_
    split
    · exact .bind .next fun _ _ => .pure placed
    · exact .pure placed
  split
  · exact .bind .next fun _ _ => .bind (.readQualifiedName calls within_none) fun _ type =>
      .bind (.pure (by simp [type])) closed
  · exact .bind (.readQualifiedName calls within_none) closed

theorem readNamedField (calls : self.IsPlaced bound) : Keeps bound (readNamedField self) := by
  refine .bind .readName fun name named => .bind .token fun found _ => ?_
  split
  · exact .bind (.readQualifiedName calls (within_some.mpr named.1)) fun _ type => .pure (by simp [type])
  · exact .pure (by simp [named])
  · exact .pure (by simp [named])
  · exact .pure (by simp [named])
  · refine .bind (.many _ (.bind .next fun _ _ => .readName_keeps)) fun more names =>
      .bind (.sees _) fun bracket _ => ?_
    split
    · exact .bind (.readArrayOrInstance calls named.1) fun _ found => .pure (by simp [found.1, found.2])
    · exact .bind (.readType calls) fun _ type => .pure (by simp [named, names, type])

theorem readField (calls : self.IsPlaced bound) : Keeps bound (readField self) := by
  refine .bind .position fun start _ => .bind .token fun found _ => ?_
  extract_lets onward
  have finish : ∀ field, Within bound field → Keeps bound (onward field) := by
    rintro ⟨names, type⟩ ⟨named, typed⟩
    refine .bind (.sees _) fun tag _ => ?_
    split
    · exact .bind .next fun _ _ => .bind .expectSemicolon fun _ _ => .pure (by simp_all)
    · exact .bind .expectSemicolon fun _ _ => .pure (by simp_all)
  split
  · exact .bind (.readNamedField calls) finish
  · refine .bind .next fun _ _ => .bind (.sees _) fun paren _ => ?_
    split
    · exact .bind (.readParenthesizedEmbedded calls false) fun _ type => .bind (.pure (by simp [type])) finish
    · exact .bind (.readQualifiedName calls within_none) fun _ type => .bind (.pure (by simp [type])) finish
  · exact .bind (.readParenthesizedEmbedded calls true) fun _ type => .bind (.pure (by simp [type])) finish
  · exact .bind (.badUntil _) fun _ type => .bind (.pure (by simp [type])) finish

theorem readStructType (calls : self.IsPlaced bound) : Keeps bound (readStructType self) :=
  .bind (.expect _) fun _ _ => .bind (.expect _) fun _ _ => .bind (.many _ (.readField calls)) fun _ fields =>
    .bind (.expect _) fun _ _ => .pure (by simp [fields])

theorem readGenericElement (calls : self.IsPlaced bound) {name : Node} (placed : Within bound name) :
    Keeps bound (readGenericElement self name) := by
  refine .bind .position fun opening _ => .bind .next fun _ _ =>
    .bind (.enclosed (.readExpression calls)) fun first inner => .bind .get fun s _ => ?_
  split
  · exact .bind (.readParameterList calls (within_some.mpr inner) within_none _ _) fun _ _ =>
      .bind (.expect _) fun _ _ => .bind (.fault opening) fun _ _ => .bind (.readSignature calls _) fun _ signature =>
        .pure (by simp [placed, signature])
  · refine .bind (.goesOn _) fun more _ => ?_
    extract_lets onward
    have closed : ∀ more, Within bound more → Keeps bound (onward more) := fun more types =>
      .bind (.expectClosing _) fun close _ => .pure (by simp [placed, inner, types])
    split
    · exact .bind (.enclosed (.bind .next fun _ _ => .listUntil _ (.readType calls))) closed
    · exact .bind (.pure within_nil) closed

theorem readNamedElement (calls : self.IsPlaced bound) : Keeps bound (readNamedElement self) := by
  refine .bind (.readTypeName within_none) fun type placed => ?_
  split
  · refine .bind .token fun found _ => ?_
    split
    · exact .readGenericElement calls placed
    · exact .bind (.readSignature calls _) fun _ signature => .pure (by simp [placed, signature])
    · exact .pure (by simp [placed])
  · refine .bind (.sees _) fun bracket _ => ?_
    split
    · exact .bind (.readTypeArguments calls placed) fun _ type => .pure (by simp [type])
    · exact .pure (by simp [placed])

theorem readElement? (calls : self.IsPlaced bound) : Keeps bound (readElement? self) := by
  unfold GoSource.readElement?
  extract_lets finish
  have finished : ∀ names type, Within bound names → Within bound type → Keeps bound (finish names type) :=
    fun names type named typed => .bind .expectSemicolon fun _ _ => .pure (by simp [named, typed])
  refine .bind .token fun found _ => ?_
  split
  · refine .bind (.readNamedElement calls) fun element placed => ?_
    obtain ⟨names, type⟩ := element
    obtain ⟨named, typed⟩ := placed
    dsimp only
    split
    · exact .bind (.readTypeSet calls (within_some.mpr typed)) fun _ type => finished _ _ named type
    · exact .bind (.pure typed) fun _ type => finished _ _ named type
  · exact .bind (.readTypeSet calls within_none) fun _ type => finished _ _ within_nil type
  · refine .bind calls.type fun found placed => ?_
    cases found with
    | none => exact .pure within_none
    | some type => exact .bind (.readTypeSet calls placed) fun _ type => finished _ _ within_nil type

theorem readElements (calls : self.IsPlaced bound) (fuel : Nat) {elements : List Node}
    (placed : Within bound elements) : Keeps bound (readElements self fuel elements) := by
  induction fuel generalizing elements with
  | zero => exact .pure placed
  | succ fuel ih =>
    refine .bind (.readElement? calls) fun found inner => ?_
    cases found with
    | none => exact .pure placed
    | some element => exact .later (ih (within_cons.mpr ⟨within_some.mp inner, placed⟩))

theorem readInterfaceType (calls : self.IsPlaced bound) : Keeps bound (readInterfaceType self) :=
  .bind (.expect _) fun _ _ => .bind (.expect _) fun _ _ => .bind .get fun _ _ =>
    .bind (.readElements calls _ within_nil) fun _ elements => .bind (.expect _) fun _ _ => .pure (by simp [elements])

/-! ### The other types -/

theorem readMapType (calls : self.IsPlaced bound) : Keeps bound (readMapType self) :=
  .bind (.expect _) fun _ _ => .bind (.expect _) fun _ _ => .bind (.readType calls) fun _ key =>
    .bind (.expect _) fun _ _ => .bind (.readType calls) fun _ value => .pure (by simp [key, value])

theorem readChannelType (calls : self.IsPlaced bound) : Keeps bound (readChannelType self) := by
  refine .bind .position fun start here => .bind (.sees _) fun channel _ => ?_
  extract_lets onward
  have finish : ∀ arrow, Within bound arrow → Keeps bound (onward arrow) := fun _ _ =>
    .bind (.readType calls) fun _ value => .pure (by simp [value])
  split
  · refine .bind .next fun _ _ => .bind (.sees _) fun arrow _ => ?_
    split
    · exact .bind .position fun _ there => .bind .next fun _ _ => .bind (.pure ⟨trivial, there⟩) finish
    · exact .bind (.pure ⟨trivial, here⟩) finish
  · exact .bind (.expect _) fun _ there => .bind (.expect _) fun _ _ => .bind (.pure ⟨trivial, there⟩) finish

theorem readTypeEntry (calls : self.IsPlaced bound) : Keeps bound (readTypeEntry self) := by
  refine .nested (.bind .token fun found _ => ?_)
  split
  · exact .bind (.readQualifiedName calls within_none) fun _ type => .pure (within_some.mpr type)
  · exact .bind (.expect _) fun opening _ => .bind (.readArrayType calls opening within_none) fun _ type =>
      .pure (within_some.mpr type)
  · exact .bind (.expect _) fun _ _ => .bind (.readType calls) fun _ type => .pure (by simp [type])
  · exact .bind (.readChannelType calls) fun _ type => .pure (within_some.mpr type)
  · exact .bind .position fun _ _ => .bind .next fun _ _ => .bind (.readType calls) fun _ type =>
      .bind (.expect _) fun _ _ => .pure (by simp [type])
  · exact .bind (.readStructType calls) fun _ type => .pure (within_some.mpr type)
  · exact .bind (.readFunctionType calls) fun _ type => .pure (within_some.mpr type)
  · exact .bind (.readInterfaceType calls) fun _ type => .pure (within_some.mpr type)
  · exact .bind (.readMapType calls) fun _ type => .pure (within_some.mpr type)
  · exact .bind (.readChannelType calls) fun _ type => .pure (within_some.mpr type)
  · exact .pure within_none

end Gives

end QualityGate.GoSource
