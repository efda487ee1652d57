import QualityGate.Proofs.GoSource.Placement.Types

/-!
Readings of expressions stay within the bound.
-/

namespace QualityGate.GoSource

open Placed (Within)

variable {bound : Nat} {self : Self}

theorem within_unparen {node : Node} (placed : Within bound node) : Within bound node.unparen := by
  fun_induction Node.unparen node with
  | case1 start stop inner ih => exact ih (within_cons.mp (within_mk.mp placed).2).1
  | case2 node => exact placed

theorem within_receivers {element : Node} (arrows : List (Nat × Nat)) (placed : Within bound element) :
    Within bound (receivers element arrows) := by
  unfold receivers
  induction arrows generalizing element with
  | nil => exact placed
  | cons arrow arrows ih => exact ih (by simp [placed])

theorem within_attachArrow (outer : List (Nat × Nat)) (arrow : Nat) {node : Node} (placed : Within bound node) :
    Within bound (attachArrow outer arrow node).1 := by
  fun_induction attachArrow outer arrow node with
  | case1 outer arrow own start stop value arrows _ _ _ ih => exact ih (within_cons.mp (within_mk.mp placed).2).1
  | case2 outer arrow own start stop value => exact within_receivers _ (within_cons.mp (within_mk.mp placed).2).1
  | case3 outer arrow direction own start stop value =>
    exact within_receivers _ (within_cons.mp (within_mk.mp placed).2).1
  | case4 outer arrow node => exact within_receivers _ placed

namespace Gives

/-! ### Blocks and function literals -/

theorem readStatements (calls : self.IsPlaced bound) : Keeps bound (readStatements self) := .many _ calls.statement

theorem readBlock (calls : self.IsPlaced bound) : Keeps bound (readBlock self) :=
  .bind (.expect _) fun _ _ => .bind (.readStatements calls) fun _ statements => .bind (.expectFound _) fun _ _ =>
    .pure (by simp [statements])

theorem readFunctionLiteral (calls : self.IsPlaced bound) : Keeps bound (readFunctionLiteral self) := by
  refine .bind (.readFunctionType calls) fun type placed => .bind (.sees _) fun brace _ => ?_
  split
  · exact .bind (.enclosed (.readBlock calls)) fun _ body => .pure (by simp [placed, body])
  · exact .pure placed

/-! ### Operands -/

theorem readOperand (calls : self.IsPlaced bound) : Keeps bound (readOperand self) := by
  refine .bind .get fun s _ => ?_
  split
  · exact .readName_keeps
  -- A literal of any kind is one token.
  iterate 5
    · exact .bind .next fun _ _ => .pure (by simp)
  · exact .bind .next fun _ _ => .bind (.enclosed (.readRightHandSide calls)) fun _ inner =>
      .bind (.expect _) fun _ _ => .pure (by simp [inner])
  · exact .readFunctionLiteral calls
  · refine .bind calls.type fun found placed => ?_
    cases found with
    | some type => exact .pure (within_some.mp placed)
    | none => exact .badUntil _

theorem readTypeAssertion (calls : self.IsPlaced bound) {x : Node} (placed : Within bound x) :
    Keeps bound (readTypeAssertion self x) := by
  refine .bind (.expect _) fun _ _ => .bind (.sees _) fun word _ => ?_
  split
  · exact .bind .next fun _ _ => .bind (.expect _) fun _ _ => .pure (by simp [placed])
  · exact .bind (.readType calls) fun _ type => .bind (.expect _) fun _ _ => .pure (by simp [placed, type])

theorem readSelection (calls : self.IsPlaced bound) {x : Node} (placed : Within bound x) :
    Keeps bound (readSelection self x) := by
  refine .bind .token fun found _ => ?_
  split
  · exact .bind .readName fun _ selected => .pure (by simp [placed, selected])
  · exact .readTypeAssertion calls placed
  · refine .bind .position fun start _ => .bind (.fault start) fun _ _ => ?_
    split
    · exact .bind .next fun _ _ => .pure (by simp [placed, blankName])
    · exact .pure (by simp [placed, blankName])

theorem readSliceBounds (calls : self.IsPlaced bound) (left : Nat) : Keeps bound (readSliceBounds self left) := by
  induction left with
  | zero => exact .pure within_nil
  | succ left ih =>
    refine .bind (.sees _) fun colon _ => ?_
    split
    · refine .bind .position fun colon here => .bind .next fun _ _ => .bind .token fun following _ => ?_
      extract_lets onward
      have more : ∀ limit, Within bound limit → Keeps bound (onward limit) := fun limit placed =>
        .bind ih fun _ more => .pure (by simp [here, placed, more])
      split
      · exact .bind (.pure within_none) more
      · exact .bind (.readRightHandSide calls) fun _ limit => .bind (.pure (within_some.mpr limit)) more
    · exact .pure within_nil

theorem readMoreArguments (calls : self.IsPlaced bound) : Keeps bound (readMoreArguments self) := by
  refine .bind (.many _ (.bind .next fun _ _ => .bind (.sees _) fun closed _ => .bind (.sees _) fun ended _ => ?_))
    fun found placed => .pure ?_
  · split
    · exact .pure within_none
    · exact .bind (.readType calls) fun _ type => .pure (within_some.mpr type)
  · intro type member
    obtain ⟨entry, inside, same⟩ := List.mem_filterMap.mp member
    exact placed entry inside type same

theorem requireBound {entry : Nat × Option Node} (placed : Within bound entry) : Keeps bound (requireBound entry) := by
  obtain ⟨colon, limit⟩ := entry
  cases limit with
  | some limit => exact .pure (within_some.mp placed.2)
  | none => exact .bind (.fault colon) fun _ _ => .pure (by simp)

theorem readIndexOrSlice (calls : self.IsPlaced bound) {x : Node} (placed : Within bound x) :
    Keeps bound (readIndexOrSlice self x) := by
  refine .bind (.expect _) fun _ _ => .bind (.sees _) fun bracket _ => ?_
  split
  · exact .bind .position fun close _ => .bind (.fault close) fun _ _ => .bind .next fun _ _ =>
      .pure (by simp [placed])
  refine .bindKeeps (.enclosed (.bind (.sees _) fun colon _ => ?_)) fun found inner => ?_
  · extract_lets onward
    have rest : ∀ first, Within bound first → Keeps bound (onward first) := by
      intro first placed
      refine .bind .token fun found _ => ?_
      split
      · exact .bind (.readSliceBounds calls 2) fun _ limits => .pure (by simp [placed, limits])
      · exact .bind (.readMoreArguments calls) fun _ more => .pure (by simp [placed, more])
      · exact .pure (by simp [placed])
    split
    · exact .bind (.pure within_none) rest
    · exact .bind (.readRightHandSide calls) fun _ first => .bind (.pure (within_some.mpr first)) rest
  · obtain ⟨first, limits, more⟩ := found
    obtain ⟨first', limits', more'⟩ := inner
    refine .bind (.expect _) fun close _ => ?_
    split
    · exact .pure (by simp_all)
    next low => exact .pure (by simp_all [(within_cons.mp limits').1.2])
    · exact .bind (.mapM (fun _ => .requireBound) _ limits') fun _ limits => .pure (by simp_all)

theorem readArguments (calls : self.IsPlaced bound) (fuel : Nat) {arguments : List Node}
    (placed : Within bound arguments) : Keeps bound (readArguments self fuel arguments) := by
  induction fuel generalizing arguments with
  | zero => exact .pure (by simp [placed])
  | succ fuel ih =>
    refine .bind (.sees _) fun closed _ => .bind (.sees _) fun ended _ => ?_
    split
    · exact .pure (by simp [placed])
    refine .bind (.readRightHandSide calls) fun argument inner => .bind (.sees _) fun spread _ => ?_
    have more : Within bound (argument :: arguments) := within_cons.mpr ⟨inner, placed⟩
    extract_lets onward
    have separated : Keeps bound (onward ()) := by
      refine .bind (.goesOn _) fun onward _ => ?_
      split
      · refine .bind .next fun _ _ => ?_
        split
        · exact .pure ⟨more, trivial⟩
        · exact .later (ih more)
      · exact .pure ⟨more, trivial⟩
    split
    · exact .bind .next fun _ _ => separated
    · exact separated

theorem readCall (calls : self.IsPlaced bound) {function : Node} (placed : Within bound function) :
    Keeps bound (readCall self function) :=
  .bind (.expect _) fun _ _ => .bind (.enclosed (.bind .get fun _ _ => .readArguments calls _ within_nil))
    fun found inner => .bind (.expectClosing _) fun _ _ => .pure (by simp [placed, inner.1])

/-! ### Composite literals -/

theorem readValue (calls : self.IsPlaced bound) : Keeps bound (readValue self) := by
  refine .bind (.sees _) fun brace _ => ?_
  split
  · exact calls.literalValue within_none
  · exact .readExpression calls

theorem readCompositeElement (calls : self.IsPlaced bound) : Keeps bound (readCompositeElement self) := by
  refine .bind (.readValue calls) fun x placed => .bind (.sees _) fun colon _ => ?_
  split
  · exact .bind .next fun _ _ => .bind (.readValue calls) fun _ value => .pure (by simp [placed, value])
  · exact .pure placed

theorem readLiteralValue (calls : self.IsPlaced bound) {type : Option Node} (placed : Within bound type) :
    Keeps bound (readLiteralValue self type) := by
  refine .nested (.bind (.expect _) fun opening _ => .bindKeeps (.enclosed (.bind (.sees _) fun brace _ => ?_))
    fun elements inner => .bind (.expectClosing _) fun close _ => .pure (by simp [placed, inner]))
  split
  · exact .pure within_nil
  · exact .listUntil _ (.readCompositeElement calls)

/-! ### Expressions -/

theorem readSuffixes (calls : self.IsPlaced bound) (fuel : Nat) {x : Node} (placed : Within bound x) :
    Keeps bound (readSuffixes self fuel x) := by
  induction fuel generalizing x with
  | zero => exact .pure placed
  | succ fuel ih =>
    refine .bind .descend fun _ _ => .bind .token fun found _ => ?_
    split
    · exact .bind .next fun _ _ => .bind (.readSelection calls placed) fun _ x => .later (ih x)
    · exact .bind (.readIndexOrSlice calls placed) fun _ x => .later (ih x)
    · exact .bind (.readCall calls placed) fun _ x => .later (ih x)
    · refine .bind .get fun s _ => ?_
      split
      · have literal := calls.literalValue (within_some.mpr placed)
        split
        · exact .bind (.fault _) fun _ _ => .bind literal fun _ x => .later (ih x)
        · exact .bind literal fun _ x => .later (ih x)
      · exact .pure placed
    · exact .pure placed

theorem readPrimary (calls : self.IsPlaced bound) {begun : Option Node} (placed : Within bound begun) :
    Keeps bound (readPrimary self begun) := by
  cases begun with
  | some x =>
    exact .bind (.pure (within_some.mp placed)) fun _ x =>
      .keepingDepth (.bind .get fun _ _ => .readSuffixes calls _ x)
  | none =>
    exact .bind (.readOperand calls) fun _ x => .keepingDepth (.bind .get fun _ _ => .readSuffixes calls _ x)

theorem readUnary (calls : self.IsPlaced bound) : Keeps bound (readUnary self) := by
  refine .nested (.bind .position fun start _ => .bind .token fun found _ => ?_)
  split
  -- The signs are read alike.
  iterate 6
    · exact .bind .token fun _ _ => .bind .next fun _ _ => .bind calls.unary fun _ x => .pure (by simp [x])
  · refine .bind .next fun _ _ => .bind calls.unary fun x placed => ?_
    split
    · have attached := within_attachArrow [] start placed
      dsimp only
      split
      · exact .bind (.fault _) fun _ _ => .pure attached
      · exact .pure attached
    · exact .pure (by simp [placed])
  · exact .bind .next fun _ _ => .bind calls.unary fun _ x => .pure (by simp [x])
  · exact .readPrimary calls within_none

theorem readOperators (calls : self.IsPlaced bound) (precedence fuel : Nat) {x : Node} (placed : Within bound x) :
    Keeps bound (readOperators self precedence fuel x) := by
  induction fuel generalizing x with
  | zero => exact .pure placed
  | succ fuel ih =>
    refine .bind .descend fun _ _ => .bind .get fun s _ => ?_
    dsimp only
    split
    · exact .pure placed
    · exact .bind (.expect _) fun _ _ => .bind (calls.expression _) fun _ y => .later (ih (by simp [placed, y]))

theorem readBinary (calls : self.IsPlaced bound) {begun : Option Node} (placed : Within bound begun)
    (precedence : Nat) : Keeps bound (readBinary self begun precedence) := by
  cases begun with
  | some x =>
    exact .bind (.pure (within_some.mp placed)) fun _ x =>
      .keepingDepth (.bind .get fun _ _ => .readOperators calls precedence _ x)
  | none =>
    exact .bind calls.unary fun _ x => .keepingDepth (.bind .get fun _ _ => .readOperators calls precedence _ x)

theorem readExpressions (calls : self.IsPlaced bound) (side : Bool) : Keeps bound (readExpressions self side) :=
  .onSide side (.oneOrMore (.readExpression calls))

end Gives

end QualityGate.GoSource
