import QualityGate.GoSource.Statements

/-!
The places that a reading speaks of are places of lexemes. `Placed` says of each kind of result what it is to lie within
a bound, and `Gives` is the logic of it: a reading that begins within the bound goes on there, and its result is as
stated. It has one rule for each way in which readings are put together.

Of a tree only declarations matter: a declared type and a function start within the bound, and the receiver of a
function is the base name of the type in its receiver list.
-/

namespace QualityGate.GoSource

/-- Values that speak of places in a text. -/
class Placed (α : Type) where
  Within (bound : Nat) (a : α) : Prop

open Placed (Within)

/-! ### Trees -/

/-- The type of the receiver among the parts of a function: that of the first field of a list in front. -/
def receiverType? : List Node → Option Node
  | .mk .fields _ _ (field :: _) :: _ => field.parts.getLast?
  | _ => none

/-- What holds of a declaration with these parts. -/
def Kind.Admits (bound start : Nat) (parts : List Node) : Kind → Prop
  | .function _ receiver _ => start ≤ bound ∧ receiver.getD [] = ((receiverType? parts).map Node.baseName).getD []
  | .typeDeclaration _ _ => start ≤ bound
  | _ => True

/-- Every declaration in the tree is admitted. -/
inductive Node.IsPlaced (bound : Nat) : Node → Prop where
  | mk {kind : Kind} {start stop : Nat} {parts : List Node} (admitted : kind.Admits bound start parts)
      (inner : ∀ part ∈ parts, part.IsPlaced bound) : IsPlaced bound (.mk kind start stop parts)

instance : Placed Node := ⟨Node.IsPlaced⟩

instance : Placed Nat := ⟨fun bound place => place ≤ bound⟩

instance : Placed State := ⟨fun bound s => s.position ≤ bound ∧ ∀ lexeme ∈ s.rest, lexeme.start ≤ bound⟩

instance : Placed Unit := ⟨fun _ _ => True⟩

instance : Placed Bool := ⟨fun _ _ => True⟩

instance : Placed Token := ⟨fun _ _ => True⟩

instance : Placed Direction := ⟨fun _ _ => True⟩

section

variable {α β : Type} [Placed α] [Placed β] {bound : Nat}

instance : Placed (Option α) := ⟨fun bound found => ∀ a ∈ found, Within bound a⟩

instance : Placed (List α) := ⟨fun bound items => ∀ a ∈ items, Within bound a⟩

instance : Placed (α × β) := ⟨fun bound pair => Within bound pair.1 ∧ Within bound pair.2⟩

@[simp] theorem within_bool (b : Bool) : Within bound b := trivial

@[simp] theorem within_pair {a : α} {b : β} : Within bound (a, b) ↔ Within bound a ∧ Within bound b := Iff.rfl

@[simp] theorem within_none : Within bound (none : Option α) := by simp [Within]

@[simp] theorem within_some {a : α} : Within bound (some a) ↔ Within bound a := by simp [Within]

@[simp] theorem within_nil : Within bound ([] : List α) := List.forall_mem_nil _

@[simp] theorem within_cons {a : α} {items : List α} :
    Within bound (a :: items) ↔ Within bound a ∧ Within bound items := List.forall_mem_cons

@[simp] theorem within_append {items more : List α} :
    Within bound (items ++ more) ↔ Within bound items ∧ Within bound more := List.forall_mem_append

@[simp] theorem within_reverse {items : List α} : Within bound items.reverse ↔ Within bound items := by simp [Within]

@[simp] theorem within_toList {found : Option α} : Within bound found.toList ↔ Within bound found := by simp [Within]

theorem within_of_subset {items more : List α} (inside : items ⊆ more) (placed : Within bound more) :
    Within bound items := fun a member => placed a (inside member)

@[simp] theorem within_mk {kind : Kind} {start stop : Nat} {parts : List Node} :
    Within bound (Node.mk kind start stop parts) ↔ kind.Admits bound start parts ∧ Within bound parts := by
  constructor
  · intro placed
    cases placed with
    | mk admitted inner => exact ⟨admitted, inner⟩
  · rintro ⟨admitted, inner⟩
    exact .mk admitted inner

theorem within_parts {node : Node} (placed : Within bound node) : Within bound node.parts := by
  cases placed with
  | mk admitted inner => exact inner

end

attribute [simp] Kind.Admits

theorem within_next {bound : Nat} {s : State} (placed : Within bound s) : Within bound s.next := by
  unfold State.next
  split
  · exact placed
  next lexeme rest ahead =>
    have places := placed.2
    rw [ahead, List.forall_mem_cons] at places
    exact places

theorem within_skipTo {bound : Nat} (stops : Token → Bool) (fuel taken : Nat) {s : State} (placed : Within bound s) :
    Within bound (s.skipTo stops fuel taken).2 := by
  induction fuel generalizing taken s with
  | zero => exact placed
  | succ fuel ih =>
    unfold State.skipTo
    split
    · exact placed
    split
    · split
      · exact placed
      split
      · exact placed
      · exact ih (taken + 1) (within_next placed)
    · exact ih (taken + 1) (within_next placed)

/-! ### Readings -/

/-- Wherever the reading comes to its end, its declarations and its state are within the bound. -/
def Progress.IsPlaced (bound : Nat) : Progress → Prop
  | finished declarations s => Within bound declarations ∧ Within bound s
  | abandoned => True
  | paused resume => (resume ()).IsPlaced bound
  | taking _ resume => (resume ()).IsPlaced bound
  | faulty _ resume => (resume ()).IsPlaced bound

theorem Progress.IsPlaced.of_run {bound : Nat} {lines : LineTable} {p : Progress} (placed : p.IsPlaced bound)
    {a b : Account} {nodes : List Node} {s : State} (run : p.run lines a = some (nodes, s, b)) :
    Within bound nodes ∧ Within bound s := by
  induction p generalizing a with
  | finished =>
    cases run
    exact placed
  | abandoned => cases run
  | paused resume ih => exact ih () placed run
  | taking count resume ih => exact ih () placed run
  | faulty position resume ih =>
    unfold Progress.run at run
    split at run
    · exact ih () placed run
    split at run
    · cases run
    · exact ih () placed run

instance : LawfulMonad Reading := LawfulMonad.mk' Reading (fun _ => rfl) (fun _ _ => rfl) (fun _ _ _ => rfl)

/-- From within the bound, whatever comes after results of this kind stays there if the reading comes before it. -/
def Gives {α : Type} (bound : Nat) (r : Reading α) (post : α → Prop) : Prop :=
  ∀ s after, Within bound s → (∀ a s', post a → Within bound s' → (after a s').IsPlaced bound) →
    (r s after).IsPlaced bound

/-- The result of the reading is within the bound. -/
abbrev Keeps {α : Type} [Placed α] (bound : Nat) (r : Reading α) : Prop := Gives bound r (Within bound)

namespace Gives

variable {α β : Type} {bound : Nat}

section

variable {r : Reading α} {f : α → Reading β} {p p' : α → Prop} {q : β → Prop}

theorem pure {a : α} (holds : p a) : Gives bound (Pure.pure a : Reading α) p :=
  fun s _ placed onward => onward a s holds placed

theorem bind (first : Gives bound r p) (second : ∀ a, p a → Gives bound (f a) q) : Gives bound (r >>= f) q :=
  fun s after placed onward => first s _ placed fun a s' holds placed' => second a holds s' after placed' onward

/-- The rule for a first reading whose result is only known to be within the bound. -/
theorem bindKeeps [Placed α] (first : Keeps bound r) (second : ∀ a, Within bound a → Gives bound (f a) q) :
    Gives bound (r >>= f) q := .bind first second

theorem imp (gives : Gives bound r p) (weaker : ∀ a, p a → p' a) : Gives bound r p' :=
  fun s after placed onward => gives s after placed fun a s' holds => onward a s' (weaker a holds)

theorem later (gives : Gives bound r p) : Gives bound r.later p :=
  fun s after placed onward => gives s after placed onward

theorem apart (gives : Gives bound r p) : Gives bound r.apart p :=
  fun s _ placed onward => gives s _ placed fun a s' holds placed' => onward a s' holds placed'

theorem giveUp : Gives bound (giveUp : Reading α) p := fun _ _ _ _ => trivial

end

theorem get : Keeps bound (get : Reading State) := fun s _ placed onward => onward s s placed placed

theorem modify {f : State → State} (kept : ∀ s, Within bound s → Within bound (f s)) :
    Keeps bound (modify f : Reading Unit) := fun s _ placed onward => onward () (f s) trivial (kept s placed)

theorem fault (place : Nat) : Keeps bound (fault place) := fun s _ placed onward => onward () s trivial placed

theorem next : Keeps bound next := fun s _ placed onward => onward () s.next trivial (within_next placed)

theorem advance (stops : Token → Bool) : Keeps bound (advance stops) :=
  fun s _ placed onward => onward () (s.skipTo stops (s.size + 2) 0).2 trivial (within_skipTo stops _ 0 placed)

theorem token : Keeps bound token := fun s _ placed onward => onward s.token s trivial placed

theorem position : Keeps bound position := fun s _ placed onward => onward s.position s placed.1 placed

theorem faultHere : Keeps bound faultHere := .bind .position fun place _ => .fault place

theorem sees (wanted : Token) : Keeps bound (sees wanted) := .bind .token fun _ _ => .pure trivial

theorem expect (wanted : Token) : Keeps bound (expect wanted) := by
  refine .bind .position fun start placed => .bind .token fun found _ => ?_
  split
  · exact .bind (.fault start) fun _ _ => .bind .next fun _ _ => .pure placed
  · exact .bind .next fun _ _ => .pure placed

theorem expectFound (wanted : Token) : Keeps bound (expectFound wanted) := by
  refine .bind .position fun start placed => .bind (.sees wanted) fun found _ => ?_
  cases found with
  | false => exact .bind (.fault start) fun _ _ => .bind .next fun _ _ => .pure within_none
  | true => exact .bind .next fun _ _ => .pure (within_some.mpr placed)

theorem expectClosing (wanted : Token) : Keeps bound (expectClosing wanted) := by
  refine .bind .get fun s _ => ?_
  split
  · exact .bind .faultHere fun _ _ => .bind .next fun _ _ => .expect wanted
  · exact .expect wanted

theorem goesOn (closing : Token) : Keeps bound (goesOn closing) := by
  refine .bind (.sees .comma) fun comma _ => ?_
  split
  · exact .pure trivial
  refine .bind (.sees closing) fun closed _ => ?_
  split
  · exact .pure trivial
  · exact .bind .faultHere fun _ _ => .pure trivial

theorem expectSemicolon : Keeps bound expectSemicolon := by
  refine .bind .token fun found _ => ?_
  split
  · exact .pure trivial
  · exact .pure trivial
  · exact .bind .faultHere fun _ _ => .next
  · exact .next
  · exact .bind .faultHere fun _ _ => .advance startsStatement

theorem descend : Keeps bound descend := by
  refine .bind (.modify fun s placed => placed) fun _ _ => .bind .get fun s _ => ?_
  split
  · exact .bind .faultHere fun _ _ => .giveUp
  · exact .pure trivial

section

variable {body : Reading α} {p : α → Prop}

theorem nested (gives : Gives bound body p) : Gives bound (nested body) p :=
  .bind .descend fun _ _ => .bind gives fun _ holds => .bind (.modify fun _ placed => placed) fun _ _ => .pure holds

theorem keepingDepth (gives : Gives bound body p) : Gives bound (keepingDepth body) p :=
  .bind .get fun _ _ => .bind gives fun _ holds => .bind (.modify fun _ placed => placed) fun _ _ => .pure holds

theorem enclosed (gives : Gives bound body p) : Gives bound (enclosed body) p :=
  .bind (.modify fun _ placed => placed) fun _ _ => .bind gives fun _ holds =>
    .bind (.modify fun _ placed => placed) fun _ _ => .pure holds

theorem inHead (gives : Gives bound body p) : Gives bound (inHead body) p :=
  .bind .get fun _ _ => .bind (.modify fun _ placed => placed) fun _ _ => .bind gives fun _ holds =>
    .bind (.modify fun _ placed => placed) fun _ _ => .pure holds

theorem onSide (side : Bool) (gives : Gives bound body p) : Gives bound (onSide side body) p :=
  .bind .get fun _ _ => .bind (.modify fun _ placed => placed) fun _ _ => .bind gives fun _ holds =>
    .bind (.modify fun _ placed => placed) fun _ _ => .pure holds

end

section

variable [Placed α] {item : Reading α}

theorem whileReading (test : State → Bool) (each : Keeps bound item) (fuel : Nat) {items : List α}
    (placed : Within bound items) : Keeps bound (whileReading test item fuel items) := by
  induction fuel generalizing items with
  | zero => exact .pure placed
  | succ fuel ih =>
    refine .bind .get fun s _ => ?_
    split
    · exact .bind each fun found inside => .later (ih (within_cons.mpr ⟨inside, placed⟩))
    · exact .pure placed

theorem many (test : State → Bool) (each : Keeps bound item) : Keeps bound (many test item) :=
  .bind .get fun _ _ => .bind (.whileReading test each _ within_nil) fun _ placed =>
    .pure (within_reverse.mpr placed)

theorem commaSeparated (closing : Token) (each : Keeps bound item) (fuel : Nat) {items : List α}
    (placed : Within bound items) : Keeps bound (commaSeparated closing item fuel items) := by
  induction fuel generalizing items with
  | zero => exact .pure placed
  | succ fuel ih =>
    refine .bind (.sees closing) fun closed _ => .bind (.sees .endOfFile) fun ended _ => ?_
    split
    · exact .pure placed
    refine .bind each fun found inside => .bind (.goesOn closing) fun onward _ => ?_
    have more := within_cons.mpr ⟨inside, placed⟩
    split
    · exact .bind .next fun _ _ => .later (ih more)
    · exact .pure more

theorem listUntil (closing : Token) (each : Keeps bound item) : Keeps bound (listUntil closing item) :=
  .bind .get fun _ _ => .bind (.commaSeparated closing each _ within_nil) fun _ placed =>
    .pure (within_reverse.mpr placed)

theorem oneOrMore (each : Keeps bound item) : Keeps bound (oneOrMore item) :=
  .bind each fun _ first => .bind (.many _ (.bind .next fun _ _ => each)) fun _ more =>
    .pure (within_cons.mpr ⟨first, more⟩)

theorem mapM {γ : Type} [Placed γ] {f : γ → Reading α} (each : ∀ c, Within bound c → Keeps bound (f c)) (cs : List γ)
    (placed : Within bound cs) : Keeps bound (cs.mapM f) := by
  induction cs with
  | nil => exact .pure within_nil
  | cons c cs ih =>
    rw [List.mapM_cons]
    obtain ⟨first, rest⟩ := within_cons.mp placed
    exact .bind (each c first) fun _ head => .bind (ih rest) fun _ tail => .pure (within_cons.mpr ⟨head, tail⟩)

end

/-- A name is read as an identifier that starts here, even where it is missing. -/
theorem readName : Gives bound readName fun name => Within bound name ∧ name.name?.isSome ∧ name.start ≤ bound := by
  refine .bind .get fun s placed => ?_
  split
  · exact .bind .next fun _ _ => .pure ⟨by simp, rfl, placed.1⟩
  · exact .bind (.expect _) fun _ _ => .pure ⟨by simp, rfl, placed.1⟩

theorem readName_keeps : Keeps bound GoSource.readName := .imp .readName fun _ => And.left

theorem badUntil (stops : Token → Bool) : Keeps bound (badUntil stops) :=
  .bind .position fun start _ => .bind (.fault start) fun _ _ => .bind (.advance stops) fun _ _ =>
    .bind .position fun _ _ => .pure (by simp)

end Gives

end QualityGate.GoSource
