import Mathlib.Data.List.MinMax
import QualityGate.Detection.Attribution
import QualityGate.Proofs.Delimiter

/-!
What the two attributions compute, without their state. Sequential attribution has passed the longest beginning of
the type list that the methods so far reach; nesting attribution takes, of the types whose braces enclose the method,
the one that opens last.
-/

namespace QualityGate

def lastName (types : List TypeDeclaration) : Text := (types.getLast?.map (·.name)).getD noEnclosingType

namespace SequentialOwner

theorem advance_eq (offset : Int) (types : List TypeDeclaration) (current : Text) :
    advance offset types current =
      ⟨types.dropWhile (·.offset ≤ offset),
        ((types.takeWhile (·.offset ≤ offset)).getLast?.map (·.name)).getD current⟩ := by
  induction types generalizing current with
  | nil => rfl
  | cons type rest ih =>
    by_cases before : type.offset ≤ offset
    · simp only [advance, before, if_true, ih, List.dropWhile_cons, List.takeWhile_cons, decide_true,
        List.getLast?_cons, Option.map_some, Option.getD_some]
      cases (rest.takeWhile (·.offset ≤ offset)).getLast? <;> rfl
    · simp [advance, before]

/-- Whether a type is declared at or before one of the offsets. -/
def reached (offsets : List Int) (type : TypeDeclaration) : Bool := offsets.any (type.offset ≤ ·)

/-- The place after methods at the given offsets. -/
def after (types : List TypeDeclaration) (offsets : List Int) : SequentialOwner :=
  ⟨types.dropWhile (reached offsets), lastName (types.takeWhile (reached offsets))⟩

theorem after_nil (types : List TypeDeclaration) : after types [] = ⟨types, noEnclosingType⟩ := by
  cases types <;> rfl

/-- One more offset passes further types only if it reaches the first type that no earlier offset reached, and it is
then the largest offset so far. -/
theorem takeWhile_reached_cons (offset : Int) (offsets : List Int) (types : List TypeDeclaration) :
    types.takeWhile (reached (offset :: offsets)) =
        types.takeWhile (reached offsets) ++ (types.dropWhile (reached offsets)).takeWhile (·.offset ≤ offset) ∧
      types.dropWhile (reached (offset :: offsets)) =
        (types.dropWhile (reached offsets)).dropWhile (·.offset ≤ offset) := by
  induction types with
  | nil => exact ⟨rfl, rfl⟩
  | cons type rest ih =>
    by_cases old : reached offsets type = true
    · have still : reached (offset :: offsets) type = true := by
        simp only [reached, List.any_cons, Bool.or_eq_true] at old ⊢
        exact .inr old
      simp only [List.takeWhile_cons, List.dropWhile_cons, old, still, if_true, List.cons_append, ih, and_self]
    · rw [Bool.not_eq_true] at old
      have same : ∀ other : TypeDeclaration, type.offset ≤ offset →
          reached (offset :: offsets) other = decide (other.offset ≤ offset) := by
        intro other covers
        simp only [reached, List.any_eq_false, decide_eq_true_eq] at old
        simp only [reached, List.any_cons]
        by_cases near : other.offset ≤ offset
        · simp [near]
        · simp only [near, decide_false, Bool.false_or, List.any_eq_false, decide_eq_true_eq]
          intro earlier member within
          have := old earlier member
          omega
      by_cases covers : type.offset ≤ offset
      · have all : reached (offset :: offsets) = fun other => decide (other.offset ≤ offset) :=
          funext fun other => same other covers
        simp [old, all]
      · have new : reached (offset :: offsets) type = false := by
          simp only [reached, List.any_cons, Bool.or_eq_false_iff, decide_eq_false_iff_not]
          exact ⟨covers, old⟩
        simp [old, new, covers]

theorem reached_append (offsets : List Int) (offset : Int) :
    reached (offsets ++ [offset]) = reached (offset :: offsets) := by
  funext type
  simp [reached, Bool.or_comm]

theorem owner_after (types : List TypeDeclaration) (offsets : List Int) (offset : Int) :
    (after types offsets).owner offset = after types (offsets ++ [offset]) := by
  obtain ⟨taken, dropped⟩ := takeWhile_reached_cons offset offsets types
  simp only [owner, after, reached_append, advance_eq, taken, dropped, lastName, List.getLast?_append]
  cases ((types.dropWhile (reached offsets)).takeWhile (·.offset ≤ offset)).getLast? <;> rfl

end SequentialOwner

/-! ### Nesting -/

/-- The braces of a type: from the first opening brace at or after its declaration through the matching one, or to
the end of the text. -/
def TypeDeclaration.scope? (text : Text) (type : TypeDeclaration) : Option TypeScope :=
  (braceFrom? text type.offset.toNat).map fun (opening, _) =>
    ⟨type.name, opening, (Delimiter.matchBrace text opening).stop⟩

theorem braceFrom?_eq_some {text inside : Text} {start opening : Nat}
    (found : braceFrom? text start = some (opening, inside)) :
    opening < text.length ∧ inside = text.drop opening := by
  simp only [braceFrom?, Option.map_eq_some_iff, Prod.mk.injEq] at found
  obtain ⟨gap, position, rfl, rfl⟩ := found
  obtain ⟨bound, -⟩ := List.findIdx?_eq_some_iff_getElem.mp position
  rw [List.length_drop] at bound
  exact ⟨by omega, List.drop_drop⟩

theorem typeScopes_eq (text : Text) (types : List TypeDeclaration) :
    typeScopes text types = types.filterMap (·.scope? text) := by
  refine List.filterMap_congr fun type _ => ?_
  unfold TypeDeclaration.scope?
  cases found : braceFrom? text type.offset.toNat with
  | none => rfl
  | some brace =>
    obtain ⟨opening, inside⟩ := brace
    obtain ⟨within, rfl⟩ := braceFrom?_eq_some found
    simp only [Option.map_some, Delimiter.matchBrace_stop_drop text opening within]

theorem innermost?_eq_argmax (scopes : List TypeScope) (offset : Int) :
    innermost? scopes offset = (scopes.filter (·.encloses offset)).argmax (·.start) := by
  induction scopes using List.reverseRecOn with
  | nil => rfl
  | append_singleton scopes scope ih =>
    rw [innermost?] at ih ⊢
    rw [List.foldl_concat, ih, List.filter_append]
    by_cases around : scope.encloses offset = true
    · simp only [List.filter_cons, around, if_true, List.filter_nil, List.argmax_concat, Bool.true_and]
      cases (scopes.filter (·.encloses offset)).argmax (·.start) with
      | none => rfl
      | some found => simp only [Option.all_some, decide_eq_true_eq]
    · rw [Bool.not_eq_true] at around
      simp [around]

end QualityGate
