import Mathlib.Order.Bounds.Basic
import QualityGate.Proofs.Detection.Nesting

/-!
The body of a method is exactly the balanced text from its first opening brace on. Depth is an account of the two
counts, so where the depth first comes back to zero, as many delimiters have closed as have opened, and nowhere before.
-/

namespace QualityGate

namespace Delimiter

variable {opener closer : UInt8} {text : Text} {start : Nat} {found : Match}

/-- As many delimiters close as open between an offset and a later one. -/
def Levels (opener closer : UInt8) (text : Text) (start stop : Nat) : Prop :=
  start < stop ∧ stop ≤ text.length ∧ (text.slice start stop).count opener = (text.slice start stop).count closer

def Rises (opener closer : UInt8) (text : Text) (start stop : Nat) : Prop :=
  (text.slice start stop).count closer < (text.slice start stop).count opener

/-- A match by counting alone: it is closed exactly if the counts come level somewhere after its start, and then it
stops where they first do; otherwise it is the rest of the text. -/
structure Exact (opener closer : UInt8) (text : Text) (start : Nat) (found : Match) : Prop where
  nonempty : start < found.stop
  within : found.stop ≤ text.length
  closed_iff : found.closed = true ↔ ∃ stop, Levels opener closer text start stop
  closed : found.closed = true →
    IsLeast {stop | Levels opener closer text start stop} found.stop ∧ text[found.stop - 1]? = some closer ∧
      ∀ stop, start < stop → stop < found.stop → Rises opener closer text start stop
  unclosed : found.closed = false →
    found.stop = text.length ∧ ∀ stop, start < stop → stop ≤ found.stop → Rises opener closer text start stop

theorem climb_eq_count (different : opener ≠ closer) (text : Text) :
    climb opener closer text = text.count opener - text.count closer := by
  induction text with
  | nil => rfl
  | cons b text ih =>
    rw [climb_cons, ih, rise, List.count_cons, List.count_cons]
    by_cases opens : b = opener
    · simp only [opens, different, if_true, beq_self_eq_true, beq_iff_eq, if_false]
      omega
    · by_cases closes : b = closer
      · simp only [closes, different.symm, if_true, beq_self_eq_true, beq_iff_eq, if_false]
        omega
      · simp only [opens, closes, beq_iff_eq, if_false]
        omega

theorem rises_iff (different : opener ≠ closer) {stop : Nat} :
    Rises opener closer text start stop ↔ 0 < climb opener closer (text.slice start stop) := by
  rw [Rises, climb_eq_count different]
  omega

theorem levels_iff (different : opener ≠ closer) {stop : Nat} :
    Levels opener closer text start stop ↔
      start < stop ∧ stop ≤ text.length ∧ climb opener closer (text.slice start stop) = 0 := by
  rw [Levels, climb_eq_count different]
  omega

theorem eq_closer_of_rise_neg {b : UInt8} (falls : rise opener closer b < 0) : b = closer := by
  unfold rise at falls
  split at falls
  · omega
  · split at falls
    · assumption
    · omega

theorem climb_slice_succ {last : Nat} {b : UInt8} (after : start ≤ last) (here : text[last]? = some b) :
    climb opener closer (text.slice start (last + 1)) =
      climb opener closer (text.slice start last) + rise opener closer b := by
  obtain ⟨bound, rfl⟩ := List.getElem?_eq_some_iff.mp here
  have single : text.slice last (last + 1) = [text[last]] := by
    rw [Text.slice, Nat.add_sub_cancel_left, List.drop_eq_getElem_cons bound, List.take_succ_cons, List.take_zero]
  rw [← Text.slice_append_slice text after (Nat.le_succ last), climb_append, single, climb_cons, climb_nil,
    Int.add_zero]

/-- Until the counts are level the first delimiter is open, so what levels them is a closer. -/
theorem Matched.closes (matched : Matched opener closer text start found) (opens : text[start]? = some opener)
    (level : climb opener closer (text.slice start found.stop) = 0) : text[found.stop - 1]? = some closer := by
  have within := matched.within
  have nonempty := matched.nonempty
  obtain ⟨last, stop⟩ : ∃ last, found.stop = last + 1 := ⟨found.stop - 1, by omega⟩
  have here : text[last]? = some text[last] := List.getElem?_eq_getElem (by omega)
  rw [stop, climb_slice_succ (by omega) here] at level
  rw [stop, Nat.add_sub_cancel, here]
  rcases Nat.eq_or_lt_of_le (show start ≤ last by omega) with rfl | before
  · -- The opener alone is not level.
    obtain same := Option.some.inj (here.symm.trans opens)
    rw [Text.slice, Nat.sub_self, List.take_zero, climb_nil, same, rise, if_pos rfl] at level
    omega
  · have above := matched.inner last before (by omega)
    rw [eq_closer_of_rise_neg (show rise opener closer text[last] < 0 by omega)]

theorem Matched.exact (different : opener ≠ closer) (opens : text[start]? = some opener)
    (matched : Matched opener closer text start found) : Exact opener closer text start found := by
  have inner : ∀ stop, start < stop → stop < found.stop → Rises opener closer text start stop :=
    fun stop after before => (rises_iff different).mpr (matched.inner stop after before)
  -- The counts are not level before the match stops.
  have least : ∀ stop, Levels opener closer text start stop → found.stop ≤ stop := by
    intro stop level
    obtain ⟨after, -, level⟩ := (levels_iff different).mp level
    refine Nat.not_lt.mp fun before => ?_
    have above := matched.inner stop after before
    omega
  rcases matched.ends with ⟨closed, level⟩ | ⟨unclosed, ended, above⟩
  · have stops : Levels opener closer text start found.stop :=
      (levels_iff different).mpr ⟨matched.nonempty, matched.within, level⟩
    exact
      { nonempty := matched.nonempty
        within := matched.within
        closed_iff := ⟨fun _ => ⟨found.stop, stops⟩, fun _ => closed⟩
        closed := fun _ => ⟨⟨stops, least⟩, matched.closes opens level, inner⟩
        unclosed := fun unclosed => absurd (closed.symm.trans unclosed) (by simp) }
  · have all : ∀ stop, start < stop → stop ≤ found.stop → Rises opener closer text start stop := by
      intro stop after until'
      rcases Nat.eq_or_lt_of_le until' with rfl | before
      · exact (rises_iff different).mpr above
      · exact inner stop after before
    have never : ¬ ∃ stop, Levels opener closer text start stop := by
      rintro ⟨stop, after, within, level⟩
      have more := all stop after (ended ▸ within)
      rw [Rises, level] at more
      exact Nat.lt_irrefl _ more
    exact
      { nonempty := matched.nonempty
        within := matched.within
        closed_iff := ⟨fun closed => absurd (closed.symm.trans unclosed) (by simp), fun level => absurd level never⟩
        closed := fun closed => absurd (closed.symm.trans unclosed) (by simp)
        unclosed := fun _ => ⟨ended, all⟩ }

theorem exact_matchAt (different : opener ≠ closer) (opens : text[start]? = some opener) :
    Exact opener closer text start (matchAt text start opener closer) :=
  (matched_matchAt closer opens).exact different opens

end Delimiter

namespace MethodDeclaration

variable {text : Text} {declaration : MethodDeclaration} {body : MethodBody}

/-- An opening brace where a body may start. -/
def MayOpen (text : Text) (declaration : MethodDeclaration) (position : Nat) : Prop :=
  declaration.searchStart ≤ position ∧ text[position]? = some (Text.byte '{')

theorem body?_eq_some (found : declaration.body? text = some body) :
    0 ≤ declaration.searchStart ∧ IsLeast {position | declaration.MayOpen text position} body.start ∧
      body.text = text.slice body.start body.stop ∧
      (⟨body.stop, body.closed⟩ : Delimiter.Match) = Delimiter.matchBrace text body.start := by
  unfold body? at found
  dsimp only at found
  split at found
  · cases found
  · rename_i inside
    obtain ⟨⟨opening, rest⟩, first, rfl⟩ := Option.map_eq_some_iff.mp found
    obtain ⟨after, before, opens, rfl⟩ := braceFrom?_eq_some_iff.mp first
    obtain ⟨bound, -⟩ := List.getElem?_eq_some_iff.mp opens
    refine ⟨by omega, ⟨⟨by dsimp only; omega, opens⟩, fun position ⟨late, opens'⟩ => ?_⟩, ?_, ?_⟩
    · exact Nat.not_lt.mp fun earlier => before position (by omega) earlier opens'
    · dsimp only [Text.slice]
      rw [Nat.add_sub_cancel_left]
    · exact (Delimiter.matchBrace_eq_drop text opening bound).symm

theorem body?_eq_none_iff :
    declaration.body? text = none ↔
      declaration.searchStart < 0 ∨ text.length ≤ declaration.searchStart ∨
        ∀ position, ¬ declaration.MayOpen text position := by
  constructor
  · intro none
    by_cases negative : declaration.searchStart < 0
    · exact .inl negative
    · refine .inr (.inr fun position ⟨after, opens⟩ => ?_)
      have there : Text.byte '{' ∈ text.drop declaration.searchStart.toNat := by
        refine List.mem_of_getElem? (i := position - declaration.searchStart.toNat) ?_
        rw [List.getElem?_drop, Nat.add_sub_of_le (by omega), opens]
      simp only [body?, negative, if_false, braceFrom?, Option.map_eq_none_iff, List.findIdx?_eq_none_iff,
        decide_eq_false_iff_not] at none
      exact absurd rfl (none _ there)
  · intro outside
    cases found : declaration.body? text with
    | none => rfl
    | some body =>
      obtain ⟨inside, ⟨opening, -⟩, -⟩ := body?_eq_some found
      obtain ⟨bound, -⟩ := List.getElem?_eq_some_iff.mp opening.2
      have after := opening.1
      rcases outside with negative | beyond | never
      · omega
      · omega
      · exact absurd opening (never _)

/-- A declaration has no body exactly if the search starts outside the text or meets no opening brace. Its body starts
at the first one and is an exact match of curly braces; so is every match of two different delimiters. -/
theorem body?_balanced (text : Text) (declaration : MethodDeclaration) :
    (declaration.body? text = none ↔
        declaration.searchStart < 0 ∨ text.length ≤ declaration.searchStart ∨
          ∀ position, ¬ declaration.MayOpen text position) ∧
      (∀ body, declaration.body? text = some body →
        IsLeast {position | declaration.MayOpen text position} body.start ∧
          body.text = text.slice body.start body.stop ∧
          Delimiter.Exact (Text.byte '{') (Text.byte '}') text body.start ⟨body.stop, body.closed⟩) ∧
      ∀ opener closer : UInt8, opener ≠ closer → ∀ start : Nat, text[start]? = some opener →
        Delimiter.Exact opener closer text start (Delimiter.matchAt text start opener closer) := by
  refine ⟨body?_eq_none_iff, fun body found => ?_, fun opener closer different start opens =>
    Delimiter.exact_matchAt different opens⟩
  obtain ⟨-, least, piece, same⟩ := body?_eq_some found
  refine ⟨least, piece, ?_⟩
  rw [same]
  exact Delimiter.exact_matchAt (by decide) least.1.2

/-- A closed body before more text, and a round bracket that the same text leaves open. -/
theorem body?_balanced_before_rest :
    let text : Text := "f(x\x7by\x7b\x7dz\x7dw\x7d"
    let declaration : MethodDeclaration := { name := "f", offset := 0 }
    ∃ body, declaration.body? text = some body ∧ body.start = 3 ∧ body.stop = 9 ∧ body.closed = true ∧
      Delimiter.Exact (Text.byte '{') (Text.byte '}') text 3 ⟨9, true⟩ ∧
      Delimiter.Exact (Text.byte '(') (Text.byte ')') text 1 ⟨11, false⟩ := by
  intro text declaration
  obtain ⟨-, law, laws⟩ := body?_balanced text declaration
  have found : declaration.body? text = some ⟨"\x7by\x7b\x7dz\x7d", 3, 9, true⟩ := by decide
  exact ⟨_, found, rfl, rfl, rfl, (law _ found).2.2, laws (Text.byte '(') (Text.byte ')') (by decide) 1 (by decide)⟩

end MethodDeclaration

end QualityGate
