import QualityGate.Delimiter

/-!
Matching a brace looks only at what follows it: a match found in the text after an offset is the match in the whole
text, seen from that offset. Braces that match stay open in between, so two pairs of them are nested or apart
(`Braces.stop_le`), also where the text ends before they are closed.
-/

namespace QualityGate

theorem Text.slice_append_slice (text : Text) {first middle last : Nat} (early : first ≤ middle)
    (late : middle ≤ last) :
    text.slice first middle ++ text.slice middle last = text.slice first last := by
  unfold Text.slice
  rw [show last - first = (middle - first) + (last - middle) by omega, List.take_add, List.drop_drop,
    show first + (middle - first) = middle by omega]

namespace Delimiter

theorem scan_add (opener closer : UInt8) (position shift depth : Nat) (text : Text) :
    scan opener closer (position + shift) depth text =
      ⟨(scan opener closer position depth text).stop + shift, (scan opener closer position depth text).closed⟩ := by
  induction text generalizing position depth with
  | nil => simp [scan]
  | cons b rest ih =>
    have moved : position + shift + 1 = position + 1 + shift := by omega
    simp only [scan, moved, ih]
    split
    · rfl
    · split
      · split <;> rfl
      · rfl

theorem matchBrace_eq_drop (text : Text) (start : Nat) (inside : start < text.length) :
    matchBrace text start =
      ⟨start + (matchBrace (text.drop start) 0).stop, (matchBrace (text.drop start) 0).closed⟩ := by
  have front : text.drop start = text[start] :: text.drop (start + 1) := List.drop_eq_getElem_cons inside
  have here : ¬ (start : Int) < 0 := by omega
  simp only [matchBrace, matchAt, here, Int.lt_irrefl, if_false, Int.toNat_zero, Int.toNat_natCast,
    List.drop_zero, front, Nat.zero_add]
  rw [show start + 1 = 1 + start by omega, scan_add, Nat.add_comm start]

theorem matchBrace_stop_drop (text : Text) (start : Nat) (inside : start < text.length) :
    start + (matchBrace (text.drop start) 0).stop = (matchBrace text start).stop := by
  rw [matchBrace_eq_drop text start inside]

/-! ### Where a match ends -/

/-- What a byte adds to the depth. -/
def rise (opener closer b : UInt8) : Int := if b = opener then 1 else if b = closer then -1 else 0

/-- What a text adds to the depth. -/
def climb (opener closer : UInt8) : Text → Int
  | [] => 0
  | b :: text => rise opener closer b + climb opener closer text

variable {opener closer : UInt8}

@[simp] theorem climb_nil : climb opener closer [] = 0 := rfl

@[simp] theorem climb_cons (b : UInt8) (text : Text) :
    climb opener closer (b :: text) = rise opener closer b + climb opener closer text := rfl

@[simp] theorem climb_append (front back : Text) :
    climb opener closer (front ++ back) = climb opener closer front + climb opener closer back := by
  induction front with
  | nil => simp
  | cons b front ih => rw [List.cons_append, climb_cons, ih, climb_cons, Int.add_assoc]

/-- One byte either closes the last delimiter that is open, or changes the depth by what it adds. -/
theorem scan_cons (opener closer : UInt8) (position depth : Nat) (positive : 0 < depth) (b : UInt8) (rest : Text) :
    (depth + rise opener closer b = 0 ∧
        scan opener closer position depth (b :: rest) = ⟨position + 1, true⟩) ∨
      ∃ deeper : Nat, 0 < deeper ∧ (deeper : Int) = depth + rise opener closer b ∧
        scan opener closer position depth (b :: rest) = scan opener closer (position + 1) deeper rest := by
  rw [scan, rise]
  split
  · exact .inr ⟨depth + 1, by omega, by omega, rfl⟩
  · split
    · split
      · exact .inl ⟨by omega, rfl⟩
      · exact .inr ⟨depth - 1, by omega, by omega, rfl⟩
    · exact .inr ⟨depth, positive, by omega, rfl⟩

/-- Where a scan stops: the depth stays positive until then. The match is closed if the depth is zero there; otherwise
the text has ended, and the depth is still positive. -/
theorem scan_stop (opener closer : UInt8) (position depth : Nat) (positive : 0 < depth) (text : Text) :
    ∃ taken ≤ text.length, ∃ closed, scan opener closer position depth text = ⟨position + taken, closed⟩ ∧
      (∀ fewer < taken, 0 < depth + climb opener closer (text.take fewer)) ∧
      (closed = true ∧ depth + climb opener closer (text.take taken) = 0 ∨
        closed = false ∧ taken = text.length ∧ 0 < depth + climb opener closer text) := by
  induction text generalizing position depth with
  | nil =>
    refine ⟨0, Nat.le_refl 0, false, rfl, fun _ fewer => absurd fewer (Nat.not_lt_zero _), .inr ⟨rfl, rfl, ?_⟩⟩
    rw [climb_nil]
    omega
  | cons b rest ih =>
    have before : ∀ fewer < 1, 0 < depth + climb opener closer ((b :: rest).take fewer) := by
      intro fewer less
      rw [Nat.lt_one_iff.mp less, List.take_zero, climb_nil]
      omega
    rcases scan_cons opener closer position depth positive b rest with
      ⟨balanced, closed⟩ | ⟨deeper, positive', depth', onward⟩
    · refine ⟨1, by simp, true, closed, before, .inl ⟨rfl, ?_⟩⟩
      rw [List.take_succ_cons, List.take_zero, climb_cons, climb_nil, Int.add_zero, balanced]
    · obtain ⟨taken, within, closed, found, inner, ends⟩ := ih (position + 1) deeper positive'
      refine ⟨taken + 1, by simpa using within, closed, ?_, fun fewer less => ?_, ?_⟩
      · rw [onward, found, Nat.add_assoc, Nat.add_comm 1]
      · cases fewer with
        | zero => exact before 0 Nat.one_pos
        | succ fewer =>
          have later := inner fewer (by omega)
          rw [List.take_succ_cons, climb_cons]
          omega
      · rw [List.take_succ_cons, climb_cons, climb_cons, List.length_cons]
        rcases ends with ⟨shut, balanced⟩ | ⟨unshut, all, above⟩
        · exact .inl ⟨shut, by omega⟩
        · exact .inr ⟨unshut, by omega, by omega⟩

/-- The delimiter that opens at an offset is matched: it stays open until the match stops, and there it is closed, or it
is still open and the text has ended. -/
structure Matched (opener closer : UInt8) (text : Text) (start : Nat) (found : Match) : Prop where
  nonempty : start < found.stop
  within : found.stop ≤ text.length
  inner : ∀ offset, start < offset → offset < found.stop → 0 < climb opener closer (text.slice start offset)
  ends : found.closed = true ∧ climb opener closer (text.slice start found.stop) = 0 ∨
    found.closed = false ∧ found.stop = text.length ∧ 0 < climb opener closer (text.slice start found.stop)

theorem matchAt_eq_scan {text : Text} {start : Nat} (inside : start < text.length) (opener closer : UInt8) :
    matchAt text start opener closer = scan opener closer (start + 1) 1 (text.drop (start + 1)) := by
  have here : ¬ (start : Int) < 0 := by omega
  simp only [matchAt, here, if_false, Int.toNat_natCast, List.drop_eq_getElem_cons inside]

theorem matched_matchAt (closer : UInt8) {text : Text} {start : Nat} (opens : text[start]? = some opener) :
    Matched opener closer text start (matchAt text start opener closer) := by
  obtain ⟨inside, first⟩ := List.getElem?_eq_some_iff.mp opens
  -- A piece of the text from the opener on is the opener and then what was scanned.
  have depth : ∀ taken, climb opener closer (text.slice start (start + 1 + taken)) =
      (1 : Nat) + climb opener closer ((text.drop (start + 1)).take taken) := by
    intro taken
    rw [Text.slice, List.drop_eq_getElem_cons inside, first, show start + 1 + taken - start = taken + 1 by omega,
      List.take_succ_cons, climb_cons, rise, if_pos rfl]
    rfl
  obtain ⟨taken, bound, closed, found, inner, ends⟩ :=
    scan_stop opener closer (start + 1) 1 Nat.one_pos (text.drop (start + 1))
  rw [List.length_drop] at bound
  rw [matchAt_eq_scan inside, found]
  refine ⟨by dsimp only; omega, by dsimp only; omega, fun offset after before => ?_, ?_⟩
  · obtain ⟨fewer, rfl⟩ := Nat.exists_eq_add_of_lt after
    rw [show start + fewer + 1 = start + 1 + fewer by omega, depth]
    exact inner fewer (by dsimp only at before; omega)
  · dsimp only
    rw [depth]
    refine ends.imp id fun ⟨unshut, all, above⟩ => ⟨unshut, ?_, ?_⟩
    · rw [all, List.length_drop]
      omega
    · rwa [all, List.take_length]

def openBraces (text : Text) : Int := climb (Text.byte '{') (Text.byte '}') text

theorem openBraces_append (front back : Text) : openBraces (front ++ back) = openBraces front + openBraces back :=
  climb_append front back

/-- The braces that open at an offset reach to another: they stay open up to there, and there they are closed, or the
text has ended. -/
structure Braces (text : Text) (start stop : Nat) : Prop where
  opens : text[start]? = some (Text.byte '{')
  nonempty : start < stop
  within : stop ≤ text.length
  inner : ∀ offset, start < offset → offset < stop → 0 < openBraces (text.slice start offset)
  ends : openBraces (text.slice start stop) = 0 ∨ stop = text.length

theorem braces_matchBrace {text : Text} {start : Nat} (opens : text[start]? = some (Text.byte '{')) :
    Braces text start (matchBrace text start).stop := by
  have found := matched_matchAt (Text.byte '}') opens
  exact ⟨opens, found.nonempty, found.within, found.inner, found.ends.imp And.right fun open' => open'.2.1⟩

/-- Braces that open inside others close no later: they do not overlap in part. -/
theorem Braces.stop_le {text : Text} {start stop start' stop' : Nat} (outer : Braces text start stop)
    (inner : Braces text start' stop') (after : start ≤ start') (before : start' < stop) : stop' ≤ stop := by
  refine Nat.not_lt.mp fun longer => ?_
  have open' : 0 < openBraces (text.slice start' stop) := inner.inner stop before longer
  have still : 0 < openBraces (text.slice start stop) := by
    rcases Nat.eq_or_lt_of_le after with rfl | later
    · exact open'
    · have between := outer.inner start' later before
      have split := Text.slice_append_slice text after (Nat.le_of_lt before)
      rw [← split, openBraces_append]
      omega
  have ended : stop = text.length := outer.ends.resolve_left (by omega)
  have bound := inner.within
  omega

theorem Braces.stop_unique {text : Text} {start stop stop' : Nat} (braces : Braces text start stop)
    (braces' : Braces text start stop') : stop = stop' :=
  Nat.le_antisymm (braces'.stop_le braces (Nat.le_refl start) braces'.nonempty)
    (braces.stop_le braces' (Nat.le_refl start) braces.nonempty)

end Delimiter

end QualityGate
