import Mathlib.Data.List.Forall2
import QualityGate.Proofs.Detection.Nesting
import QualityGate.Proofs.Detection.Violations
import QualityGate.Proofs.Masking.Steps

/-!
Masking keeps the geometry of a text. A step takes at least one byte and no more than there are, so masking is the
work of a cursor that comes to the end of the text and blanks bytes of a copy in place (`maskInPlace_eq`). A byte is
kept, or it becomes a space and was no line break; line numbers and line counts of the masked text are those of the
text.
-/

namespace QualityGate

namespace Masking

open Text (byte doubleQuote)

/-! ### The width of a step -/

/-- A width that a step can have: at least one byte, and none that are not there. -/
abbrev Fits (text : Text) (width : Nat) : Prop := 1 ≤ width ∧ width ≤ text.length

theorem fits_one {text : Text} (nonempty : text ≠ []) : Fits text 1 :=
  ⟨Nat.le_refl 1, List.length_pos_iff.mpr nonempty⟩

theorem fits_two {text : Text} {second : UInt8} (there : text.tail.head? = some second) : Fits text 2 := by
  match text, there with
  | _ :: _ :: _, _ => simp [Fits]

theorem fits_quoteRun {text : Text} {count : Nat} (positive : 1 ≤ count) (run : count ≤ quoteRun text) :
    Fits text (quoteRun text) :=
  ⟨Nat.le_trans positive run, (List.takeWhile_prefix _).length_le⟩

theorem fits_textBlock {text : Text} (starts : startsTextBlock text = true) : Fits text 3 := by
  have run := (startsTextBlock_iff text).mp starts
  have bound := (fits_quoteRun (by omega) run).2
  exact ⟨by omega, by omega⟩

theorem one_le_quoteRun {text : Text} (first : text.head? = some doubleQuote) : 1 ≤ quoteRun text := by
  match text, first with
  | b :: rest, first =>
    rw [List.head?_cons, Option.some.injEq] at first
    rw [first, quoteRun_quote]
    omega

theorem fits_enter (rules : Rules) {text : Text} (nonempty : text ≠ []) : Fits text (enter rules text).width := by
  unfold enter
  dsimp only
  split
  next comment => exact fits_two comment.2.2
  split
  next comment => exact fits_two comment.2.2
  split
  next raw => exact fits_quoteRun (by omega) raw.2
  split
  next block => exact fits_textBlock block.2
  split
  next verbatim => exact fits_two verbatim.2.2
  split
  · exact fits_one nonempty
  split
  · exact fits_one nonempty
  split
  · exact fits_one nonempty
  · exact fits_one nonempty

theorem fits_step (rules : Rules) (state : State) {text : Text} (nonempty : text ≠ []) :
    Fits text (step rules state text).width := by
  have one := fits_one nonempty
  have pair : text.tail.head?.isSome = true → Fits text 2 := fun there =>
    fits_two (Option.eq_some_of_isSome there)
  cases state with
  | code => exact fits_enter rules nonempty
  | lineComment => exact one
  | blockComment =>
    simp only [step]
    split
    next closes => exact fits_two closes.2
    · exact one
  | quoted quote =>
    simp only [step]
    split
    next escape => exact pair escape.2
    split
    · exact one
    · exact one
  | verbatim =>
    simp only [step]
    split
    next doubled => exact fits_two doubled.2
    split
    · exact one
    · exact one
  | textBlock =>
    simp only [step]
    split
    next closes => exact fits_textBlock closes
    split
    next escape => exact pair escape.2
    · exact one
  | rawQuoted quotes =>
    simp only [step]
    split
    next quote =>
      have run := fits_quoteRun (Nat.le_refl 1) (one_le_quoteRun quote)
      split
      · exact run
      · exact run
    · exact one
  | backquoted =>
    simp only [step]
    split
    · exact one
    · exact one

/-! ### A cursor over a copy -/

/-- The copy with the byte at an index blanked, if there is one. -/
def blankAt (copy : Text) (index : Nat) : Option Text := copy[index]?.map fun b => copy.set index (blank b)

/-- The copy with several bytes blanked, from an index on. -/
def blankMany (copy : Text) (index : Nat) : Nat → Option Text
  | 0 => some copy
  | count + 1 => (blankAt copy index).bind fun copy => blankMany copy (index + 1) count

/-- Masks a text in place: a cursor goes through it step by step, and blanks the bytes of a copy. Nothing comes of it
if the cursor passes the end, if a byte is blanked that is not there, or if the rounds do not suffice. -/
def maskInPlace (rules : Rules) (text : Text) : Nat → State → Nat → Text → Option Text
  | rounds, state, cursor, copy =>
    if cursor = text.length then some copy
    else if text.length < cursor then none
    else
      match rounds with
      | 0 => none
      | rounds + 1 =>
        let taken := step rules state (text.drop cursor)
        (if taken.keeps then some copy else blankMany copy cursor taken.width).bind fun copy =>
          maskInPlace rules text rounds taken.next (cursor + taken.width) copy

theorem blankMany_append (front piece back : Text) :
    blankMany (front ++ piece ++ back) front.length piece.length = some (front ++ piece.map blank ++ back) := by
  induction piece generalizing front with
  | nil => rfl
  | cons b piece ih =>
    have first : blankAt (front ++ (b :: piece) ++ back) front.length = some ((front ++ [blank b]) ++ piece ++ back) := by
      simp [blankAt]
    have later := ih (front ++ [blank b])
    rw [List.length_append, List.length_singleton] at later
    rw [List.length_cons, blankMany, first, Option.bind_some, later]
    simp

/-- One step of the cursor writes what the step makes of its bytes. -/
theorem write_step (keeps : Bool) (front piece back : Text) :
    (if keeps then some (front ++ piece ++ back) else blankMany (front ++ piece ++ back) front.length piece.length) =
      some (front ++ piece.map (write keeps) ++ back) := by
  cases keeps with
  | true => simp
  | false => simpa using blankMany_append front piece back

theorem maskIn_split (rules : Rules) (state : State) {text : Text} (nonempty : text ≠ []) :
    maskIn rules state text =
      (text.take (step rules state text).width).map (write (step rules state text).keeps) ++
        maskIn rules (step rules state text).next (text.drop (step rules state text).width) := by
  obtain ⟨positive, bound⟩ := fits_step rules state nonempty
  match text, nonempty with
  | b :: rest, _ =>
    generalize stepped : step rules state (b :: rest) = taken at positive bound ⊢
    have width : taken.width = (rest.take (taken.width - 1)).length + 1 := by
      rw [List.length_take, List.length_cons] at *
      omega
    have split : rest = rest.take (taken.width - 1) ++ rest.drop (taken.width - 1) :=
      (List.take_append_drop _ _).symm
    have onward : maskIn rules state (b :: (rest.take (taken.width - 1) ++ rest.drop (taken.width - 1))) =
        (b :: rest.take (taken.width - 1)).map (write taken.keeps) ++
          maskIn rules taken.next (rest.drop (taken.width - 1)) :=
      maskIn_step _ (by rw [← split, stepped, ← width])
    rw [← split] at onward
    rw [onward]
    obtain ⟨less, same⟩ : ∃ less, taken.width = less + 1 := ⟨taken.width - 1, by omega⟩
    rw [same, Nat.add_sub_cancel, List.take_succ_cons, List.drop_succ_cons]

theorem maskInPlace_from (rules : Rules) (text : Text) (rounds : Nat) (state : State) (cursor : Nat) (done : Text)
    (enough : text.length ≤ cursor + rounds) (within : cursor ≤ text.length) (written : done.length = cursor) :
    maskInPlace rules text rounds state cursor (done ++ text.drop cursor) =
      some (done ++ maskIn rules state (text.drop cursor)) := by
  induction rounds generalizing state cursor done with
  | zero =>
    have ended : cursor = text.length := by omega
    rw [maskInPlace, if_pos ended, ended, List.drop_length, maskIn_nil]
  | succ rounds ih =>
    rw [maskInPlace]
    by_cases ended : cursor = text.length
    · rw [if_pos ended, ended, List.drop_length, maskIn_nil]
    have inside : cursor < text.length := by omega
    have nonempty : text.drop cursor ≠ [] := by simpa using inside
    have fits := fits_step rules state nonempty
    have split := maskIn_split rules state nonempty
    rw [if_neg ended, if_neg (by omega)]
    generalize step rules state (text.drop cursor) = taken at fits split ⊢
    obtain ⟨positive, bound⟩ := fits
    rw [List.length_drop] at bound
    -- The copy is what is written, then the bytes of this step, then the rest of the text.
    have piece : ((text.drop cursor).take taken.width).length = taken.width := by
      rw [List.length_take, List.length_drop]
      omega
    have written' := write_step taken.keeps done ((text.drop cursor).take taken.width)
      ((text.drop cursor).drop taken.width)
    rw [List.append_assoc, List.take_append_drop, piece, written] at written'
    have onward := ih taken.next (cursor + taken.width)
      (done ++ ((text.drop cursor).take taken.width).map (write taken.keeps)) (by omega) (by omega)
      (by rw [List.length_append, List.length_map, piece, written])
    rw [← List.drop_drop, List.append_assoc] at onward
    dsimp only
    rw [written', Option.bind_some, List.append_assoc, onward, split, List.append_assoc]

theorem maskInPlace_eq (rules : Rules) (text : Text) :
    maskInPlace rules text text.length .code 0 text = some (mask rules text) := by
  have run := maskInPlace_from rules text text.length .code 0 [] (by omega) (Nat.zero_le _) rfl
  simpa [mask_eq_maskIn] using run

/-! ### Bytes -/

/-- A byte after masking: it is kept, or blanked to a space. -/
def Covers (original masked : UInt8) : Prop :=
  masked = original ∨ masked = byte ' ' ∧ original ≠ byte '\n' ∧ original ≠ byte '\r'

theorem covers_write (keeps : Bool) (b : UInt8) : Covers b (write keeps b) := by
  unfold write blank
  split
  · exact .inl rfl
  split
  · exact .inl rfl
  next other => exact .inr ⟨rfl, not_or.mp other⟩

theorem covers_maskFrom (rules : Rules) (state : State) (pending : Nat) (keeps : Bool) (text : Text) :
    List.Forall₂ Covers text (maskFrom rules state pending keeps text) := by
  induction text generalizing state pending keeps with
  | nil => exact .nil
  | cons b rest ih =>
    cases pending with
    | succ left => exact .cons (covers_write keeps b) (ih state left keeps)
    | zero => exact .cons (covers_write _ b) (ih _ _ _)

theorem covers_mask (rules : Rules) (text : Text) : List.Forall₂ Covers text (mask rules text) :=
  covers_maskFrom rules .code 0 true text

theorem Covers.newline_iff {original masked : UInt8} (covers : Covers original masked) :
    original = byte '\n' ↔ masked = byte '\n' := by
  rcases covers with rfl | ⟨rfl, notBreak, _⟩
  · exact Iff.rfl
  · exact iff_of_false notBreak (by decide)

theorem newlines_eq_of_covers {original masked : Text} (covers : List.Forall₂ Covers original masked) :
    original.newlines = masked.newlines := by
  unfold Text.newlines
  induction covers with
  | nil => rfl
  | cons first _ ih =>
    rw [List.count_cons, List.count_cons, ih]
    simp only [beq_iff_eq, first.newline_iff]

theorem newlines_slice_mask (rules : Rules) (text : Text) (start stop : Nat) :
    ((mask rules text).slice start stop).newlines = (text.slice start stop).newlines :=
  (newlines_eq_of_covers (List.forall₂_take _ (List.forall₂_drop _ (covers_mask rules text)))).symm

theorem newlines_take_mask (rules : Rules) (text : Text) (stop : Nat) :
    Text.newlines ((mask rules text).take stop) = Text.newlines (text.take stop) :=
  (newlines_eq_of_covers (List.forall₂_take _ (covers_mask rules text))).symm

end Masking

/-! ### Bodies and records -/

/-- A body is a piece of the text. -/
theorem MethodDeclaration.slice_of_body? {text : Text} {declaration : MethodDeclaration} {body : MethodBody}
    (found : declaration.body? text = some body) :
    body.start < body.stop ∧ body.stop ≤ text.length ∧ body.text = text.slice body.start body.stop := by
  unfold body? at found
  dsimp only at found
  split at found
  · cases found
  · obtain ⟨⟨opening, inside⟩, brace, rfl⟩ := Option.map_eq_some_iff.mp found
    obtain ⟨_, _, opens, rfl⟩ := braceFrom?_eq_some_iff.mp brace
    have bounds := Delimiter.braces_matchBrace opens
    rw [← Delimiter.matchBrace_stop_drop text opening (List.getElem?_eq_some_iff.mp opens).1] at bounds
    refine ⟨bounds.nonempty, bounds.within, ?_⟩
    dsimp only
    rw [Text.slice, Nat.add_sub_cancel_left]

/-- Each violation is the record of a method with a body. -/
theorem Detector.exists_body_of_mem {detector : Detector} {path text : Text} {declarations : Declarations}
    {violation : MethodViolation} (member : violation ∈ detector.violations path text declarations) :
    ∃ declaration ∈ declarations.methods, ∃ body, declaration.body? text = some body ∧
      violation.method = declaration.name ∧
      violation.line = 1 + Text.newlines (text.take declaration.offset.toNat) ∧
      violation.lineCount = body.lineCount := by
  have start : Progress.Follows text declarations.types [] ⟨⟨declarations.types, noEnclosingType⟩, {}⟩ :=
    ⟨(SequentialOwner.after_nil _).symm, fun asked => absurd rfl asked⟩
  unfold violations at member
  rw [judgeAll_eq detector path (fun choice => by simp only [choice]) declarations.methods start] at member
  obtain ⟨⟨declaration, index⟩, listed, recorded⟩ := List.mem_filterMap.mp member
  have declared : declaration ∈ declarations.methods := List.mem_of_getElem? (List.mem_zipIdx_iff_getElem?.mp listed)
  dsimp only [record?] at recorded
  split at recorded
  · cases recorded
  next body found =>
    split at recorded
    · cases recorded
      exact ⟨declaration, declared, body, found, rfl, rfl, by simp [MethodBody.lineCount, Text.lineCount, Int.add_comm]⟩
    · cases recorded

namespace Masking

/-- Masking in place comes to the end of the text without leaving it, and keeps the length. Every byte is kept, or is
a space in place of a byte that breaks no line. So a piece of the masked text has as many lines as the same piece of
the text, and the line and the line count of each violation found in the masked text are those of the text. -/
theorem mask_geometry (rules : Rules) (text : Text) :
    maskInPlace rules text text.length .code 0 text = some (mask rules text) ∧
    (mask rules text).length = text.length ∧
    List.Forall₂ Covers text (mask rules text) ∧
    (∀ start stop, ((mask rules text).slice start stop).lineCount = (text.slice start stop).lineCount) ∧
    ∀ (detector : Detector) (path : Text) (declarations : Declarations),
      ∀ violation ∈ detector.violations path (mask rules text) declarations,
        ∃ declaration ∈ declarations.methods, ∃ body, declaration.body? (mask rules text) = some body ∧
          violation.method = declaration.name ∧ body.start < body.stop ∧ body.stop ≤ text.length ∧
          violation.line = 1 + Text.newlines (text.take declaration.offset.toNat) ∧
          violation.lineCount = (text.slice body.start body.stop).lineCount := by
  have length : (mask rules text).length = text.length := (covers_mask rules text).length_eq.symm
  have lines : ∀ start stop, ((mask rules text).slice start stop).lineCount = (text.slice start stop).lineCount := by
    intro start stop
    rw [Text.lineCount, newlines_slice_mask, Text.lineCount]
  refine ⟨maskInPlace_eq rules text, length, covers_mask rules text, lines, ?_⟩
  intro detector path declarations violation member
  obtain ⟨declaration, declared, body, found, named, line, count⟩ := Detector.exists_body_of_mem member
  obtain ⟨nonempty, within, piece⟩ := MethodDeclaration.slice_of_body? found
  refine ⟨declaration, declared, body, found, named, nonempty, length ▸ within, ?_, ?_⟩
  · rw [line, newlines_take_mask]
  · rw [count, MethodBody.lineCount, piece, lines]

/-- A method whose masked body hides a closing brace, after a comment of two lines. -/
theorem mask_geometry_commented :
    let rules : Rules := { lineComments := true, blockComments := true }
    let text : Text := "/*\n*/ void F()\x7b //\x7d\n\n\x7d"
    let declarations : Declarations := ⟨[], [{ name := "F", offset := 6 }]⟩
    let violation : MethodViolation := ⟨"a", "a", noEnclosingType, "F", 2, 3, false⟩
    violation ∈ Detector.violations ⟨2, .nesting⟩ "a" (mask rules text) declarations ∧
      ∃ declaration ∈ declarations.methods, ∃ body, declaration.body? (mask rules text) = some body ∧
        violation.method = declaration.name ∧ body.start < body.stop ∧ body.stop ≤ text.length ∧
        violation.line = 1 + Text.newlines (text.take declaration.offset.toNat) ∧
        violation.lineCount = (text.slice body.start body.stop).lineCount := by
  intro rules text declarations violation
  have found : violation ∈ Detector.violations ⟨2, .nesting⟩ "a" (mask rules text) declarations := by decide
  exact ⟨found, (mask_geometry rules text).2.2.2.2 _ _ _ _ found⟩

end Masking

end QualityGate
