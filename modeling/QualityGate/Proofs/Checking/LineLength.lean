import QualityGate.Checking.Checker
import QualityGate.Proofs.Text.Decoding

/-!
The long lines of a text, line by line. A text is cut at its line breaks in one way only (`Cut`); each line is read and
judged by itself (`Judged`). What the check of line lengths finds is what this says, also of a reading that broke off.
-/

namespace QualityGate

namespace Text

theorem endsWith_singleton_iff {t : Text} {b : UInt8} : endsWith t [b] = true ↔ ∃ front, t = front ++ [b] := by
  rw [endsWith, List.isSuffixOf_iff_suffix]
  exact ⟨fun ⟨front, split⟩ => ⟨front, split.symm⟩, fun ⟨front, split⟩ => ⟨front, split.symm⟩⟩

theorem dropEnding_concat (front : Text) (b : UInt8) : dropEnding (front ++ [b]) [b] = front := by
  rw [dropEnding, if_pos (endsWith_singleton_iff.mpr ⟨front, rfl⟩)]
  simp

theorem dropEnding_eq_self {t : Text} {b : UInt8} (other : t.getLast? ≠ some b) : dropEnding t [b] = t := by
  refine if_neg fun ends => ?_
  obtain ⟨front, rfl⟩ := endsWith_singleton_iff.mp ends
  exact other (by simp)

end Text

namespace LineLength

open Text (Decodes Trims)

def lineBreak : UInt8 := Text.byte '\n'

def carriageReturn : UInt8 := Text.byte '\r'

/-- A text cut at its line breaks: the lines that end with one, and what follows the last. -/
structure Cut (text : Text) (lines : List Text) (rest : Text) : Prop where
  joined : text = lines.flatMap (· ++ [lineBreak]) ++ rest
  inside : ∀ line ∈ lines, lineBreak ∉ line
  after : lineBreak ∉ rest

/-- The code points of a line, without one carriage return at its end. -/
def Reads (line : Text) (cs : List Char) : Prop :=
  (∃ front, line = front ++ [carriageReturn] ∧ Decodes front cs) ∨
    line.getLast? ≠ some carriageReturn ∧ Decodes line cs

/-- The lines that are too long, in order, when the first of the lines has a number. -/
inductive Judged (maximum : Nat) (path : Text) : Nat → List Text → List LineViolation → Prop where
  | nil (number : Nat) : Judged maximum path number [] []
  | long {number : Nat} {line : Text} {cs inner : List Char} {lines : List Text} {found : List LineViolation}
      (reads : Reads line cs) (exceeds : maximum < cs.length) (trims : Trims cs inner)
      (more : Judged maximum path (number + 1) lines found) :
      Judged maximum path number (line :: lines) (⟨path, number, cs.length, Text.ofChars inner⟩ :: found)
  | short {number : Nat} {line : Text} {cs : List Char} {lines : List Text} {found : List LineViolation}
      (reads : Reads line cs) (fits : cs.length ≤ maximum) (more : Judged maximum path (number + 1) lines found) :
      Judged maximum path number (line :: lines) found

/-- What follows the last line break is a line if there is something. -/
def lastLine (rest : Text) : List Text := if rest = [] then [] else [rest]

/-- The lines of a reading that are judged: when it broke off, only those that ended. -/
def judgedLines (source : Source) (lines : List Text) (rest : Text) : List Text :=
  if source.failure.isSome then lines else lines ++ lastLine rest

/-! ### Cutting -/

theorem segmentsFrom_line {line : Text} (inside : lineBreak ∉ line) (begun rest : Text) :
    segmentsFrom begun (line ++ lineBreak :: rest) =
      (begun.reverse ++ line ++ [lineBreak]) :: segmentsFrom [] rest := by
  induction line generalizing begun with
  | nil => simp [segmentsFrom, lineBreak]
  | cons b line ih =>
    rw [List.mem_cons, not_or] at inside
    have other : ¬ b = Text.byte '\n' := fun same => inside.1 same.symm
    rw [List.cons_append, segmentsFrom, if_neg other, ih inside.2]
    simp

theorem segmentsFrom_rest {rest : Text} (inside : lineBreak ∉ rest) (begun : Text) :
    segmentsFrom begun rest = lastLine (begun.reverse ++ rest) := by
  induction rest generalizing begun with
  | nil =>
    simp only [segmentsFrom, lastLine, List.append_nil, List.reverse_eq_nil_iff, List.isEmpty_iff]
  | cons b rest ih =>
    rw [List.mem_cons, not_or] at inside
    have other : ¬ b = Text.byte '\n' := fun same => inside.1 same.symm
    rw [segmentsFrom, if_neg other, ih inside.2]
    simp

theorem Cut.segments_eq {text : Text} {lines : List Text} {rest : Text} (cut : Cut text lines rest) :
    segments text = lines.map (· ++ [lineBreak]) ++ lastLine rest := by
  obtain ⟨rfl, inside, after⟩ := cut
  induction lines with
  | nil => exact segmentsFrom_rest after []
  | cons line lines ih =>
    have split : (line :: lines).flatMap (· ++ [lineBreak]) ++ rest =
        line ++ lineBreak :: (lines.flatMap (· ++ [lineBreak]) ++ rest) := by simp
    rw [segments, split, segmentsFrom_line (inside line List.mem_cons_self)]
    refine congrArg (_ :: ·) (ih fun other member => inside other (List.mem_cons_of_mem _ member))

theorem exists_cut (text : Text) : ∃ lines rest, Cut text lines rest := by
  induction text with
  | nil => exact ⟨[], [], rfl, by simp, by simp⟩
  | cons b text ih =>
    obtain ⟨lines, rest, rfl, inside, after⟩ := ih
    by_cases ends : b = lineBreak
    · subst ends
      exact ⟨[] :: lines, rest, rfl, by simpa using inside, after⟩
    · have other : ¬ lineBreak = b := fun same => ends same.symm
      -- The byte belongs to the first line, which may be the one without a line break.
      cases lines with
      | nil => exact ⟨[], b :: rest, rfl, by simp, by simp [other, after]⟩
      | cons line lines =>
        refine ⟨(b :: line) :: lines, rest, rfl, ?_, after⟩
        simp only [List.mem_cons, forall_eq_or_imp, not_or] at inside ⊢
        exact ⟨⟨other, inside.1⟩, inside.2⟩

theorem not_endsWith_of_not_mem {t : Text} (inside : lineBreak ∉ t) : Text.endsWith t [lineBreak] = false := by
  refine Bool.eq_false_iff.mpr fun ends => ?_
  obtain ⟨front, rfl⟩ := Text.endsWith_singleton_iff.mp ends
  exact inside (by simp)

theorem Cut.filter_segments {text : Text} {lines : List Text} {rest : Text} (cut : Cut text lines rest) :
    (segments text).filter (Text.endsWith · [lineBreak]) = lines.map (· ++ [lineBreak]) := by
  have ended : (lines.map (· ++ [lineBreak])).filter (Text.endsWith · [lineBreak]) = lines.map (· ++ [lineBreak]) := by
    refine List.filter_eq_self.mpr fun segment member => ?_
    obtain ⟨line, -, rfl⟩ := List.mem_map.mp member
    exact Text.endsWith_singleton_iff.mpr ⟨line, rfl⟩
  have unended : (lastLine rest).filter (Text.endsWith · [lineBreak]) = [] := by
    unfold lastLine
    split
    · rfl
    · simp [not_endsWith_of_not_mem cut.after]
  rw [cut.segments_eq, List.filter_append, ended, unended, List.append_nil]

theorem Cut.unique {text : Text} {lines lines' : List Text} {rest rest' : Text} (cut : Cut text lines rest)
    (cut' : Cut text lines' rest') : lines' = lines ∧ rest' = rest := by
  have same : lines'.map (· ++ [lineBreak]) = lines.map (· ++ [lineBreak]) :=
    cut'.filter_segments.symm.trans cut.filter_segments
  obtain rfl : lines' = lines := List.map_inj_right (fun _ _ equal => List.append_cancel_right equal) |>.mp same
  exact ⟨rfl, List.append_cancel_left (cut'.joined.symm.trans cut.joined)⟩

/-! ### Judging -/

theorem reads_iff {line : Text} {cs : List Char} :
    Reads line cs ↔ Text.chars (line.dropEnding [carriageReturn]) = cs := by
  rw [Reads]
  by_cases ends : line.getLast? = some carriageReturn
  · obtain ⟨front, rfl⟩ := List.getLast?_eq_some_iff.mp ends
    rw [Text.dropEnding_concat, ← Text.decodes_iff]
    constructor
    · rintro (⟨front', split, decodes⟩ | ⟨other, -⟩)
      · rwa [List.append_cancel_right split]
      · exact absurd ends other
    · exact fun decodes => .inl ⟨front, rfl, decodes⟩
  · rw [Text.dropEnding_eq_self ends, ← Text.decodes_iff]
    constructor
    · rintro (⟨front, rfl, -⟩ | ⟨-, decodes⟩)
      · exact absurd (by simp) ends
      · exact decodes
    · exact fun decodes => .inr ⟨ends, decodes⟩

/-- A line is read in one way, with its line break or without. -/
theorem reads_measured {line : Text} (inside : lineBreak ∉ line) :
    Reads line (measured line) ∧ measured (line ++ [lineBreak]) = measured line := by
  have plain : line.dropEnding [lineBreak] = line := by
    refine Text.dropEnding_eq_self fun last => ?_
    exact inside (List.mem_of_getLast? last)
  have read : measured line = Text.chars (line.dropEnding [carriageReturn]) :=
    congrArg (fun t => Text.chars (Text.dropEnding t [carriageReturn])) plain
  have read' : measured (line ++ [lineBreak]) = Text.chars (line.dropEnding [carriageReturn]) :=
    congrArg (fun t => Text.chars (Text.dropEnding t [carriageReturn])) (Text.dropEnding_concat line lineBreak)
  exact ⟨reads_iff.mpr read.symm, read'.trans read.symm⟩

theorem Reads.measured_eq {line : Text} {cs : List Char} (inside : lineBreak ∉ line) (reads : Reads line cs) :
    measured line = cs :=
  (reads_iff.mp (reads_measured inside).1).symm.trans (reads_iff.mp reads)

theorem judge_congr {line line' : Text} (same : measured line = measured line') (maximum : Nat) (path : Text)
    (number : Nat) : judge maximum path line number = judge maximum path line' number := by
  rw [judge, judge, same]

theorem judge_long {maximum : Nat} {line : Text} {inner : List Char} (exceeds : maximum < (measured line).length)
    (trims : Trims (measured line) inner) (path : Text) (number : Nat) :
    judge maximum path line number = some ⟨path, number, (measured line).length, Text.ofChars inner⟩ := by
  rw [judge, if_pos exceeds, trims.trim_ofChars]

theorem judge_short {maximum : Nat} {line : Text} (fits : (measured line).length ≤ maximum) (path : Text)
    (number : Nat) : judge maximum path line number = none := by
  rw [judge, if_neg (Nat.not_lt.mpr fits)]

theorem judged_iff {maximum : Nat} {path : Text} {lines : List Text} (inside : ∀ line ∈ lines, lineBreak ∉ line)
    (number : Nat) (found : List LineViolation) :
    Judged maximum path number lines found ↔
      (lines.zipIdx number).filterMap (fun (line, number) => judge maximum path line number) = found := by
  induction lines generalizing number found with
  | nil =>
    constructor
    · rintro ⟨⟩
      rfl
    · rintro rfl
      exact .nil number
  | cons line lines ih =>
    have here := inside line List.mem_cons_self
    have later : ∀ other ∈ lines, lineBreak ∉ other := fun other member => inside other (List.mem_cons_of_mem _ member)
    rw [List.zipIdx_cons, List.filterMap_cons]
    constructor
    · intro judged
      cases judged with
      | long reads exceeds trims more =>
        obtain rfl := reads.measured_eq here
        simp only [judge_long exceeds trims, (ih later _ _).mp more]
      | short reads fits more =>
        obtain rfl := reads.measured_eq here
        simp only [judge_short fits, (ih later _ _).mp more]
    · rintro rfl
      by_cases exceeds : maximum < (measured line).length
      · obtain ⟨inner, trims⟩ := Text.exists_trims (measured line)
        simp only [judge_long exceeds trims]
        exact .long (reads_measured here).1 exceeds trims ((ih later _ _).mpr rfl)
      · have fits := Nat.not_lt.mp exceeds
        simp only [judge_short fits]
        exact .short (reads_measured here).1 fits ((ih later _ _).mpr rfl)

/-! ### Readings -/

theorem Cut.linesOf_eq {source : Source} {lines : List Text} {rest : Text} (cut : Cut source.content lines rest) :
    linesOf source =
      if source.failure.isSome then lines.map (· ++ [lineBreak])
      else lines.map (· ++ [lineBreak]) ++ lastLine rest := by
  rw [linesOf]
  split
  · exact cut.filter_segments
  · exact cut.segments_eq

theorem Cut.not_mem_judgedLines {source : Source} {lines : List Text} {rest : Text}
    (cut : Cut source.content lines rest) : ∀ line ∈ judgedLines source lines rest, lineBreak ∉ line := by
  intro line member
  unfold judgedLines lastLine at member
  split at member
  · exact cut.inside line member
  · rcases List.mem_append.mp member with early | last
    · exact cut.inside line early
    · split at last
      · cases last
      · cases List.mem_singleton.mp last
        exact cut.after

/-- The lines of a reading are measured as the judged lines are. -/
theorem Cut.map_measured {source : Source} {lines : List Text} {rest : Text} (cut : Cut source.content lines rest) :
    (linesOf source).map measured = (judgedLines source lines rest).map measured := by
  have same : (lines.map (· ++ [lineBreak])).map measured = lines.map measured := by
    rw [List.map_map]
    exact List.map_congr_left fun line member => (reads_measured (cut.inside line member)).2
  rw [cut.linesOf_eq, judgedLines]
  split
  · exact same
  · rw [List.map_append, List.map_append, same]

theorem filterMap_judge_congr {lines lines' : List Text} (same : lines.map measured = lines'.map measured)
    (maximum : Nat) (path : Text) (number : Nat) :
    (lines.zipIdx number).filterMap (fun (line, number) => judge maximum path line number) =
      (lines'.zipIdx number).filterMap (fun (line, number) => judge maximum path line number) := by
  induction lines generalizing lines' number with
  | nil =>
    obtain rfl := List.map_eq_nil_iff.mp same.symm
    rfl
  | cons line lines ih =>
    cases lines' with
    | nil => cases same
    | cons line' lines' =>
      rw [List.map_cons, List.map_cons, List.cons.injEq] at same
      rw [List.zipIdx_cons, List.zipIdx_cons, List.filterMap_cons, List.filterMap_cons, ih same.2]
      simp only [judge_congr same.1]

theorem Cut.judged_iff {source : Source} {lines : List Text} {rest : Text} (cut : Cut source.content lines rest)
    (maximum : Nat) (path : Text) (found : List LineViolation) :
    Judged maximum path 1 (judgedLines source lines rest) found ↔ violations maximum path source = found := by
  rw [LineLength.judged_iff cut.not_mem_judgedLines, violations, filterMap_judge_congr cut.map_measured]

/-- The lines of a reading are cut in one way, and what the check finds is what judging each of them by itself gives; of
a reading that broke off, the lines that had ended are judged, and the check fails with its reason. -/
theorem violations_iff_judged (maximum : Nat) (path : Text) (source : Source) :
    (∃ lines rest, Cut source.content lines rest ∧
      (∀ lines' rest', Cut source.content lines' rest' → lines' = lines ∧ rest' = rest) ∧
      ∀ found, Judged maximum path 1 (judgedLines source lines rest) found ↔ violations maximum path source = found) ∧
      ∀ check : LineCheck, check.maximum = maximum → check.run path source =
        match source.failure with
        | some reason => .error (.unreadable reason)
        | none => .ok { path, lines := violations maximum path source } := by
  obtain ⟨lines, rest, cut⟩ := exists_cut source.content
  refine ⟨⟨lines, rest, cut, fun _ _ cut' => cut.unique cut', cut.judged_iff maximum path⟩, ?_⟩
  rintro check rfl
  rfl

/-- A line that is too long only with its carriage returns, an ill-formed byte in a long one, and a last one that is
lost because the reading broke off. -/
theorem violations_judged_broken_off :
    let illFormed : Text := Text.byte '\t' :: 0xFF :: "wxyz"
    let source : Source := ⟨"ab\r\r\n" ++ illFormed ++ "\nlonger", some "broken"⟩
    Cut source.content ["ab\r\r", illFormed] "longer" ∧
      Judged 3 "p" 1 ["ab\r\r", illFormed] [⟨"p", 2, 5, "wxyz"⟩] ∧
      LineCheck.run { maximum := 3 } "p" source = .error (.unreadable "broken") := by
  intro illFormed source
  obtain ⟨⟨lines, rest, cut, unique, judged⟩, checked⟩ := violations_iff_judged 3 "p" source
  have here : Cut source.content ["ab\r\r", illFormed] "longer" := ⟨by decide, by decide, by decide⟩
  obtain ⟨rfl, rfl⟩ := unique _ _ here
  exact ⟨here, (judged _).mpr (by decide), checked { maximum := 3 } rfl⟩

end LineLength

end QualityGate
