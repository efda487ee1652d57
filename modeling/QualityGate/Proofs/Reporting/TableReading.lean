import Mathlib.Algebra.GroupWithZero.Nat
import Mathlib.Data.List.Basic
import QualityGate.Proofs.Reporting.SummaryReading
import QualityGate.Reporting.Table

/-!
Reading tables. The rules cut the lines of a table into the heading, the rows and the footing. A row may take several
lines, but its last column is filled on the first of them only, so the rows are counted by the lines with a filled last
column (`countP_isFilled_rowLines`); the footing gives up its numbers word by word (`totals_footingLine`).
-/

namespace QualityGate.Table

open Text (byte terminated)

/-! ### The reader -/

def isRule (line : Text) : Bool := line.head? = some (byte '-')

/-- Whether something stands behind the last bar of a line. -/
def isFilled (line : Text) : Bool := (line.reverse.takeWhile (· ≠ byte '|')).any (· ≠ byte ' ')

/-- The lines of a text in parts, cut at the rules. -/
def parts (t : Text) : List (List Text) := (Text.splitAtByte (byte '\n') t).splitOnP isRule

/-- The numbers among the words of a line. -/
def totals (line : Text) : List Int := (Text.words line).filterMap Text.toInt?

/-- Reads a table with a footing, and perhaps a second table behind it. -/
def read? (t : Text) : Option Reading :=
  match parts t with
  | [_, rows, [footing], _] => some ⟨rows.countP isFilled, 0, totals footing⟩
  | [_, rows, [footing], _, failures] => some ⟨rows.countP isFilled, failures.countP (!·.isEmpty), totals footing⟩
  | _ => none

/-! ### Padding -/

/-- A text with spaces on either side. -/
def Padded (t padded : Text) : Prop := ∃ before after, padded = Text.spaces before ++ t ++ Text.spaces after

namespace Padded

variable {t padded : Text}

theorem not_mem (pads : Padded t padded) {b : UInt8} (solid : b ≠ byte ' ') (absent : b ∉ t) : b ∉ padded := by
  obtain ⟨before, after, rfl⟩ := pads
  have spaces : ∀ n, b ∉ Text.spaces n := fun n member => solid (List.eq_of_mem_replicate member)
  rw [List.mem_append, List.mem_append, not_or, not_or]
  exact ⟨⟨spaces before, absent⟩, spaces after⟩

theorem any_eq (pads : Padded t padded) : padded.any (· ≠ byte ' ') = t.any (· ≠ byte ' ') := by
  obtain ⟨before, after, rfl⟩ := pads
  have spaces : ∀ n, (Text.spaces n).any (· ≠ byte ' ') = false := by
    intro n
    rw [List.any_eq_false]
    intro b member
    simp [List.eq_of_mem_replicate member]
  rw [List.any_append, List.any_append, spaces, spaces, Bool.false_or, Bool.or_false]

theorem words_eq (pads : Padded t padded) : Text.words padded = Text.words t := by
  obtain ⟨before, after, rfl⟩ := pads
  rw [Text.words_append_spaces, Text.words_spaces_append]

end Padded

theorem padded_centered (width : Nat) (t : Text) : Padded t (centered width t) := ⟨_, _, rfl⟩

theorem padded_place (alignment : Alignment) (width : Nat) (t : Text) : Padded t (place alignment width t) := by
  have left : Padded t (toLeft width t) := ⟨0, _, rfl⟩
  have right : Padded t (toRight width t) := ⟨_, 0, (List.append_nil _).symm⟩
  cases alignment with
  | left => exact left
  | right => exact right
  | byContent =>
    rw [place]
    split
    · exact right
    · exact left

/-! ### Lines -/

/-- A line that is neither cut nor a rule. -/
structure IsPlain (line : Text) : Prop where
  whole : byte '\n' ∉ line
  notRule : isRule line = false

theorem newline_not_mem_capitals {t : Text} (whole : byte '\n' ∉ t) : byte '\n' ∉ capitals t := by
  intro member
  obtain ⟨b, inside, same⟩ := List.mem_map.mp member
  split at same
  next letter =>
    have low := UInt8.le_iff_toNat_le.mp letter.1
    have value := congrArg UInt8.toNat same
    rw [UInt8.toNat_sub_of_le _ _ (UInt8.le_iff_toNat_le.mpr (Nat.le_trans (by decide) low))] at value
    have first : (byte 'a').toNat = 97 := rfl
    have shift : (32 : UInt8).toNat = 32 := rfl
    have newline : (byte '\n').toNat = 10 := rfl
    omega
  next => exact whole (same ▸ inside)

def ruleLine (widths : List Nat) : Text :=
  byte '-' :: ((markLast widths).map fun (width, isLast) =>
    List.replicate (if isLast then width + 3 else width + 2) (byte '-')).flatten

/-- The line of a heading or footing, with what stands between the cells. -/
def labelLine (between : Text → Bool → Text) (widths : List Nat) (labels : List Text) : Text :=
  byte ' ' :: ((markLast (widths.zip labels)).map fun ((width, label), isLast) =>
    " " ++ centered width (capitals label) ++ " " ++ between label isLast).flatten

def headingLine (widths : List Nat) (labels : List Text) : Text :=
  labelLine (fun _ isLast => if isLast then " " else "|") widths labels

def footingLine (widths : List Nat) (labels : List Text) : Text :=
  labelLine (fun label isLast => if isLast || label.isEmpty then " " else "|") widths labels

def rowLine (widths : List Nat) (alignments : List Alignment) (line : List Text) : Text :=
  (((widths.zip alignments).zip line).zipIdx.flatMap fun (((width, alignment), t), i) =>
    [Text.ofString (if i = 0 then " " else "|"), Text.ofString " ", place alignment width t,
      Text.ofString " "]).flatten ++ [byte ' ']

def height (row : List Text) : Nat := ((row.map linesOf).map List.length).foldl max 0

def rowLines (widths : List Nat) (alignments : List Alignment) (row : List Text) : List Text :=
  (linesAcross (height row) (row.map linesOf)).map (rowLine widths alignments)

theorem flatten_rule (widths : List Nat) : (rule widths).flatten = terminated [ruleLine widths] := by
  simp only [rule, ruleLine, List.flatten_append, List.flatten_singleton, Text.terminated_cons, Text.terminated_nil]
  rfl

theorem flatten_headingWrites (widths : List Nat) (labels : List Text) :
    (headingWrites widths labels).flatten = terminated [headingLine widths labels, ruleLine widths] := by
  rw [headingWrites, List.flatten_append, flatten_rule]
  simp only [headingLine, labelLine, List.flatten_append, List.flatten_singleton, Text.terminated_cons,
    Text.terminated_nil, List.append_assoc]
  rfl

theorem flatten_footingWrites (widths : List Nat) (labels : List Text) :
    (footingWrites widths labels).flatten =
      terminated [ruleLine widths, footingLine widths labels, ruleLine widths] := by
  rw [footingWrites]
  simp only [List.flatten_append, flatten_rule, footingLine, labelLine, List.flatten_singleton, Text.terminated_cons,
    Text.terminated_nil, List.append_assoc]
  rfl

theorem flatten_rowWrites (widths : List Nat) (alignments : List Alignment) (row : List Text) :
    (rowWrites widths alignments row).flatten = terminated (rowLines widths alignments row) := by
  have each : ∀ line, (lineWrites widths alignments line).flatten = rowLine widths alignments line ++ [byte '\n'] := by
    intro line
    rw [lineWrites, rowLine, List.flatten_append, List.append_assoc]
    rfl
  rw [rowWrites, rowLines, terminated, List.flatMap_map, ← List.flatMap_id, List.flatMap_assoc]
  refine List.flatMap_congr fun line _ => ?_
  exact List.flatMap_id.trans (each line)

/-- The lines of a table are its heading, its rows and its footing, with rules between them. -/
theorem flatten_writes (table : Table) :
    table.writes.flatten =
      terminated ([headingLine table.widths table.heading, ruleLine table.widths] ++
        table.rows.flatMap (rowLines table.widths table.alignments) ++
        (table.footing.map fun labels =>
          [ruleLine table.widths, footingLine table.widths labels, ruleLine table.widths]).getD []) := by
  have rows : (table.rows.flatMap (rowWrites table.widths table.alignments)).flatten =
      terminated (table.rows.flatMap (rowLines table.widths table.alignments)) := by
    rw [Text.terminated_flatMap, ← List.flatMap_id, List.flatMap_assoc]
    exact List.flatMap_congr fun row _ => List.flatMap_id.trans (flatten_rowWrites ..)
  rw [writes, List.flatten_append, List.flatten_append, flatten_headingWrites, rows, Text.terminated_append,
    Text.terminated_append]
  cases table.footing with
  | none => rfl
  | some labels =>
    rw [Option.map_some, Option.getD_some, flatten_footingWrites]
    rfl

/-! ### Plain lines -/

theorem isRule_ruleLine (widths : List Nat) : isRule (ruleLine widths) = true := by
  rw [isRule, ruleLine]
  rfl

theorem newline_not_mem_ruleLine (widths : List Nat) : byte '\n' ∉ ruleLine widths := by
  intro member
  rcases List.mem_cons.mp member with same | member
  · exact absurd same (by decide)
  · obtain ⟨dashes, inside, within⟩ := List.mem_flatten.mp member
    obtain ⟨⟨width, isLast⟩, _, rfl⟩ := List.mem_map.mp inside
    exact absurd (List.eq_of_mem_replicate within) (by decide)

theorem isPlain_labelLine {between : Text → Bool → Text} (whole : ∀ label isLast, byte '\n' ∉ between label isLast)
    (widths : List Nat) {labels : List Text} (clean : ∀ label ∈ labels, byte '\n' ∉ label) :
    IsPlain (labelLine between widths labels) := by
  refine ⟨fun member => ?_, rfl⟩
  rcases List.mem_cons.mp member with same | member
  · exact absurd same (by decide)
  obtain ⟨cell, inside, within⟩ := List.mem_flatten.mp member
  obtain ⟨⟨⟨width, label⟩, isLast⟩, there, rfl⟩ := List.mem_map.mp inside
  obtain ⟨⟨column, i⟩, indexed, same⟩ := List.mem_map.mp there
  obtain ⟨rfl, _⟩ := Prod.mk.inj same
  have among : label ∈ labels := (List.of_mem_zip (List.fst_mem_of_mem_zipIdx indexed)).2
  have middle := (padded_centered width _).not_mem (by decide) (newline_not_mem_capitals (clean label among))
  simp only [List.mem_append] at within
  rcases within with ((space | text) | space) | bar
  · exact absurd space (by decide)
  · exact middle text
  · exact absurd space (by decide)
  · exact whole _ _ bar

theorem isPlain_headingLine (widths : List Nat) {labels : List Text} (clean : ∀ label ∈ labels, byte '\n' ∉ label) :
    IsPlain (headingLine widths labels) := by
  refine isPlain_labelLine (fun _ isLast => ?_) widths clean
  cases isLast <;> decide

theorem isPlain_footingLine (widths : List Nat) {labels : List Text} (clean : ∀ label ∈ labels, byte '\n' ∉ label) :
    IsPlain (footingLine widths labels) := by
  refine isPlain_labelLine (fun label isLast => ?_) widths clean
  split <;> decide

theorem isPlain_rowLine (widths : List Nat) (alignments : List Alignment) {line : List Text}
    (clean : ∀ t ∈ line, byte '\n' ∉ t) : IsPlain (rowLine widths alignments line) := by
  constructor
  · intro member
    rcases List.mem_append.mp member with member | space
    · obtain ⟨piece, inside, within⟩ := List.mem_flatten.mp member
      obtain ⟨⟨⟨⟨width, alignment⟩, t⟩, i⟩, there, among⟩ := List.mem_flatMap.mp inside
      have cell : t ∈ line := (List.of_mem_zip (List.fst_mem_of_mem_zipIdx there)).2
      simp only [List.mem_cons, List.not_mem_nil, or_false] at among
      rcases among with rfl | rfl | rfl | rfl
      · split at within <;> exact absurd within (by decide)
      · exact absurd within (by decide)
      · exact (padded_place alignment width t).not_mem (by decide) (clean t cell) within
      · exact absurd within (by decide)
    · exact absurd space (by decide)
  · -- The first byte is the space before the first cell, or the one at the end of a line without cells.
    rw [rowLine]
    cases (widths.zip alignments).zip line with
    | nil => rfl
    | cons column columns => rfl

theorem clean_linesAcross {height : Nat} {cells : List (List Text)}
    (clean : ∀ cell ∈ cells, ∀ t ∈ cell, byte '\n' ∉ t) :
    ∀ line ∈ linesAcross height cells, ∀ t ∈ line, byte '\n' ∉ t := by
  induction height generalizing cells with
  | zero => exact fun _ member => absurd member List.not_mem_nil
  | succ height ih =>
    rw [linesAcross, List.forall_mem_cons]
    constructor
    · intro t member
      obtain ⟨cell, inside, rfl⟩ := List.mem_map.mp member
      cases cell with
      | nil => exact (show byte '\n' ∉ filler by decide)
      | cons first rest => exact clean _ inside first List.mem_cons_self
    · refine ih fun cell member t within => ?_
      obtain ⟨whole, inside, rfl⟩ := List.mem_map.mp member
      exact clean whole inside t (List.mem_of_mem_tail within)

theorem isPlain_of_mem_rowLines {widths : List Nat} {alignments : List Alignment} {row : List Text} {line : Text}
    (member : line ∈ rowLines widths alignments row) : IsPlain line := by
  obtain ⟨texts, across, rfl⟩ := List.mem_map.mp member
  refine isPlain_rowLine widths alignments (clean_linesAcross ?_ texts across)
  intro cell inside t within
  obtain ⟨whole, _, rfl⟩ := List.mem_map.mp inside
  exact Text.not_mem_of_mem_splitAtByte within

theorem isPlain_of_mem_flatMap_rowLines {widths : List Nat} {alignments : List Alignment} {rows : List (List Text)} :
    ∀ line ∈ rows.flatMap (rowLines widths alignments), IsPlain line := by
  intro line member
  obtain ⟨row, _, inside⟩ := List.mem_flatMap.mp member
  exact isPlain_of_mem_rowLines inside

/-! ### Rows -/

theorem length_linesAcross (height : Nat) (cells : List (List Text)) : (linesAcross height cells).length = height := by
  induction height generalizing cells with
  | zero => rfl
  | succ height ih => rw [linesAcross, List.length_cons, ih]

theorem length_rowLines (widths : List Nat) (alignments : List Alignment) (row : List Text) :
    (rowLines widths alignments row).length = height row := by
  rw [rowLines, List.length_map, length_linesAcross]

theorem isFilled_append (front : Text) {rest : Text} (barless : byte '|' ∉ rest) :
    isFilled (front ++ byte '|' :: rest) = rest.any (· ≠ byte ' ') := by
  have all : ∀ b ∈ rest.reverse, decide (b ≠ byte '|') = true := by
    intro b member
    rw [decide_eq_true_eq]
    rintro rfl
    exact barless (List.mem_reverse.mp member)
  rw [isFilled, List.reverse_append, List.reverse_cons, List.append_assoc, List.takeWhile_append_of_pos all,
    List.singleton_append, List.takeWhile_cons_of_neg (by simp), List.append_nil, List.any_reverse]

theorem exists_concat {α : Type} {xs : List α} {n : Nat} (length : xs.length = n + 1) :
    ∃ front last, xs = front ++ [last] :=
  have some := List.ne_nil_of_length_eq_add_one length
  ⟨xs.dropLast, xs.getLast some, (List.dropLast_concat_getLast some).symm⟩

/-- Whether a line is filled is decided by the text in its last column. -/
theorem isFilled_rowLine {widths : List Nat} {alignments : List Alignment} {cells : List Text} {last : Text}
    (some : cells ≠ []) (width : widths.length = cells.length + 1) (aligned : alignments.length = cells.length + 1)
    (barless : byte '|' ∉ last) :
    isFilled (rowLine widths alignments (cells ++ [last])) = last.any (· ≠ byte ' ') := by
  obtain ⟨widths, w, rfl⟩ := exists_concat width
  obtain ⟨alignments, a, rfl⟩ := exists_concat aligned
  have lengths : widths.length = cells.length := by simpa using width
  have lengths' : alignments.length = cells.length := by simpa using aligned
  have columns : ((widths ++ [w]).zip (alignments ++ [a])).zip (cells ++ [last]) =
      (widths.zip alignments).zip cells ++ [((w, a), last)] := by
    rw [List.zip_append (by omega), List.zip_append (by simp; omega)]
    rfl
  have later : ¬ ((widths.zip alignments).zip cells).length = 0 := by
    have positive := List.length_pos_of_ne_nil some
    rw [List.length_zip, List.length_zip]
    omega
  have pads := padded_place a w last
  have barless' : byte '|' ∉ byte ' ' :: (place a w last ++ [byte ' ', byte ' ']) := by
    simp only [List.mem_cons, List.mem_append, not_or]
    exact ⟨by decide, pads.not_mem (by decide) barless, by decide, by decide, List.not_mem_nil⟩
  rw [rowLine, columns, List.zipIdx_append, List.flatMap_append, List.flatten_append]
  simp only [List.zipIdx_cons, List.zipIdx_nil, List.flatMap_cons, List.flatMap_nil, Nat.zero_add, later, if_false]
  have ending : ([Text.ofString "|", Text.ofString " ", place a w last, Text.ofString " "] ++ []).flatten ++
      [byte ' '] = byte '|' :: (byte ' ' :: (place a w last ++ [byte ' ', byte ' '])) := by
    simp only [List.flatten_cons, List.append_nil, List.flatten_nil, List.append_assoc]
    rfl
  rw [List.append_assoc, ending, isFilled_append _ barless', List.any_cons, List.any_append, pads.any_eq]
  simp

theorem linesAcross_empty_last (height : Nat) (cells : List (List Text)) :
    ∀ line ∈ linesAcross height (cells ++ [[]]), ∃ front, line = front ++ [filler] ∧ front.length = cells.length := by
  induction height generalizing cells with
  | zero => exact fun _ member => absurd member List.not_mem_nil
  | succ height ih =>
    rw [linesAcross, List.forall_mem_cons]
    refine ⟨⟨cells.map (·.headD filler), by rw [List.map_append]; rfl, List.length_map _⟩, fun line member => ?_⟩
    rw [List.map_append] at member
    obtain ⟨front, rfl, length⟩ := ih (cells.map List.tail) line member
    exact ⟨front, rfl, length.trans (List.length_map _)⟩

theorem le_foldl_max (lengths : List Nat) (start : Nat) : start ≤ lengths.foldl max start := by
  induction lengths generalizing start with
  | nil => exact Nat.le_refl start
  | cons length rest ih => exact Nat.le_trans (Nat.le_max_left start length) (ih _)

theorem height_pos {row : List Text} (some : row ≠ []) : 0 < height row := by
  obtain ⟨cell, rest, rfl⟩ := List.exists_cons_of_ne_nil some
  have lines := List.length_pos_of_ne_nil (Text.splitAtByte_ne_nil (byte '\n') cell)
  rw [height, List.map_cons, List.map_cons, List.foldl_cons]
  exact Nat.lt_of_lt_of_le (by rw [Nat.zero_max]; exact lines) (le_foldl_max _ _)

/-- A row with a number in its last column has that column filled on its first line only. -/
theorem countP_isFilled_rowLines {widths : List Nat} {alignments : List Alignment} {cells : List Text} {number : Text}
    (some : cells ≠ []) (width : widths.length = cells.length + 1) (aligned : alignments.length = cells.length + 1)
    (whole : byte '\n' ∉ number) (barless : byte '|' ∉ number) (filled : number.any (· ≠ byte ' ') = true) :
    (rowLines widths alignments (cells ++ [number])).countP isFilled = 1 := by
  obtain ⟨lower, tall⟩ : ∃ lower, height (cells ++ [number]) = lower + 1 :=
    ⟨_, (Nat.sub_add_cancel (height_pos (by simp))).symm⟩
  have own : (cells ++ [number]).map linesOf = cells.map linesOf ++ [[number]] := by
    have single : linesOf number = [number] := Text.splitAtByte_of_not_mem whole
    rw [List.map_append, List.map_cons, List.map_nil, single]
  have first : isFilled (rowLine widths alignments ((cells.map linesOf).map (·.headD filler) ++ [number])) = true := by
    rw [isFilled_rowLine (by simpa using some) (by simpa using width) (by simpa using aligned) barless]
    exact filled
  have others : ∀ line ∈
      (linesAcross lower ((cells.map linesOf).map List.tail ++ [[]])).map (rowLine widths alignments),
      ¬ isFilled line = true := by
    intro line member
    obtain ⟨texts, across, rfl⟩ := List.mem_map.mp member
    obtain ⟨front, rfl, length⟩ := linesAcross_empty_last lower _ texts across
    have same : front.length = cells.length := by simpa using length
    have more : front ≠ [] := by
      rintro rfl
      exact some (List.eq_nil_of_length_eq_zero same.symm)
    rw [isFilled_rowLine more (by omega) (by omega) (by decide)]
    decide
  rw [rowLines, tall, own, linesAcross, List.map_append, List.map_append, List.map_cons, List.countP_cons]
  exact (congrArg₂ (· + ·) (List.countP_eq_zero.mpr others) (if_pos first)).trans (Nat.zero_add 1)

/-! ### Footings -/

theorem capitals_ofInt (n : Int) : capitals (Text.ofInt n) = Text.ofInt n := by
  refine (List.map_congr_left fun b member => if_neg fun letter => ?_).trans (List.map_id _)
  have below := (Text.bounds_of_mem_ofInt member).2
  exact UInt8.not_le.mpr (UInt8.lt_trans below (by decide)) letter.1

theorem totals_append (s t : Text) : totals (s ++ byte ' ' :: t) = totals s ++ totals t := by
  rw [totals, Text.words_append, List.filterMap_append]
  rfl

theorem totals_ofInt (n : Int) : totals (Text.ofInt n) = [n] := by
  have word := Text.words_of_not_mem (Text.ofInt_ne_nil n) (Text.not_mem_ofInt (by decide) n)
  rw [totals, word, List.filterMap_cons_some (Text.toInt?_ofInt n)]
  rfl

theorem map_fst_markLast {α : Type} (columns : List α) : (markLast columns).map Prod.fst = columns := by
  rw [markLast, List.map_map]
  exact List.zipIdx_map_fst 0 columns

/-- The numbers at the foot of a table are those in its labels. -/
theorem totals_footingLine {widths : List Nat} {labels : List Text} (level : widths.length = labels.length) :
    totals (footingLine widths labels) = labels.flatMap fun label => totals (capitals label) := by
  have cell : ∀ (width : Nat) (label : Text) (isLast : Bool),
      Text.words (" " ++ centered width (capitals label) ++ " " ++
        (if isLast || label.isEmpty then " " else "|" : Text)) =
        Text.words (capitals label) ++ if isLast || label.isEmpty then [] else [[byte '|']] := by
    intro width label isLast
    have split : (" " ++ centered width (capitals label) ++ " " ++
        (if isLast || label.isEmpty then " " else "|" : Text) : Text) =
        byte ' ' :: (centered width (capitals label) ++
          byte ' ' :: (if isLast || label.isEmpty then " " else "|" : Text)) := by
      simp only [List.append_assoc]
      rfl
    rw [split, Text.words_space, Text.words_append, (padded_centered width _).words_eq]
    split <;> rfl
  have spaced : ∀ piece ∈ (markLast (widths.zip labels)).map fun ((width, label), isLast) =>
      (" " ++ centered width (capitals label) ++ " " ++
        (if isLast || label.isEmpty then " " else "|" : Text) : Text), ∃ t, piece = byte ' ' :: t := by
    intro piece member
    obtain ⟨⟨⟨width, label⟩, isLast⟩, _, rfl⟩ := List.mem_map.mp member
    exact ⟨_, rfl⟩
  have columns : ((markLast (widths.zip labels)).map Prod.fst).map Prod.snd = labels := by
    rw [map_fst_markLast, List.map_snd_zip (Nat.le_of_eq level.symm)]
  rw [totals, footingLine, labelLine, Text.words_space, Text.words_flatten spaced, List.flatMap_map,
    List.filterMap_flatMap]
  conv => rhs; rw [← columns, List.flatMap_map, List.flatMap_map]
  refine List.flatMap_congr fun ⟨⟨width, label⟩, isLast⟩ _ => ?_
  rw [cell, List.filterMap_append]
  -- A bar is no number.
  have bars : (if isLast || label.isEmpty then [] else [[byte '|']]).filterMap Text.toInt? = [] := by
    split <;> rfl
  rw [bars, List.append_nil]
  rfl

/-! ### Whole tables -/

theorem length_foldl_widen {rows : List (List Text)} {widths : List Nat}
    (level : ∀ row ∈ rows, row.length = widths.length) : (rows.foldl widen widths).length = widths.length := by
  induction rows generalizing widths with
  | nil => rfl
  | cons row rest ih =>
    rw [List.forall_mem_cons] at level
    have kept : (widen widths row).length = widths.length := by
      rw [widen, List.length_zipWith, level.1, Nat.min_self]
    rw [List.foldl_cons, ih (by rw [kept]; exact level.2), kept]

/-- A table with a footing whose rows end in numbers, and whose labels are single lines. -/
structure IsNumbered (table : Table) (footing : List Text) : Prop where
  footed : table.footing = some footing
  several : 1 < table.heading.length
  aligned : table.alignments.length = table.heading.length
  level : ∀ row ∈ footing :: table.rows, row.length = table.heading.length
  labels : ∀ label ∈ table.heading ++ footing, byte '\n' ∉ label
  numbered : ∀ row ∈ table.rows, ∃ cells number, row = cells ++ [number] ∧ byte '\n' ∉ number ∧ byte '|' ∉ number ∧
    number.any (· ≠ byte ' ') = true

namespace IsNumbered

variable {table : Table} {footing : List Text}

theorem length_widths (numbered : table.IsNumbered footing) : table.widths.length = table.heading.length := by
  have start : (table.heading.map fun _ => 0).length = table.heading.length := List.length_map _
  rw [widths, length_foldl_widen, start]
  rw [start, numbered.footed]
  exact List.forall_mem_cons.mpr ⟨rfl, numbered.level⟩

/-- As many lines have a filled last column as there are rows. -/
theorem countP_isFilled (numbered : table.IsNumbered footing) :
    (table.rows.flatMap (rowLines table.widths table.alignments)).countP isFilled = table.rows.length := by
  have each : ∀ row ∈ table.rows, (rowLines table.widths table.alignments row).countP isFilled = 1 := by
    intro row member
    obtain ⟨cells, number, rfl, whole, barless, filled⟩ := numbered.numbered row member
    have length : cells.length + 1 = table.heading.length := by
      simpa using numbered.level _ (.tail _ member)
    have several := numbered.several
    have some : cells ≠ [] := by
      rintro rfl
      rw [← length] at several
      exact absurd several (by decide)
    refine countP_isFilled_rowLines some ?_ ?_ whole barless filled
    · rw [numbered.length_widths, length]
    · rw [numbered.aligned, length]
  have ones : table.rows.map (List.countP isFilled ∘ rowLines table.widths table.alignments) =
      table.rows.map fun _ => 1 := List.map_congr_left each
  rw [List.countP_flatMap, ones, List.map_const', List.sum_replicate_nat, Nat.mul_one]

theorem flatten_writes_eq (numbered : table.IsNumbered footing) :
    table.writes.flatten = terminated
      (headingLine table.widths table.heading :: ruleLine table.widths ::
        (table.rows.flatMap (rowLines table.widths table.alignments) ++
          ruleLine table.widths :: footingLine table.widths footing :: [ruleLine table.widths])) := by
  rw [flatten_writes, numbered.footed]
  rfl

/-- The parts of a numbered table, with any lines behind it. -/
theorem parts_append (numbered : table.IsNumbered footing) {lines : List Text}
    (whole : ∀ line ∈ lines, byte '\n' ∉ line) :
    parts (table.writes.flatten ++ terminated lines) =
      [headingLine table.widths table.heading] :: table.rows.flatMap (rowLines table.widths table.alignments) ::
        [footingLine table.widths footing] :: (lines ++ [[]]).splitOnP isRule := by
  obtain ⟨heading, footing'⟩ := List.forall_mem_append.mp numbered.labels
  have top := isPlain_headingLine table.widths heading
  have bottom := isPlain_footingLine table.widths footing'
  have dashes := newline_not_mem_ruleLine table.widths
  have isRule := isRule_ruleLine table.widths
  have rows : ∀ line ∈ table.rows.flatMap (rowLines table.widths table.alignments), IsPlain line :=
    isPlain_of_mem_flatMap_rowLines
  have whole' : ∀ line ∈ headingLine table.widths table.heading :: ruleLine table.widths ::
      (table.rows.flatMap (rowLines table.widths table.alignments) ++
        ruleLine table.widths :: footingLine table.widths footing :: ruleLine table.widths :: lines),
      byte '\n' ∉ line := by
    simp only [List.forall_mem_cons, List.forall_mem_append]
    exact ⟨top.whole, dashes, fun line member => (rows line member).whole, dashes, bottom.whole, dashes, whole⟩
  have cut := Text.splitAtByte_terminated whole'
  -- The rules cut the lines three times.
  have first := List.splitOnP_append_cons_of_forall_mem (List.forall_mem_singleton.mpr top.notRule) _ isRule
  have second := List.splitOnP_append_cons_of_forall_mem (fun line member => (rows line member).notRule) _ isRule
  have third := List.splitOnP_append_cons_of_forall_mem (List.forall_mem_singleton.mpr bottom.notRule) _ isRule
  rw [parts, numbered.flatten_writes_eq, ← Text.terminated_append]
  simp only [List.cons_append, List.append_assoc, List.nil_append] at cut ⊢
  rw [cut]
  exact (first _).trans (congrArg _ ((second _).trans (congrArg _ (third _))))

theorem length_widths_eq (numbered : table.IsNumbered footing) : table.widths.length = footing.length := by
  rw [numbered.length_widths, numbered.level footing List.mem_cons_self]

theorem read?_writes (numbered : table.IsNumbered footing) :
    read? table.writes.flatten =
      some ⟨table.rows.length, 0, footing.flatMap fun label => totals (capitals label)⟩ := by
  have cut := numbered.parts_append (List.forall_mem_nil _)
  rw [Text.terminated_nil, List.append_nil] at cut
  rw [read?, cut, ← totals_footingLine numbered.length_widths_eq, ← numbered.countP_isFilled]
  rfl

theorem countP_not_isEmpty_rowLines (widths : List Nat) (alignments : List Alignment) (rows : List (List Text)) :
    (rows.flatMap (rowLines widths alignments)).countP (fun line : Text => !line.isEmpty) =
      (rows.map height).sum := by
  have filled : ∀ line ∈ rows.flatMap (rowLines widths alignments), (!line.isEmpty) = true := by
    intro line member
    obtain ⟨row, _, inside⟩ := List.mem_flatMap.mp member
    obtain ⟨texts, _, rfl⟩ := List.mem_map.mp inside
    simp [rowLine]
  have heights : List.length ∘ rowLines widths alignments = height := funext fun row => length_rowLines _ _ row
  rw [List.countP_eq_length.mpr filled, List.length_flatMap, ← heights]
  rfl

/-- A second table, without a footing, has as many lines as its rows are high. -/
theorem read?_writes_append (numbered : table.IsNumbered footing) {failures : Table}
    (unfooted : failures.footing = none) (labels : ∀ label ∈ failures.heading, byte '\n' ∉ label) :
    read? (table.writes.flatten ++ ("\n" ++ failures.writes.flatten)) =
      some ⟨table.rows.length, (failures.rows.map height).sum,
        footing.flatMap fun label => totals (capitals label)⟩ := by
  have top := isPlain_headingLine failures.widths labels
  have rows : ∀ line ∈ failures.rows.flatMap (rowLines failures.widths failures.alignments), IsPlain line :=
    isPlain_of_mem_flatMap_rowLines
  have written : "\n" ++ failures.writes.flatten = terminated ([] :: headingLine failures.widths failures.heading ::
      ruleLine failures.widths :: failures.rows.flatMap (rowLines failures.widths failures.alignments)) := by
    rw [flatten_writes, unfooted]
    simp only [Option.map_none, Option.getD_none, List.append_nil]
    rfl
  have whole : ∀ line ∈ [] :: headingLine failures.widths failures.heading :: ruleLine failures.widths ::
      failures.rows.flatMap (rowLines failures.widths failures.alignments), byte '\n' ∉ line := by
    simp only [List.forall_mem_cons]
    exact ⟨List.not_mem_nil, top.whole, newline_not_mem_ruleLine _, fun line member => (rows line member).whole⟩
  -- One rule stands in the second table, with the empty line before it and the heading above it.
  have above : ∀ line ∈ [[], headingLine failures.widths failures.heading], isRule line = false := by
    simp only [List.forall_mem_cons]
    exact ⟨rfl, top.notRule, List.forall_mem_nil _⟩
  have below : ∀ line ∈ failures.rows.flatMap (rowLines failures.widths failures.alignments) ++ [[]],
      isRule line = false := by
    rw [List.forall_mem_append]
    exact ⟨fun line member => (rows line member).notRule, List.forall_mem_singleton.mpr rfl⟩
  have divided := (List.splitOnP_append_cons_of_forall_mem above _ (isRule_ruleLine failures.widths) _).trans
    (congrArg _ (List.splitOnP_eq_singleton below))
  have counted : (failures.rows.flatMap (rowLines failures.widths failures.alignments) ++ [[]]).countP
      (fun line : Text => !line.isEmpty) = (failures.rows.map height).sum := by
    rw [List.countP_append, countP_not_isEmpty_rowLines]
    rfl
  have cut := numbered.parts_append whole
  simp only [List.cons_append, List.nil_append] at cut divided
  rw [← written, divided] at cut
  rw [read?, cut, ← totals_footingLine numbered.length_widths_eq, ← numbered.countP_isFilled, ← counted]

end IsNumbered

end QualityGate.Table
