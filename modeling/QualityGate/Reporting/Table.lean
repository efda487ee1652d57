import QualityGate.Text.Blank
import QualityGate.Text.Width

/-!
Tables without a border: a heading in capitals, a rule, the rows, and perhaps a footing between two rules. Every
column is as wide as its widest line. A table is a sequence of writes, one for each small piece, because a channel
takes or refuses each of them as a whole.
-/

namespace QualityGate

inductive Alignment where
  | left
  | right
  /-- Numbers to the right, all else to the left. -/
  | byContent
  deriving DecidableEq, Repr

structure Table where
  heading : List Text
  alignments : List Alignment
  rows : List (List Text)
  footing : Option (List Text) := none
  deriving DecidableEq, Repr

namespace Table

open Text (byte)

def linesOf (cell : Text) : List Text := Text.splitAtByte (byte '\n') cell

def widen (widths : List Nat) (row : List Text) : List Nat :=
  widths.zipWith (fun width cell => ((linesOf cell).map Text.width).foldl max width) row

def widths (table : Table) : List Nat :=
  (table.heading :: table.footing.toList ++ table.rows).foldl widen (table.heading.map fun _ => 0)

def capitals (t : Text) : Text := t.map fun b => if byte 'a' ≤ b ∧ b ≤ byte 'z' then b - 32 else b

/-- A text in the middle of a width; an odd space goes to the right. -/
def centered (width : Nat) (t : Text) : Text :=
  let gap := width - t.width
  Text.spaces (gap / 2) ++ t ++ Text.spaces (gap - gap / 2)

def toLeft (width : Nat) (t : Text) : Text := t ++ Text.spaces (width - t.width)

def toRight (width : Nat) (t : Text) : Text := Text.spaces (width - t.width) ++ t

/-- Decimal numbers, with or without commas between groups of three digits. -/
def decimal? : Option Pattern :=
  (Pattern.compile "^-?(?:\\d{1,3}(?:,\\d{3})*|\\d+)(?:\\.\\d+)?$").toOption

def isDecimal (t : Text) : Bool := decimal?.any fun pattern => !(pattern.allMatches (Text.trim t)).isEmpty

def place (alignment : Alignment) (width : Nat) (t : Text) : Text :=
  match alignment with
  | .left => toLeft width t
  | .right => toRight width t
  | .byContent => if isDecimal t then toRight width t else toLeft width t

def markLast {α : Type} (columns : List α) : List (α × Bool) :=
  columns.zipIdx.map fun (column, i) => (column, i + 1 = columns.length)

def rule (widths : List Nat) : List Text :=
  [Text.ofString "-"] ++ (markLast widths).map (fun (width, isLast) =>
    List.replicate (if isLast then width + 3 else width + 2) (byte '-')) ++ [Text.ofString "\n"]

def headingWrites (widths : List Nat) (labels : List Text) : List Text :=
  [Text.ofString " "] ++ (markLast (widths.zip labels)).map (fun ((width, label), isLast) =>
    " " ++ centered width (capitals label) ++ " " ++ (if isLast then " " else "|" : Text)) ++
    [Text.ofString "\n"] ++ rule widths

/-- The footing between two rules. Nothing separates an empty cell from the next one. -/
def footingWrites (widths : List Nat) (labels : List Text) : List Text :=
  rule widths ++ [Text.ofString " "] ++ (markLast (widths.zip labels)).map (fun ((width, label), isLast) =>
    " " ++ centered width (capitals label) ++ " " ++ (if isLast || label.isEmpty then " " else "|" : Text)) ++
    [Text.ofString "\n"] ++ rule widths

def filler : Text := Text.spaces 2

def linesAcross : Nat → List (List Text) → List (List Text)
  | 0, _ => []
  | height + 1, cells => cells.map (·.headD filler) :: linesAcross height (cells.map List.tail)

def lineWrites (widths : List Nat) (alignments : List Alignment) (line : List Text) : List Text :=
  let pieces := ((widths.zip alignments).zip line).zipIdx.flatMap fun (((width, alignment), t), i) =>
    [Text.ofString (if i = 0 then " " else "|"), Text.ofString " ", place alignment width t, Text.ofString " "]
  pieces ++ [Text.ofString " ", Text.ofString "\n"]

def rowWrites (widths : List Nat) (alignments : List Alignment) (row : List Text) : List Text :=
  let cells := row.map linesOf
  let height := (cells.map List.length).foldl max 0
  (linesAcross height cells).flatMap (lineWrites widths alignments)

def writes (table : Table) : List Text :=
  let widths := table.widths
  headingWrites widths table.heading ++ table.rows.flatMap (rowWrites widths table.alignments) ++
    (table.footing.map (footingWrites widths)).getD []

end Table

end QualityGate
