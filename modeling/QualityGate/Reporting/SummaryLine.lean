import QualityGate.Checking.Report
import QualityGate.Reporting.Channel
import QualityGate.Text.Terminal

/-!
The line that sums up a scan, with or without terminal colours.
-/

namespace QualityGate

inductive Look where
  | label
  | good
  | bad
  | muted
  deriving DecidableEq, Repr

namespace Look

def code : Look → Text
  | label => "1;36"
  | good => "92"
  | bad => "1;91"
  | muted => "90"

def line (look : Look) (t : Text) : Text := "\x1b[" ++ look.code ++ "m" ++ t ++ "\x1b[0m"

def plainBreaks : Text → Text
  | [] => []
  | b :: rest =>
    if b = Text.byte '\t' then Text.spaces 4 ++ plainBreaks rest
    else if b = Text.byte '\r' ∧ rest.head? = some (Text.byte '\n') then plainBreaks rest
    else b :: plainBreaks rest

/-- A text in a look. Of several lines each has its own codes, and all are made as wide as the widest. -/
def apply (look : Look) (t : Text) : Text :=
  let lines := Text.splitAtByte (Text.byte '\n') (plainBreaks t)
  let widest := (lines.map Text.terminalWidth).foldl max 0
  Text.join "\n" (lines.map fun l => look.line l ++ Text.spaces (widest - l.terminalWidth))

end Look

namespace Summary

def line (summary : Summary) (check : Text) (colored : Bool) : Text :=
  let styled := fun (look : Look) (t : Text) => if colored then look.apply t else t
  let badIf := fun (n : Int) (otherwise : Look) => if 0 < n then Look.bad else otherwise
  styled .label check ++ ": " ++ styled .muted (Text.ofInt summary.files ++ " files") ++ ", " ++
    styled (badIf summary.violations .good) (Text.ofInt summary.violations ++ " violations") ++ ", " ++
    styled (badIf summary.errors .muted) (Text.ofInt summary.errors ++ " errors") ++ "\n"

end Summary

end QualityGate
