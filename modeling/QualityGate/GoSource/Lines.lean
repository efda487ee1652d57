import QualityGate.Ranking
import QualityGate.Text.Basic

/-!
Line numbers for fault positions. A line directive renumbers the lines from its place on.
-/

namespace QualityGate.GoSource

structure LineDirective where
  offset : Nat
  line : Int
  deriving DecidableEq, Repr

structure LineTable where
  starts : Array Nat
  directives : Array LineDirective := #[]
  deriving DecidableEq, Repr

/-- The offsets after the line breaks of a text, added to those before `offset`. A break at the very end starts no
line. -/
def lineStartsFrom (starts : Array Nat) (offset : Nat) : Text → Array Nat
  | [] => starts
  | b :: rest =>
    lineStartsFrom (if b = Text.byte '\n' ∧ ¬ rest.isEmpty then starts.push (offset + 1) else starts) (offset + 1) rest

namespace LineTable

def ofText (text : Text) : LineTable := ⟨lineStartsFrom #[0] 0 text, #[]⟩

def physicalLine (table : LineTable) (offset : Nat) : Nat := leading table.starts id offset

def lineOf (table : LineTable) (offset : Nat) : Int :=
  let line := table.physicalLine offset
  match table.directives[leading table.directives (·.offset) offset - 1]? with
  | some directive =>
    if directive.offset ≤ offset then directive.line + (line - table.physicalLine directive.offset) else line
  | none => line

end LineTable

end QualityGate.GoSource
