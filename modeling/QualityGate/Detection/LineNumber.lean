import QualityGate.Text.Basic

/-!
Line numbers of offsets. The counter remembers the last offset it was asked for, so that increasing offsets cost one
pass over the text; an earlier offset starts again at the top.
-/

namespace QualityGate

/-- The last offset asked for and the line it is on; line zero means that nothing was asked yet. -/
structure LineCounter where
  offset : Nat := 0
  line : Nat := 0
  deriving DecidableEq, Repr

/-- The line of an offset, counted from one, and the counter that remembers it. -/
def LineCounter.lineAt (counter : LineCounter) (text : Text) (offset : Nat) : Nat × LineCounter :=
  let known := if counter.line = 0 ∨ offset < counter.offset then ⟨0, 1⟩ else counter
  let line := known.line + (text.slice known.offset offset).newlines
  (line, ⟨offset, line⟩)

end QualityGate
