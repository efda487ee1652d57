import QualityGate.Text.Basic

/-!
Matching a delimiter by counting depth. The count starts at one just after the opening position, goes up at every
opener and down at every closer, and the match ends after the closer that brings it to zero.
-/

namespace QualityGate.Delimiter

structure Match where
  stop : Nat
  closed : Bool
  deriving DecidableEq, Repr

/-- Scans the rest of a text from an offset with `depth` delimiters open. A byte that is opener and closer at once
opens. -/
def scan (opener closer : UInt8) (position depth : Nat) : Text → Match
  | [] => ⟨position, false⟩
  | b :: rest =>
    if b = opener then scan opener closer (position + 1) (depth + 1) rest
    else if b = closer then
      if depth ≤ 1 then ⟨position + 1, true⟩ else scan opener closer (position + 1) (depth - 1) rest
    else scan opener closer (position + 1) depth rest

/-- The match of the delimiter that opens at an offset. An offset outside the text is an unclosed delimiter that runs
to the end. -/
def matchAt (text : Text) (opening : Int) (opener closer : UInt8) : Match :=
  if opening < 0 then ⟨text.length, false⟩
  else
    match text.drop opening.toNat with
    | [] => ⟨text.length, false⟩
    | _ :: rest => scan opener closer (opening.toNat + 1) 1 rest

def matchBrace (text : Text) (opening : Int) : Match :=
  matchAt text opening (Text.byte '{') (Text.byte '}')

end QualityGate.Delimiter
