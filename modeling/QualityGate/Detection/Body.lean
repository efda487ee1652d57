import QualityGate.Declaration
import QualityGate.Delimiter

/-!
The body of a method: from the first opening brace at or after its declaration through the matching closing brace.
-/

namespace QualityGate

/-- A method body with its bounds. An unclosed body runs to the end of the text. -/
structure MethodBody where
  text : Text
  start : Nat
  stop : Nat
  closed : Bool
  deriving DecidableEq, Repr

def MethodBody.lineCount (body : MethodBody) : Nat := body.text.lineCount

def MethodDeclaration.searchStart (declaration : MethodDeclaration) : Int :=
  if 0 < declaration.bodyStart then declaration.bodyStart else declaration.offset

/-- The offset of the first opening brace at or after an offset, and the text from there on. -/
def braceFrom? (text : Text) (start : Nat) : Option (Nat × Text) :=
  let rest := text.drop start
  (rest.findIdx? (· = Text.byte '{')).map fun gap => (start + gap, rest.drop gap)

/-- The body of a declaration. There is none when the search starts outside the text or meets no opening brace. -/
def MethodDeclaration.body? (text : Text) (declaration : MethodDeclaration) : Option MethodBody :=
  let start := declaration.searchStart
  if start < 0 then none
  else
    (braceFrom? text start.toNat).map fun (opening, inside) =>
      let found := Delimiter.matchBrace inside 0
      ⟨inside.take found.stop, opening, opening + found.stop, found.closed⟩

end QualityGate
