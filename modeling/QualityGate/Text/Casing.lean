import QualityGate.CodePoint.Casing
import QualityGate.Text.Utf8

/-!
Lowercase text, code point by code point.
-/

namespace QualityGate.Text

/-- The text in lowercase. An ill-formed byte becomes the replacement character. -/
def lower (t : Text) : Text :=
  ofChars ((charsReplaced t).map fun c => Char.ofNat (CodePoint.toLower c.toNat))

end QualityGate.Text
