import QualityGate.Text.Utf8

/-!
White space: what counts as blank, trimming it from both ends, and the fields between runs of it.
-/

namespace QualityGate.Text

def isBlank (c : Char) : Bool :=
  let n := c.toNat
  (0x09 ≤ n && n ≤ 0x0D) || n = 0x20 || n = 0x85 || n = 0xA0 || n = 0x1680 || (0x2000 ≤ n && n ≤ 0x200A) ||
    n = 0x2028 || n = 0x2029 || n = 0x202F || n = 0x205F || n = 0x3000

def isBlankUnit (piece : Option Char × Text) : Bool := piece.1.any isBlank

def trim (t : Text) : Text :=
  let inner := (((pieces t).dropWhile isBlankUnit).reverse.dropWhile isBlankUnit).reverse
  inner.flatMap (·.2)

/-- The white-space separated words of a sequence of units; `word` is the one under way, backwards. -/
def fieldsFrom (word : Text) : List (Option Char × Text) → List Text
  | [] => if word.isEmpty then [] else [word.reverse]
  | piece :: rest =>
    if isBlankUnit piece then
      if word.isEmpty then fieldsFrom [] rest else word.reverse :: fieldsFrom [] rest
    else fieldsFrom (piece.2.reverse ++ word) rest

def fields (t : Text) : List Text := fieldsFrom [] (pieces t)

end QualityGate.Text
