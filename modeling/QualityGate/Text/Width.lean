import QualityGate.CodePoint.Width
import QualityGate.Pattern.Search
import QualityGate.Text.Clusters

/-!
The width of a text on a screen. Terminal colour codes take no room, and a user-perceived character is as wide as the
first of its code points that has a width.
-/

namespace QualityGate.Text

def terminalCode? : Option Pattern :=
  (Pattern.compile "\\x1b\\[(?:[0-9]{1,3}(?:;[0-9]{1,3})*)?[m|K]").toOption

/-- The text outside the given matches, which are in order; `position` is the offset of the text. -/
def outside (t : Text) (position : Nat) : List Pattern.Match → Text
  | [] => t
  | found :: rest =>
    t.take (found.start - position) ++ outside (t.drop (found.stop - position)) found.stop rest

def withoutCodes (t : Text) : Text :=
  match terminalCode? with
  | some pattern => outside t 0 (pattern.allMatches t)
  | none => t

def clusterWidth (cluster : List Char) : Nat :=
  ((cluster.map fun c => CodePoint.columns c.toNat).find? (0 < ·)).getD 0

def width (t : Text) : Nat := ((clusters (withoutCodes t)).map clusterWidth).foldl (· + ·) 0

end QualityGate.Text
