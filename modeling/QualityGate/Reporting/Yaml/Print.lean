import QualityGate.Reporting.Document
import QualityGate.Reporting.Yaml.Scalar

/-!
Documents as YAML in block style. A list inside a record is indented, and the fields of a record in a list line up
after the dash.
-/

namespace QualityGate.Yaml

open Text (byte)

def below (indent : Nat) : Nat := step * ((indent + step) / step)

mutual

/-- What follows the colon after a field name, with the end of the line. -/
def renderValue (indent : Nat) : Document → Text
  | .text value => byte ' ' :: scalarLine (below indent) value
  | .integer value => byte ' ' :: Text.ofInt value ++ "\n"
  | .truth value => if value then " true\n" else " false\n"
  | .list [] => " []\n"
  | .list (item :: rest) =>
    byte '\n' :: renderItem (below indent) item ++ renderItems (below indent) rest
  | .record [] => " \x7b\x7d\n"
  | .record (field :: rest) =>
    byte '\n' :: renderField (below indent) field ++ renderFields (below indent) rest

def renderItem (indent : Nat) : Document → Text
  | .text value => Text.spaces indent ++ "- " ++ scalarLine (indent + 2) value
  | .integer value => Text.spaces indent ++ "- " ++ Text.ofInt value ++ "\n"
  | .truth value => Text.spaces indent ++ if value then "- true\n" else "- false\n"
  | .list [] => Text.spaces indent ++ "- []\n"
  | .list (item :: rest) =>
    Text.spaces indent ++ "- " ++ (renderItem (indent + 2) item).drop (indent + 2) ++ renderItems (indent + 2) rest
  | .record [] => Text.spaces indent ++ "- \x7b\x7d\n"
  | .record (field :: rest) =>
    Text.spaces indent ++ "- " ++ (renderField (indent + 2) field).drop (indent + 2) ++
      renderFields (indent + 2) rest

def renderItems (indent : Nat) : List Document → Text
  | [] => []
  | item :: rest => renderItem indent item ++ renderItems indent rest

def renderField (indent : Nat) : Text × Document → Text
  | (name, value) => Text.spaces indent ++ name ++ ":" ++ renderValue indent value

def renderFields (indent : Nat) : List (Text × Document) → Text
  | [] => []
  | field :: rest => renderField indent field ++ renderFields indent rest

end

def print : Document → Text
  | .record [] => "\x7b\x7d\n"
  | .record fields => renderFields 0 fields
  | .list [] => "[]\n"
  | .list items => renderItems 0 items
  | .text value => scalarLine step value
  | .integer value => Text.ofInt value ++ "\n"
  | .truth value => if value then "true\n" else "false\n"

end QualityGate.Yaml
