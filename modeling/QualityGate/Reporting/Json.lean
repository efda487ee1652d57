import QualityGate.Reporting.Document
import QualityGate.Text.Quoted

/-!
Documents as indented JSON. Characters that a browser or a script could misread are written as escapes, and an
ill-formed byte becomes the replacement character.
-/

namespace QualityGate.Json

open Text (byte backslash doubleQuote)

def shortEscape? (c : Char) : Option Char :=
  match c.toNat with
  | 0x08 => some 'b'
  | 0x09 => some 't'
  | 0x0A => some 'n'
  | 0x0C => some 'f'
  | 0x0D => some 'r'
  | _ => none

def isNumbered (c : Char) : Bool :=
  c.toNat < 0x20 || c = '<' || c = '>' || c = '&' || c.toNat = 0x2028 || c.toNat = 0x2029

def charText (c : Char) : Text :=
  if c.toNat = doubleQuote.toNat ∨ c = '\\' then [backslash, byte c]
  else
    match shortEscape? c with
    | some letter => [backslash, byte letter]
    | none => if isNumbered c then Text.ofString "\\u" ++ Text.hex 4 c.toNat else Text.encode c

def string (t : Text) : Text := doubleQuote :: (Text.charsReplaced t).flatMap charText ++ [doubleQuote]

def newline (level : Nat) : Text := byte '\n' :: Text.spaces (2 * level)

mutual

def render (level : Nat) : Document → Text
  | .text value => string value
  | .integer value => Text.ofInt value
  | .truth value => if value then "true" else "false"
  | .list [] => "[]"
  | .list (item :: rest) =>
    "[" ++ newline (level + 1) ++ render (level + 1) item ++ renderItems (level + 1) rest ++ newline level ++ "]"
  | .record [] => "\x7b\x7d"
  | .record (field :: rest) =>
    "\x7b" ++ newline (level + 1) ++ renderField (level + 1) field ++ renderFields (level + 1) rest ++
      newline level ++ "\x7d"

def renderItems (level : Nat) : List Document → Text
  | [] => []
  | item :: rest => byte ',' :: newline level ++ render level item ++ renderItems level rest

def renderField (level : Nat) : Text × Document → Text
  | (name, value) => string name ++ ": " ++ render level value

def renderFields (level : Nat) : List (Text × Document) → Text
  | [] => []
  | field :: rest => byte ',' :: newline level ++ renderField level field ++ renderFields level rest

end

def print (document : Document) : Text := render 0 document ++ "\n"

end QualityGate.Json
