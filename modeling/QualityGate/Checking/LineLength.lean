import QualityGate.Text.Blank

/-!
Lines that are too long. A line ends at a line break; the rest after the last one is a line if it is not empty. The
line break and one carriage return before it do not count, ill-formed bytes are dropped, and the length is the number
of code points that are left.
-/

namespace QualityGate

structure LineViolation where
  path : Text
  line : Int
  length : Int
  text : Text
  deriving DecidableEq, Repr

structure Source where
  content : Text
  failure : Option Text := none
  deriving DecidableEq, Repr

namespace LineLength

def defaultMaximum : Nat := 120

/-- The maximum that a setting means; only a positive one replaces the default. -/
def maximumOf (setting : Int) : Nat := if 0 < setting then setting.toNat else defaultMaximum

/-- The lines of a text with their line breaks; `line` is the one under way. -/
def segmentsFrom (line : Text) : Text → List Text
  | [] => if line.isEmpty then [] else [line.reverse]
  | b :: rest =>
    if b = Text.byte '\n' then (b :: line).reverse :: segmentsFrom [] rest else segmentsFrom (b :: line) rest

def segments (text : Text) : List Text := segmentsFrom [] text

/-- The complete lines of a reading: when it broke off, the line under way is lost. -/
def linesOf (source : Source) : List Text :=
  let found := segments source.content
  if source.failure.isSome then found.filter (Text.endsWith · "\n") else found

/-- A line as it is measured: without its line break, and without ill-formed bytes. -/
def measured (line : Text) : List Char :=
  Text.chars ((line.dropEnding "\n").dropEnding "\r")

def judge (maximum : Nat) (path : Text) (line : Text) (number : Nat) : Option LineViolation :=
  let content := measured line
  if maximum < content.length then
    some ⟨path, number, content.length, Text.trim (Text.ofChars content)⟩
  else none

def violations (maximum : Nat) (path : Text) (source : Source) : List LineViolation :=
  ((linesOf source).zipIdx 1).filterMap fun (line, number) => judge maximum path line number

end LineLength

end QualityGate
