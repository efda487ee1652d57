import QualityGate.Text.Casing
import QualityGate.Text.Quoted

/-!
The diagnostic log: one line for each entry, with its level, its message and its fields in order of their names.
-/

namespace QualityGate

inductive LogLevel where
  | panic
  | fatal
  | error
  | warning
  | info
  | debug
  | trace
  deriving DecidableEq, Repr

namespace LogLevel

def all : List LogLevel := [panic, fatal, error, warning, info, debug, trace]

def name : LogLevel → Text
  | panic => "panic"
  | fatal => "fatal"
  | error => "error"
  | warning => "warning"
  | info => "info"
  | debug => "debug"
  | trace => "trace"

/-- Reads a level. Letter case does not matter, and warnings have a short name. -/
def parse? (value : Text) : Option LogLevel :=
  let key := Text.lower value
  if key = "warn" then some warning else all.find? (·.name = key)

def rank : LogLevel → Nat
  | panic => 0
  | fatal => 1
  | error => 2
  | warning => 3
  | info => 4
  | debug => 5
  | trace => 6

end LogLevel

structure LogEntry where
  level : LogLevel
  message : Text
  fields : List (Text × Text) := []
  deriving DecidableEq, Repr

namespace LogEntry

def isPlain (b : UInt8) : Bool :=
  Text.byte 'a' ≤ b && b ≤ Text.byte 'z' || Text.byte 'A' ≤ b && b ≤ Text.byte 'Z' ||
    Text.byte '0' ≤ b && b ≤ Text.byte '9' || (Text.ofString "-._/@^+").contains b

/-- A value as it stands in the log: between quotes when it holds anything unusual. -/
def value (t : Text) : Text := if t.all isPlain then t else t.quoted

def line (entry : LogEntry) : Text :=
  let fields : List (Text × Text) := ("level", entry.level.name) :: ("msg", entry.message) :: entry.fields
  Text.join " " (fields.map fun (name, t) => name ++ "=" ++ value t) ++ "\n"

/-- The log: the lines of the entries that are urgent enough. -/
def written (level : LogLevel) (entries : List LogEntry) : Text :=
  (entries.filter fun entry => entry.level.rank ≤ level.rank).flatMap line

end LogEntry

end QualityGate
