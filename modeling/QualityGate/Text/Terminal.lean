import QualityGate.CodePoint.Width
import QualityGate.Text.Clusters

/-!
The columns that a text takes on a terminal. Control sequences take none: they are followed byte by byte until they end.
A user-perceived character that begins with a multi-byte code point is measured as a whole, and any other printing byte
takes one column.
-/

namespace QualityGate.Text

open CodePoint (ClusterClass clusterClass terminalColumns)

inductive TerminalState where
  | ground
  | escape
  | escapeIntermediate
  | controlEntry
  | controlParameter
  | controlIntermediate
  | deviceEntry
  | deviceParameter
  | deviceIntermediate
  | deviceString
  | commandString
  | privateString
  deriving DecidableEq, Repr

namespace TerminalState

/-- Whether a byte is a control that neither ends nor begins a sequence. -/
def isQuiet (b : UInt8) : Bool := b < 0x18 || b = 0x19 || (0x1C ≤ b && b < 0x20)

def isIntermediate (b : UInt8) : Bool := 0x20 ≤ b && b < 0x30

def isParameter (b : UInt8) : Bool := 0x30 ≤ b && b < 0x40

def endsString (b : UInt8) : Bool := b = 0x18 || b = 0x1A || b = 0x9C

/-- The state after a byte that means the same in every state. -/
def restart (b : UInt8) : TerminalState :=
  if b = 0x1B then escape
  else if b = 0x90 then deviceEntry
  else if b = 0x98 || b = 0x9E || b = 0x9F then privateString
  else if b = 0x9B then controlEntry
  else if b = 0x9D then commandString
  else ground

def introduce (b : UInt8) : TerminalState :=
  if b = byte 'X' || b = byte '^' || b = byte '_' then privateString
  else if b = byte 'P' then deviceEntry
  else if b = byte '[' then controlEntry
  else if b = byte ']' then commandString
  else restart b

def next (state : TerminalState) (b : UInt8) : TerminalState :=
  match state with
  | ground => restart b
  | escape =>
    if isQuiet b || b = 0x7F then escape else if isIntermediate b then escapeIntermediate else introduce b
  | escapeIntermediate => if isQuiet b || isIntermediate b || b = 0x7F then escapeIntermediate else restart b
  | controlEntry =>
    if isQuiet b || b = 0x7F then controlEntry
    else if isIntermediate b then controlIntermediate
    else if isParameter b then controlParameter
    else restart b
  | controlParameter =>
    if isQuiet b || isParameter b || b = 0x7F then controlParameter
    else if isIntermediate b then controlIntermediate
    else restart b
  | controlIntermediate => if isQuiet b || isIntermediate b || b = 0x7F then controlIntermediate else restart b
  | deviceEntry =>
    if (0x08 ≤ b && b < 0x0E) || b = 0x1B then deviceString
    else if isQuiet b || b = 0x7F then deviceEntry
    else if isIntermediate b then deviceIntermediate
    else if isParameter b then deviceParameter
    else if b < 0x7F && 0x40 ≤ b then deviceString
    else restart b
  | deviceParameter =>
    if isQuiet b || isParameter b || b = 0x7F then deviceParameter
    else if isIntermediate b then deviceIntermediate
    else if b < 0x7F && 0x40 ≤ b then deviceString
    else restart b
  | deviceIntermediate =>
    if isQuiet b || isIntermediate b || b = 0x7F then deviceIntermediate
    else if b < 0x7F && 0x30 ≤ b then deviceString
    else restart b
  | deviceString => if b = 0x1B then escape else if endsString b then ground else deviceString
  | commandString => if b = 0x1B then escape else if endsString b || b = 0x07 then ground else commandString
  | privateString => if isQuiet b || (0x20 ≤ b && b < 0x80) then privateString else restart b

def prints (state : TerminalState) (b : UInt8) : Bool := state = ground && 0x20 ≤ b && b < 0x7F

def startsCharacter (state : TerminalState) (b : UInt8) : Bool :=
  state ≠ deviceString && state ≠ commandString && 0xC2 ≤ b && b < 0xF5

end TerminalState

/-- The width of a user-perceived character after one more code point, when its first one is of class `first`. A
pictograph can be told to look like text or like a picture, and a flag or a Hangul syllable keeps its width. -/
def widened (first : ClusterClass) (width : Nat) (kind : ClusterClass) (c : Nat) : Nat :=
  match first with
  | .pictograph => if c = 0xFE0E then 1 else if c = 0xFE0F then 2 else width
  | .regional | .leadingJamo => width
  | _ => width + terminalColumns kind c

def clusterSpan (first : ClusterClass) (state : ClusterState) (size width : Nat) : Nat → Text → Nat × Nat
  | _, [] => (size, width)
  | skip + 1, _ :: rest => clusterSpan first state size width skip rest
  | 0, b :: rest =>
    let c := (frontChar (b :: rest)).toNat
    let kind := clusterClass c
    if state.holds kind then
      let more := (front (b :: rest)).2
      clusterSpan first (state.next kind) (size + more) (widened first width kind c) (more - 1) rest
    else (size, width)

def frontSpan (t : Text) : Nat × Nat :=
  let c := (frontChar t).toNat
  let kind := clusterClass c
  let size := (front t).2
  clusterSpan kind (.start kind) size (terminalColumns kind c) 0 (t.drop size)

/-- The columns of a text, after `total` columns, when the first `skip` bytes belong to a character already counted. -/
def terminalWidthFrom (state : TerminalState) (total : Nat) : Nat → Text → Nat
  | _, [] => total
  | skip + 1, _ :: rest => terminalWidthFrom state total skip rest
  | 0, b :: rest =>
    if state.startsCharacter b then
      let (size, width) := frontSpan (b :: rest)
      terminalWidthFrom .ground (total + width) (size - 1) rest
    else terminalWidthFrom (state.next b) (if state.prints b then total + 1 else total) 0 rest

def terminalWidth (t : Text) : Nat := terminalWidthFrom .ground 0 0 t

end QualityGate.Text
