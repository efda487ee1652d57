import QualityGate.Text.Basic

/-!
Where output goes. A channel takes each write as a whole or not at all, and after the first write that did not fit
it takes nothing more.
-/

namespace QualityGate

structure Channel where
  limit : Option Int := none
  content : Text := []
  broken : Bool := false
  deriving DecidableEq, Repr

namespace Channel

/-- The bytes that still fit, if there is a limit. -/
def room (channel : Channel) : Option Int := channel.limit.map (· - channel.content.length)

/-- The writes that are taken where so many bytes fit: all before the first that does not fit. -/
def accepted (room : Option Int) : List Text → List Text
  | [] => []
  | t :: rest =>
    if room.all ((t.length : Int) ≤ ·) then t :: accepted (room.map (· - t.length)) rest else []

/-- The channel after several writes, and whether all were taken. -/
def send (channel : Channel) (writes : List Text) : Channel × Bool :=
  let taken := if channel.broken then [] else accepted channel.room writes
  let all := decide (taken.length = writes.length)
  ({ channel with content := channel.content ++ taken.flatten, broken := channel.broken || !all }, all)

/-- The channel after a write, and whether it was taken. -/
def write (channel : Channel) (t : Text) : Channel × Bool := channel.send [t]

def brokenMessage : Text := "broken pipe"

end Channel

end QualityGate
