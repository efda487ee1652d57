import QualityGate.Text.Basic

/-!
Whole numbers as they are written on the command line: decimal, or in another base after `0b`, `0o`, `0` or `0x`,
with an optional sign and with underscores between digits.
-/

namespace QualityGate.CommandLine

inductive NumberError where
  | malformed
  | outOfRange
  deriving DecidableEq, Repr

def NumberError.message : NumberError → Text
  | malformed => "invalid syntax"
  | outOfRange => "value out of range"

namespace Number

open Text (byte)

/-- A letter in lowercase; other bytes may change too, but never into a letter. -/
def lowered (b : UInt8) : UInt8 := b ||| 0x20

def digit? (b : UInt8) : Option Nat :=
  if byte '0' ≤ b ∧ b ≤ byte '9' then some (b.toNat - 48)
  else if byte 'a' ≤ lowered b ∧ lowered b ≤ byte 'z' then some ((lowered b).toNat - 87)
  else none

/-- The base that the beginning of a number asks for, and the digits after it. -/
def base (t : Text) : Nat × Text :=
  match t with
  | 48 :: b :: digit :: rest =>
    if lowered b = byte 'b' then (2, digit :: rest)
    else if lowered b = byte 'o' then (8, digit :: rest)
    else if lowered b = byte 'x' then (16, digit :: rest)
    else (8, b :: digit :: rest)
  | 48 :: rest => (8, rest)
  | _ => (10, t)

/-- The value of digits after those with the value `n`. The first fault counts: a byte that is no digit, or a value of
more than 64 bits. -/
def digits (base : Nat) (n : Nat) : Text → Except NumberError Nat
  | [] => .ok n
  | b :: rest =>
    if b = byte '_' then digits base n rest
    else
      match digit? b with
      | none => .error .malformed
      | some d =>
        if base ≤ d then .error .malformed
        else if 0x10000000000000000 ≤ n * base + d then .error .outOfRange
        else digits base (n * base + d) rest

inductive Seen where
  | start
  | digit
  | underscore
  | other
  deriving DecidableEq, Repr

def spacedFrom (hex : Bool) (seen : Seen) : Text → Bool
  | [] => seen ≠ .underscore
  | b :: rest =>
    if byte '0' ≤ b ∧ b ≤ byte '9' ∨ hex ∧ byte 'a' ≤ lowered b ∧ lowered b ≤ byte 'f' then
      spacedFrom hex .digit rest
    else if b = byte '_' then seen = .digit && spacedFrom hex .underscore rest
    else seen ≠ .underscore && spacedFrom hex .other rest

/-- Whether the underscores of a number are in order. The base counts as a digit. -/
def isSpaced (t : Text) : Bool :=
  match t with
  | 48 :: b :: rest =>
    if (Text.ofString "box").contains (lowered b) then spacedFrom (lowered b = byte 'x') .digit rest
    else spacedFrom false .start t
  | _ => spacedFrom false .start t

def unsigned (t : Text) : Except NumberError Nat :=
  if t.isEmpty then .error .malformed
  else
    let (base, rest) := base t
    match digits base 0 rest with
    | .ok n => if t.contains (byte '_') && !isSpaced t then .error .malformed else .ok n
    | .error error => .error error

def parse (t : Text) : Except NumberError Int :=
  let (negative, rest) :=
    match t with
    | 43 :: rest => (false, rest)
    | 45 :: rest => (true, rest)
    | _ => (false, t)
  match unsigned rest with
  | .error error => .error error
  | .ok n =>
    if negative then if 0x8000000000000000 < n then .error .outOfRange else .ok (-n)
    else if 0x8000000000000000 ≤ n then .error .outOfRange else .ok n

end Number

end QualityGate.CommandLine
