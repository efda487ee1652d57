import QualityGate.Text.Basic

/-!
UTF-8. A text is read as a sequence of units: a well-formed code point, or one byte that begins none. The reading
at an offset depends only on the bytes from there on.
-/

namespace QualityGate.Text

def isContinuation (b : UInt8) : Bool := 0x80 ≤ b && b < 0xC0

/-- The code point that stands at the front of a text and its width in bytes. An ill-formed byte has no code point
and width one; the empty text has width zero. -/
def front : Text → Option Char × Nat
  | [] => (none, 0)
  | a :: rest =>
    if a < 0x80 then (some (Char.ofNat a.toNat), 1)
    else
      match rest with
      | b :: rest =>
        if !isContinuation b then (none, 1)
        else if 0xC2 ≤ a && a < 0xE0 then
          (some (Char.ofNat ((a.toNat - 0xC0) * 0x40 + (b.toNat - 0x80))), 2)
        else
          match rest with
          | c :: rest =>
            if !isContinuation c then (none, 1)
            else if 0xE0 ≤ a && a < 0xF0 then
              let n := ((a.toNat - 0xE0) * 0x40 + (b.toNat - 0x80)) * 0x40 + (c.toNat - 0x80)
              if n < 0x800 || (0xD800 ≤ n && n < 0xE000) then (none, 1) else (some (Char.ofNat n), 3)
            else
              match rest with
              | d :: _ =>
                if !isContinuation d then (none, 1)
                else if 0xF0 ≤ a && a < 0xF5 then
                  let n := (((a.toNat - 0xF0) * 0x40 + (b.toNat - 0x80)) * 0x40 + (c.toNat - 0x80)) * 0x40 +
                    (d.toNat - 0x80)
                  if n < 0x10000 || 0x10FFFF < n then (none, 1) else (some (Char.ofNat n), 4)
                else (none, 1)
              | [] => (none, 1)
          | [] => (none, 1)
      | [] => (none, 1)

def replacement : Char := '�'

/-- The code point at the front, or the replacement character where there is none. -/
def frontChar (t : Text) : Char := (front t).1.getD replacement

/-- The units from an offset on, when the first `skip` bytes belong to a unit already read. -/
def unitsFrom : Nat → Text → List (Option Char)
  | _, [] => []
  | skip + 1, _ :: rest => unitsFrom skip rest
  | 0, b :: rest => (front (b :: rest)).1 :: unitsFrom ((front (b :: rest)).2 - 1) rest

def units (t : Text) : List (Option Char) := unitsFrom 0 t

def isWellFormed (t : Text) : Bool := (units t).all (·.isSome)

def chars (t : Text) : List Char := (units t).filterMap id

def charsReplaced (t : Text) : List Char := (units t).map (·.getD replacement)

def encode (c : Char) : Text := String.utf8EncodeChar c

def ofChars (cs : List Char) : Text := cs.flatMap encode

def piecesFrom : Nat → Text → List (Option Char × Text)
  | _, [] => []
  | skip + 1, _ :: rest => piecesFrom skip rest
  | 0, b :: rest =>
    let unit := front (b :: rest)
    (unit.1, (b :: rest).take unit.2) :: piecesFrom (unit.2 - 1) rest

def pieces (t : Text) : List (Option Char × Text) := piecesFrom 0 t

def toString? (t : Text) : Option String :=
  if isWellFormed t then some (String.ofList (chars t)) else none

end QualityGate.Text
