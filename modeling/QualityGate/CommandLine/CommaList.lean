import QualityGate.Text.Basic

/-!
Lists with commas between the items. An item between double quotes can hold anything; a quote inside it is doubled.
Only the first line that is not empty counts, but a quoted item can go on over several lines.
-/

namespace QualityGate.CommandLine

structure ListPosition where
  start : Nat
  line : Nat
  column : Nat
  deriving DecidableEq, Repr

inductive ListError where
  | empty
  | bareQuote (position : ListPosition)
  | strayQuote (position : ListPosition)
  deriving DecidableEq, Repr

def ListPosition.message (position : ListPosition) : Text :=
  (if position.start = position.line then "" else "record on line " ++ Text.ofNat position.start ++ "; " : Text) ++
    "parse error on line " ++ Text.ofNat position.line ++ ", column " ++ Text.ofNat position.column ++ ": "

def ListError.message : ListError → Text
  | empty => "EOF"
  | bareQuote position => position.message ++ "bare \" in non-quoted-field"
  | strayQuote position => position.message ++ "extraneous or missing \" in quoted-field"

namespace CommaList

open Text (byte)

/-- Line ends without a carriage return; one at the very end is dropped too. -/
def plainLines : Text → Text
  | [] => []
  | [b] => if b = byte '\r' then [] else [b]
  | b :: c :: rest =>
    if b = byte '\r' ∧ c = byte '\n' then plainLines (c :: rest) else b :: plainLines (c :: rest)

inductive Part where
  | start
  | bare (item : Text)
  | inQuotes (item : Text)
  /-- After a quote inside quotes: the item ends, or the quote is part of it. -/
  | afterQuote (item : Text)
  deriving DecidableEq, Repr

/-- Reads items from a position on; `items` have been read, the latest first. -/
def readFrom (items : List Text) (part : Part) (position : ListPosition) : Text → Except ListError (List Text)
  | [] =>
    match part with
    | .start => .ok ([] :: items).reverse
    | .bare item | .afterQuote item => .ok (item.reverse :: items).reverse
    | .inQuotes _ => .error (.strayQuote position)
  | b :: rest =>
    let next := { position with column := position.column + 1 }
    match part with
    | .start =>
      if b = Text.doubleQuote then readFrom items (.inQuotes []) next rest
      else if b = byte ',' then readFrom ([] :: items) .start next rest
      else if b = byte '\n' then .ok ([] :: items).reverse
      else readFrom items (.bare [b]) next rest
    | .bare item =>
      if b = Text.doubleQuote then .error (.bareQuote position)
      else if b = byte ',' then readFrom (item.reverse :: items) .start next rest
      else if b = byte '\n' then .ok (item.reverse :: items).reverse
      else readFrom items (.bare (b :: item)) next rest
    | .inQuotes item =>
      if b = Text.doubleQuote then readFrom items (.afterQuote item) next rest
      else if b = byte '\n' ∧ ¬ rest.isEmpty then
        readFrom items (.inQuotes (b :: item)) { position with line := position.line + 1, column := 1 } rest
      else readFrom items (.inQuotes (b :: item)) next rest
    | .afterQuote item =>
      if b = Text.doubleQuote then readFrom items (.inQuotes (b :: item)) next rest
      else if b = byte ',' then readFrom (item.reverse :: items) .start next rest
      else if b = byte '\n' then .ok (item.reverse :: items).reverse
      else .error (.strayQuote { position with column := position.column - 1 })

def readLine (line : Nat) : Text → Except ListError (List Text)
  | [] => .error .empty
  | b :: rest =>
    if b = byte '\n' then readLine (line + 1) rest else readFrom [] .start ⟨line, line, 1⟩ (b :: rest)

/-- Reads a list; the empty text is the empty list. -/
def parse (t : Text) : Except ListError (List Text) := if t.isEmpty then .ok [] else readLine 1 (plainLines t)

end CommaList

end QualityGate.CommandLine
