/-!
Source text is a sequence of bytes, and every position in it is a byte offset. Nothing here assumes that the bytes
are well-formed UTF-8.
-/

namespace QualityGate

/-- Text as bytes. Offsets into a text count bytes. -/
abbrev Text := List UInt8

namespace Text

def ofString (s : String) : Text := s.toUTF8.data.toList

instance : Coe String Text := ⟨ofString⟩

def byte (c : Char) : UInt8 := c.toNat.toUInt8

def doubleQuote : UInt8 := 0x22

def singleQuote : UInt8 := 0x27

def backquote : UInt8 := 0x60

def backslash : UInt8 := 0x5C

def ofNat (n : Nat) : Text := (Nat.toDigits 10 n).map byte

/-- The decimal digits of an integer, after a minus sign when it is negative. -/
def ofInt : Int → Text
  | .ofNat n => ofNat n
  | .negSucc n => byte '-' :: ofNat (n + 1)

def slice (t : Text) (start stop : Nat) : Text := (t.drop start).take (stop - start)

def newlines (t : Text) : Nat := t.count (byte '\n')

/-- The number of lines: one more than the line breaks. -/
def lineCount (t : Text) : Nat := newlines t + 1

def startsWith (t beginning : Text) : Bool := beginning.isPrefixOf t

def endsWith (t ending : Text) : Bool := ending.isSuffixOf t

/-- The text without a given ending, when it has it. -/
def dropEnding (t ending : Text) : Text :=
  if endsWith t ending then t.take (t.length - ending.length) else t

def occursIn (part : Text) : Text → Bool
  | [] => part.isEmpty
  | b :: rest => part.isPrefixOf (b :: rest) || occursIn part rest

def find? (t part : Text) : Option Nat :=
  match t with
  | [] => if part.isEmpty then some 0 else none
  | b :: rest => if part.isPrefixOf (b :: rest) then some 0 else (find? rest part).map (· + 1)

def join (separator : Text) : List Text → Text
  | [] => []
  | [t] => t
  | t :: rest => t ++ separator ++ join separator rest

def splitAtByte (b : UInt8) : Text → List Text
  | [] => [[]]
  | c :: rest =>
    if c = b then [] :: splitAtByte b rest
    else
      match splitAtByte b rest with
      | [] => [[c]]
      | piece :: pieces => (c :: piece) :: pieces

def spaces (n : Nat) : Text := List.replicate n (byte ' ')

def times (n : Nat) (t : Text) : Text := (List.replicate n t).flatten

def before : Text → Text → Bool
  | [], [] => false
  | [], _ :: _ => true
  | _ :: _, [] => false
  | a :: s, b :: t => if a < b then true else if b < a then false else before s t

def insertByName {α : Type} (item : Text × α) : List (Text × α) → List (Text × α)
  | [] => [item]
  | first :: rest => if before first.1 item.1 then first :: insertByName item rest else item :: first :: rest

def sortedByName {α : Type} (items : List (Text × α)) : List (Text × α) := items.foldr insertByName []

end Text

end QualityGate
