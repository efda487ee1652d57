import QualityGate.CodePoint.Category
import QualityGate.Text.Utf8

/-!
Double-quoted text for messages: what cannot be seen is written as an escape.
-/

namespace QualityGate.Text

/-- Whether a character is shown as it is: it is visible, or the plain space. -/
def isPrintable (c : Char) : Bool :=
  if c.toNat < 0x7F then 0x20 ≤ c.toNat else CodePoint.within CodePoint.visible c.toNat

/-- A number in lowercase hexadecimal with at least the given number of digits. -/
def hex (width n : Nat) : Text :=
  let digits := (Nat.toDigits 16 n).map byte
  List.replicate (width - digits.length) (byte '0') ++ digits

def letterEscape? (c : Char) : Option Char :=
  match c.toNat with
  | 0x07 => some 'a'
  | 0x08 => some 'b'
  | 0x09 => some 't'
  | 0x0A => some 'n'
  | 0x0B => some 'v'
  | 0x0C => some 'f'
  | 0x0D => some 'r'
  | _ => none

def quoteChar (c : Char) : Text :=
  if byte c = doubleQuote && c.toNat < 0x80 || c = '\\' then [backslash, byte c]
  else if isPrintable c then encode c
  else
    match letterEscape? c with
    | some letter => [backslash, byte letter]
    | none =>
      if c.toNat < 0x20 || c.toNat = 0x7F then ofString "\\x" ++ hex 2 c.toNat
      else if c.toNat < 0x10000 then ofString "\\u" ++ hex 4 c.toNat
      else ofString "\\U" ++ hex 8 c.toNat

/-- One unit inside double quotes: an ill-formed byte is written in hexadecimal. -/
def quotePiece : Option Char × Text → Text
  | (some c, _) => quoteChar c
  | (none, bytes) => bytes.flatMap fun b => ofString "\\x" ++ hex 2 b.toNat

def quoted (t : Text) : Text := doubleQuote :: (pieces t).flatMap quotePiece ++ [doubleQuote]

def singleQuoted (c : Char) : Text :=
  let inner : Text :=
    if c.toNat = 0x22 then [doubleQuote] else if c.toNat = 0x27 then [backslash, singleQuote] else quoteChar c
  singleQuote :: inner ++ [singleQuote]

def isRaw (unit : Option Char) : Bool :=
  match unit with
  | none => false
  | some c => (c = '\t' || 0x20 ≤ c.toNat) && c.toNat ≠ 0x60 && c.toNat ≠ 0x7F && c.toNat ≠ 0xFEFF

/-- The text between backquotes if it can stand there, else between double quotes. -/
def rawQuoted (t : Text) : Text :=
  if (units t).all isRaw then backquote :: t ++ [backquote] else quoted t

end QualityGate.Text
