import QualityGate.Reporting.Yaml.Resolution
import QualityGate.Text.Quoted

/-!
Texts as YAML scalars: which of the four styles is used, and how the text is written in it. The plain style is taken
where the text allows it and reads back as text; texts with line breaks are written as literal blocks.
-/

namespace QualityGate.Yaml

open Text (byte)

inductive Style where
  | plain
  | singleQuoted
  | doubleQuoted
  | literal
  deriving DecidableEq, Repr

/-! ### What a text allows -/

def isBreak (c : Char) : Bool :=
  c = '\n' || c = '\r' || c.toNat = 0x85 || c.toNat = 0x2028 || c.toNat = 0x2029

def isPrintable (c : Char) : Bool :=
  let n := c.toNat
  n = 0x0A || (0x20 ≤ n && n ≤ 0x7E) || (0xA0 ≤ n && n ≤ 0xD7FF) || (0xE000 ≤ n && n ≤ 0xFFFD && n ≠ 0xFEFF)

def hasSpecial (cs : List Char) : Bool := cs.any fun c => c ≠ '\t' && !isPrintable c

def hasPair (first second : Char → Bool) : List Char → Bool
  | a :: b :: rest => (first a && second b) || hasPair first second (b :: rest)
  | _ => false

def isSpace (c : Char) : Bool := c = ' '

def atGap : List Char → Bool
  | [] => true
  | c :: _ => c = ' ' || c = '\t'

def reserved : List Char := "#,[]\x7b\x7d&*!|>'%@".toList ++ [Char.ofNat 0x22, Char.ofNat 0x60]

def startsReserved : List Char → Bool
  | [] => false
  | c :: rest => reserved.contains c || ((c = '?' || c = ':' || c = '-') && atGap rest)

/-- Whether a colon before a gap, or a hash after one, stands further on. -/
def hasInnerIndicator : List Char → Bool
  | a :: b :: rest =>
    (b = ':' && atGap rest) || (b = '#' && (a = ' ' || a = '\t')) || hasInnerIndicator (b :: rest)
  | _ => false

def startsMarker (cs : List Char) : Bool := "---".toList.isPrefixOf cs || "...".toList.isPrefixOf cs

/-- Whether a space meets a line break, with which only an escaped form is safe. -/
def mixesBreaks (cs : List Char) : Bool := hasPair isBreak isSpace cs || hasPair isSpace isBreak cs

def allowsSingleQuotes (cs : List Char) : Bool := !(mixesBreaks cs || cs.contains '\t' || hasSpecial cs)

def allowsPlain (cs : List Char) : Bool :=
  allowsSingleQuotes cs && !cs.head?.any isSpace && !cs.getLast?.any isSpace && !cs.any isBreak &&
    !startsMarker cs && !startsReserved cs && !hasInnerIndicator cs

def allowsBlock (cs : List Char) : Bool :=
  !(cs.getLast?.any isSpace || hasPair isSpace isBreak cs || hasSpecial cs)

/-- The style for a text that would be safe in plain style as far as its reading goes, or not. -/
def chooseStyle (safePlain : Bool) (cs : List Char) : Style :=
  if cs.contains '\n' then if allowsBlock cs then .literal else .doubleQuoted
  else if ¬ safePlain then .doubleQuoted
  else if allowsPlain cs then .plain
  else if allowsSingleQuotes cs then .singleQuoted
  else .doubleQuoted

/-! ### The styles -/

def shortEscape? (c : Char) : Option Char :=
  match c.toNat with
  | 0x00 => some '0'
  | 0x07 => some 'a'
  | 0x08 => some 'b'
  | 0x09 => some 't'
  | 0x0A => some 'n'
  | 0x0B => some 'v'
  | 0x0C => some 'f'
  | 0x0D => some 'r'
  | 0x1B => some 'e'
  | 0x22 => some (Char.ofNat 0x22)
  | 0x5C => some '\\'
  | 0x85 => some 'N'
  | 0xA0 => some '_'
  | 0x2028 => some 'L'
  | 0x2029 => some 'P'
  | _ => none

/-- A number in uppercase hexadecimal with at least the given number of digits. -/
def upperHex (width n : Nat) : Text :=
  (Text.hex width n).map fun b => if byte 'a' ≤ b then b - 32 else b

def escape (c : Char) : Text :=
  match shortEscape? c with
  | some letter => [Text.backslash, byte letter]
  | none =>
    if c.toNat < 0x100 then Text.ofString "\\x" ++ upperHex 2 c.toNat
    else if c.toNat < 0x10000 then Text.ofString "\\u" ++ upperHex 4 c.toNat
    else Text.ofString "\\U" ++ upperHex 8 c.toNat

def needsEscape (c : Char) : Bool :=
  !isPrintable c || isBreak c || c.toNat = 0x22 || c = '\\'

def byteOrderMark : Char := Char.ofNat 0xFEFF

/-- A text in double quotes. After a byte order mark at its beginning every character is escaped. -/
def doubleQuoted (cs : List Char) : Text :=
  let marked := cs.head? = some byteOrderMark
  Text.doubleQuote :: cs.flatMap (fun c => if marked || needsEscape c then escape c else Text.encode c) ++
    [Text.doubleQuote]

/-- The characters of a text with an indentation after every line break, and at its beginning if `afterBreak`, and a
doubled single quote if `quoting`. -/
def indentLines (indent : Nat) (quoting afterBreak : Bool) (cs : List Char) : Text :=
  (cs.zip (afterBreak :: cs.map isBreak)).flatMap fun (c, afterBreak) =>
    (if afterBreak ∧ ¬ isBreak c then Text.spaces indent else []) ++
      if quoting ∧ c.toNat = 0x27 then [Text.singleQuote, Text.singleQuote] else Text.encode c

def singleQuoted (indent : Nat) (cs : List Char) : Text :=
  Text.singleQuote :: indentLines indent true false cs ++ [Text.singleQuote]

def step : Nat := 4

def indentHint (cs : List Char) : Text :=
  if cs.head?.any fun c => isSpace c || isBreak c then Text.ofNat step else []

/-- The hint on the line breaks at the end of a literal block: none kept, one, or all. -/
def endHint (cs : List Char) : Text :=
  match cs.reverse with
  | [] => "-"
  | [c] => if isBreak c then "+" else "-"
  | c :: d :: _ => if ¬ isBreak c then "-" else if isBreak d then "+" else []

/-- A text as a literal block. A line break at the very beginning is the one that ends the header. -/
def literal (indent : Nat) (cs : List Char) : Text :=
  byte '|' :: indentHint cs ++ endHint cs ++ (if cs.head?.any isBreak then [] else [byte '\n']) ++
    indentLines indent false true cs

def write (indent : Nat) (cs : List Char) : Style → Text
  | .plain => Text.ofChars cs
  | .singleQuoted => singleQuoted indent cs
  | .doubleQuoted => doubleQuoted cs
  | .literal => literal indent cs

/-! ### Bytes that are not text -/

def base64Digits : List Char :=
  "ABCDEFGHIJKLMNOPQRSTUVWXYZabcdefghijklmnopqrstuvwxyz0123456789+/".toList

def base64Digit (n : Nat) : Char := base64Digits.getD (n % 64) '='

/-- Bytes in base 64, after the digits in `done`, which come latest first. -/
def base64From (done : List Char) : Text → List Char
  | [] => done.reverse
  | [a] =>
    let n := a.toNat * 0x10000
    ('=' :: '=' :: base64Digit (n / 0x1000) :: base64Digit (n / 0x40000) :: done).reverse
  | [a, b] =>
    let n := a.toNat * 0x10000 + b.toNat * 0x100
    ('=' :: base64Digit (n / 0x40) :: base64Digit (n / 0x1000) :: base64Digit (n / 0x40000) :: done).reverse
  | a :: b :: c :: rest =>
    let n := a.toNat * 0x10000 + b.toNat * 0x100 + c.toNat
    base64From
      (base64Digit n :: base64Digit (n / 0x40) :: base64Digit (n / 0x1000) :: base64Digit (n / 0x40000) :: done) rest

def base64 (t : Text) : List Char := base64From [] t

def base64LineLength : Nat := 70

/-- Base-64 digits with a line break after each full line that is not the last, and one at the end. -/
def inLines (digits : List Char) : List Char :=
  digits.zipIdx.flatMap (fun (c, i) => if 0 < i ∧ i % base64LineLength = 0 then ['\n', c] else [c]) ++ ['\n']

/-- Bytes in base 64, in lines when they fill more than one. -/
def base64Text (t : Text) : List Char :=
  let digits := base64 t
  if digits.length < base64LineLength then digits else inLines digits

/-! ### Scalars -/

/-- A text as a scalar. Bytes that are no text are written in base 64 under a tag. -/
def scalar (indent : Nat) (t : Text) : Text :=
  if Text.isWellFormed t then
    let cs := Text.chars t
    write indent cs (chooseStyle (readsAsText t) cs)
  else
    let cs := base64Text t
    Text.ofString "!!binary " ++ write indent cs (chooseStyle true cs)

/-- Whether a scalar has ended its line itself: a literal block whose text ends with a line break has. -/
def endsLine (t : Text) : Bool :=
  let cs := if Text.isWellFormed t then Text.chars t else base64Text t
  cs.getLast?.any isBreak && chooseStyle (readsAsText t) cs = .literal

def scalarLine (indent : Nat) (t : Text) : Text :=
  scalar indent t ++ if endsLine t then [] else [byte '\n']

end QualityGate.Yaml
