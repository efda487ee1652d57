import QualityGate.Shell.Arithmetic

/-!
What the commands that print their arguments write.
-/

namespace QualityGate.Shell

open Text (byte)

/-! ### Escapes -/

def escapeLetters : List (Char × UInt8) :=
  [('a', 7), ('b', 8), ('e', 27), ('f', 12), ('n', 10), ('r', 13), ('t', 9), ('v', 11), ('\\', 92)]

/-- The byte that octal digits spell, at most `limit` of them, and how many there are. -/
def octal (limit : Nat) (t : Text) : UInt8 × Nat :=
  let digits := (t.take limit).takeWhile fun b => byte '0' ≤ b && b ≤ byte '7'
  (digits.foldl (fun n b => n * 8 + (b - 48)) 0, digits.length)

/-- The text with its escapes replaced, after what is in `done`, backwards, and whether an escape says to stop. Octal digits
stand for a byte; where `zeroFirst`, a zero in front of them does not count as one. -/
def unescape (zeroFirst : Bool) : Nat → Text → Text → Text × Bool
  | 0, done, _ => (done.reverse, false)
  | fuel + 1, done, t =>
    match t with
    | [] => (done.reverse, false)
    | [b] => ((b :: done).reverse, false)
    | b :: c :: rest =>
      if b ≠ Text.backslash then unescape zeroFirst fuel (b :: done) (c :: rest)
      else if c = byte 'c' && zeroFirst then (done.reverse, true)
      else if zeroFirst && c = byte '0' then
        let (value, count) := octal 3 rest
        unescape zeroFirst fuel (value :: done) (rest.drop count)
      else if byte '0' ≤ c && c ≤ byte '7' then
        let (value, count) := octal 3 (c :: rest)
        unescape zeroFirst fuel (value :: done) ((c :: rest).drop count)
      else
        match (escapeLetters.map fun entry => (byte entry.1, entry.2)).lookup c with
        | some value => unescape zeroFirst fuel (value :: done) rest
        | none => unescape zeroFirst fuel (c :: b :: done) rest

/-- What `echo` writes. -/
def echoed (arguments : List Text) : Text :=
  let isBare := arguments.head? = some (Text.ofString "-n")
  let words := if isBare then arguments.tail else arguments
  let line := Text.join " " words
  let (text, stops) := unescape true (line.length + 1) [] line
  if isBare || stops then text else text ++ "\n"

/-! ### Numbers -/

/-- The number at the front of a text, in the base that its beginning says, and what follows it; nothing when there is
none. -/
def leadingNumber? (t : Text) : Option (Int × Text) := do
  let t := t.dropWhile fun b => isSpace b || (10 ≤ b && b ≤ 13)
  let isNegative := t.head? = some (byte '-')
  let t := if isNegative || t.head? = some (byte '+') then t.tail else t
  let isDigitIn := fun (base : Nat) (b : UInt8) => (digitOf? b).any (· < base)
  let base : Nat × Text :=
    match t with
    | zero :: x :: rest =>
      if zero ≠ byte '0' then (10, t)
      else if (x = byte 'x' || x = byte 'X') && rest.head?.any (isDigitIn 16) then (16, rest)
      else (8, t)
    | _ => (10, t)
  let digits := base.2.takeWhile (isDigitIn base.1)
  let n ← digits? base.1 digits
  some (if isNegative then -(n : Int) else n, base.2.drop digits.length)

structure Fraction where
  negative : Bool
  digits : Nat
  places : Int
  deriving DecidableEq, Repr

def leadingFraction? (t : Text) : Option (Fraction × Text) := do
  let t := t.dropWhile fun b => isSpace b || (10 ≤ b && b ≤ 13)
  let negative := t.head? = some (byte '-')
  let t := if negative || t.head? = some (byte '+') then t.tail else t
  let whole := t.takeWhile isDigit
  let rest := t.drop whole.length
  let part := if rest.head? = some (byte '.') then rest.tail.takeWhile isDigit else []
  let rest := if rest.head? = some (byte '.') then rest.drop (part.length + 1) else rest
  let digits ← digits? 10 (whole ++ part)
  let exponent : Option (Int × Text) :=
    match rest with
    | e :: rest =>
      let sign := rest.head?.filter fun b => b = byte '-' || b = byte '+'
      let rest := if sign.isSome then rest.tail else rest
      let power := rest.takeWhile isDigit
      if (e = byte 'e' || e = byte 'E') && !power.isEmpty then
        (digits? 10 power).map fun n => (if sign = some (byte '-') then -(n : Int) else n, rest.drop power.length)
      else none
    | [] => none
  let (power, rest) := exponent.getD (0, rest)
  some (⟨negative, digits, part.length - power⟩, rest)

def bitLength (n : Nat) : Nat := if n = 0 then 0 else n.log2 + 1

structure Binary where
  mantissa : Nat
  power : Int
  deriving DecidableEq, Repr

namespace Binary

/-- The quotient of two numbers, a half going to the even neighbour. -/
def rounded (n d : Nat) : Nat :=
  let quotient := n / d
  let remainder := n % d
  if d < 2 * remainder || (2 * remainder = d && quotient % 2 = 1) then quotient + 1 else quotient

def lowest : Int := -1074

def ofQuotient (n d : Nat) : Binary :=
  let guess : Int := max ((bitLength n : Int) - bitLength d - 53) lowest
  let mantissa := fun (power : Int) =>
    if 0 ≤ power then rounded n (d * Nat.pow 2 power.toNat) else rounded (n * Nat.pow 2 (-power).toNat) d
  let power := if Nat.pow 2 53 ≤ mantissa guess then guess + 1 else guess
  ⟨mantissa power, power⟩

def isTooLarge (binary : Binary) : Bool := 1024 < binary.power + bitLength binary.mantissa

def toFraction (negative : Bool) (binary : Binary) : Fraction :=
  if 0 ≤ binary.power then ⟨negative, binary.mantissa * Nat.pow 2 binary.power.toNat, 0⟩
  else ⟨negative, binary.mantissa * Nat.pow 5 (-binary.power).toNat, -binary.power⟩

end Binary

/-- The whole number and the power of two at the front of a text in base sixteen, and what follows them. -/
def leadingHex? (t : Text) : Option (Nat × Int × Text) :=
  let isHex := fun (b : UInt8) => (digitOf? b).any (· < 16)
  match t with
  | zero :: x :: t =>
    if zero ≠ byte '0' || (x ≠ byte 'x' && x ≠ byte 'X') then none
    else do
      let whole := t.takeWhile isHex
      let rest := t.drop whole.length
      let part := if rest.head? = some (byte '.') then rest.tail.takeWhile isHex else []
      let rest := if rest.head? = some (byte '.') then rest.drop (part.length + 1) else rest
      let n ← digits? 16 (whole ++ part)
      let power : Option (Int × Text) :=
        match rest with
        | p :: rest =>
          let sign := rest.head?.filter fun b => b = byte '-' || b = byte '+'
          let rest := if sign.isSome then rest.tail else rest
          let digits := rest.takeWhile isDigit
          if (p = byte 'p' || p = byte 'P') && !digits.isEmpty then
            (digits? 10 digits).map fun n => (if sign = some (byte '-') then -(n : Int) else n, rest.drop digits.length)
          else none
        | [] => none
      let (power, rest) := power.getD (0, rest)
      some (n, power - 4 * part.length, rest)
  | _ => none

inductive Quantity where
  | finite (negative : Bool) (binary : Binary)
  | infinite (negative : Bool)
  | undefined (negative : Bool)
  deriving DecidableEq, Repr

/-- The largest power that is worked out; what is beyond it is too large or too small anyway. -/
def powerBound : Int := 5000

/-- The quantity at the front of a text, what follows it, and whether it could be kept as it is. -/
def leadingQuantity? (t : Text) : Option (Quantity × Text × Bool) := do
  let t := t.dropWhile fun b => isSpace b || (10 ≤ b && b ≤ 13)
  let negative := t.head? = some (byte '-')
  let t := if negative || t.head? = some (byte '+') then t.tail else t
  let small := t.map fun b => if byte 'A' ≤ b && b ≤ byte 'Z' then b + 32 else b
  if Text.startsWith small "infinity" then some (.infinite negative, t.drop 8, true)
  else if Text.startsWith small "inf" then some (.infinite negative, t.drop 3, true)
  else if Text.startsWith small "nan" then some (.undefined negative, t.drop 3, true)
  else
    let quotient := fun (base n : Nat) (power : Int) =>
      let power := max (-powerBound) (min power powerBound)
      if 0 ≤ power then Binary.ofQuotient (n * base.pow power.toNat) 1
      else Binary.ofQuotient n (base.pow (-power).toNat)
    let (n, binary, rest) ←
      match leadingHex? t with
      | some (n, power, rest) => some (n, quotient 2 n power, rest)
      | none => (leadingFraction? t).map fun (value, rest) => (value.digits, quotient 10 value.digits (-value.places), rest)
    if binary.isTooLarge then some (.infinite negative, rest, false)
    else some (.finite negative binary, rest, n = 0 || Nat.pow 2 52 ≤ binary.mantissa)

namespace Fraction

/-- The fraction as a whole number of units of which there are ten to a power, a half going to the even neighbour. -/
def scaled (fraction : Fraction) (places : Int) : Nat :=
  let shift := places - fraction.places
  if 0 ≤ shift then fraction.digits * Nat.pow 10 shift.toNat
  else
    let unit := Nat.pow 10 (-shift).toNat
    let quotient := fraction.digits / unit
    let remainder := fraction.digits % unit
    if unit < 2 * remainder || (2 * remainder = unit && quotient % 2 = 1) then quotient + 1 else quotient

def pointed (places units : Nat) : Text :=
  let digits := Text.ofNat units
  let digits := List.replicate (places + 1 - digits.length) (byte '0') ++ digits
  let whole := digits.take (digits.length - places)
  if places = 0 then whole else whole ++ "." ++ digits.drop (digits.length - places)

def fixed (fraction : Fraction) (places : Nat) : Text := pointed places (fraction.scaled places)

/-- The power of ten of the first digit once so many places after it are kept. -/
def magnitude (fraction : Fraction) (places : Nat) : Int :=
  if fraction.digits = 0 then 0
  else
    let first := (Text.ofNat fraction.digits).length - 1 - fraction.places
    if (Text.ofNat (fraction.scaled (places - first))).length ≤ places + 1 then first else first + 1

/-- The fraction with one digit before the point, so many after it, and a power of ten. -/
def scientific (fraction : Fraction) (places : Nat) : Text :=
  let power := fraction.magnitude places
  let digits := Text.ofNat power.natAbs
  pointed places (fraction.scaled (places - power)) ++ (if power < 0 then "e-" else "e+") ++
    (if digits.length < 2 then "0" ++ digits else digits)

def withoutZeros (t : Text) : Text :=
  if ¬ t.contains (byte '.') then t
  else
    let mantissa := t.takeWhile (· ≠ byte 'e')
    let kept := (mantissa.reverse.dropWhile (· = byte '0')).reverse
    (if kept.getLast? = some (byte '.') then kept.dropLast else kept) ++ t.drop mantissa.length

def general (fraction : Fraction) (digits : Nat) (keepsZeros : Bool) : Text :=
  let digits := max digits 1
  let power := fraction.magnitude (digits - 1)
  let text :=
    if -4 ≤ power && power < digits then fraction.fixed (digits - 1 - power).toNat else fraction.scientific (digits - 1)
  if keepsZeros then text else withoutZeros text

end Fraction

/-! ### Formats -/

structure Directive where
  flags : Text
  width : Nat
  precision : Option Nat
  conversion : UInt8
  deriving DecidableEq, Repr

namespace Directive

def has (directive : Directive) (flag : Char) : Bool := directive.flags.contains (byte flag)

def padded (directive : Directive) (zeros : Bool) (sign t : Text) : Text :=
  let missing := directive.width - (sign.length + t.length)
  if directive.has '-' then sign ++ t ++ Text.spaces missing
  else if directive.has '0' && zeros then sign ++ List.replicate missing (byte '0') ++ t
  else Text.spaces missing ++ sign ++ t

def sign (directive : Directive) (negative : Bool) : Text :=
  if negative then "-" else if directive.has '+' then "+" else if directive.has ' ' then " " else []

def integer (directive : Directive) (n : Int) : Text :=
  let isSigned := directive.conversion = byte 'd' || directive.conversion = byte 'i'
  let isOctal := directive.conversion = byte 'o'
  let isUpper := directive.conversion = byte 'X'
  let isHex := isUpper || directive.conversion = byte 'x'
  let magnitude := if isSigned then n.natAbs else (Arithmetic.bits n).toNat
  let digits := (Nat.toDigits (if isOctal then 8 else if isHex then 16 else 10) magnitude).map fun c =>
    byte (if isUpper then c.toUpper else c)
  let digits := if magnitude = 0 && directive.precision = some 0 then [] else digits
  let digits := List.replicate ((directive.precision.getD 1) - digits.length) (byte '0') ++ digits
  let start : Text :=
    if isSigned then directive.sign (n < 0)
    else if directive.has '#' && isHex && magnitude ≠ 0 then if isUpper then "0X" else "0x"
    else if directive.has '#' && isOctal && digits.head? ≠ some (byte '0') then "0"
    else []
  directive.padded directive.precision.isNone start digits

def fraction (directive : Directive) (value : Fraction) : Text :=
  let places := directive.precision.getD 6
  let kind := directive.conversion
  let text :=
    if kind = byte 'f' || kind = byte 'F' then value.fixed places
    else if kind = byte 'e' || kind = byte 'E' then value.scientific places
    else value.general places (directive.has '#')
  let isUpper := kind = byte 'E' || kind = byte 'G'
  let text := if isUpper then text.map fun b => if b = byte 'e' then byte 'E' else b else text
  directive.padded true (directive.sign value.negative) text

def hexText (binary : Binary) : Text :=
  let shift := 53 - bitLength binary.mantissa
  let power := if binary.mantissa = 0 then 0 else binary.power - shift + 52
  let digits := (Nat.toDigits 16 (binary.mantissa * Nat.pow 2 shift % Nat.pow 2 52)).map byte
  let digits := List.replicate (13 - digits.length) (byte '0') ++ digits
  let digits := (digits.reverse.dropWhile (· = byte '0')).reverse
  let first : Text := if binary.mantissa = 0 then "0" else "1"
  let places : Text := if digits.isEmpty || binary.mantissa = 0 then [] else "." ++ digits
  first ++ places ++ (if power < 0 then "p-" else "p+") ++ Text.ofNat power.natAbs

def quantity (directive : Directive) (value : Quantity) : Text :=
  let kind := directive.conversion
  let isUpper := byte 'A' ≤ kind && kind ≤ byte 'Z'
  let cased := fun (t : Text) => if isUpper then t.map fun b => if byte 'a' ≤ b && b ≤ byte 'z' then b - 32 else b else t
  match value with
  | .infinite negative => directive.padded false (directive.sign negative) (cased "inf")
  | .undefined negative => directive.padded false (directive.sign negative) (cased "nan")
  | .finite negative binary =>
    if kind = byte 'a' || kind = byte 'A' then
      directive.padded true (directive.sign negative ++ cased "0x") (cased (hexText binary))
    else directive.fraction (binary.toFraction negative)

end Directive

/-! ### Printing -/

structure Printing where
  written : List Text := []
  arguments : List Text
  /-- All arguments could be used. -/
  isGood : Bool := true
  /-- An escape says to stop. -/
  stops : Bool := false
  /-- The format cannot be followed. -/
  isBroken : Bool := false
  deriving DecidableEq, Repr

namespace Printing

def put (printing : Printing) (t : Text) : Printing := { printing with written := t :: printing.written }

/-- The next argument, and the printing without it. -/
def take (printing : Printing) : Text × Printing :=
  (printing.arguments.headD [], { printing with arguments := printing.arguments.tail })

/-- The whole number that the next argument spells. A quote asks for the number of the byte after it. -/
def takeInteger (printing : Printing) (bound : Nat) : Int × Printing :=
  let (t, after) := printing.take
  let failed := { after with isGood := false }
  match t with
  | [] => (0, after)
  | b :: rest =>
    if b = Text.doubleQuote || b = Text.singleQuote then ((rest.headD 0).toNat, after)
    else
      match leadingNumber? t with
      | none => (0, failed)
      | some (n, rest) =>
        if (bound : Int) < n then (bound, failed)
        else if n < -(largestWord : Int) - 1 then (-(largestWord : Int) - 1, failed)
        else (n, if rest.isEmpty then after else failed)

/-- The number with a point that the next argument spells. A quote asks for the number of the byte after it. -/
def takeQuantity (printing : Printing) : Quantity × Printing :=
  let (t, after) := printing.take
  let failed := { after with isGood := false }
  if t.head? = some Text.doubleQuote || t.head? = some Text.singleQuote then
    (.finite false (Binary.ofQuotient (t.tail.headD 0).toNat 1), after)
  else
    match leadingQuantity? t with
    | none => (.finite false ⟨0, 0⟩, if t.isEmpty then after else failed)
    | some (value, rest, isKept) => (value, if rest.isEmpty && isKept then after else failed)

def sizeBound : Int := 0x400000

/-- A width or a precision: a number in the format, or an argument in place of a star, of which 32 bits count. -/
def takeSize (printing : Printing) (t : Text) : Int × Printing × Text :=
  if t.head? = some (byte '*') then
    let (n, after) := printing.takeInteger largestWord
    (min (Int.bmod n 0x100000000) sizeBound, after, t.tail)
  else (min ((number? (t.takeWhile isDigit)).getD 0 : Nat) sizeBound, printing, t.dropWhile isDigit)

/-- The directive after a percent sign, and the rest of the format. -/
def directive? (printing : Printing) (t : Text) : Option (Directive × Printing × Text) :=
  let isFlag := fun (b : UInt8) => (Text.ofString "-+ #0").contains b
  let flags := t.takeWhile isFlag
  let (width, printing, rest) := printing.takeSize (t.dropWhile isFlag)
  let flags := if width < 0 then byte '-' :: flags else flags
  let (precision, printing, rest) :=
    if rest.head? = some (byte '.') then
      let (precision, printing, rest) := printing.takeSize rest.tail
      (if precision < 0 then none else some precision.toNat, printing, rest)
    else (none, printing, rest)
  match rest with
  | conversion :: rest => some (⟨flags, width.natAbs, precision, conversion⟩, printing, rest)
  | [] => none

def follow (printing : Printing) (directive : Directive) : Printing :=
  let conversion := directive.conversion
  let cut := fun (t : Text) => (directive.precision.map t.take).getD t
  if conversion = byte 's' then
    let (t, after) := printing.take
    after.put (directive.padded false [] (cut t))
  else if conversion = byte 'c' then
    let (t, after) := printing.take
    after.put (directive.padded false [] [t.headD 0])
  else if conversion = byte 'b' then
    let (t, after) := printing.take
    let (text, stops) := unescape true (t.length + 1) [] t
    { after.put (directive.padded false [] (cut text)) with stops }
  else if conversion = byte 'd' || conversion = byte 'i' then
    let (n, after) := printing.takeInteger largestWord
    after.put (directive.integer n)
  else if (Text.ofString "uoxX").contains conversion then
    let (n, after) := printing.takeInteger (2 * largestWord + 1)
    after.put (directive.integer n)
  else if (Text.ofString "aAeEfFgG").contains conversion then
    let (value, after) := printing.takeQuantity
    after.put (directive.quantity value)
  else { printing with isBroken := true }

def once : Nat → Printing → Text → Printing
  | 0, printing, _ => printing
  | fuel + 1, printing, format =>
    match format with
    | [] => printing
    | b :: rest =>
      if printing.stops || printing.isBroken then printing
      else if b ≠ byte '%' then
        let run := b :: rest.takeWhile (· ≠ byte '%')
        once fuel (printing.put (unescape false (run.length + 1) [] run).1) (format.drop run.length)
      else if rest.head? = some b then once fuel (printing.put [b]) rest.tail
      else
        match printing.directive? rest with
        | some (directive, printing, rest) => once fuel (printing.follow directive) rest
        | none => { printing with isBroken := true }

def all (format : Text) : Nat → Printing → Printing
  | 0, printing => printing
  | fuel + 1, printing =>
    let after := once (format.length + 1) printing format
    if after.stops || after.isBroken || after.arguments.isEmpty || after.arguments.length = printing.arguments.length then
      after
    else all format fuel after

end Printing

/-- What `printf` writes, and its status. -/
def printed (format : Text) (arguments : List Text) : Text × Nat :=
  let printing := Printing.all format (arguments.length + 1) { arguments }
  (printing.written.reverse.flatten, if printing.isBroken then 2 else if printing.isGood then 0 else 1)

end QualityGate.Shell
