import QualityGate.Pattern.Search

/-!
Which plain scalars a YAML reader takes for something other than text: nothing, a truth value, a number or a point in
time. Texts that look so have to be quoted.
-/

namespace QualityGate.Yaml

/-! ### Words -/

def words : List String :=
  ["true", "True", "TRUE", "false", "False", "FALSE", "", "~", "null", "Null", "NULL", ".nan", ".NaN", ".NAN",
    ".inf", ".Inf", ".INF", "+.inf", "+.Inf", "+.INF", "-.inf", "-.Inf", "-.INF"]

def oldTruthWords : List String :=
  ["y", "Y", "yes", "Yes", "YES", "on", "On", "ON", "n", "N", "no", "No", "NO", "off", "Off", "OFF"]

/-! ### Integers -/

def digit? (c : Char) : Option Nat :=
  if c.isDigit then some (c.toNat - '0'.toNat)
  else if 'a' ≤ c ∧ c ≤ 'z' then some (c.toNat - 'a'.toNat + 10)
  else if 'A' ≤ c ∧ c ≤ 'Z' then some (c.toNat - 'A'.toNat + 10)
  else none

def wordBound : Nat := 0x10000000000000000

/-- The number that digits stand for in a base. Numbers that no 64-bit word holds all count as the first of them. -/
def number? (base : Nat) (digits : List Char) : Option Nat :=
  digits.foldl (fun value c => do
    let value ← value
    let d ← digit? c
    if d < base then some (min (value * base + d) wordBound) else none) (some 0)

def splitSign : List Char → Option Char × List Char
  | '-' :: rest => (some '-', rest)
  | '+' :: rest => (some '+', rest)
  | digits => (none, digits)

/-- Whether a number with a sign fits a 64-bit word: signed with a sign, unsigned without one. -/
def fits : Option Char → Nat → Bool
  | some '-', n => n ≤ 0x8000000000000000
  | some _, n => n < 0x8000000000000000
  | none, n => n < wordBound

/-- Whether a text is a number in a given base, with or without a sign. -/
def isBaseNumber (base : Nat) (cs : List Char) : Bool :=
  let (sign, digits) := splitSign cs
  !digits.isEmpty && (number? base digits).any (fits sign)

def announced? : List Char → Option Nat
  | [] => none
  | '0' :: c :: d :: rest =>
    match c.toLower with
    | 'b' => number? 2 (d :: rest)
    | 'o' => number? 8 (d :: rest)
    | 'x' => number? 16 (d :: rest)
    | _ => number? 8 (c :: d :: rest)
  | '0' :: rest => number? 8 rest
  | digits => number? 10 digits

/-- Whether a text is an integer: with an announced base, or with a sign after the announcement of base two or
eight. -/
def isInteger (cs : List Char) : Bool :=
  let (sign, digits) := splitSign cs
  (announced? digits).any (fits sign) ||
    match cs with
    | '0' :: 'b' :: rest => isBaseNumber 2 rest
    | '0' :: 'o' :: rest => isBaseNumber 8 rest
    | _ => false

/-! ### Decimal fractions -/

/-- A decimal fraction: its digits from the first one that is not zero on, and how many of them stand before the point;
a number of places below zero says how many zeros follow the point first. -/
structure Scaled where
  digits : List Char
  places : Int
  deriving DecidableEq, Repr

/-- The exponent that digits stand for. Once it has reached ten thousand, further digits add nothing. -/
def exponentOf (digits : List Char) : Nat :=
  digits.foldl (fun e d => if e < 10000 then e * 10 + (d.toNat - '0'.toNat) else e) 0

def exponent? : List Char → Option Int
  | [] => some 0
  | e :: rest =>
    let (sign, digits) := splitSign rest
    if e.toLower = 'e' ∧ ¬ digits.isEmpty ∧ digits.all Char.isDigit then
      some (if sign = some '-' then -(exponentOf digits : Int) else exponentOf digits)
    else none

def scaled? (cs : List Char) : Option Scaled :=
  let (_, unsigned) := splitSign cs
  let whole := unsigned.takeWhile Char.isDigit
  let rest := unsigned.drop whole.length
  let (fraction, rest) :=
    match rest with
    | '.' :: rest => (rest.takeWhile Char.isDigit, rest.dropWhile Char.isDigit)
    | _ => ([], rest)
  if whole.isEmpty ∧ fraction.isEmpty then none
  else do
    let exponent ← exponent? rest
    let digits := (whole ++ fraction).dropWhile (· = '0')
    some ⟨digits, digits.length - fraction.length + exponent⟩

def mostPlaces : Nat := 309

def overflowBound : Nat := Nat.pow 2 1024 - Nat.pow 2 970

def Scaled.isFinite (x : Scaled) : Bool :=
  if x.digits.isEmpty ∨ x.places < mostPlaces then true
  else if mostPlaces < x.places then false
  else
    let whole := x.digits.take mostPlaces
    let value := whole.foldl (fun value d => value * 10 + (d.toNat - '0'.toNat)) 0
    value * Nat.pow 10 (mostPlaces - whole.length) < overflowBound

def isFraction (cs : List Char) : Bool := (scaled? cs).any (·.isFinite)

/-- Whether every underscore stands between two digits; `afterDigit` says whether a digit came last. -/
def separatesDigits (afterDigit : Bool) : List Char → Bool
  | [] => true
  | '_' :: d :: rest => afterDigit && d.isDigit && separatesDigits false (d :: rest)
  | '_' :: [] => false
  | c :: rest => separatesDigits c.isDigit rest

/-! ### Points in time -/

def shortNumber? : List Char → Option (Nat × List Char)
  | a :: rest =>
    if ¬ a.isDigit then none
    else
      match rest with
      | b :: more =>
        if b.isDigit then some ((a.toNat - 48) * 10 + (b.toNat - 48), more) else some (a.toNat - 48, rest)
      | [] => some (a.toNat - 48, [])
  | [] => none

def skip? (c : Char) : List Char → Option (List Char)
  | d :: rest => if c = d then some rest else none
  | [] => none

def daysIn (year month : Nat) : Nat :=
  if month = 2 then if year % 4 = 0 ∧ (year % 100 ≠ 0 ∨ year % 400 = 0) then 29 else 28
  else if month = 4 ∨ month = 6 ∨ month = 9 ∨ month = 11 then 30
  else 31

def afterDate? (cs : List Char) : Option (List Char) := do
  let year := cs.takeWhile Char.isDigit
  if year.length ≠ 4 then none
  let year ← number? 10 year
  let rest ← skip? '-' (cs.drop 4)
  let (month, rest) ← shortNumber? rest
  let rest ← skip? '-' rest
  let (day, rest) ← shortNumber? rest
  if 1 ≤ month ∧ month ≤ 12 ∧ 1 ≤ day ∧ day ≤ daysIn year month then some rest else none

/-- The rest after a fraction of a second, if there is one. -/
def afterFraction : List Char → List Char
  | c :: d :: rest =>
    if (c = '.' ∨ c = ',') ∧ d.isDigit then rest.dropWhile Char.isDigit else c :: d :: rest
  | rest => rest

def afterTime? (cs : List Char) : Option (List Char) := do
  let (hour, rest) ← shortNumber? cs
  let rest ← skip? ':' rest
  let (minute, rest) ← shortNumber? rest
  let rest ← skip? ':' rest
  let (second, rest) ← shortNumber? rest
  if hour < 24 ∧ minute < 60 ∧ second < 60 then some (afterFraction rest) else none

def isZone (cs : List Char) : Bool :=
  match cs with
  | ['Z'] => true
  | [sign, a, b, colon, c, d] =>
    (sign = '+' ∨ sign = '-') && [a, b, c, d].all Char.isDigit && colon = ':' &&
      (number? 10 [a, b]).any (· ≤ 24) && (number? 10 [c, d]).any (· ≤ 60)
  | _ => false

def isTimestamp (cs : List Char) : Bool :=
  match afterDate? cs with
  | none => false
  | some [] => true
  | some (c :: rest) =>
    if c = 'T' ∨ c = 't' then (afterTime? rest).any isZone
    else if c = ' ' then (afterTime? (rest.dropWhile (· = ' '))).any (·.isEmpty)
    else false

/-! ### Everything together -/

/-- Numbers with colons, which older readers take for sexagesimal ones. -/
def sexagesimal? : Option Pattern :=
  (Pattern.compile "^[-+]?[0-9][0-9_]*(?::[0-5]?[0-9])+(?:\\.[0-9_]*)?$").toOption

def isSexagesimal (t : Text) : Bool := sexagesimal?.any fun pattern => !(pattern.allMatches t).isEmpty

def isNumber (cs : List Char) : Bool :=
  match cs with
  | [] => false
  | c :: _ =>
    let bare := cs.filter (· ≠ '_')
    if c = '.' then separatesDigits false cs && isFraction bare
    else if c.isDigit ∨ c = '+' ∨ c = '-' then isTimestamp cs || isInteger bare || isFraction bare
    else false

def readsAsText (t : Text) : Bool :=
  let cs := Text.charsReplaced t
  let spelled := String.ofList cs
  !(words.contains spelled || oldTruthWords.contains spelled || isNumber cs || isSexagesimal t)

end QualityGate.Yaml
