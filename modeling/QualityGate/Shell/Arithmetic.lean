import QualityGate.Shell.State

/-!
Arithmetic in shell scripts, on signed 64-bit words. Names stand for the numbers that their values spell.
-/

namespace QualityGate.Shell

open Text (byte)

/-! ### Numbers -/

def wrap (n : Int) : Int := Int.bmod n 0x10000000000000000

def largestWord : Nat := 0x7FFFFFFFFFFFFFFF

def digitOf? (b : UInt8) : Option Nat :=
  if isDigit b then some (b.toNat - 48)
  else if byte 'a' ≤ b && b ≤ byte 'f' then some (b.toNat - 87)
  else if byte 'A' ≤ b && b ≤ byte 'F' then some (b.toNat - 55)
  else none

def digits? (base : Nat) (t : Text) : Option Nat :=
  if t.isEmpty then none
  else t.foldlM (fun n b => (digitOf? b).bind fun d => if d < base then some (n * base + d) else none) 0

def number? (t : Text) : Option Nat := digits? 10 t

def integer? (t : Text) : Option Int :=
  match t with
  | b :: rest =>
    if b = byte '-' then (number? rest).map fun n => -(n : Int)
    else if b = byte '+' then (number? rest).map fun n => (n : Int)
    else (number? t).map fun n => (n : Int)
  | [] => none

/-- A number without a sign; its beginning says in which base it is. -/
def constant? (t : Text) : Option Int :=
  let n :=
    match t with
    | zero :: b :: rest =>
      if zero ≠ byte '0' then number? t
      else if b = byte 'x' || b = byte 'X' then digits? 16 rest
      else digits? 8 (b :: rest)
    | _ => number? t
  n.map fun n => min n largestWord

def valueNumber? (t : Text) : Option Int :=
  let isBlank := fun (b : UInt8) => isSpace b || b = byte '\n'
  let t := ((t.dropWhile isBlank).reverse.dropWhile isBlank).reverse
  match t with
  | [] => some 0
  | b :: rest =>
    if b = byte '-' then (constant? rest).map (- ·)
    else if b = byte '+' then constant? rest
    else constant? t

/-! ### Expressions -/

inductive Arithmetic where
  | number (n : Int)
  | name (name : Text)
  | unary (operator : Text) (e : Arithmetic)
  | binary (operator : Text) (a b : Arithmetic)
  | both (a b : Arithmetic)
  | either (a b : Arithmetic)
  | choose (test a b : Arithmetic)
  | assign (name : Text) (operator : Text) (e : Arithmetic)
  deriving DecidableEq, Repr

namespace Arithmetic

def shortMarks : List Text := ["+", "-", "*", "/", "%", "<", ">", "=", "!", "~", "&", "|", "^", "?", ":", "(", ")"]

/-- The operators of more than one byte, the longest first. -/
def longMarks : List Text :=
  ["<<=", ">>=", "&&", "||", "==", "!=", "<=", ">=", "<<", ">>", "+=", "-=", "*=", "/=", "%=", "&=", "|=", "^="]

def marks : List Text := longMarks ++ shortMarks

def strengths : List (Text × Nat) :=
  [("*", 8), ("/", 8), ("%", 8), ("+", 7), ("-", 7), ("<<", 6), (">>", 6), ("<", 5), ("<=", 5), (">", 5), (">=", 5),
    ("==", 4), ("!=", 4), ("&", 3), ("^", 2), ("|", 1)]

/-- The lexemes of an expression, after those in `done`, which come latest first. -/
def lexemesFrom : Nat → List Text → Text → Option (List Text)
  | 0, _, _ => none
  | fuel + 1, done, t =>
    match t with
    | [] => some done.reverse
    | b :: rest =>
      if isSpace b || b = byte '\n' then lexemesFrom fuel done rest
      else if isNameByte b then lexemesFrom fuel (t.takeWhile isNameByte :: done) (t.dropWhile isNameByte)
      else do
        let operator ← marks.find? (Text.startsWith t ·)
        lexemesFrom fuel (operator :: done) (t.drop operator.length)

abbrev Rest := Arithmetic × List Text

def readPrimary (whole : List Text → Option Rest) : Nat → List Text → Option Rest
  | 0, _ => none
  | fuel + 1, lexemes =>
    match lexemes with
    | [] => none
    | first :: rest =>
      if first = "(" then do
        let (e, rest) ← whole rest
        if rest.head? = some (Text.ofString ")") then some (e, rest.tail) else none
      else if (["+", "-", "!", "~"] : List Text).contains first then do
        let (e, rest) ← readPrimary whole fuel rest
        some (.unary first e, rest)
      else if first.head?.any isDigit then (constant? first).map fun n => (.number n, rest)
      else if isName first then some (.name first, rest)
      else none

/-- What follows a left side as far as its operators are at least so strong. -/
def readOperators (primary : List Text → Option Rest) : Nat → Nat → Arithmetic → List Text → Option Rest
  | 0, _, _, _ => none
  | fuel + 1, least, left, lexemes =>
    match lexemes with
    | [] => some (left, [])
    | operator :: rest =>
      match strengths.lookup operator with
      | none => some (left, lexemes)
      | some strength =>
        if strength < least then some (left, lexemes)
        else do
          let (right, rest) ← primary rest
          let (right, rest) ← readOperators primary fuel (strength + 1) right rest
          readOperators primary fuel least (.binary operator left right) rest

def readJoined (operator : Text) (join : Arithmetic → Arithmetic → Arithmetic) (part : List Text → Option Rest) :
    Nat → List Text → Option Rest
  | 0, _ => none
  | fuel + 1, lexemes => do
    let (left, rest) ← part lexemes
    if rest.head? = some operator then do
      let (right, rest) ← readJoined operator join part fuel rest.tail
      some (join left right, rest)
    else some (left, rest)

def assigning : List Text := ["=", "<<=", ">>=", "+=", "-=", "*=", "/=", "%=", "&=", "|=", "^="]

/-- An expression that assigns nothing as a whole, given how others are read: a choice, or one of its parts. -/
def readChoice (whole : List Text → Option Rest) : Nat → List Text → Option Rest
  | 0, _ => none
  | fuel + 1, lexemes => do
    let primary := readPrimary whole (fuel + 1)
    let operators := fun (lexemes : List Text) => do
      let (left, rest) ← primary lexemes
      readOperators primary (fuel + 1) 0 left rest
    let conjunction := readJoined "&&" .both operators (fuel + 1)
    let (test, rest) ← readJoined "||" .either conjunction (fuel + 1) lexemes
    if rest.head? = some (Text.ofString "?") then
      let (a, rest) ← whole rest.tail
      if rest.head? ≠ some (Text.ofString ":") then none
      let (b, rest) ← readChoice whole fuel rest.tail
      some (Arithmetic.choose test a b, rest)
    else some (test, rest)

def read : Nat → List Text → Option Rest
  | 0, _ => none
  | fuel + 1, lexemes =>
    match lexemes with
    | target :: operator :: rest =>
      if isName target && assigning.contains operator then do
        let (e, rest) ← read fuel rest
        some (.assign target operator.dropLast e, rest)
      else readChoice (read fuel) (fuel + 1) lexemes
    | _ => readChoice (read fuel) (fuel + 1) lexemes

def parse? (t : Text) : Option Arithmetic := do
  let lexemes ← lexemesFrom (t.length + 1) [] t
  match read (lexemes.length + 1) lexemes with
  | some (e, []) => some e
  | _ => none

/-! ### Values -/

def truth (b : Bool) : Int := if b then 1 else 0

def bits (n : Int) : UInt64 := (Int.emod n 0x10000000000000000).toNat.toUInt64

def ofBits (word : UInt64) : Int := wrap word.toNat

/-- The value of an operator with two sides; nothing for a division by zero. -/
def result? (operator : Text) (a b : Int) : Option Int :=
  if operator = "*" then some (wrap (a * b))
  else if operator = "/" then if b = 0 then none else some (wrap (Int.tdiv a b))
  else if operator = "%" then if b = 0 then none else some (Int.tmod a b)
  else if operator = "+" then some (wrap (a + b))
  else if operator = "-" then some (wrap (a - b))
  else if operator = "<<" then some (ofBits (bits a <<< bits b))
  else if operator = ">>" then some (a >>> (Int.emod b 64).toNat)
  else if operator = "<" then some (truth (a < b))
  else if operator = "<=" then some (truth (a ≤ b))
  else if operator = ">" then some (truth (b < a))
  else if operator = ">=" then some (truth (b ≤ a))
  else if operator = "==" then some (truth (a = b))
  else if operator = "!=" then some (truth (a ≠ b))
  else if operator = "&" then some (ofBits (bits a &&& bits b))
  else if operator = "^" then some (ofBits (bits a ^^^ bits b))
  else if operator = "|" then some (ofBits (bits a ||| bits b))
  else none

def applyOne (operator : Text) (a : Int) : Int :=
  if operator = "-" then wrap (-a)
  else if operator = "!" then truth (a = 0)
  else if operator = "~" then -a - 1
  else a

def valueOfName (name : Text) : Run Int := do
  match valueNumber? ((← get).valueOf name) with
  | some n => return n
  | none => Run.fault

/-- The value of an expression; what cannot be computed ends the shell. -/
def value : Arithmetic → Run Int
  | .number n => return n
  | .name t => valueOfName t
  | .unary operator e => return applyOne operator (← e.value)
  | .binary operator a b => do
    let a ← a.value
    let b ← b.value
    match result? operator a b with
    | some n => return n
    | none => Run.fault
  | .both a b => do if (← a.value) = 0 then return 0 else return truth ((← b.value) ≠ 0)
  | .either a b => do if (← a.value) ≠ 0 then return 1 else return truth ((← b.value) ≠ 0)
  | .choose test a b => do if (← test.value) ≠ 0 then a.value else b.value
  | .assign target operator e => do
    let right ← e.value
    let n ←
      if operator.isEmpty then pure right
      else
        match result? operator (← valueOfName target) right with
        | some n => pure n
        | none => Run.fault
    Run.assign target (Text.ofInt n)
    return n

end Arithmetic

end QualityGate.Shell
