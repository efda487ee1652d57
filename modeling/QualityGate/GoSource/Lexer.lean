import QualityGate.CodePoint.Category
import QualityGate.GoSource.Lines
import QualityGate.GoSource.Token
import QualityGate.Text.Utf8

/-!
Splitting Go source into lexemes. The reader looks one character ahead, and a character that cannot stand in a source
(a NUL, an ill-formed byte, a byte order mark after the start) is a fault at the moment it is looked at. A line break
after a token that can end a statement becomes a semicolon. Comments vanish, except that a line break inside one still
counts and a line directive is remembered.
-/

namespace QualityGate.GoSource

def isLetter (c : Char) : Bool :=
  if c.toNat < 0x80 then c.isAlpha || c = '_' else CodePoint.within CodePoint.letter c.toNat

def isDigit (c : Char) : Bool :=
  if c.toNat < 0x80 then c.isDigit else CodePoint.within CodePoint.decimalDigit c.toNat

/-- The value of a hexadecimal digit; 16 for everything else. -/
def digitValue (c : Char) : Nat :=
  if c.isDigit then c.toNat - 0x30
  else if 'a' ≤ c ∧ c ≤ 'f' then c.toNat - 0x57
  else if 'A' ≤ c ∧ c ≤ 'F' then c.toNat - 0x37
  else 16

def isHexDigit (c : Char) : Bool := digitValue c < 16

def byteOrderMark : Char := Char.ofNat 0xFEFF

/-- A place in the source: the offset, the text from there on, a bound on its length, where the line starts, and the
faults and directives met so far, the latest first. -/
structure Cursor where
  offset : Nat
  rest : Text
  bound : Nat
  lineStart : Nat := 0
  faults : List Nat := []
  directives : List LineDirective := []
  deriving DecidableEq, Repr

namespace Cursor

/-- The character at the cursor; none at the end. -/
def peek (cursor : Cursor) : Option Char :=
  if cursor.rest.isEmpty then none else some (Text.frontChar cursor.rest)

def sees (cursor : Cursor) (test : Char → Bool) : Bool := cursor.peek.any test

def at? (cursor : Cursor) (c : Char) : Bool := cursor.peek = some c

def fault (cursor : Cursor) (offset : Nat) : Cursor := { cursor with faults := offset :: cursor.faults }

def faultless (cursor : Cursor) : Cursor := { cursor with faults := [] }

def isUnreadable (offset : Nat) (rest : Text) : Bool :=
  match Text.front rest with
  | (some c, _) => c.toNat = 0 || (c = byteOrderMark && 0 < offset)
  | (none, width) => 0 < width

/-- Notes the fault of the character at the cursor, if it has one. -/
def look (cursor : Cursor) : Cursor :=
  if isUnreadable cursor.offset cursor.rest then cursor.fault cursor.offset else cursor

def step (cursor : Cursor) : Cursor :=
  let width := (Text.front cursor.rest).2
  let offset := cursor.offset + width
  let lineStart := if cursor.at? '\n' then offset else cursor.lineStart
  { cursor with offset, rest := cursor.rest.drop width, lineStart }.look

def skipWhile (test : Char → Bool) : Nat → Cursor → Cursor
  | 0, cursor => cursor
  | fuel + 1, cursor => if cursor.sees test then skipWhile test fuel cursor.step else cursor

def skip (cursor : Cursor) (test : Char → Bool) : Cursor := skipWhile test cursor.bound cursor

def ofText (text : Text) : Cursor := { offset := 0, rest := text, bound := text.length + 1 : Cursor }.look

/-- The cursor after a byte order mark, if it is at one. -/
def pastMark (cursor : Cursor) : Cursor := if cursor.at? byteOrderMark then cursor.step else cursor

def since (cursor start : Cursor) : Text := start.rest.take (cursor.offset - start.offset)

end Cursor

/-! ### Numbers -/

inductive Radix where
  | decimal
  | leadingZero
  | hexadecimal
  | octal
  | binary
  deriving DecidableEq, Repr

def Radix.base : Radix → Nat
  | decimal => 10
  | leadingZero => 8
  | hexadecimal => 16
  | octal => 8
  | binary => 2

structure Digits where
  digit : Bool := false
  underscore : Bool := false
  tooLarge : Option Nat := none
  deriving DecidableEq, Repr

/-- Reads digits and underscores. A radix of ten or less reads all decimal digits. -/
def readDigits (base : Nat) : Nat → Digits → Cursor → Digits × Cursor
  | 0, digits, cursor => (digits, cursor)
  | fuel + 1, digits, cursor =>
    match cursor.peek with
    | some c =>
      if c = '_' then readDigits base fuel { digits with underscore := true } cursor.step
      else if if base ≤ 10 then c.isDigit else isHexDigit c then
        let tooLarge :=
          if digits.tooLarge.isNone ∧ base ≤ 10 ∧ base ≤ digitValue c then some cursor.offset else digits.tooLarge
        readDigits base fuel { digits with digit := true, tooLarge } cursor.step
      else (digits, cursor)
    | none => (digits, cursor)

/-- Whether some underscore of a number does not stand between digits. `digitBefore` says whether a digit, or a radix
letter, stands before, and `underscoreBefore` whether an underscore does. -/
def misplacedUnderscore (hexadecimal digitBefore underscoreBefore : Bool) : Text → Bool
  | [] => underscoreBefore
  | b :: rest =>
    let c := Char.ofNat b.toNat
    if c = '_' then !digitBefore || misplacedUnderscore hexadecimal false true rest
    else if c.isDigit || (hexadecimal && isHexDigit c) then misplacedUnderscore hexadecimal true false rest
    else underscoreBefore || misplacedUnderscore hexadecimal false false rest

def readRadix (cursor : Cursor) : Radix × Cursor :=
  if cursor.at? '0' then
    let after := cursor.step
    if after.at? 'x' || after.at? 'X' then (.hexadecimal, after.step)
    else if after.at? 'o' || after.at? 'O' then (.octal, after.step)
    else if after.at? 'b' || after.at? 'B' then (.binary, after.step)
    else (.leadingZero, after)
  else (.decimal, cursor)

/-- The exponent of a number, if there is one: what its digits held. -/
def readExponent (start : Nat) (radix : Radix) (cursor : Cursor) : Option (Digits × Cursor) :=
  let decimalMark := cursor.at? 'e' || cursor.at? 'E'
  let binaryMark := cursor.at? 'p' || cursor.at? 'P'
  if decimalMark || binaryMark then
    let misused :=
      if decimalMark then radix ≠ .decimal ∧ radix ≠ .leadingZero else radix ≠ .hexadecimal
    let cursor := if misused then cursor.fault cursor.offset else cursor
    let cursor := cursor.step
    let cursor := if cursor.at? '+' || cursor.at? '-' then cursor.step else cursor
    let (digits, cursor) := readDigits 10 cursor.bound {} cursor
    some (digits, if digits.digit then cursor else cursor.fault start)
  else none

/-- The whole and the fractional part of a number: what they held, and whether there was a point. -/
def readMantissa (radix : Radix) (fromPoint : Bool) (cursor : Cursor) : (Digits × Bool) × Cursor :=
  let (whole, cursor) : Digits × Cursor :=
    if fromPoint then ({}, cursor)
    else readDigits radix.base cursor.bound { digit := radix = .leadingZero } cursor
  if cursor.at? '.' then
    let cursor := if radix = .octal ∨ radix = .binary then cursor.fault cursor.offset else cursor
    let (digits, cursor) := readDigits radix.base cursor.bound whole cursor.step
    ((digits, true), cursor)
  else ((whole, false), cursor)

/-- What follows the digits of a number: the kind of number that it makes it, and whether there has been an underscore. A
hexadecimal fraction needs an exponent. -/
def readScale (start : Nat) (radix : Radix) (digits : Digits) (isFraction : Bool) (cursor : Cursor) :
    (Token × Bool) × Cursor :=
  match readExponent start radix cursor with
  | some (exponent, cursor) => ((.floating, digits.underscore || exponent.underscore), cursor)
  | none =>
    ((if isFraction then .floating else .integer, digits.underscore),
      if radix = .hexadecimal ∧ isFraction then cursor.fault start else cursor)

/-- The mark of an imaginary number after a number of some kind. -/
def readImaginary (token : Token) (cursor : Cursor) : Token × Cursor :=
  if cursor.at? 'i' then (.imaginary, cursor.step) else (token, cursor)

/-- Notes what is wrong with a number as a whole: a digit that is too large, an underscore out of place. -/
def checkNumber (start : Nat) (radix : Radix) (tooLarge : Option Nat) (underscore : Bool) (token : Token) (spelling : Text)
    (cursor : Cursor) : Cursor :=
  let cursor :=
    match tooLarge with
    | some offset => if token = .integer then cursor.fault offset else cursor
    | none => cursor
  let marked := radix = .hexadecimal ∨ radix = .octal ∨ radix = .binary
  let misplaced :=
    misplacedUnderscore (radix = .hexadecimal) marked false (if marked then spelling.drop 2 else spelling)
  if underscore ∧ misplaced then cursor.fault start else cursor

def readNumber (start : Cursor) : Token × Cursor :=
  let (radix, cursor) : Radix × Cursor := if start.at? '.' then (.decimal, start) else readRadix start
  let ((digits, isFraction), cursor) := readMantissa radix (start.at? '.') cursor
  let cursor := if digits.digit then cursor else cursor.fault start.offset
  let ((token, underscore), cursor) := readScale start.offset radix digits isFraction cursor
  let (token, cursor) := readImaginary token cursor
  (token, checkNumber start.offset radix digits.tooLarge underscore token (cursor.since start) cursor)

/-! ### Literals and comments -/

/-- Reads the given number of digits of an escape; the value is missing when one of them is none. -/
def readEscapeDigits (base : Nat) : Nat → Nat → Cursor → Option Nat × Cursor
  | 0, value, cursor => (some value, cursor)
  | count + 1, value, cursor =>
    let digit := (cursor.peek.map digitValue).getD 16
    if base ≤ digit then (none, cursor.fault cursor.offset)
    else readEscapeDigits base count (value * base + digit) cursor.step

/-- Reads an escape that names a code point by its digits, with the largest that it may name. -/
def readNumericEscape (start count base limit : Nat) (digits : Cursor) : Bool × Cursor :=
  match readEscapeDigits base count 0 digits with
  | (none, after) => (false, after)
  | (some value, after) =>
    if limit < value ∨ (0xD800 ≤ value ∧ value < 0xE000) then (false, after.fault start) else (true, after)

/-- Reads an escape after its backslash. The result says whether it is well formed. -/
def readEscape (quote : Char) (cursor : Cursor) : Bool × Cursor :=
  match cursor.peek with
  | none => (false, cursor.fault cursor.offset)
  | some c =>
    if c = quote ∨ c ∈ ['a', 'b', 'f', 'n', 'r', 't', 'v', '\\'] then (true, cursor.step)
    else if '0' ≤ c ∧ c ≤ '7' then readNumericEscape cursor.offset 3 8 255 cursor
    else if c = 'x' then readNumericEscape cursor.offset 2 16 255 cursor.step
    else if c = 'u' then readNumericEscape cursor.offset 4 16 0x10FFFF cursor.step
    else if c = 'U' then readNumericEscape cursor.offset 8 16 0x10FFFF cursor.step
    else (false, cursor.fault cursor.offset)

/-- Reads a character literal after its opening quote at `start`, counting its characters. -/
def readCharacter (start : Nat) : Nat → Bool → Nat → Cursor → Cursor
  | 0, _, _, cursor => cursor
  | fuel + 1, valid, count, cursor =>
    match cursor.peek with
    | none => if valid then cursor.fault start else cursor
    | some c =>
      if c = '\n' then if valid then cursor.fault start else cursor
      else if c = '\'' then
        if valid ∧ count ≠ 1 then cursor.step.fault start else cursor.step
      else if c = '\\' then
        let (wellFormed, cursor) := readEscape '\'' cursor.step
        readCharacter start fuel (valid && wellFormed) (count + 1) cursor
      else readCharacter start fuel valid (count + 1) cursor.step

def quoteChar : Char := Char.ofNat 0x22

def backquoteChar : Char := Char.ofNat 0x60

/-- Reads a string literal after its opening quote at `start`. -/
def readString (start : Nat) : Nat → Cursor → Cursor
  | 0, cursor => cursor
  | fuel + 1, cursor =>
    match cursor.peek with
    | none => cursor.fault start
    | some c =>
      if c = '\n' then cursor.fault start
      else if c = quoteChar then cursor.step
      else if c = '\\' then readString start fuel (readEscape quoteChar cursor.step).2
      else readString start fuel cursor.step

/-- Reads a raw string literal after its opening quote at `start`. -/
def readRawString (start : Nat) (cursor : Cursor) : Cursor :=
  let stop := cursor.skip (· ≠ backquoteChar)
  if stop.peek.isNone then stop.fault start else stop.step

/-- Reads a block comment after its opening mark. The first line break inside it is remembered, and the result says
whether it was closed. -/
def readBlockComment : Nat → Option Nat → Cursor → Bool × Option Nat × Cursor
  | 0, lineBreak, cursor => (false, lineBreak, cursor)
  | fuel + 1, lineBreak, cursor =>
    match cursor.peek with
    | none => (false, lineBreak, cursor)
    | some c =>
      let lineBreak := if c = '\n' ∧ lineBreak.isNone then some cursor.offset else lineBreak
      let after := cursor.step
      if c = '*' ∧ after.at? '/' then (true, lineBreak, after.step) else readBlockComment fuel lineBreak after

/-- Reads a comment that starts at the cursor up to its end, with the results of `readBlockComment`. -/
def readCommentBody (start : Cursor) : Bool × Option Nat × Cursor :=
  if start.step.at? '/' then (true, none, start.step.step.skip (· ≠ '\n'))
  else readBlockComment start.bound none start.step.step

/-- The number after the last colon of a text: the offset after the colon, and the number when the rest is one. -/
def trailingNumber? (t : Text) : Option (Nat × Option Nat) :=
  match t.reverse.findIdx? (· = Text.byte ':') with
  | none => none
  | some fromEnd =>
    let digits := t.drop (t.length - fromEnd)
    let isNumber := ¬ digits.isEmpty ∧ digits.all fun b => Text.byte '0' ≤ b ∧ b ≤ Text.byte '9'
    let value := digits.foldl (fun n b => n * 10 + (b.toNat - 0x30)) 0
    some (t.length - fromEnd, if isNumber ∧ value < 0x10000000000000000 then some value else none)

def maxDirectiveNumber : Int := 0x40000000

def asSigned (n : Nat) : Int := if n < 0x8000000000000000 then n else n - 0x10000000000000000

/-- The number of a directive, unless it is zero or too large. -/
def directiveNumber? (n : Nat) : Option Int :=
  let number := asSigned n
  if number = 0 ∨ maxDirectiveNumber < number then none else some number

/-- Reads the text of a line directive, which stands at `offset` and takes effect at `effect`. -/
def readDirective (size effect offset : Nat) (t : Text) (cursor : Cursor) : Cursor :=
  match trailingNumber? t with
  | none => cursor
  | some (stop, none) => cursor.fault (offset + stop)
  | some (stop, some number) =>
    let enact := fun (line : Int) =>
      if cursor.directives.head?.all (·.offset < effect) ∧ effect < size then
        { cursor with directives := ⟨effect, line⟩ :: cursor.directives }
      else cursor
    match trailingNumber? (t.take (stop - 1)) with
    | some (earlier, some line) =>
      match directiveNumber? number, directiveNumber? line with
      | none, _ => cursor.fault (offset + stop)
      | _, none => cursor.fault (offset + earlier)
      | _, some line => enact line
    | _ =>
      match directiveNumber? number with
      | none => cursor.fault (offset + stop)
      | some line => enact line

/-- Reads a comment that starts at the cursor. The result gives the first line break inside a block comment. -/
def readComment (size : Nat) (start : Cursor) : Option Nat × Cursor :=
  let isLine := start.step.at? '/'
  let (closed, lineBreak, cursor) := readCommentBody start
  if ¬ closed then (lineBreak, cursor.fault start.offset)
  else
    let whole := cursor.since start
    let whole := if isLine then whole.dropEnding "\r" else whole
    let effect := if isLine ∧ cursor.at? '\n' then cursor.offset + 1 else cursor.offset
    let isDirective := (¬ isLine ∨ start.offset = start.lineStart) ∧ Text.startsWith (whole.drop 2) "line "
    if isDirective then
      let inner := if isLine then whole else whole.take (whole.length - 2)
      (lineBreak, readDirective size effect (start.offset + 7) (inner.drop 7) cursor)
    else (lineBreak, cursor)

/-! ### Lexemes -/

/-- What an operator is depends on the characters after its first one: it is a longer one if the next is a given
character, and a shorter one otherwise. -/
inductive Operator where
  | just (token : Token)
  | ifNext (next : Char) (longer shorter : Operator)
  deriving DecidableEq, Repr

namespace Operator

def orAssign (token : Token) : Operator := ifNext '=' (just .compoundAssign) (just token)

/-- The operators and punctuation by their first character, all but the period. -/
def all : List (Char × Operator) := [
  (':', ifNext '=' (just .define) (just .colon)),
  (',', just .comma), (';', just .semicolon), ('(', just .leftParen), (')', just .rightParen), ('[', just .leftBracket),
  (']', just .rightBracket), ('\x7b', just .leftBrace), ('\x7d', just .rightBrace), ('~', just .tilde),
  ('+', ifNext '+' (just .inc) (orAssign .add)),
  ('-', ifNext '-' (just .dec) (orAssign .sub)),
  ('*', orAssign .mul), ('/', orAssign .quo), ('%', orAssign .rem), ('^', orAssign .xor),
  ('<', ifNext '-' (just .arrow) (ifNext '<' (orAssign .shl) (ifNext '=' (just .lessEqual) (just .less)))),
  ('>', ifNext '>' (orAssign .shr) (ifNext '=' (just .greaterEqual) (just .greater))),
  ('=', ifNext '=' (just .equal) (just .assign)),
  ('!', ifNext '=' (just .notEqual) (just .not)),
  ('&', ifNext '^' (orAssign .andNot) (ifNext '&' (just .logicalAnd) (orAssign .and))),
  ('|', ifNext '|' (just .logicalOr) (orAssign .or))]

/-- The token of an operator and the cursor after it. The cursor given is the one after the first character. -/
def read : Operator → Cursor → Token × Cursor
  | just token, cursor => (token, cursor)
  | ifNext next longer shorter, cursor => if cursor.at? next then longer.read cursor.step else shorter.read cursor

end Operator

/-- Reads what a period begins that is no number, from the cursor after it: one period, or three. -/
def readPeriods (cursor : Cursor) : Token × Cursor :=
  if cursor.at? '.' ∧ (cursor.rest.drop 1).head? = some (Text.byte '.') then (.ellipsis, cursor.step.step)
  else (.period, cursor)

/-- The token that a character begins, with the cursor after it, for operators and punctuation. The cursor given is the
one after the character. -/
def readOperator? (c : Char) (cursor : Cursor) : Option (Token × Cursor) :=
  if c = '.' then some (readPeriods cursor) else (Operator.all.lookup c).map (·.read cursor)

/-- A lexeme from one cursor to another. Only names keep their spelling. -/
def lexemeOf (token : Token) (start stop : Cursor) : Lexeme :=
  ⟨token, start.offset, stop.offset, if token = .identifier then stop.since start else [], stop.faults.reverse⟩

def lineBreakLexeme (start stop : Nat) (after : Cursor) : Lexeme :=
  ⟨.semicolon, start, stop, "\n", after.faults.reverse⟩

/-- Reads the token at a cursor that is at no white space and no comment. A character that begins no token is a fault,
unless it is a byte order mark, which was one already. -/
def readToken (start : Cursor) (c : Char) : Token × Cursor :=
  if isLetter c then
    let stop := start.skip fun c => isLetter c || isDigit c
    match Keyword.ofText? (stop.since start) with
    | some word => (.keyword word, stop)
    | none => (.identifier, stop)
  else if c.isDigit || (c = '.' ∧ (start.rest.drop 1).head?.any fun b => (Char.ofNat b.toNat).isDigit) then
    readNumber start
  else if c = quoteChar then (.string, readString start.offset start.bound start.step)
  else if c = '\'' then (.character, readCharacter start.offset start.bound true 0 start.step)
  else if c = backquoteChar then (.string, readRawString start.offset start.step)
  else
    match readOperator? c start.step with
    | some found => found
    | none => (.illegal, if c = byteOrderMark then start.step else start.step.fault start.offset)

def startsComment (cursor : Cursor) : Bool :=
  cursor.rest.startsWith "//" || cursor.rest.startsWith "/*"

/-- Whether a character is white space before a lexeme. A line break is, unless it is a semicolon. -/
def isGap (armed : Bool) (c : Char) : Bool := c = ' ' || c = '\t' || c = '\r' || (c = '\n' && !armed)

/-- Reads the next lexeme. `armed` says that a line break here is a semicolon; the result gives it for the next one. -/
def readLexeme (size : Nat) : Nat → Bool → Cursor → Lexeme × Bool × Cursor
  | 0, _, cursor => (lexemeOf .endOfFile cursor cursor, false, cursor)
  | fuel + 1, armed, cursor =>
    let start := cursor.skip (isGap armed)
    match start.peek with
    | none =>
      if armed then (lineBreakLexeme start.offset start.offset start, false, start)
      else (lexemeOf .endOfFile start start, false, start)
    | some c =>
      if c = '\n' then (lineBreakLexeme start.offset start.step.offset start.step, false, start.step)
      else if startsComment start then
        match readComment size start with
        | (some lineBreak, after) =>
          if armed then (lineBreakLexeme lineBreak (lineBreak + 1) after, false, after)
          else readLexeme size fuel armed after
        | (none, after) => readLexeme size fuel armed after
      else
        let (token, stop) := readToken start c
        (lexemeOf token start stop, token.endsStatement || (armed && token = .illegal), stop)

/-- Reads lexemes through the end of the file; they come latest first. -/
def readLexemes (size : Nat) : Nat → Bool → List Lexeme → Cursor → List Lexeme × Cursor
  | 0, _, found, cursor => (found, cursor)
  | fuel + 1, armed, found, cursor =>
    let (lexeme, armed, cursor) := readLexeme size cursor.bound armed cursor
    if lexeme.token = .endOfFile then (lexeme :: found, cursor)
    else readLexemes size fuel armed (lexeme :: found) cursor.faultless

/-- The lexemes of a source and its line table. A byte order mark at the very start is skipped. -/
def lexemes (text : Text) : List Lexeme × LineTable :=
  let size := text.length
  let (found, last) := readLexemes size (2 * size + 3) false [] (Cursor.ofText text).pastMark
  (found.reverse, { LineTable.ofText text with directives := last.directives.reverse.toArray })

end QualityGate.GoSource
