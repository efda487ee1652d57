import QualityGate.Text.Basic

/-!
The tokens of Go. All compound assignments are one token, since nothing depends on which it is.
-/

namespace QualityGate.GoSource

inductive Keyword where
  | kwBreak | kwCase | kwChan | kwConst | kwContinue | kwDefault | kwDefer | kwElse | kwFallthrough | kwFor | kwFunc
  | kwGo | kwGoto | kwIf | kwImport | kwInterface | kwMap | kwPackage | kwRange | kwReturn | kwSelect | kwStruct
  | kwSwitch | kwType | kwVar
  deriving DecidableEq, Repr

def Keyword.spellings : List (String × Keyword) := [
  ("break", .kwBreak), ("case", .kwCase), ("chan", .kwChan), ("const", .kwConst), ("continue", .kwContinue),
  ("default", .kwDefault), ("defer", .kwDefer), ("else", .kwElse), ("fallthrough", .kwFallthrough), ("for", .kwFor),
  ("func", .kwFunc), ("go", .kwGo), ("goto", .kwGoto), ("if", .kwIf), ("import", .kwImport),
  ("interface", .kwInterface), ("map", .kwMap), ("package", .kwPackage), ("range", .kwRange), ("return", .kwReturn),
  ("select", .kwSelect), ("struct", .kwStruct), ("switch", .kwSwitch), ("type", .kwType), ("var", .kwVar)]

def Keyword.ofText? (word : Text) : Option Keyword :=
  (Keyword.spellings.find? fun entry => Text.ofString entry.1 = word).map (·.2)

inductive Token where
  | endOfFile | illegal
  | identifier | integer | floating | imaginary | character | string
  | add | sub | mul | quo | rem | and | or | xor | shl | shr | andNot
  | logicalAnd | logicalOr | arrow | inc | dec
  | equal | less | greater | not | notEqual | lessEqual | greaterEqual
  | assign | define | compoundAssign | ellipsis | tilde
  | leftParen | rightParen | leftBracket | rightBracket | leftBrace | rightBrace
  | comma | period | semicolon | colon
  | keyword (word : Keyword)
  deriving DecidableEq, Repr

namespace Token

/-- How tightly a binary operator binds; zero for what is none. -/
def precedence : Token → Nat
  | logicalOr => 1
  | logicalAnd => 2
  | equal | notEqual | less | lessEqual | greater | greaterEqual => 3
  | add | sub | or | xor => 4
  | mul | quo | rem | shl | shr | and | andNot => 5
  | _ => 0

def isLiteral : Token → Bool
  | identifier | integer | floating | imaginary | character | string => true
  | _ => false

def endsStatement : Token → Bool
  | identifier | integer | floating | imaginary | character | string => true
  | inc | dec | rightParen | rightBracket | rightBrace => true
  | keyword .kwBreak | keyword .kwContinue | keyword .kwFallthrough | keyword .kwReturn => true
  | _ => false

end Token

/-- A token in its place: its bounds, its spelling, and the offsets of the lexical faults met while reading up to it.
Only names are spelled, and a semicolon that stands for a line break, as one. -/
structure Lexeme where
  token : Token
  start : Nat
  stop : Nat
  spelling : Text := []
  faults : List Nat := []
  deriving DecidableEq, Repr

def Lexeme.faultless (lexeme : Lexeme) : Lexeme := { lexeme with faults := [] }

def Lexeme.isLineBreak (lexeme : Lexeme) : Bool := lexeme.token = .semicolon && lexeme.spelling = "\n"

end QualityGate.GoSource
