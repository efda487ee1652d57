import QualityGate.Text.Basic

/-!
Masking blanks comments and the insides of literals, so that braces in them are not counted. Line breaks stay, literal
delimiters stay, and the length never changes, so offsets into the masked text are offsets into the source.
-/

namespace QualityGate.Masking

open Text (byte doubleQuote singleQuote backquote backslash)

structure Rules where
  lineComments : Bool := false
  blockComments : Bool := false
  /-- `@"..."`, in which a doubled quote is a quote. -/
  verbatimStrings : Bool := false
  /-- `"""..."""` with backslash escapes. -/
  textBlocks : Bool := false
  /-- Three or more quotes, closed by as many, without escapes. -/
  rawQuotedStrings : Bool := false
  /-- Backquoted strings without escapes. -/
  backquotedStrings : Bool := false
  deriving DecidableEq, Repr

inductive State where
  | code
  | lineComment
  | blockComment
  | quoted (quote : UInt8)
  | verbatim
  | textBlock
  | rawQuoted (quotes : Nat)
  | backquoted
  deriving DecidableEq, Repr

structure Step where
  width : Nat
  keeps : Bool
  next : State
  deriving DecidableEq, Repr

def quoteRun (text : Text) : Nat := (text.takeWhile (· = doubleQuote)).length

def startsTextBlock (text : Text) : Bool := text.startsWith (List.replicate 3 doubleQuote)

/-- The step in code: a comment or literal may begin. -/
def enter (rules : Rules) (text : Text) : Step :=
  let first := text.head?
  let second := text.tail.head?
  if rules.lineComments ∧ first = some (byte '/') ∧ second = some (byte '/') then ⟨2, false, .lineComment⟩
  else if rules.blockComments ∧ first = some (byte '/') ∧ second = some (byte '*') then ⟨2, false, .blockComment⟩
  else if rules.rawQuotedStrings ∧ 3 ≤ quoteRun text then ⟨quoteRun text, true, .rawQuoted (quoteRun text)⟩
  else if rules.textBlocks ∧ startsTextBlock text then ⟨3, true, .textBlock⟩
  else if rules.verbatimStrings ∧ first = some (byte '@') ∧ second = some doubleQuote then ⟨2, true, .verbatim⟩
  else if first = some doubleQuote then ⟨1, true, .quoted doubleQuote⟩
  else if first = some singleQuote then ⟨1, true, .quoted singleQuote⟩
  else if rules.backquotedStrings ∧ first = some backquote then ⟨1, true, .backquoted⟩
  else ⟨1, true, .code⟩

/-- The step at the front of a text. An escape takes two bytes, whatever the second one is. -/
def step (rules : Rules) (state : State) (text : Text) : Step :=
  let first := text.head?
  let second := text.tail.head?
  match state with
  | .code => enter rules text
  | .lineComment => ⟨1, false, if first = some (byte '\n') then .code else state⟩
  | .blockComment =>
    if first = some (byte '*') ∧ second = some (byte '/') then ⟨2, false, .code⟩ else ⟨1, false, state⟩
  | .quoted quote =>
    if first = some backslash ∧ second.isSome then ⟨2, false, state⟩
    else if first = some quote ∨ first = some (byte '\n') then ⟨1, true, .code⟩
    else ⟨1, false, state⟩
  | .verbatim =>
    if first = some doubleQuote ∧ second = some doubleQuote then ⟨2, false, state⟩
    else if first = some doubleQuote then ⟨1, true, .code⟩
    else ⟨1, false, state⟩
  | .textBlock =>
    if startsTextBlock text then ⟨3, true, .code⟩
    else if first = some backslash ∧ second.isSome then ⟨2, false, state⟩
    else ⟨1, false, state⟩
  | .rawQuoted quotes =>
    if first = some doubleQuote then
      if quotes ≤ quoteRun text then ⟨quoteRun text, true, .code⟩ else ⟨quoteRun text, false, state⟩
    else ⟨1, false, state⟩
  | .backquoted => if first = some backquote then ⟨1, true, .code⟩ else ⟨1, false, state⟩

/-- A byte after blanking: a space, unless it breaks a line. -/
def blank (b : UInt8) : UInt8 := if b = byte '\n' ∨ b = byte '\r' then b else byte ' '

def write (keeps : Bool) (b : UInt8) : UInt8 := if keeps then b else blank b

/-- Masks a text from a state on. The first `pending` bytes belong to a step already taken, which `keeps` them or
not. -/
def maskFrom (rules : Rules) (state : State) (pending : Nat) (keeps : Bool) : Text → Text
  | [] => []
  | b :: rest =>
    match pending with
    | left + 1 => write keeps b :: maskFrom rules state left keeps rest
    | 0 =>
      let taken := step rules state (b :: rest)
      write taken.keeps b :: maskFrom rules taken.next (taken.width - 1) taken.keeps rest

/-- The text with comments and the insides of literals blanked. -/
def mask (rules : Rules) (text : Text) : Text := maskFrom rules .code 0 true text

end QualityGate.Masking
