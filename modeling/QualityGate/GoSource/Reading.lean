import QualityGate.GoSource.Lexer
import QualityGate.GoSource.Tree

/-!
The reader that turns lexemes into trees: its state, how faults are counted, and how it gets back on its feet after
one. A fault on the line of the last counted fault is not counted again, and a fault that would be counted when more
than ten are already ends the reading altogether. Lexical faults always count.

A reading only tells what happens in it, and does not know which faults were counted: the account of the faults is
kept by `Progress.run`. It is written against what is to be done with its result, and can be put off and taken up
again. So however deep the source nests, no reading waits for another one to return.
-/

namespace QualityGate.GoSource

/-- Where the reading stands. `size` is the number of lexemes of the file. `level` is negative while the head of a
control statement is read, where an opening brace begins the body. -/
structure State where
  current : Lexeme
  rest : List Lexeme
  size : Nat
  syncPosition : Option Nat := none
  syncCount : Nat := 0
  level : Int := 0
  rightHandSide : Bool := false
  depth : Nat := 0
  deriving Repr

inductive Progress where
  | finished (declarations : List Node) (state : State)
  | abandoned
  | paused (resume : Unit → Progress)
  /-- A number of lexemes is taken. -/
  | taking (count : Nat) (resume : Unit → Progress)
  /-- There is a fault of syntax at a position. -/
  | faulty (position : Nat) (resume : Unit → Progress)

structure Account where
  ahead : List (List Nat)
  faults : Nat := 0
  lastFault : Option Nat := none
  deriving DecidableEq, Repr

/-- The number of counted faults after which the next one ends the reading. -/
def maxFaults : Nat := 10

namespace Account

def count (account : Account) (offset : Nat) : Account :=
  { account with faults := account.faults + 1, lastFault := some offset }

def take : Nat → Account → Account
  | 0, account => account
  | more + 1, account =>
    match account.ahead with
    | [] => account
    | offsets :: ahead => (offsets.foldl count { account with ahead }).take more

def ofLexemes (lexemes : List Lexeme) : Account := take 1 { ahead := lexemes.map (·.faults) }

end Account

/-- The declarations that a reading comes to, with the state and the account after it; none when it was given up. -/
def Progress.run (lines : LineTable) : Account → Progress → Option (List Node × State × Account)
  | account, finished declarations state => some (declarations, state, account)
  | _, abandoned => none
  | account, paused resume => (resume ()).run lines account
  | account, taking count resume => (resume ()).run lines (account.take count)
  | account, faulty position resume =>
    if account.lastFault.any fun last => lines.lineOf last = lines.lineOf position then (resume ()).run lines account
    else if maxFaults < account.faults then none
    else (resume ()).run lines (account.count position)

/-- A step of the reading: given what comes after it, how far the reading gets. -/
def Reading (α : Type) := State → (α → State → Progress) → Progress

namespace Reading

variable {α β : Type}

@[always_inline, inline]
def result (a : α) : Reading α := fun s after => after a s

@[always_inline, inline]
def andThen (step : Reading α) (next : α → Reading β) : Reading β :=
  fun s after => step s fun a s => next a s after

instance : Monad Reading where
  pure := result
  bind := andThen

instance : MonadStateOf State Reading where
  get := fun s after => after s s
  set s := fun _ after => after () s
  modifyGet f := fun s after => after (f s).1 (f s).2

def later (step : Reading α) : Reading α := fun s after => .paused fun _ => step s after

/-- A step that is taken up later, and so is what comes after it. -/
def apart (step : Reading α) : Reading α :=
  fun s after => .paused fun _ => step s fun a s => .paused fun _ => after a s

end Reading

namespace State

def token (s : State) : Token := s.current.token

def position (s : State) : Nat := s.current.start

/-- Moves to the next lexeme; the end of the file is never left. -/
def next (s : State) : State :=
  match s.rest with
  | [] => s
  | lexeme :: rest => { s with current := lexeme, rest }

/-- A bound for loops that make progress at least once in a dozen rounds. -/
def loopBound (s : State) : Nat := 16 * (s.size + 4)

/-- Skips to a token of a set or to the end, and counts the lexemes taken. Stopping at one place is allowed ten times
in a row; after that the token is skipped too. -/
def skipTo (stops : Token → Bool) : Nat → Nat → State → Nat × State
  | 0, taken, s => (taken, s)
  | fuel + 1, taken, s =>
    if s.token = .endOfFile then (taken, s)
    else if stops s.token then
      if s.syncPosition = some s.position ∧ s.syncCount < 10 then (taken, { s with syncCount := s.syncCount + 1 })
      else if s.syncPosition.all (· < s.position) then
        (taken, { s with syncPosition := some s.position, syncCount := 0 })
      else skipTo stops fuel (taken + 1) s.next
    else skipTo stops fuel (taken + 1) s.next

end State

def fault (position : Nat) : Reading Unit := fun s after => .faulty position fun _ => after () s

def giveUp {α : Type} : Reading α := fun _ _ => .abandoned

def next : Reading Unit := fun s after => .taking 1 fun _ => after () s.next

def token : Reading Token := State.token <$> get

def position : Reading Nat := State.position <$> get

def faultHere : Reading Unit := do fault (← position)

def sees (wanted : Token) : Reading Bool := do return (← token) = wanted

/-- Takes a token and gives its position; another token is a fault, and is taken all the same. -/
def expect (wanted : Token) : Reading Nat := do
  let start ← position
  if (← token) ≠ wanted then fault start
  next
  return start

/-- Takes a token and gives its position; another token is a fault, is taken all the same, and has no position. -/
def expectFound (wanted : Token) : Reading (Option Nat) := do
  let start ← position
  let found ← sees wanted
  if ¬ found then fault start
  next
  return if found then some start else none

/-- Takes a closing token. A line break in front of it is a missing comma. -/
def expectClosing (wanted : Token) : Reading Nat := do
  if (← get).current.isLineBreak then
    faultHere
    next
  expect wanted

/-- Whether a list goes on: at a comma, or at a token that is not the closing one, where the comma is missing. -/
def goesOn (closing : Token) : Reading Bool := do
  if ← sees .comma then return true
  if ← sees closing then return false
  faultHere
  return true

def startsStatement : Token → Bool
  | .keyword word =>
    word ∈ [.kwBreak, .kwConst, .kwContinue, .kwDefer, .kwFallthrough, .kwFor, .kwGo, .kwGoto, .kwIf, .kwReturn,
      .kwSelect, .kwSwitch, .kwType, .kwVar]
  | _ => false

def startsDeclaration : Token → Bool
  | .keyword word => word ∈ [.kwImport, .kwConst, .kwType, .kwVar]
  | _ => false

def endsExpression : Token → Bool
  | .comma | .colon | .semicolon | .rightParen | .rightBracket | .rightBrace => true
  | _ => false

def advance (stops : Token → Bool) : Reading Unit := fun s after =>
  let (count, s) := s.skipTo stops (s.size + 2) 0
  .taking count fun _ => after () s

/-- Takes the end of a statement. It may be left out before a closing parenthesis or brace; a comma in its place is a
fault. -/
def expectSemicolon : Reading Unit := do
  match ← token with
  | .rightParen | .rightBrace => return
  | .comma =>
    faultHere
    next
  | .semicolon => next
  | _ =>
    faultHere
    advance startsStatement

def maxDepth : Nat := 100000

def descend : Reading Unit := do
  modify fun s => { s with depth := s.depth + 1 }
  if maxDepth < (← get).depth then
    faultHere
    giveUp

def nested {α : Type} (body : Reading α) : Reading α := do
  descend
  let result ← body
  modify fun s => { s with depth := s.depth - 1 }
  return result

def keepingDepth {α : Type} (body : Reading α) : Reading α := do
  let depth := (← get).depth
  let result ← body
  modify fun s => { s with depth }
  return result

/-- Runs a reading inside parentheses, brackets or braces, where an opening brace belongs to an expression again. -/
def enclosed {α : Type} (body : Reading α) : Reading α := do
  modify fun s => { s with level := s.level + 1 }
  let result ← body
  modify fun s => { s with level := s.level - 1 }
  return result

def inHead {α : Type} (body : Reading α) : Reading α := do
  let level := (← get).level
  modify fun s => { s with level := -1 }
  let result ← body
  modify fun s => { s with level }
  return result

def onSide {α : Type} (rightHandSide : Bool) (body : Reading α) : Reading α := do
  let previous := (← get).rightHandSide
  modify fun s => { s with rightHandSide }
  let result ← body
  modify fun s => { s with rightHandSide := previous }
  return result

/-- Reads items as long as a test on the state holds; the results come latest first. -/
def whileReading {α : Type} (test : State → Bool) (item : Reading α) : Nat → List α → Reading (List α)
  | 0, items => return items
  | fuel + 1, items => do
    if test (← get) then
      let found ← item
      (whileReading test item fuel (found :: items)).later
    else return items

def many {α : Type} (test : State → Bool) (item : Reading α) : Reading (List α) := do
  let found ← whileReading test item (← get).loopBound []
  return found.reverse

/-- Reads items up to a closing token or the end of the file, with commas between them; the results come latest
first. -/
def commaSeparated {α : Type} (closing : Token) (item : Reading α) : Nat → List α → Reading (List α)
  | 0, items => return items
  | fuel + 1, items => do
    if (← sees closing) ∨ (← sees .endOfFile) then return items
    let found ← item
    if ← goesOn closing then
      next
      (commaSeparated closing item fuel (found :: items)).later
    else return found :: items

def listUntil {α : Type} (closing : Token) (item : Reading α) : Reading (List α) := do
  let found ← commaSeparated closing item (← get).loopBound []
  return found.reverse

/-- Reads one item, and another one after every comma. -/
def oneOrMore {α : Type} (item : Reading α) : Reading (List α) := do
  let first ← item
  let more ← many (·.token = .comma) (do next; item)
  return first :: more

inductive Entry where
  /-- An expression whose binary operators bind at least this tightly. -/
  | expression (precedence : Nat)
  | unary
  /-- A type, if one stands here. -/
  | type
  /-- The braces of a composite literal after its type, which starts there. -/
  | literalValue (start : Option Node)
  | statement
  | ifStatement

abbrev Entry.Result : Entry → Type
  | .type => Option Node
  | _ => Node

abbrev Self := (entry : Entry) → Reading entry.Result

/-! ### Names -/

/-- Reads a name. Anything else is a fault, is taken, and reads as the blank name. -/
def readName : Reading Node := do
  let s ← get
  if s.token = .identifier then
    next
    return .mk (.identifier s.current.spelling) s.position s.current.stop []
  else
    let _ ← expect .identifier
    return .mk (.identifier "_") s.position (s.position + 1) []

def blankName (position : Nat) : Node := .mk (.identifier "_") position (position + 1) []

/-- Reports that something is missing here, skips to the end of the expression, and gives a bad node. -/
def badUntil (stops : Token → Bool) : Reading Node := do
  let start ← position
  fault start
  advance stops
  return .mk .bad start (← position) []

end QualityGate.GoSource
