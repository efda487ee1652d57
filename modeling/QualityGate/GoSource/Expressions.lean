import QualityGate.GoSource.Types

/-!
Reading expressions. Where an opening brace could begin either a composite literal or the body of a control statement,
the head of the statement decides for the body.
-/

namespace QualityGate.GoSource

/-! ### Blocks and function literals -/

def statementsGoOn (s : State) : Bool :=
  s.token ≠ .keyword .kwCase && s.token ≠ .keyword .kwDefault && s.token ≠ .rightBrace && s.token ≠ .endOfFile

def readStatements (self : Self) : Reading (List Node) := many statementsGoOn (self .statement)

/-- Where a block ends: after its closing brace, else after its last statement, else after its opening brace. -/
def blockStop (opening : Nat) (statements : List Node) (close : Option Nat) : Nat :=
  match close with
  | some close => close + 1
  | none => (statements.getLast?.map (·.stop)).getD (opening + 1)

def readBlock (self : Self) : Reading Node := do
  let opening ← expect .leftBrace
  let statements ← readStatements self
  let close ← expectFound .rightBrace
  return .mk .block opening (blockStop opening statements close) statements

/-- Reads a function type or, when a body follows, a function literal. -/
def readFunctionLiteral (self : Self) : Reading Node := do
  let type ← readFunctionType self
  if ← sees .leftBrace then
    let body ← enclosed (readBlock self)
    return .mk .functionLiteral type.start body.stop [type, body]
  else return type

/-! ### Operands -/

def readOperand (self : Self) : Reading Node := do
  let s ← get
  match s.token with
  | .identifier => readName
  | .integer | .floating | .imaginary | .character | .string =>
    next
    return .mk .literal s.position s.current.stop []
  | .leftParen =>
    next
    let inner ← enclosed (readRightHandSide self)
    let close ← expect .rightParen
    return .mk .paren s.position (close + 1) [inner]
  | .keyword .kwFunc => readFunctionLiteral self
  | _ =>
    match ← self .type with
    | some type => return type
    | none => badUntil startsStatement

def readTypeAssertion (self : Self) (x : Node) : Reading Node := do
  let _ ← expect .leftParen
  if ← sees (.keyword .kwType) then
    next
    let close ← expect .rightParen
    return .mk .typeSwitch x.start (close + 1) [x]
  else
    let type ← readType self
    let close ← expect .rightParen
    return .mk .typeAssertion x.start (close + 1) [x, type]

def readSelection (self : Self) (x : Node) : Reading Node := do
  match ← token with
  | .identifier =>
    let selected ← readName
    return .mk .selector x.start selected.stop [x, selected]
  | .leftParen => readTypeAssertion self x
  | found =>
    let start ← position
    fault start
    if found ≠ .rightBrace then next
    return .mk .selector x.start (start + 1) [x, blankName start]

/-- Reads the bounds of a slice after the first one: each colon with the bound after it. -/
def readSliceBounds (self : Self) : Nat → Reading (List (Nat × Option Node))
  | 0 => return []
  | left + 1 => do
    if ← sees .colon then
      let colon ← position
      next
      let following ← token
      let bound ←
        if following = .colon ∨ following = .rightBracket ∨ following = .endOfFile then pure none
        else
          let bound ← readRightHandSide self
          pure (some bound)
      let more ← readSliceBounds self left
      return (colon, bound) :: more
    else return []

def readMoreArguments (self : Self) : Reading (List Node) := do
  let found ← many (·.token = .comma) do
    next
    if (← sees .rightBracket) ∨ (← sees .endOfFile) then pure none
    else
      let type ← readType self
      pure (some type)
  return found.filterMap id

/-- A bound that a slice with two colons lacks is a fault at the colon before it. -/
def requireBound (entry : Nat × Option Node) : Reading Node := do
  match entry.2 with
  | some bound => return bound
  | none =>
    fault entry.1
    return .mk .bad (entry.1 + 1) (entry.1 + 1) []

def readIndexOrSlice (self : Self) (x : Node) : Reading Node := do
  let _ ← expect .leftBracket
  if ← sees .rightBracket then
    let close ← position
    fault close
    next
    return indexed x [.mk .bad close close []] close
  let (first, bounds, more) ← enclosed do
    let first ←
      if ← sees .colon then pure none
      else
        let first ← readRightHandSide self
        pure (some first)
    match ← token with
    | .colon =>
      let bounds ← readSliceBounds self 2
      pure (first, bounds, [])
    | .comma =>
      let more ← readMoreArguments self
      pure (first, [], more)
    | _ => pure (first, [], [])
  let close ← expect .rightBracket
  match bounds with
  | [] => return indexed x (first.toList ++ more) close
  | [low] => return .mk .slice x.start (close + 1) (x :: first.toList ++ low.2.toList)
  | _ =>
    let bounds ← bounds.mapM requireBound
    return .mk .slice x.start (close + 1) (x :: first.toList ++ bounds)

/-- Reads arguments up to a closing parenthesis; they come latest first. Nothing follows a spread argument. -/
def readArguments (self : Self) : Nat → List Node → Reading (List Node × Bool)
  | 0, arguments => return (arguments, false)
  | fuel + 1, arguments => do
    if (← sees .rightParen) ∨ (← sees .endOfFile) then return (arguments, false)
    let argument ← readRightHandSide self
    let spread ← sees .ellipsis
    if spread then next
    if ← goesOn .rightParen then
      next
      if spread then return (argument :: arguments, true)
      else (readArguments self fuel (argument :: arguments)).later
    else return (argument :: arguments, spread)

def readCall (self : Self) (function : Node) : Reading Node := do
  let _ ← expect .leftParen
  let (arguments, spread) ← enclosed (do readArguments self (← get).loopBound [])
  let close ← expectClosing .rightParen
  return .mk (.call spread) function.start (close + 1) (function :: arguments.reverse)

/-! ### Composite literals -/

def readValue (self : Self) : Reading Node := do
  if ← sees .leftBrace then self (.literalValue none) else readExpression self

/-- Reads an element of a composite literal, with or without a key. -/
def readCompositeElement (self : Self) : Reading Node := do
  let x ← readValue self
  if ← sees .colon then
    next
    let value ← readValue self
    return .mk .keyValue x.start value.stop [x, value]
  else return x

def readLiteralValue (self : Self) (type : Option Node) : Reading Node := nested do
  let opening ← expect .leftBrace
  let elements ← enclosed do
    if ← sees .rightBrace then pure [] else listUntil .rightBrace (readCompositeElement self)
  let close ← expectClosing .rightBrace
  return .mk .compositeLiteral ((type.map (·.start)).getD opening) (close + 1) (type.toList ++ elements)

def takesBrace (level : Int) (x : Node) : Bool :=
  match x.unparen.kind with
  | .bad | .identifier _ | .selector | .index => 0 ≤ level
  | .arrayType | .structType | .mapType => true
  | _ => false

/-! ### Expressions -/

def readSuffixes (self : Self) : Nat → Node → Reading Node
  | 0, x => return x
  | fuel + 1, x => do
    descend
    match ← token with
    | .period =>
      next
      let x ← readSelection self x
      (readSuffixes self fuel x).later
    | .leftBracket =>
      let x ← readIndexOrSlice self x
      (readSuffixes self fuel x).later
    | .leftParen =>
      let x ← readCall self x
      (readSuffixes self fuel x).later
    | .leftBrace =>
      if takesBrace (← get).level x then
        if x.kind = .paren then fault x.unparen.start
        let x ← self (.literalValue (some x))
        (readSuffixes self fuel x).later
      else return x
    | _ => return x

def readPrimary (self : Self) (begun : Option Node) : Reading Node := do
  let operand ← match begun with
    | some x => pure x
    | none => readOperand self
  keepingDepth (do readSuffixes self (← get).loopBound operand)

/-- Channel types that only receive, each with its arrow and its end, the innermost first, around an element. -/
def receivers (element : Node) (arrows : List (Nat × Nat)) : Node :=
  arrows.foldl (fun value (arrow, stop) => .mk (.channelType .receive arrow) arrow stop [value]) element

/-- Attaches a receive arrow to a channel type that was read after it. The arrow of each channel that only sends moves on
to its element; the second component gives the place of an arrow that fits nowhere. `outer` holds the channels around
this one. -/
def attachArrow (outer : List (Nat × Nat)) (arrow : Nat) : Node → Node × Option Nat
  | .mk (.channelType direction own) _ stop [value] =>
    let arrows := (arrow, stop) :: outer
    if direction = .send then
      match value.kind with
      | .channelType _ _ => attachArrow arrows own value
      | _ => (receivers value arrows, some own)
    else (receivers value arrows, if direction = .receive then some own else none)
  | node => (receivers node outer, none)

def readUnary (self : Self) : Reading Node := nested do
  let start ← position
  match ← token with
  | .add | .sub | .not | .xor | .and | .tilde =>
    let operator ← token
    next
    let x ← self .unary
    return .mk (.unary operator) start x.stop [x]
  | .arrow =>
    next
    let x ← self .unary
    match x.kind with
    | .channelType _ _ =>
      let (type, misplaced) := attachArrow [] start x
      match misplaced with
      | some arrow => fault arrow
      | none => pure ()
      return type
    | _ => return .mk (.unary .arrow) start x.stop [x]
  | .mul =>
    next
    let x ← self .unary
    return .mk .star start x.stop [x]
  | _ => readPrimary self none

/-- The binary operator at the current token: on a right-hand side an assignment sign reads as a comparison. -/
def binaryOperator (s : State) : Token :=
  if s.rightHandSide ∧ s.token = .assign then .equal else s.token

/-- Reads the binary operators that bind at least as tightly as `precedence` and their right operands. -/
def readOperators (self : Self) (precedence : Nat) : Nat → Node → Reading Node
  | 0, x => return x
  | fuel + 1, x => do
    descend
    let operator := binaryOperator (← get)
    if operator.precedence < precedence then return x
    let _ ← expect operator
    let y ← self (.expression (operator.precedence + 1))
    (readOperators self precedence fuel (.mk (.binary operator) x.start y.stop [x, y])).later

def readBinary (self : Self) (begun : Option Node) (precedence : Nat) : Reading Node := do
  let x ← match begun with
    | some x => pure x
    | none => self .unary
  keepingDepth (do readOperators self precedence (← get).loopBound x)

/-- Reads expressions with commas between them, on a right-hand side or not. -/
def readExpressions (self : Self) (rightHandSide : Bool) : Reading (List Node) :=
  onSide rightHandSide (oneOrMore (readExpression self))

end QualityGate.GoSource
