import QualityGate.GoSource.Expressions

/-!
Reading statements and declarations.
-/

namespace QualityGate.GoSource

/-! ### Declarations -/

def readImport : Reading Node := do
  let start ← position
  match ← token with
  | .identifier =>
    let _ ← readName
  | .period => next
  | _ => pure ()
  let s ← get
  if s.token = .string then next
  else if s.token.isLiteral then
    fault s.position
    next
  else
    fault s.position
    advance endsExpression
  let stop ← position
  expectSemicolon
  return .mk .declaration start stop []

/-- Reads the constants or variables of one declaration. A variable needs a type or a value. -/
def readValues (self : Self) (constant : Bool) : Reading Node := do
  let names ← oneOrMore readName
  let start := (names.head?.map (·.start)).getD 0
  let values := do
    if ← sees .assign then
      next
      readExpressions self true
    else pure []
  let (type, values) ←
    if constant then
      let s ← get
      if s.token = .endOfFile ∨ s.token = .semicolon ∨ s.token = .rightParen then pure (none, [])
      else
        let type ← self .type
        let values ← values
        pure (type, values)
    else
      let type ←
        if ← sees .assign then pure none
        else
          let type ← readType self
          pure (some type)
      let values ← values
      pure (type, values)
  let stop ← position
  expectSemicolon
  return .mk .declaration start stop (names ++ type.toList ++ values)

def typeDeclarationNode (name : Node) (parameters : List Node) (type : Node) : Node :=
  .mk (.typeDeclaration (name.name?.getD []) type.shape?) name.start type.stop (name :: parameters ++ [type])

/-- Reads the rest of a generic type declaration, whose first type parameter was begun. -/
def readGenericType (self : Self) (name : Node) (opening : Nat) (parameter : Node) (constraint : Option Node) :
    Reading Node := do
  let fields ← readParameterList self (some parameter) constraint .rightBracket false
  let close ← expect .rightBracket
  if ← sees .assign then next
  let type ← readType self
  return typeDeclarationNode name [fieldsNode opening close fields] type

/-- Reads what follows the name of a type and an opening bracket: an array type or type parameters. -/
def readBracketedType (self : Self) (name : Node) : Reading Node := do
  let opening ← position
  next
  if ← sees .identifier then
    let first ← readName
    let x ←
      if ← sees .leftBracket then pure first
      else enclosed do
        let left ← readPrimary self (some first)
        readBinary self (some left) 1
    let s ← get
    match x.splitName (s.token = .comma) with
    | some (parameter, constraint) =>
      if constraint.isSome ∨ s.token ≠ .rightBracket then readGenericType self name opening parameter constraint
      else
        let type ← readArrayType self opening (some x)
        return typeDeclarationNode name [] type
    | none =>
      let type ← readArrayType self opening (some x)
      return typeDeclarationNode name [] type
  else
    let type ← readArrayType self opening none
    return typeDeclarationNode name [] type

def readTypeDeclaration (self : Self) : Reading Node := do
  let name ← readName
  let declaration ←
    if ← sees .leftBracket then readBracketedType self name
    else
      if ← sees .assign then next
      let type ← readType self
      pure (typeDeclarationNode name [] type)
  expectSemicolon
  return declaration

def readGroup (keyword : Keyword) (item : Reading Node) : Reading Node := do
  let start ← expect (.keyword keyword)
  if ← sees .leftParen then
    next
    let items ← many (fun s => s.token ≠ .rightParen && s.token ≠ .endOfFile) item
    let close ← expect .rightParen
    expectSemicolon
    return .mk .declaration start (close + 1) items
  else
    let only ← item
    return .mk .declaration start only.stop [only]

/-- Reads a function declaration. A body on the next line is a fault. -/
def readFunction (self : Self) : Reading Node := do
  let start ← expect (.keyword .kwFunc)
  let receiver ←
    if ← sees .leftParen then
      let receiver ← readParenthesized self true
      pure (some receiver)
    else pure none
  let name ← readName
  let parameters ←
    if ← sees .leftBracket then readTypeParameters self else pure none
  let signature ← readSignature self start
  let body ← match ← token with
    | .leftBrace => do
      let body ← readBlock self
      expectSemicolon
      pure (some body)
    | .semicolon => do
      next
      if ← sees .leftBrace then
        faultHere
        let body ← readBlock self
        expectSemicolon
        pure (some body)
      else pure none
    | _ => do
      expectSemicolon
      pure none
  let receiverName := receiver.bind fun fields =>
    fields.parts.head?.map fun field => (field.parts.getLast?.map Node.baseName).getD []
  let stop := (body.map (·.stop)).getD signature.stop
  return .mk (.function (name.name?.getD []) receiverName (body.map (·.start))) start stop
    (receiver.toList ++ [name] ++ parameters.toList ++ [signature] ++ body.toList)

/-- Reads a declaration. Where none starts, the reading goes on at one of the given tokens. -/
def readDeclaration (self : Self) (stops : Token → Bool) : Reading Node := do
  match ← token with
  | .keyword .kwImport => readGroup .kwImport readImport
  | .keyword .kwConst => readGroup .kwConst (readValues self true)
  | .keyword .kwVar => readGroup .kwVar (readValues self false)
  | .keyword .kwType => readGroup .kwType (readTypeDeclaration self)
  | .keyword .kwFunc => readFunction self
  | _ => badUntil stops

/-! ### Simple statements -/

inductive Extra where
  | nothing
  | label
  | range
  deriving DecidableEq, Repr

def assigns : Token → Bool
  | .assign | .define | .compoundAssign => true
  | _ => false

def lastStop (nodes : List Node) : Nat := (nodes.getLast?.map (·.stop)).getD 0

/-- Reads an assignment after its targets. The second component says whether it is the head of a range loop. -/
def readAssignment (self : Self) (extra : Extra) (targets : List Node) : Reading (Node × Bool) := do
  let operator ← token
  let at' ← position
  next
  let start := (targets.head?.map (·.start)).getD at'
  let kind := Kind.assignment operator at' targets.length
  if extra = .range ∧ operator ≠ .compoundAssign ∧ (← sees (.keyword .kwRange)) then
    next
    let x ← readRightHandSide self
    return (.mk kind start x.stop (targets ++ [x]), true)
  else
    let values ← readExpressions self true
    return (.mk kind start (lastStop values) (targets ++ values), false)

/-- Reads a simple statement. The second component says whether it is the head of a range loop. -/
def readSimple (self : Self) (extra : Extra) : Reading (Node × Bool) := do
  let targets ← readExpressions self false
  let s ← get
  let x := targets.headD (.mk .bad s.position s.position [])
  if assigns s.token then readAssignment self extra targets
  else
    if 1 < targets.length then fault x.start
    match s.token with
    | .colon =>
      next
      if extra = .label ∧ x.name?.isSome then
        let statement ← self .statement
        return (.mk .labeled x.start statement.stop [x, statement], false)
      else
        fault s.position
        return (.mk .bad x.start (s.position + 1) [], false)
    | .arrow =>
      next
      let value ← readRightHandSide self
      return (.mk .statement x.start value.stop [x, value], false)
    | .inc | .dec =>
      next
      return (.mk .statement x.start (s.position + 2) [x], false)
    | _ => return (.mk .expressionStatement x.start x.stop [x], false)

/-- The expression of a statement that must be one; another statement is a fault. -/
def asExpression (statement : Option Node) : Reading (Option Node) := do
  match statement with
  | none => return none
  | some (.mk .expressionStatement _ _ [x]) => return some x
  | some statement =>
    fault statement.start
    return some (.mk .bad statement.start statement.stop [])

/-! ### Control statements -/

/-- Reads the call of a `go` or `defer` statement. -/
def readDeferredCall (self : Self) : Reading (Option Node) := do
  let x ← readRightHandSide self
  if x.kind = .paren then fault x.start
  let x := x.unparen
  match x.kind with
  | .call _ => return some x
  | .bad => return none
  | _ =>
    fault x.stop
    return none

/-- Reads a `go` or `defer` statement. -/
def readDeferred (self : Self) (word : Keyword) (length : Nat) : Reading Node := do
  let start ← expect (.keyword word)
  let call ← readDeferredCall self
  expectSemicolon
  match call with
  | some call => return .mk .statement start call.stop [call]
  | none => return .mk .bad start (start + length) []

def readReturn (self : Self) : Reading Node := do
  let start ← expect (.keyword .kwReturn)
  let s ← get
  let results ←
    if s.token = .semicolon ∨ s.token = .rightBrace then pure [] else readExpressions self true
  expectSemicolon
  return .mk .statement start (if results.isEmpty then start + 6 else lastStop results) results

/-- Reads a branch statement; a `goto` needs a label. -/
def readBranch (word : Keyword) (length : Nat) : Reading Node := do
  let start ← expect (.keyword word)
  let labeled := word = .kwGoto ∨ (word ≠ .kwFallthrough ∧ (← sees .identifier))
  let label ←
    if labeled then
      let label ← readName
      pure (some label)
    else pure none
  expectSemicolon
  return .mk .statement start ((label.map (·.stop)).getD (start + length)) []

/-- Reads the initial statement of an `if` head; a variable declaration is a fault. -/
def readIfInitial (self : Self) : Reading (Option Node) := do
  if ← sees .semicolon then return none
  if ← sees (.keyword .kwVar) then
    next
    faultHere
  let (statement, _) ← readSimple self .nothing
  return some statement

/-- Reads the head of an `if` statement: the parts it has. -/
def readIfHead (self : Self) : Reading (List Node) := do
  if ← sees .leftBrace then
    faultHere
    return []
  inHead do
    let initial ← readIfInitial self
    if ← sees .leftBrace then
      let condition ← asExpression initial
      return condition.toList
    let separator := (← get).current
    let separated := separator.token = .semicolon
    if separated then next
    else
      let _ ← expect .semicolon
    if ← sees .leftBrace then
      if separated then fault separator.start
      return initial.toList
    let (condition, _) ← readSimple self .nothing
    let condition ← asExpression (some condition)
    return initial.toList ++ condition.toList

/-- Reads an `if` statement. -/
def readIf (self : Self) : Reading Node := nested do
  let start ← expect (.keyword .kwIf)
  let head ← readIfHead self
  let body ← readBlock self
  if ← sees (.keyword .kwElse) then
    next
    let otherwise ← match ← token with
      | .keyword .kwIf => self .ifStatement
      | .leftBrace => do
        let block ← readBlock self
        expectSemicolon
        pure block
      | _ => do
        let here ← position
        faultHere
        pure (.mk .bad here here [])
    return .mk .statement start otherwise.stop (head ++ [body, otherwise])
  else
    expectSemicolon
    return .mk .statement start body.stop (head ++ [body])

def readCaseClause (self : Self) : Reading Node := do
  let start ← position
  let expressions ←
    if ← sees (.keyword .kwCase) then
      next
      readExpressions self true
    else
      let _ ← expect (.keyword .kwDefault)
      pure []
  let colon ← expect .colon
  let body ← readStatements self
  let stop := if body.isEmpty then colon + 1 else lastStop body
  return .mk .statement start stop (expressions ++ body)

def startsClause (s : State) : Bool := s.token = .keyword .kwCase || s.token = .keyword .kwDefault

def readClauses (clause : Reading Node) : Reading Node := do
  let opening ← expect .leftBrace
  let clauses ← many startsClause clause
  let close ← expect .rightBrace
  expectSemicolon
  return .mk .block opening (close + 1) clauses

/-- Whether a statement is the guard of a type switch. An assignment sign in place of a definition is a fault. -/
def isTypeSwitchGuard (statement : Option Node) : Reading Bool := do
  match statement with
  | some (.mk .expressionStatement _ _ [x]) => return x.kind = .typeSwitch
  | some (.mk (.assignment operator at' 1) _ _ [_, value]) =>
    if value.kind = .typeSwitch then
      match operator with
      | .assign =>
        fault at'
        return true
      | .define => return true
      | _ => return false
    else return false
  | _ => return false

def readSwitch (self : Self) : Reading Node := do
  let start ← expect (.keyword .kwSwitch)
  let simple : Reading (Option Node) := do
    let (statement, _) ← readSimple self .nothing
    return some statement
  let (initial, tag) ←
    if ← sees .leftBrace then pure (none, none)
    else inHead do
      let first ← if ← sees .semicolon then pure none else simple
      if ← sees .semicolon then
        next
        let tag ← if ← sees .leftBrace then pure none else simple
        pure (first, tag)
      else pure (none, first)
  let isTypeSwitch ← isTypeSwitchGuard tag
  let body ← readClauses (readCaseClause self)
  let tag ← if isTypeSwitch then pure tag else asExpression tag
  return .mk .statement start body.stop (initial.toList ++ tag.toList ++ [body])

def readCommunication (self : Self) : Reading (List Node) := do
  let targets ← readExpressions self false
  let s ← get
  let first := targets.take 1
  let firstStart := (first.head?.map (·.start)).getD 0
  match s.token with
  | .arrow =>
    if 1 < targets.length then fault firstStart
    next
    let value ← readRightHandSide self
    return first ++ [value]
  | .assign | .define =>
    if 2 < targets.length then fault firstStart
    next
    let value ← readRightHandSide self
    return targets.take 2 ++ [value]
  | _ =>
    if 1 < targets.length then fault firstStart
    return first

def readSelectClause (self : Self) : Reading Node := do
  let start ← position
  let communication ←
    if ← sees (.keyword .kwCase) then
      next
      readCommunication self
    else
      let _ ← expect (.keyword .kwDefault)
      pure []
  let colon ← expect .colon
  let body ← readStatements self
  let stop := if body.isEmpty then colon + 1 else lastStop body
  return .mk .statement start stop (communication ++ body)

def readSelect (self : Self) : Reading Node := do
  let start ← expect (.keyword .kwSelect)
  let body ← readClauses (readSelectClause self)
  return .mk .statement start body.stop [body]

inductive LoopHead where
  | ranged (targets : List Node) (x : Node)
  | plain (initial condition post : Option Node)

def LoopHead.ofRange (statement : Node) (targets : Nat) : LoopHead :=
  .ranged (statement.parts.take targets) (statement.parts.getLastD statement)

def readLoopHead (self : Self) : Reading LoopHead := do
  if ← sees .leftBrace then return .plain none none none
  inHead do
    if ← sees (.keyword .kwRange) then
      next
      let x ← readRightHandSide self
      return .ranged [] x
    let simple : Reading (Option Node) := do
      let (statement, _) ← readSimple self .nothing
      return some statement
    let (first, isRange) ←
      if ← sees .semicolon then pure (none, false)
      else
        let (statement, isRange) ← readSimple self .range
        pure (some statement, isRange)
    match isRange, first with
    | true, some statement =>
      match statement.kind with
      | .assignment _ _ targets => return .ofRange statement targets
      | _ => return .plain none first none
    | _, _ =>
      if ← sees .semicolon then
        next
        let condition ←
          if ← sees .semicolon then pure none
          else
            if ← sees .leftBrace then faultHere
            simple
        expectSemicolon
        let post ← if ← sees .leftBrace then pure none else simple
        return .plain first condition post
      else return .plain none first none

def readFor (self : Self) : Reading Node := do
  let start ← expect (.keyword .kwFor)
  let head ← readLoopHead self
  let body ← readBlock self
  expectSemicolon
  match head with
  | .ranged targets x =>
    if 2 < targets.length then
      fault ((targets.getLast?.map (·.start)).getD start)
      return .mk .bad start body.stop []
    else return .mk .statement start body.stop (targets ++ [x, body])
  | .plain initial condition post =>
    let condition ← asExpression condition
    return .mk .statement start body.stop (initial.toList ++ condition.toList ++ post.toList ++ [body])

/-! ### Statements -/

def beginsExpression : Token → Bool
  | .identifier | .integer | .floating | .imaginary | .character | .string | .leftParen | .leftBracket => true
  | .add | .sub | .mul | .and | .xor | .arrow | .not => true
  | .keyword word => word ∈ [.kwFunc, .kwStruct, .kwMap, .kwChan, .kwInterface]
  | _ => false

def readStatement (self : Self) : Reading Node := nested do
  let s ← get
  if beginsExpression s.token then
    let (statement, _) ← readSimple self .label
    if statement.kind ≠ .labeled then expectSemicolon
    return statement
  match s.token with
  | .keyword .kwConst | .keyword .kwType | .keyword .kwVar => readDeclaration self startsStatement
  | .keyword .kwGo => readDeferred self .kwGo 2
  | .keyword .kwDefer => readDeferred self .kwDefer 5
  | .keyword .kwReturn => readReturn self
  | .keyword .kwBreak => readBranch .kwBreak 5
  | .keyword .kwContinue => readBranch .kwContinue 8
  | .keyword .kwGoto => readBranch .kwGoto 4
  | .keyword .kwFallthrough => readBranch .kwFallthrough 11
  | .leftBrace =>
    let block ← readBlock self
    expectSemicolon
    return block
  | .keyword .kwIf => self .ifStatement
  | .keyword .kwSwitch => readSwitch self
  | .keyword .kwSelect => readSelect self
  | .keyword .kwFor => readFor self
  | .semicolon =>
    next
    return .mk .statement s.position (if s.current.isLineBreak then s.position else s.current.stop) []
  | .rightBrace => return .mk .statement s.position s.position []
  | _ => badUntil startsStatement

end QualityGate.GoSource
