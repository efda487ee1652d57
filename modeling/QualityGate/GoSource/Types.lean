import QualityGate.GoSource.Reading

/-!
Reading types, fields and parameter lists.
-/

namespace QualityGate.GoSource

def readExpression (self : Self) : Reading Node := self (.expression 1)

def readRightHandSide (self : Self) : Reading Node := onSide true (readExpression self)

/-- Reads a type; anything else is a fault. -/
def readType (self : Self) : Reading Node := do
  match ← self .type with
  | some type => return type
  | none => badUntil endsExpression

/-- Reads a name, qualified by a package or not, that may already have begun. -/
def readTypeName (begun : Option Node) : Reading Node := do
  let name ← match begun with
    | some name => pure name
    | none => readName
  if ← sees .period then
    next
    let selected ← readName
    return .mk .selector name.start selected.stop [name, selected]
  else return name

def indexed (x : Node) (indices : List Node) (close : Nat) : Node := .mk .index x.start (close + 1) (x :: indices)

def readTypeArguments (self : Self) (type : Node) : Reading Node := do
  let opening ← expect .leftBracket
  let arguments ← enclosed (listUntil .rightBracket (readType self))
  let close ← expectClosing .rightBracket
  if arguments.isEmpty then
    fault close
    return indexed type [.mk .bad (opening + 1) close []] close
  else return indexed type arguments close

def readQualifiedName (self : Self) (begun : Option Node) : Reading Node := do
  let type ← readTypeName begun
  if ← sees .leftBracket then readTypeArguments self type else return type

/-- Reads an array or slice type after its opening bracket, whose length may have been read. -/
def readArrayType (self : Self) (opening : Nat) (length : Option Node) : Reading Node := do
  let length ← match length with
    | some length => pure (some length)
    | none => enclosed do
      if ← sees .ellipsis then
        let start ← position
        next
        pure (some (.mk .ellipsis start (start + 3) []))
      else if ← sees .rightBracket then pure none
      else
        let length ← readRightHandSide self
        pure (some length)
  if ← sees .comma then
    faultHere
    next
  let _ ← expect .rightBracket
  let element ← readType self
  return .mk .arrayType opening element.stop (length.toList ++ [element])

/-- Reads right-hand sides with commas between them up to a closing bracket. The result tells where a comma stands
right before the bracket. -/
def readIndices (self : Self) : Nat → List Node → Reading (List Node × Option Nat)
  | 0, indices => return (indices.reverse, none)
  | fuel + 1, indices => do
    let index ← readRightHandSide self
    if ← sees .comma then
      let comma ← position
      next
      if ← sees .rightBracket then return ((index :: indices).reverse, some comma)
      else (readIndices self fuel (index :: indices)).later
    else return ((index :: indices).reverse, none)

/-- Reads what follows a name and an opening bracket: either the name is that of a field or parameter of array type, or
it is a type with arguments and there is no name. -/
def readArrayOrInstance (self : Self) (name : Node) : Reading (Option Node × Node) := do
  let opening ← expect .leftBracket
  let (indices, trailingComma) ←
    if ← sees .rightBracket then pure ([], none)
    else enclosed (do readIndices self (← get).loopBound [])
  let close ← expect .rightBracket
  match indices with
  | [] =>
    let element ← readType self
    return (some name, .mk .arrayType opening element.stop [element])
  | [length] =>
    match ← self .type with
    | some element =>
      match trailingComma with
      | some comma => fault comma
      | none => pure ()
      return (some name, .mk .arrayType opening element.stop [length, element])
    | none => return (none, indexed name indices close)
  | _ => return (none, indexed name indices close)

/-! ### Type sets -/

/-- Reads a term of a type set: a type, or a type after a tilde. -/
def readTerm (self : Self) : Reading Node := do
  if ← sees .tilde then
    let start ← position
    next
    let type ← readType self
    return .mk (.unary .tilde) start type.stop [type]
  else
    match ← self .type with
    | some type => return type
    | none => badUntil endsExpression

/-- Reads the terms that follow the first one of a type set. -/
def readMoreTerms (self : Self) : Nat → Node → Reading Node
  | 0, x => return x
  | fuel + 1, x => do
    if ← sees .or then
      next
      let y ← readTerm self
      (readMoreTerms self fuel (.mk (.binary .or) x.start y.stop [x, y])).later
    else return x

def readTypeSet (self : Self) (first : Option Node) : Reading Node := do
  let first ← match first with
    | some term => pure term
    | none => readTerm self
  readMoreTerms self (← get).loopBound first

/-! ### Parameters -/

structure Parameter where
  name : Option Node := none
  type : Option Node := none

def beginsType : Token → Bool
  | .mul | .arrow | .leftParen => true
  | .keyword word => word ∈ [.kwFunc, .kwChan, .kwMap, .kwStruct, .kwInterface]
  | _ => false

def readVariadic (self : Self) : Reading Node := do
  let start ← expect .ellipsis
  let type ← readType self
  return .mk .ellipsis start type.stop [type]

/-- Goes on with a type set after a parameter's type, where type sets are allowed. -/
def extendConstraint (self : Self) (typeSets : Bool) (parameter : Parameter) : Reading Parameter := do
  match parameter.type with
  | some type =>
    if typeSets ∧ (← sees .or) then
      let type ← readTypeSet self (some type)
      return { parameter with type := some type }
    else return parameter
  | none => return parameter

def readAfterName (self : Self) (typeSets : Bool) (name : Node) : Reading Parameter := do
  let next ← token
  if next = .identifier ∨ beginsType next then
    let type ← readType self
    extendConstraint self typeSets { name := some name, type := some type }
  else
    match next with
    | .leftBracket =>
      let (name, type) ← readArrayOrInstance self name
      extendConstraint self typeSets { name, type := some type }
    | .ellipsis =>
      let type ← readVariadic self
      return { name := some name, type := some type }
    | .period =>
      let type ← readQualifiedName self (some name)
      extendConstraint self typeSets { type := some type }
    | .tilde =>
      if typeSets then
        let type ← readTypeSet self none
        return { name := some name, type := some type }
      else return { name := some name }
    | .or =>
      if typeSets then
        let type ← readTypeSet self (some name)
        return { type := some type }
      else return { name := some name }
    | _ => return { name := some name }

def readParameter (self : Self) (typeSets : Bool) (name : Option Node) : Reading Parameter := do
  match name with
  | some name => readAfterName self typeSets name
  | none =>
    let next ← token
    if typeSets ∧ next = .tilde then
      let type ← readTypeSet self none
      return { type := some type }
    else if next = .identifier then
      let name ← readName
      readAfterName self typeSets name
    else if next = .leftBracket ∨ beginsType next then
      let type ← readType self
      extendConstraint self typeSets { type := some type }
    else if next = .ellipsis then
      let type ← readVariadic self
      return { type := some type }
    else
      faultHere
      advance endsExpression
      return {}

/-- Reads parameters up to a closing token; the first name and type may have been read. The results come latest
first. -/
def readParameters (self : Self) (closing : Token) : Nat → Option Node → Option Node → List Parameter →
    Reading (List Parameter)
  | 0, _, _, parameters => return parameters
  | fuel + 1, name, type, parameters => do
    if name.isNone ∧ type.isNone ∧ ((← sees closing) ∨ (← sees .endOfFile)) then return parameters
    let typeSets := closing = .rightBracket
    let parameter ← match type with
      | some type =>
        let type ← if typeSets then readTypeSet self (some type) else pure type
        pure { name, type := some type }
      | none => readParameter self typeSets name
    let parameters :=
      if parameter.name.isNone ∧ parameter.type.isNone then parameters else parameter :: parameters
    if ← goesOn closing then
      next
      (readParameters self closing fuel none none parameters).later
    else return parameters

/-- Parameters that have been given types, in order; the type that the next earlier one takes when it has none; and the
leftmost place where a name or a type is missing. -/
structure Distribution where
  parameters : List Parameter := []
  later : Option Node := none
  missing : Option Nat := none

/-- Gives a parameter a type, if it has none: that of the parameter after it. Names and types end at `stop`. -/
def Distribution.add (stop : Nat) (distribution : Distribution) (parameter : Parameter) : Distribution :=
  match parameter.type, distribution.later with
  | some type, _ =>
    let (name, missing) := match parameter.name with
      | some name => (name, distribution.missing)
      | none => (blankName type.start, some type.start)
    ⟨{ name := some name, type := some type } :: distribution.parameters, some type, missing⟩
  | none, some type =>
    { distribution with parameters := { parameter with type := some type } :: distribution.parameters }
  | none, none =>
    let start := (parameter.name.map (·.start)).getD stop
    { distribution with
      parameters := { parameter with type := some (.mk .bad start stop []) } :: distribution.parameters
      missing := some start }

def Parameter.isVariadic (parameter : Parameter) : Bool := parameter.type.any (·.kind = .ellipsis)

def Parameter.spoiled (parameter : Parameter) : Parameter :=
  { parameter with type := parameter.type.map fun type => .mk .bad type.start type.stop [] }

/-- A variadic type is only allowed at the end of a list that takes one; elsewhere it is a fault the first time, and
bad every time. -/
def checkVariadic (allowed : Bool) (parameters : List Parameter) : Reading (List Parameter) := do
  let last := parameters.length - 1
  let misplaced := fun (entry : Parameter × Nat) => entry.1.isVariadic && (!allowed || entry.2 != last)
  let numbered := parameters.zipIdx
  match (numbered.find? misplaced).bind (·.1.type) with
  | some type => fault type.start
  | none => pure ()
  return numbered.map fun entry => if misplaced entry then entry.1.spoiled else entry.1

def Parameter.field (parameter : Parameter) : Node :=
  let type := parameter.type.getD (.mk .bad 0 0 [])
  .mk .field ((parameter.name.map (·.start)).getD type.start) type.stop (parameter.name.toList ++ [type])

def Parameter.sharesType (a b : Parameter) : Bool :=
  match a.type, b.type with
  | some s, some t => s.start = t.start && s.stop = t.stop
  | _, _ => false

/-- Fields with a parameter put in front of those of the parameter after it. Both share a field when they were given the
same type. -/
def Parameter.join (parameter : Parameter) : Option Parameter × List Node → Option Parameter × List Node
  | (following, fields) =>
    let alone := parameter.field :: fields
    let joined :=
      match parameter.name, fields with
      | some name, .mk .field _ stop parts :: later =>
        if following.any parameter.sharesType then .mk .field name.start stop (name :: parts) :: later else alone
      | _, _ => alone
    (some parameter, joined)

def groupFields (parameters : List Parameter) : List Node := (parameters.foldr Parameter.join (none, [])).2

def readParameterList (self : Self) (name type : Option Node) (closing : Token) (variadic : Bool) :
    Reading (List Node) := do
  let typeParameters := closing = .rightBracket
  let s ← get
  let start := ((name.orElse fun _ => type).map (·.start)).getD s.position
  let found ← readParameters self closing s.loopBound name type []
  let named := (found.filter fun p => p.name.isSome && p.type.isSome).length
  let typed := (found.filter (·.type.isSome)).length
  if found.isEmpty then return []
  else if named = 0 then
    let parameters := found.reverse.map fun p =>
      match p.name with
      | some name => { type := some name : Parameter }
      | none => p
    if typeParameters then
      if typed = 0 then faultHere else fault start
    let parameters ← checkVariadic variadic parameters
    return groupFields parameters
  else
    let distribution := found.foldl (Distribution.add (← position)) {}
    match distribution.missing with
    | some start => if named = typed then faultHere else fault start
    | none => pure ()
    let parameters ← checkVariadic variadic distribution.parameters
    return groupFields parameters

def fieldsNode (opening close : Nat) (fields : List Node) : Node := .mk .fields opening (close + 1) fields

/-- Reads a list of type parameters in brackets. An empty one is a fault and counts as none. -/
def readTypeParameters (self : Self) : Reading (Option Node) := do
  let opening ← expect .leftBracket
  let fields ←
    if ← sees .rightBracket then pure [] else readParameterList self none none .rightBracket false
  let close ← expect .rightBracket
  if fields.isEmpty then
    fault close
    return none
  else return some (fieldsNode opening close fields)

def readParenthesized (self : Self) (variadic : Bool) : Reading Node := do
  let opening ← expect .leftParen
  let fields ←
    if ← sees .rightParen then pure [] else readParameterList self none none .rightParen variadic
  let close ← expect .rightParen
  return fieldsNode opening close fields

/-- Reads the results of a function: in parentheses, a single type, or nothing. -/
def readResults (self : Self) : Reading (Option Node) := do
  if ← sees .leftParen then
    let results ← readParenthesized self false
    return some results
  else
    match ← self .type with
    | some type => return some (.mk .fields type.start type.stop [.mk .field type.start type.stop [type]])
    | none => return none

def readSignature (self : Self) (start : Nat) : Reading Node := do
  let parameters ← readParenthesized self true
  let results ← readResults self
  return .mk .functionType start ((results.map (·.stop)).getD parameters.stop) (parameters :: results.toList)

/-- Reads a function type. Type parameters are read and are a fault. -/
def readFunctionType (self : Self) : Reading Node := do
  let start ← expect (.keyword .kwFunc)
  if ← sees .leftBracket then
    match ← readTypeParameters self with
    | some parameters => fault parameters.start
    | none => pure ()
  readSignature self start

/-! ### Structures and interfaces -/

/-- Reads an embedded type in parentheses, which is a fault. -/
def readParenthesizedEmbedded (self : Self) (starAllowed : Bool) : Reading Node := do
  faultHere
  next
  let start ← position
  let type ←
    if starAllowed ∧ (← sees .mul) then
      next
      let type ← readQualifiedName self none
      pure (.mk .star start type.stop [type])
    else readQualifiedName self none
  if ← sees .rightParen then next
  return type

def readNamedField (self : Self) : Reading (List Node × Node) := do
  let name ← readName
  match ← token with
  | .period =>
    let type ← readQualifiedName self (some name)
    return ([], type)
  | .string | .semicolon | .rightBrace => return ([], name)
  | _ =>
    let more ← many (·.token = .comma) (do next; readName)
    if more.isEmpty ∧ (← sees .leftBracket) then
      let (name, type) ← readArrayOrInstance self name
      return (name.toList, type)
    else
      let type ← readType self
      return (name :: more, type)

def readField (self : Self) : Reading Node := do
  let start ← position
  let (names, type) ← match ← token with
    | .identifier => readNamedField self
    | .mul => do
      next
      let type ←
        if ← sees .leftParen then readParenthesizedEmbedded self false else readQualifiedName self none
      pure ([], .mk .star start type.stop [type])
    | .leftParen => do
      let type ← readParenthesizedEmbedded self true
      pure ([], type)
    | _ => do
      let type ← badUntil endsExpression
      pure ([], type)
  if ← sees .string then next
  expectSemicolon
  return .mk .field start type.stop (names ++ [type])

def readStructType (self : Self) : Reading Node := do
  let start ← expect (.keyword .kwStruct)
  let _ ← expect .leftBrace
  let fields ← many (fun s => s.token = .identifier || s.token = .mul || s.token = .leftParen) (readField self)
  let close ← expect .rightBrace
  return .mk .structType start (close + 1) fields

/-- Reads the rest of an interface element that began with a plain name and an opening bracket: a method with type
parameters, which is a fault, or an embedded type with arguments. -/
def readGenericElement (self : Self) (name : Node) : Reading (List Node × Node) := do
  let opening ← position
  next
  let first ← enclosed (readExpression self)
  let s ← get
  if first.name?.isSome ∧ s.token ≠ .comma ∧ s.token ≠ .rightBracket then
    let _ ← readParameterList self (some first) none .rightBracket false
    let _ ← expect .rightBracket
    fault opening
    let signature ← readSignature self name.stop
    return ([name], signature)
  else
    let more ←
      if ← goesOn .rightBracket then enclosed do
        next
        listUntil .rightBracket (readType self)
      else pure []
    let close ← expectClosing .rightBracket
    return ([], indexed name (first :: more) close)

/-- Reads an interface element that begins with a name: a method, or an embedded type. -/
def readNamedElement (self : Self) : Reading (List Node × Node) := do
  let type ← readTypeName none
  if type.name?.isSome then
    match ← token with
    | .leftBracket => readGenericElement self type
    | .leftParen =>
      let signature ← readSignature self type.stop
      return ([type], signature)
    | _ => return ([], type)
  else if ← sees .leftBracket then
    let type ← readTypeArguments self type
    return ([], type)
  else return ([], type)

def readElement? (self : Self) : Reading (Option Node) := do
  let finish := fun (names : List Node) (type : Node) => do
    expectSemicolon
    let start := (names.head?.map (·.start)).getD type.start
    return some (Node.mk .field start type.stop (names ++ [type]))
  match ← token with
  | .identifier =>
    let (names, type) ← readNamedElement self
    let type ← if names.isEmpty then readTypeSet self (some type) else pure type
    finish names type
  | .tilde =>
    let type ← readTypeSet self none
    finish [] type
  | _ =>
    match ← self .type with
    | some type =>
      let type ← readTypeSet self (some type)
      finish [] type
    | none => return none

/-- Reads the elements of an interface; they come latest first. -/
def readElements (self : Self) : Nat → List Node → Reading (List Node)
  | 0, elements => return elements
  | fuel + 1, elements => do
    match ← readElement? self with
    | some element => (readElements self fuel (element :: elements)).later
    | none => return elements

def readInterfaceType (self : Self) : Reading Node := do
  let start ← expect (.keyword .kwInterface)
  let _ ← expect .leftBrace
  let elements ← readElements self (← get).loopBound []
  let close ← expect .rightBrace
  return .mk .interfaceType start (close + 1) elements.reverse

/-! ### The other types -/

def readMapType (self : Self) : Reading Node := do
  let start ← expect (.keyword .kwMap)
  let _ ← expect .leftBracket
  let key ← readType self
  let _ ← expect .rightBracket
  let value ← readType self
  return .mk .mapType start value.stop [key, value]

def readChannelType (self : Self) : Reading Node := do
  let start ← position
  let (direction, arrow) ←
    if ← sees (.keyword .kwChan) then
      next
      if ← sees .arrow then
        let arrow ← position
        next
        pure (Direction.send, arrow)
      else pure (.both, start)
    else
      let arrow ← expect .arrow
      let _ ← expect (.keyword .kwChan)
      pure (.receive, arrow)
  let value ← readType self
  return .mk (.channelType direction arrow) start value.stop [value]

def readTypeEntry (self : Self) : Reading (Option Node) := nested do
  match ← token with
  | .identifier =>
    let type ← readQualifiedName self none
    return some type
  | .leftBracket =>
    let opening ← expect .leftBracket
    let type ← readArrayType self opening none
    return some type
  | .mul =>
    let start ← expect .mul
    let type ← readType self
    return some (.mk .star start type.stop [type])
  | .arrow =>
    let type ← readChannelType self
    return some type
  | .leftParen =>
    let start ← position
    next
    let type ← readType self
    let close ← expect .rightParen
    return some (.mk .paren start (close + 1) [type])
  | .keyword .kwStruct =>
    let type ← readStructType self
    return some type
  | .keyword .kwFunc =>
    let type ← readFunctionType self
    return some type
  | .keyword .kwInterface =>
    let type ← readInterfaceType self
    return some type
  | .keyword .kwMap =>
    let type ← readMapType self
    return some type
  | .keyword .kwChan =>
    let type ← readChannelType self
    return some type
  | _ => return none

end QualityGate.GoSource
