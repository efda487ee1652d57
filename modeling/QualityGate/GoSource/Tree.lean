import QualityGate.GoSource.Token

/-!
Syntax trees of Go source. A node has a kind, its bounds in the text, and its parts in the order of the text; the kind
carries what later steps ask about. A tree is kept even where the source is broken: what could not be understood is a
`bad` node.
-/

namespace QualityGate.GoSource

inductive Direction where
  | both
  | send
  | receive
  deriving DecidableEq, Repr

inductive TypeShape where
  | struct
  | interface
  deriving DecidableEq, Repr

inductive Kind where
  | bad
  | identifier (name : Text)
  | literal
  | functionLiteral
  | compositeLiteral
  | paren
  | selector
  /-- An index, or a type with arguments: the parts are the indexed expression and the indices. -/
  | index
  | slice
  | typeAssertion
  /-- The form `x.(type)`. -/
  | typeSwitch
  | call (spread : Bool)
  | star
  | unary (operator : Token)
  | binary (operator : Token)
  | keyValue
  | ellipsis
  | arrayType
  | structType
  | functionType
  | interfaceType
  | mapType
  | channelType (direction : Direction) (arrow : Nat)
  /-- Names with the type they share. -/
  | field
  | fields
  | expressionStatement
  /-- An assignment: its operator, where it stands, and how many expressions are assigned to. -/
  | assignment (operator : Token) (position : Nat) (targets : Nat)
  | labeled
  | block
  /-- Any other statement. -/
  | statement
  | typeDeclaration (name : Text) (shape : Option TypeShape)
  /-- A function with the base name of its receiver, if it has a receiver, and the opening brace of its body. -/
  | function (name : Text) (receiver : Option Text) (bodyStart : Option Nat)
  /-- Any other declaration. -/
  | declaration
  deriving DecidableEq, Repr

inductive Node where
  | mk (kind : Kind) (start stop : Nat) (parts : List Node)
  deriving Repr

namespace Node

def kind : Node → Kind
  | mk kind _ _ _ => kind

def start : Node → Nat
  | mk _ start _ _ => start

def stop : Node → Nat
  | mk _ _ stop _ => stop

def parts : Node → List Node
  | mk _ _ _ parts => parts

def isBad (node : Node) : Bool := node.kind = .bad

def name? (node : Node) : Option Text :=
  match node.kind with
  | .identifier name => some name
  | _ => none

def shape? (node : Node) : Option TypeShape :=
  match node.kind with
  | .structType => some .struct
  | .interfaceType => some .interface
  | _ => none

def unparen : Node → Node
  | mk .paren _ _ [inner] => inner.unparen
  | node => node

/-- The type name that a receiver type is built on: stars, parentheses and type arguments do not count. -/
def baseName : Node → Text
  | mk (.identifier name) _ _ _ => name
  | mk .star _ _ [inner] => inner.baseName
  | mk .paren _ _ [inner] => inner.baseName
  | mk .index _ _ (inner :: _) => inner.baseName
  | _ => []

/-- Whether one of several expressions can only be an element of a type set. -/
def anyTypeElement : List Node → Bool
  | [] => false
  | mk kind _ _ parts :: rest =>
    match kind, parts with
    | .arrayType, _ | .structType, _ | .functionType, _ | .interfaceType, _ | .mapType, _ => true
    | .channelType _ _, _ => true
    | .unary operator, _ => operator = .tilde || anyTypeElement rest
    | .binary _, [a, b] => anyTypeElement (a :: b :: rest)
    | .paren, [inner] => anyTypeElement (inner :: rest)
    | _, _ => anyTypeElement rest
  termination_by nodes => sizeOf nodes

/-- Whether an expression can only be an element of a type set. -/
def isTypeElement (node : Node) : Bool := anyTypeElement [node]

/-- A type set: a first term, and terms that follow it, each with the end of the set up to there. -/
def typeSet (first : Node) (terms : List (Node × Nat)) : Node :=
  terms.foldl (fun x (term, stop) => mk (.binary .or) x.start stop [x, term]) first

/-- Splits an expression into a parameter name and its constraint, when it can be read so: `P *C` and `P (C)` are read
so if the constraint can be nothing else or if `forced`. A lone name has no constraint. `terms` holds what follows the
expression in a type set. -/
def splitSet (forced : Bool) (terms : List (Node × Nat)) : Node → Option (Node × Option Node)
  | mk (.identifier name) start stop parts =>
    if terms.isEmpty then some (mk (.identifier name) start stop parts, none) else none
  | mk (.binary operator) _ stop [a, b] =>
    if operator = .mul then
      if a.name?.isSome ∧ (forced ∨ b.isTypeElement) then some (a, some (typeSet (mk .star a.stop stop [b]) terms))
      else none
    else if operator = .or then a.splitSet (forced || b.isTypeElement) ((b, stop) :: terms)
    else none
  | mk (.call spread) _ stop [function, argument] =>
    if function.name?.isSome ∧ ¬ spread ∧ (forced ∨ argument.isTypeElement) then
      some (function, some (typeSet (mk .paren function.stop stop [argument]) terms))
    else none
  | _ => none

def splitName (forced : Bool) (node : Node) : Option (Node × Option Node) := node.splitSet forced []

end Node

end QualityGate.GoSource
