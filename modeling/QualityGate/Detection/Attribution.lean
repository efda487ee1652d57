import QualityGate.Declaration
import QualityGate.Detection.Body
import QualityGate.Text.Blank
import QualityGate.Text.Casing
import QualityGate.Text.Quoted

/-!
Which type a method belongs to. Sequential attribution takes the last type declared at or before the method, reading
the declarations in step with the methods and never going back. Nesting attribution takes the innermost type whose
braces enclose the method.
-/

namespace QualityGate

/-- The name that stands in for the owner of a method without one. -/
def noEnclosingType : Text := "<no enclosing type>"

inductive Attribution where
  | sequential
  | nesting
  deriving DecidableEq, Repr

namespace Attribution

def name : Attribution → Text
  | sequential => "sequential"
  | nesting => "nesting"

def named? (value : Text) : Option Attribution :=
  [sequential, nesting].find? (·.name = value)

structure Unsupported where
  value : Text
  deriving DecidableEq, Repr

def Unsupported.message (error : Unsupported) : Text :=
  "unsupported attribution " ++ error.value.quoted ++ ", allowed values: sequential, nesting"

/-- Reads an attribution; letter case and surrounding white space do not matter. -/
def parse (value : Text) : Except Unsupported Attribution :=
  match named? (Text.lower (Text.trim value)) with
  | some attribution => .ok attribution
  | none => .error ⟨value⟩

end Attribution

structure SequentialOwner where
  pending : List TypeDeclaration
  current : Text := noEnclosingType
  deriving DecidableEq, Repr

def SequentialOwner.advance (offset : Int) : List TypeDeclaration → Text → SequentialOwner
  | [], current => ⟨[], current⟩
  | type :: rest, current =>
    if type.offset ≤ offset then advance offset rest type.name else ⟨type :: rest, current⟩

/-- The owner of a method at an offset, and the place after it. -/
def SequentialOwner.owner (place : SequentialOwner) (offset : Int) : SequentialOwner :=
  advance offset place.pending place.current

structure TypeScope where
  name : Text
  start : Nat
  stop : Nat
  deriving DecidableEq, Repr

/-- The braces of each type that has an opening brace at or after its declaration. -/
def typeScopes (text : Text) (types : List TypeDeclaration) : List TypeScope :=
  types.filterMap fun type =>
    (braceFrom? text type.offset.toNat).map fun (opening, inside) =>
      ⟨type.name, opening, opening + (Delimiter.matchBrace inside 0).stop⟩

def TypeScope.encloses (scope : TypeScope) (offset : Int) : Bool :=
  (scope.start : Int) ≤ offset && offset < scope.stop

/-- The scope around an offset that opens last; of several that open together, the first listed. -/
def innermost? (scopes : List TypeScope) (offset : Int) : Option TypeScope :=
  scopes.foldl (fun found scope =>
    if scope.encloses offset && found.all (·.start < scope.start) then some scope else found) none

/-- The owner by nesting: the type whose braces enclose the offset most tightly. -/
def nestingOwner (scopes : List TypeScope) (offset : Int) : Text :=
  ((innermost? scopes offset).map (·.name)).getD noEnclosingType

end QualityGate
