import QualityGate.Text.Basic

/-!
Declarations found in source text. A type declaration says which type the methods after it belong to; a method
declaration is what the length check judges. Offsets are integers because a caller may hand in any position; those
that lie in no text have no body.
-/

namespace QualityGate

structure TypeDeclaration where
  kind : Text
  name : Text
  offset : Int
  deriving DecidableEq, Repr

/-- A method declaration. `bodyStart` is positive when the opening brace of the body is known, `receiver` is the name
of the owning type when it is known, and `free` says that there is no owning type. -/
structure MethodDeclaration where
  qualifiers : Text := []
  name : Text
  offset : Int
  bodyStart : Int := 0
  receiver : Text := []
  free : Bool := false
  deriving DecidableEq, Repr

structure Declarations where
  types : List TypeDeclaration
  methods : List MethodDeclaration
  deriving DecidableEq, Repr

end QualityGate
