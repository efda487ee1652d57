import QualityGate.Detection.Attribution
import QualityGate.Detection.LineNumber
import QualityGate.Path

/-!
Methods whose body has more lines than the threshold. The methods are read in order; the owner of each method with a
body is looked up even when it is short enough, because sequential attribution moves along with them.
-/

namespace QualityGate

structure MethodViolation where
  path : Text
  file : Text
  owner : Text
  method : Text
  line : Int
  lineCount : Int
  truncated : Bool
  deriving DecidableEq, Repr

/-- The number of lines a method body may have unless another threshold is set. -/
def defaultThreshold : Nat := 40

structure Detector where
  threshold : Nat := defaultThreshold
  attribution : Attribution := .sequential
  deriving DecidableEq, Repr

namespace Detector

/-- A detector with the given threshold; only a positive one replaces the default. -/
def ofThreshold (threshold : Int) (attribution : Attribution) : Detector :=
  ⟨if 0 < threshold then threshold.toNat else defaultThreshold, attribution⟩

/-- Whether a body is too long. A body with exactly the threshold is not. -/
def exceeds (detector : Detector) (body : MethodBody) : Bool := detector.threshold < body.lineCount

structure Progress where
  sequential : SequentialOwner
  lines : LineCounter := {}
  deriving DecidableEq, Repr

/-- The class that a violation names: the receiver if there is one, nothing for a free function, else the owner by
position. -/
def ownerName (declaration : MethodDeclaration) (positional : Text) : Text :=
  if ¬ declaration.receiver.isEmpty then declaration.receiver
  else if declaration.free then noEnclosingType
  else positional

def judge (detector : Detector) (path text : Text) (scopes : List TypeScope) (progress : Progress)
    (declaration : MethodDeclaration) (body : MethodBody) : Option MethodViolation × Progress :=
  let sequential := progress.sequential.owner declaration.offset
  let positional :=
    match detector.attribution with
    | .sequential => sequential.current
    | .nesting => nestingOwner scopes declaration.offset
  if detector.exceeds body then
    let (line, lines) := progress.lines.lineAt text declaration.offset.toNat
    (some ⟨path, Path.base path, ownerName declaration positional, declaration.name, line, body.lineCount,
      !body.closed⟩, ⟨sequential, lines⟩)
  else (none, { progress with sequential })

def judgeAll (detector : Detector) (path text : Text) (scopes : List TypeScope) (progress : Progress) :
    List MethodDeclaration → List MethodViolation
  | [] => []
  | declaration :: rest =>
    match declaration.body? text with
    | none => judgeAll detector path text scopes progress rest
    | some body =>
      let (violation, progress) := judge detector path text scopes progress declaration body
      violation.toList ++ judgeAll detector path text scopes progress rest

def violations (detector : Detector) (path text : Text) (declarations : Declarations) : List MethodViolation :=
  let scopes :=
    match detector.attribution with
    | .sequential => []
    | .nesting => typeScopes text declarations.types
  detector.judgeAll path text scopes ⟨⟨declarations.types, noEnclosingType⟩, {}⟩ declarations.methods

end Detector

end QualityGate
