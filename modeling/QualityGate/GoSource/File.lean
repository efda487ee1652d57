import QualityGate.Declaration
import QualityGate.GoSource.Statements

/-!
Reading a whole file, and the declarations found in it. Broken source gives the declarations that could still be read;
a file whose package clause is broken, and one with too many faults, gives none.
-/

namespace QualityGate.GoSource

def readEntry (self : Self) : Self
  | .expression precedence => readBinary self none precedence
  | .unary => readUnary self
  | .type => readTypeEntry self
  | .literalValue type => readLiteralValue self type
  | .statement => readStatement self
  | .ifStatement => readIf self

def readings : Nat → Self
  | 0, _ => giveUp
  | depth + 1, entry => (readEntry (readings depth) entry).apart

/-- Reads the package clause, which holds no declaration. -/
def readPackageClause : Reading (List Node) := do
  let _ ← expect (.keyword .kwPackage)
  let _ ← readName
  expectSemicolon
  return []

/-- Reads a declaration that follows the imports; a late import is a fault. -/
def readLaterDeclaration (self : Self) (previousImports : Bool) : Reading Node := do
  if (← sees (.keyword .kwImport)) ∧ ¬ previousImports then faultHere
  readDeclaration self startsDeclaration

/-- Reads the declarations after the imports, latest first. -/
def readLaterDeclarations (self : Self) : Nat → Bool → List Node → Reading (List Node)
  | 0, _, found => return found
  | fuel + 1, previousImports, found => do
    if ← sees .endOfFile then return found
    let isImport ← sees (.keyword .kwImport)
    let declaration ← readLaterDeclaration self previousImports
    (readLaterDeclarations self fuel isImport (declaration :: found)).later

/-- Reads what follows the package clause: the declarations in order. -/
def readBody (self : Self) : Reading (List Node) := do
  let imports ← many (·.token = .keyword .kwImport) (readGroup .kwImport readImport)
  let later ← readLaterDeclarations self (← get).loopBound true []
  return imports ++ later.reverse

def initialState (lexemes : List Lexeme) : State :=
  match lexemes with
  | [] => { current := { token := .endOfFile, start := 0, stop := 0 }, rest := [], size := 0 }
  | first :: rest => { current := first, rest, size := lexemes.length }

def depthBound (lexemes : Nat) : Nat := 8 * lexemes + 64

/-- The declarations of a file as trees and the number of faults counted; none when the reading was given up. There is
none in a file that has a fault up to the end of its package clause. -/
def readDeclarations (lines : LineTable) (lexemes : List Lexeme) : Option (List Node × Nat) := do
  let account := Account.ofLexemes lexemes
  guard (account.faults = 0)
  let clause := readPackageClause (initialState (lexemes.map Lexeme.faultless)) .finished
  let (_, s, account) ← clause.run lines account
  guard (account.faults = 0)
  let body := readBody (readings (depthBound lexemes.length)) s .finished
  let (declarations, _, account) ← body.run lines account
  return (declarations, account.faults)

def parse (text : Text) : List Node :=
  let (lexemes, lines) := lexemes text
  ((readDeclarations lines lexemes).map (·.1)).getD []

theorem sizeOf_append (a b : List Node) : sizeOf (a ++ b) + 1 = sizeOf a + sizeOf b := by
  induction a with
  | nil => simp; omega
  | cons node rest ih => simp only [List.cons_append, List.cons.sizeOf_spec]; omega

/-- The nodes of several trees, a node before its parts, after those in `found`, which come latest first. -/
def preorder (found : List Node) : List Node → List Node
  | [] => found.reverse
  | .mk kind start stop parts :: rest => preorder (.mk kind start stop parts :: found) (parts ++ rest)
  termination_by pending => sizeOf pending
  decreasing_by
    have := sizeOf_append parts rest
    simp only [List.cons.sizeOf_spec, Node.mk.sizeOf_spec]
    omega

def TypeShape.name : TypeShape → Text
  | struct => "struct"
  | interface => "interface"

def Node.typeDeclaration? : Node → Option TypeDeclaration
  | .mk (.typeDeclaration name (some shape)) start _ _ => some ⟨shape.name, name, start⟩
  | _ => none

/-- The method declaration that a node is: a function with a body. -/
def Node.methodDeclaration? : Node → Option MethodDeclaration
  | .mk (.function name receiver (some bodyStart)) start _ _ =>
    some {
      qualifiers := if receiver.isSome then "method" else "func"
      name
      offset := start
      bodyStart
      receiver := receiver.getD []
      free := (receiver.getD []).isEmpty }
  | _ => none

def declarations (text : Text) : Declarations :=
  let nodes := preorder [] (parse text)
  ⟨nodes.filterMap Node.typeDeclaration?, nodes.filterMap Node.methodDeclaration?⟩

end QualityGate.GoSource
