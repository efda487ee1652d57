import QualityGate.Declaration
import QualityGate.Pattern.Search
import QualityGate.Text.Blank
import QualityGate.Text.Casing

/-!
Declarations found by patterns. In the type pattern every named group stands for a kind of type, and the group that
takes part names the type. The method pattern has a group `name`; the groups `access` and `modifier`, where present,
make up the qualifiers. A method match that contains an excluded word is dropped. Where the group `name` takes no part in
a method match there is no name to slice from the text, and the reading of methods breaks off.
-/

namespace QualityGate

structure DeclarationPatterns where
  types : Text
  methods : Text
  excludedWords : List Text
  deriving DecidableEq, Repr

inductive PatternRefusal where
  | typePattern (error : Pattern.Error)
  | methodPattern (error : Pattern.Error)
  | noKindGroup
  | noNameGroup
  deriving DecidableEq, Repr

def PatternRefusal.message : PatternRefusal → Text
  | typePattern error => "compile type pattern: " ++ error.message
  | methodPattern error => "compile method pattern: " ++ error.message
  | noKindGroup => "type pattern needs at least one named group"
  | noNameGroup => "method pattern needs a \"name\" group"

structure PatternLocator where
  types : Pattern
  methods : Pattern
  nameGroup : Nat
  qualifierGroups : List Nat
  excludedWords : List Text
  deriving DecidableEq, Repr

namespace PatternLocator

def compile (patterns : DeclarationPatterns) : Except PatternRefusal PatternLocator := do
  let types ← (Pattern.compile patterns.types).mapError .typePattern
  let methods ← (Pattern.compile patterns.methods).mapError .methodPattern
  if types.groupNames.all (·.isEmpty) then throw .noKindGroup
  match methods.groupNamed? "name" with
  | none => throw .noNameGroup
  | some nameGroup =>
    let qualifierGroups := [methods.groupNamed? "access", methods.groupNamed? "modifier"].filterMap id
    return ⟨types, methods, nameGroup, qualifierGroups, patterns.excludedWords.map Text.lower⟩

/-- The first named group of a match that took part: its name and bounds. -/
def kindOf? : List Text → List (Option (Nat × Nat)) → Option (Text × Nat × Nat)
  | name :: names, bounds :: rest =>
    match bounds with
    | some bounds => if name.isEmpty then kindOf? names rest else some (name, bounds)
    | none => kindOf? names rest
  | _, _ => none

structure SliceFault where
  deriving DecidableEq, Repr

/-- The text between the bounds of a group, if the group took part and its bounds lie in the text. -/
def slice (subject : Pattern.Subject) : Option (Nat × Nat) → Except SliceFault Text
  | some (start, stop) =>
    if start ≤ stop ∧ stop ≤ subject.size then .ok (subject.slice start stop) else .error {}
  | none => .error {}

def typeOf (locator : PatternLocator) (subject : Pattern.Subject) (found : Pattern.Match) :
    Except SliceFault (Option TypeDeclaration) :=
  match kindOf? locator.types.groupNames found.groups with
  | none => .ok none
  | some (kind, bounds) => do
    let name ← slice subject (some bounds)
    return some ⟨kind, name, found.start⟩

def excludes (locator : PatternLocator) (matched : Text) : Bool :=
  let lower := Text.lower matched
  locator.excludedWords.any (Text.occursIn · lower)

def qualifiers (locator : PatternLocator) (subject : Pattern.Subject) (found : Pattern.Match) :
    Except SliceFault Text := do
  let present := locator.qualifierGroups.filterMap fun group => (found.groups[group]?).join
  let parts ← present.mapM fun bounds => slice subject (some bounds)
  return Text.join " " (parts.flatMap Text.fields)

/-- The method declaration that a match gives, if it is not excluded. -/
def methodOf (locator : PatternLocator) (subject : Pattern.Subject) (found : Pattern.Match) :
    Except SliceFault (Option MethodDeclaration) := do
  if locator.excludes (← slice subject (some (found.start, found.stop))) then return none
  let qualifiers ← locator.qualifiers subject found
  let name ← slice subject (found.groups[locator.nameGroup]?).join
  return some { qualifiers, name, offset := found.start }

/-- What reading declarations one after the other comes to: those that were read, and whether the reading broke off at a
slice that does not lie in the text. -/
structure Reading (α : Type) where
  items : List α
  brokenOff : Bool
  deriving DecidableEq, Repr

/-- Reads what each match gives, up to the first that slices the text outside of it. -/
def readAll {α : Type} (read : Pattern.Match → Except SliceFault (Option α)) : List Pattern.Match → Reading α
  | [] => ⟨[], false⟩
  | found :: rest =>
    match read found with
    | .error _ => ⟨[], true⟩
    | .ok none => readAll read rest
    | .ok (some item) =>
      let more := readAll read rest
      ⟨item :: more.items, more.brokenOff⟩

def typesIn (locator : PatternLocator) (subject : Pattern.Subject) : Reading TypeDeclaration :=
  readAll (locator.typeOf subject) (locator.types.matchesIn subject)

def methodsIn (locator : PatternLocator) (subject : Pattern.Subject) : Reading MethodDeclaration :=
  readAll (locator.methodOf subject) (locator.methods.matchesIn subject)

def declarations (locator : PatternLocator) (text : Text) : Declarations :=
  let subject := Pattern.Subject.ofText text
  ⟨(locator.typesIn subject).items, (locator.methodsIn subject).items⟩

end PatternLocator

namespace DeclarationPatterns

/-- Characters of identifiers: letters, numbers and the underscore. -/
def identifier : Text := "\\p{L}\\p{N}_"

def space : Text := "\\s\\p{Zs}"

def typeAlternative (keyword : Text) : Text :=
  keyword ++ "[" ++ space ++ "]+(?P<" ++ keyword ++ ">[" ++ identifier ++ "]+)"

/-- A method: an access keyword, perhaps a modifier, a type with the given punctuation, a name, and an opening
parenthesis. -/
def methodPattern (access : List Text) (punctuation : Text) : Text :=
  "(?P<access>" ++ Text.join "|" access ++ ")" ++
    "(?P<modifier>[" ++ space ++ "]+[" ++ identifier ++ "]+)?" ++
    "[" ++ space ++ "]+[" ++ identifier ++ punctuation ++ space ++ "]+[" ++ space ++ "]+" ++
    "(?P<name>[" ++ identifier ++ "]+)[" ++ space ++ "]*\\("

def ofKeywords (types access : List Text) (punctuation : Text) (excludedWords : List Text) : DeclarationPatterns :=
  ⟨Text.join "|" (types.map typeAlternative), methodPattern access punctuation, excludedWords⟩

def csharp : DeclarationPatterns :=
  ofKeywords ["class", "record", "struct"] ["public", "protected", "private", "internal", "static"] "<>,"
    ["class", "struct", "record"]

def java : DeclarationPatterns :=
  ofKeywords ["class", "record", "interface", "enum"]
    ["public", "protected", "private", "static", "final", "abstract", "synchronized"] "<>\\[\\],.?"
    ["class", "record", "interface"]

end DeclarationPatterns

end QualityGate
