import QualityGate.Language.Basic
import QualityGate.Path
import QualityGate.Text.Quoted

/-!
A registry is a choice of languages. Selecting from a registry keeps the named ones, in the order of their first
mention; one unknown name refuses the whole selection.
-/

namespace QualityGate

structure Registry where
  languages : List Language
  deriving DecidableEq, Repr

structure UnknownLanguage where
  name : Text
  deriving DecidableEq, Repr

def UnknownLanguage.message (error : UnknownLanguage) : Text :=
  "unsupported language " ++ error.name.quoted ++ ", run \"codegate language\" for the list"

namespace Registry

def full : Registry := ⟨Language.all⟩

/-- The language with an identifier; letter case and surrounding white space do not matter. -/
def lookup? (registry : Registry) (id : Text) : Option Language :=
  registry.languages.find? (·.id = Text.lower (Text.trim id))

/-- The language of a file by its extension; letter case does not matter. -/
def languageFor? (registry : Registry) (path : Text) : Option Language :=
  registry.languages.find? (·.extensions.contains (Text.lower (Path.extension path)))

def selectFrom (registry : Registry) : List Language → List Text → Except UnknownLanguage Registry
  | selected, [] => .ok ⟨selected⟩
  | selected, name :: rest =>
    match registry.lookup? name with
    | none => .error ⟨name⟩
    | some language =>
      if selected.contains language then selectFrom registry selected rest
      else selectFrom registry (selected ++ [language]) rest

def select (registry : Registry) (names : List Text) : Except UnknownLanguage Registry :=
  selectFrom registry [] names

def listing (registry : Registry) : List Language :=
  registry.languages.mergeSort fun a b => !Text.before b.id a.id

end Registry

end QualityGate
