import QualityGate.GoSource.File
import QualityGate.Locating.Patterns
import QualityGate.Masking.Basic

/-!
The languages whose methods are measured: how files are recognised, how declarations are found, and what is masked.
-/

namespace QualityGate

inductive Language where
  | csharp
  | java
  | go
  deriving DecidableEq, Repr

namespace Language

def all : List Language := [csharp, java, go]

def id : Language → Text
  | csharp => "csharp"
  | java => "java"
  | go => "go"

def name : Language → Text
  | csharp => "C#"
  | java => "Java"
  | go => "Go"

def extensions : Language → List Text
  | csharp => [".cs"]
  | java => [".java"]
  | go => [".go"]

def maskRules : Language → Masking.Rules
  | csharp => { lineComments := true, blockComments := true, verbatimStrings := true, rawQuotedStrings := true }
  | java => { lineComments := true, blockComments := true, textBlocks := true }
  | go => { lineComments := true, blockComments := true, backquotedStrings := true }

/-- The text with the comments and literals of the language blanked. -/
def mask (language : Language) (text : Text) : Text := Masking.mask language.maskRules text

def csharpLocator? : Option PatternLocator := (PatternLocator.compile .csharp).toOption

def javaLocator? : Option PatternLocator := (PatternLocator.compile .java).toOption

/-- The declarations that patterns find; none when the patterns were refused. -/
def declarationsBy (locator? : Option PatternLocator) (text : Text) : Declarations :=
  (locator?.map (·.declarations text)).getD ⟨[], []⟩

def declarations : Language → Text → Declarations
  | csharp => declarationsBy csharpLocator?
  | java => declarationsBy javaLocator?
  | go => GoSource.declarations

end Language

end QualityGate
