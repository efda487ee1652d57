import QualityGate.Checking.Report
import QualityGate.Language.Registry

/-!
The two checks: methods that are too long and lines that are too long. A check says which directories it skips, which
files it accepts, and what it finds in one.
-/

namespace QualityGate

def excludedDirectories : List Text := [".git", ".vs", "bin", "obj"]

def migrations : Text := "Migrations"

inductive CheckError where
  | unsupportedExtension (extension : Text)
  | illFormed
  /-- Reading broke off while the text was decoded. -/
  | undecodable (reason : Text)
  | unreadable (reason : Text)
  deriving DecidableEq, Repr

def CheckError.message : CheckError → Text
  | unsupportedExtension extension => "unsupported file extension: " ++ extension
  | illFormed => "decode utf-8: encoding: invalid UTF-8"
  | undecodable reason => "decode utf-8: " ++ reason
  | unreadable reason => reason

def isBegunCodePoint (bytes : Text) : Bool :=
  bytes.length < 4 && [0x80, 0xBF].any fun b => [1, 2, 3].any fun more =>
    (Text.front (bytes ++ List.replicate more b)).1.isSome &&
      (Text.front (bytes ++ List.replicate more b)).2 = bytes.length + more

/-- The text from the first byte that begins no well-formed code point; `skip` bytes belong to one already read. -/
def illFormedTail? : Nat → Text → Option Text
  | _, [] => none
  | skip + 1, _ :: rest => illFormedTail? skip rest
  | 0, b :: rest =>
    if (Text.front (b :: rest)).1.isSome then illFormedTail? ((Text.front (b :: rest)).2 - 1) rest
    else some (b :: rest)

/-- The content of a file that must be well-formed. Where the reading broke off inside a code point, that is the
reason, and not the ill-formed end. -/
def Source.decode (source : Source) : Except CheckError Text :=
  match illFormedTail? 0 source.content, source.failure with
  | none, none => .ok source.content
  | none, some reason => .error (.undecodable reason)
  | some _, none => .error .illFormed
  | some tail, some reason => .error (if isBegunCodePoint tail then .undecodable reason else .illFormed)

structure MethodCheck where
  registry : Registry
  detector : Detector
  masksLiterals : Bool := false
  excluded : List Text := []
  deriving DecidableEq, Repr

namespace MethodCheck

/-- Whether a directory is skipped: it is excluded, or its name contains the name for migrations. -/
def skipsDirectory (check : MethodCheck) (name : Text) : Bool :=
  (excludedDirectories ++ check.excluded).contains name || Text.occursIn migrations name

def accepts (check : MethodCheck) (path : Text) : Bool := (check.registry.languageFor? path).isSome

def run (check : MethodCheck) (path : Text) (source : Source) : Except CheckError FileReport :=
  match check.registry.languageFor? path with
  | none => .error (.unsupportedExtension (Path.extension path))
  | some language =>
    source.decode.map fun content =>
      let text := if check.masksLiterals then language.mask content else content
      { path, methods := check.detector.violations path text (language.declarations text) }

end MethodCheck

structure LineCheck where
  maximum : Nat := LineLength.defaultMaximum
  excluded : List Text := []
  excludedExtensions : List Text := []
  excludedNames : List Text := []
  deriving DecidableEq, Repr

namespace LineCheck

def defaultExtensions : List Text := [".csproj", ".ico", ".json", ".sln", ".dot", ".png"]

def defaultNames : List Text := [".editorconfig", "nginx.conf", "docker-compose.yml"]

/-- Whether an excluded file is meant by its extension: a dot in front and no other dot. -/
def isExtension (item : Text) : Bool := Text.startsWith item "." && item.count (Text.byte '.') = 1

def ofSettings (maximum : Int) (directories files : List Text) : LineCheck :=
  { maximum := LineLength.maximumOf maximum
    excluded := directories
    excludedExtensions := files.filter isExtension
    excludedNames := files.filter (!isExtension ·) }

def skipsDirectory (check : LineCheck) (name : Text) : Bool :=
  (excludedDirectories ++ migrations :: check.excluded).contains name

def accepts (check : LineCheck) (path : Text) : Bool :=
  let name := Path.base path
  !(defaultNames ++ check.excludedNames).contains name &&
    !(defaultExtensions ++ check.excludedExtensions).contains (Path.extension name)

def run (check : LineCheck) (path : Text) (source : Source) : Except CheckError FileReport :=
  match source.failure with
  | some reason => .error (.unreadable reason)
  | none => .ok { path, lines := LineLength.violations check.maximum path source }

end LineCheck

inductive Checker where
  | methods (check : MethodCheck)
  | lines (check : LineCheck)
  deriving DecidableEq, Repr

namespace Checker

def name : Checker → Text
  | methods _ => "methods"
  | lines _ => "lines"

def skipsDirectory : Checker → Text → Bool
  | methods check => check.skipsDirectory
  | lines check => check.skipsDirectory

def accepts : Checker → Text → Bool
  | methods check => check.accepts
  | lines check => check.accepts

def run : Checker → Text → Source → Except CheckError FileReport
  | methods check => check.run
  | lines check => check.run

end Checker

end QualityGate
