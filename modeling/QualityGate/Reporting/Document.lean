import QualityGate.Checking.Report

/-!
A report as a document of named values, which both the JSON and the YAML form are printed from.
-/

namespace QualityGate

inductive Document where
  | text (value : Text)
  | integer (value : Int)
  | truth (value : Bool)
  | list (items : List Document)
  | record (fields : List (Text × Document))
  deriving Repr

namespace Document

abbrev Field := Text × Document

def textField (name value : Text) : Field := (name, text value)

def integerField (name : Text) (value : Int) : Field := (name, integer value)

def listField (name : Text) (items : List Document) : Field := (name, list items)

/-- A field with a list, which is left out when the list is empty. -/
def filledListField (name : Text) (items : List Document) : List Field :=
  if items.isEmpty then [] else [listField name items]

def flagField (name : Text) (value : Bool) : List Field := if value then [(name, truth true)] else []

end Document

open Document (textField integerField listField filledListField flagField)

/-- A method violation as a document; that the body ends with the text is said only when it does. -/
def MethodViolation.document (v : MethodViolation) : Document :=
  .record ([textField "path" v.path, textField "file" v.file, textField "class" v.owner,
    textField "method" v.method, integerField "line" v.line, integerField "line_count" v.lineCount] ++
    flagField "truncated" v.truncated)

def LineViolation.document (v : LineViolation) : Document :=
  .record [textField "path" v.path, integerField "line" v.line, integerField "length" v.length,
    textField "text" v.text]

def ScanError.document (e : ScanError) : Document :=
  .record [textField "path" e.path, textField "error" e.error]

def Summary.document (s : Summary) : Document :=
  .record [integerField "files" s.files, integerField "violations" s.violations, integerField "errors" s.errors]

def ScanResult.document (r : ScanResult) : Document :=
  .record ([textField "scanned_path" r.scannedPath, textField "check" r.check] ++
    filledListField "method_violations" (r.methods.map MethodViolation.document) ++
    filledListField "line_violations" (r.lines.map LineViolation.document) ++
    [listField "errors" (r.errors.map ScanError.document), ("summary", r.summary.document)])

end QualityGate
