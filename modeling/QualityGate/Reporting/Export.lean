import QualityGate.FileTree.Change
import QualityGate.Reporting.Print

/-!
Reports written to a file.
-/

namespace QualityGate

inductive ExportError where
  | unsupported (format : Text)
  | directory (fault : Workspace.DirectoryFault)
  | file (path : Text) (fault : PathFault)
  deriving DecidableEq, Repr

def ExportError.message : ExportError → Text
  | unsupported format => "format " ++ format.quoted ++ " cannot be exported to a file"
  | directory fault => "create output directory: " ++ fault.message
  | file path fault => "write output file: open " ++ path ++ ": " ++ fault.message

namespace ScanResult

def save (workspace : Workspace) (path content : Text) : Workspace × Option ExportError :=
  let directory := Path.directory path
  match if directory = "." then (workspace, none) else workspace.makeDirectories directory with
  | (workspace, some fault) => (workspace, some (.directory fault))
  | (workspace, none) =>
    match workspace.write path content with
    | .error fault => (workspace, some (.file path fault))
    | .ok workspace => (workspace, none)

def exportNamed (result : ScanResult) (workspace : Workspace) (path format : Text) :
    Workspace × Option ExportError :=
  match Format.named? format with
  | some .json => save workspace path (Json.print result.document)
  | some .yaml => save workspace path (Yaml.print result.document)
  | _ => (workspace, some (.unsupported format))

end ScanResult

end QualityGate
