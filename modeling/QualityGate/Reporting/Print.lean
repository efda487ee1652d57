import QualityGate.Reporting.Channel
import QualityGate.Reporting.Format
import QualityGate.Reporting.Json
import QualityGate.Reporting.Table
import QualityGate.Reporting.Yaml.Print

/-!
Reports in each format. The text format is written file by file while the scan goes on; the others need the whole
result.
-/

namespace QualityGate

inductive PrintError where
  | broken
  | brokenJson
  | brokenYaml
  | unsupported (format : Text)
  deriving DecidableEq, Repr

def PrintError.message : PrintError → Text
  | broken => Channel.brokenMessage
  | brokenJson => "write json: " ++ Channel.brokenMessage
  | brokenYaml => "write yaml: " ++ Channel.brokenMessage
  | unsupported format => "unsupported format " ++ format.quoted

/-! ### Text -/

def MethodViolation.textLines (v : MethodViolation) : Text :=
  "File: " ++ v.file ++ "\nClass: " ++ v.owner ++ "\nMethod: " ++ v.method ++ "\nLine Count: " ++
    Text.ofInt v.lineCount ++ "\n"

def LineViolation.textLine (v : LineViolation) : Text :=
  v.path ++ ":" ++ Text.ofInt v.line ++ ": " ++ v.text ++ "\n"

def ScanError.textLine (e : ScanError) : Text := "Error processing file: " ++ e.path ++ ", Error: " ++ e.error ++ "\n"

def FileReport.writes (report : FileReport) : List Text :=
  match report.error with
  | some error => [error.textLine]
  | none => report.methods.map MethodViolation.textLines ++ report.lines.map LineViolation.textLine

/-! ### Table -/

namespace ScanResult

def totalLabel (result : ScanResult) : Text := "Total Files " ++ Text.ofInt result.summary.files

def lineTable (result : ScanResult) : Table where
  heading := ["File", "Line", "Length"]
  alignments := [.left, .right, .right]
  rows := result.lines.map fun v => [v.path, Text.ofInt v.line, Text.ofInt v.length]
  footing := some [result.totalLabel, [], Text.ofNat result.lines.length]

/-- The line count in the table; a plus says that the body was cut off by the end of the text. -/
def lineCountCell (v : MethodViolation) : Text :=
  Text.ofInt v.lineCount ++ (if v.truncated then "+" else "" : Text)

def methodTable (result : ScanResult) : Table where
  heading := ["File", "Class", "Method", "Line", "Line Count"]
  alignments := [.left, .left, .left, .right, .right]
  rows := result.methods.map fun v => [v.path, v.owner, v.method, Text.ofInt v.line, lineCountCell v]
  footing := some [result.totalLabel, [], [], [], Text.ofNat result.methods.length]

def violationTable (result : ScanResult) : Table :=
  if result.check = "lines" then result.lineTable else result.methodTable

def errorTable (result : ScanResult) : Table where
  heading := ["Error File", "Message"]
  alignments := [.byContent, .byContent]
  rows := result.errors.map fun e => [e.path, e.error]

/-- Writes the tables. Only the line above each table is checked for being taken. -/
def printTable (result : ScanResult) (channel : Channel) : Channel × Option PrintError :=
  let (channel, taken) := channel.write ("SCANNED PATH  " ++ result.scannedPath ++ "\n\n")
  if ¬ taken then (channel, some .broken)
  else
    let (channel, _) := channel.send result.violationTable.writes
    if result.errors.isEmpty then (channel, none)
    else
      let (channel, taken) := channel.write "\n"
      if ¬ taken then (channel, some .broken)
      else ((channel.send result.errorTable.writes).1, none)

/-! ### All formats -/

/-- Writes the whole result in a format. The text format has been written already. -/
def print (result : ScanResult) (format : Format) (channel : Channel) : Channel × Option PrintError :=
  match format with
  | .text => (channel, none)
  | .table => result.printTable channel
  | .json =>
    let (channel, taken) := channel.write (Json.print result.document)
    (channel, if taken then none else some .brokenJson)
  | .yaml =>
    let (channel, taken) := channel.write (Yaml.print result.document)
    (channel, if taken then none else some .brokenYaml)

def printNamed (result : ScanResult) (format : Text) (channel : Channel) : Channel × Option PrintError :=
  match Format.named? format with
  | some format => result.print format channel
  | none => (channel, some (.unsupported format))

end ScanResult

end QualityGate
