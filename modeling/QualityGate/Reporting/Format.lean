import QualityGate.Text.Blank
import QualityGate.Text.Casing
import QualityGate.Text.Quoted

/-!
The settings of the output: its format, and whether the summary is coloured.
-/

namespace QualityGate

structure UnsupportedSetting where
  what : Text
  value : Text
  allowed : List Text
  deriving DecidableEq, Repr

def UnsupportedSetting.message (error : UnsupportedSetting) : Text :=
  "unsupported " ++ error.what ++ " " ++ error.value.quoted ++ ", allowed values: " ++ Text.join ", " error.allowed

/-- A setting as it is compared: in lowercase and without white space around it. -/
def settingKey (value : Text) : Text := Text.lower (Text.trim value)

inductive Format where
  | text
  | table
  | json
  | yaml
  deriving DecidableEq, Repr

namespace Format

def all : List Format := [text, table, json, yaml]

def name : Format → Text
  | text => "text"
  | table => "table"
  | json => "json"
  | yaml => "yaml"

def named? (value : Text) : Option Format := all.find? (·.name = value)

/-- Reads a format; letter case and surrounding white space do not matter, and YAML has a short name. -/
def parse (value : Text) : Except UnsupportedSetting Format :=
  let key := settingKey value
  match named? (if key = "yml" then "yaml" else key) with
  | some format => .ok format
  | none => .error ⟨"format", value, all.map name⟩

def isStreaming (format : Format) : Bool := format = text

def isExportable (format : Format) : Bool := format = json || format = yaml

end Format

inductive ColorMode where
  | auto
  | always
  | never
  deriving DecidableEq, Repr

namespace ColorMode

def all : List ColorMode := [auto, always, never]

def name : ColorMode → Text
  | auto => "auto"
  | always => "always"
  | never => "never"

/-- Reads a mode; letter case and surrounding white space do not matter. -/
def parse (value : Text) : Except UnsupportedSetting ColorMode :=
  match all.find? (·.name = settingKey value) with
  | some mode => .ok mode
  | none => .error ⟨"color mode", value, all.map name⟩

def enabled (mode : ColorMode) (isTerminal : Bool) : Bool :=
  match mode with
  | always => true
  | never => false
  | auto => isTerminal

end ColorMode

end QualityGate
