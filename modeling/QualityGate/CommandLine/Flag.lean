import QualityGate.CommandLine.CommaList
import QualityGate.CommandLine.Number
import QualityGate.Text.Quoted

/-!
Flags: what can be given on the command line besides plain arguments. A flag has a long name, and may have a letter.
A switch needs no value; every other flag takes one, after an equals sign or as the next argument.
-/

namespace QualityGate.CommandLine

inductive FlagValue where
  | switch (on : Bool)
  | number (n : Int)
  | word (t : Text)
  | words (items : List Text)
  deriving DecidableEq, Repr

structure Flag where
  name : Text
  letter : Option UInt8 := none
  value : FlagValue
  usage : Text
  deriving DecidableEq, Repr

def Flag.isSwitch (flag : Flag) : Bool :=
  match flag.value with
  | .switch _ => true
  | _ => false

def Flag.title (flag : Flag) : Text :=
  match flag.letter with
  | some letter => "-" ++ [letter] ++ ", --" ++ flag.name
  | none => "--" ++ flag.name

inductive FlagError where
  | badSyntax (argument : Text)
  | unknown (name : Text)
  | unknownLetter (letter : UInt8) (cluster : Text)
  | needsValue (argument : Text)
  | letterNeedsValue (letter : UInt8) (cluster : Text)
  | invalid (value title reason : Text)
  deriving DecidableEq, Repr

def quotedByte (b : UInt8) : Text := Text.singleQuoted (Char.ofNat b.toNat)

def FlagError.message : FlagError → Text
  | badSyntax argument => "bad flag syntax: " ++ argument
  | unknown name => "unknown flag: --" ++ name
  | unknownLetter letter cluster => "unknown shorthand flag: " ++ quotedByte letter ++ " in -" ++ cluster
  | needsValue argument => "flag needs an argument: " ++ argument
  | letterNeedsValue letter cluster => "flag needs an argument: " ++ quotedByte letter ++ " in -" ++ cluster
  | invalid value title reason =>
    "invalid argument " ++ value.quoted ++ " for " ++ title.quoted ++ " flag: " ++ reason

/-! ### Values -/

def onSpellings : List Text := ["1", "t", "T", "true", "TRUE", "True"]

def offSpellings : List Text := ["0", "f", "F", "false", "FALSE", "False"]

/-- The value of a flag after it is given with a text. The first list that is given takes the place of the default;
later ones are added to it. -/
def FlagValue.set (given : Bool) (t : Text) : FlagValue → Except Text FlagValue
  | switch _ =>
    if onSpellings.contains t then .ok (switch true)
    else if offSpellings.contains t then .ok (switch false)
    else .error ("strconv.ParseBool: parsing " ++ t.quoted ++ ": " ++ NumberError.malformed.message)
  | number _ =>
    match Number.parse t with
    | .ok n => .ok (number n)
    | .error error => .error ("strconv.ParseInt: parsing " ++ t.quoted ++ ": " ++ error.message)
  | word _ => .ok (word t)
  | words items =>
    match CommaList.parse t with
    | .ok more => .ok (words (if given then items ++ more else more))
    | .error error => .error error.message

structure FlagSetting where
  flag : Flag
  given : Bool := false
  deriving DecidableEq, Repr

structure Arguments where
  flags : List FlagSetting
  plain : List Text := []
  deriving DecidableEq, Repr

namespace Arguments

def ofFlags (flags : List Flag) : Arguments := ⟨flags.map (⟨·, false⟩), []⟩

def named? (arguments : Arguments) (name : Text) : Option Flag :=
  (arguments.flags.find? (·.flag.name = name)).map (·.flag)

def lettered? (arguments : Arguments) (letter : UInt8) : Option Flag :=
  (arguments.flags.find? (·.flag.letter = some letter)).map (·.flag)

def set (arguments : Arguments) (flag : Flag) (t : Text) : Except FlagError Arguments :=
  match arguments.flags.find? (·.flag.name = flag.name) with
  | none => .ok arguments
  | some setting =>
    match setting.flag.value.set setting.given t with
    | .error reason => .error (.invalid t flag.title reason)
    | .ok value =>
      .ok { arguments with
        flags := arguments.flags.map fun other =>
          if other.flag.name = flag.name then ⟨{ other.flag with value }, true⟩ else other }

def value? (arguments : Arguments) (name : Text) : Option FlagValue := (arguments.named? name).map (·.value)

def switch (arguments : Arguments) (name : Text) : Bool :=
  match arguments.value? name with
  | some (.switch on) => on
  | _ => false

def number (arguments : Arguments) (name : Text) : Int :=
  match arguments.value? name with
  | some (.number n) => n
  | _ => 0

def word (arguments : Arguments) (name : Text) : Text :=
  match arguments.value? name with
  | some (.word t) => t
  | _ => []

def words (arguments : Arguments) (name : Text) : List Text :=
  match arguments.value? name with
  | some (.words items) => items
  | _ => []

/-! ### Reading -/

def splitValue (t : Text) : Text × Option Text :=
  let name := t.takeWhile (· ≠ Text.byte '=')
  (name, if name.length < t.length then some (t.drop (name.length + 1)) else none)

inductive Need where
  | done (arguments : Arguments)
  | value (flag : Flag) (orElse : FlagError)

def readLong (arguments : Arguments) (argument : Text) : Except FlagError Need :=
  let body := argument.drop 2
  if body.head?.any fun b => b = Text.byte '-' || b = Text.byte '=' then .error (.badSyntax argument)
  else
    let (name, value) := splitValue body
    match arguments.named? name, value with
    | none, _ => .error (.unknown name)
    | some flag, some value => (arguments.set flag value).map .done
    | some flag, none =>
      if flag.isSwitch then (arguments.set flag "true").map .done
      else .ok (.value flag (.needsValue argument))

/-- Reads the letters after one dash. A switch may be followed by more letters; another flag takes what follows. -/
def readLetters (arguments : Arguments) : Text → Except FlagError Need
  | [] => .ok (.done arguments)
  | letter :: rest =>
    if Text.startsWith (letter :: rest) "test." then .ok (.done arguments)
    else
      match arguments.lettered? letter with
      | none => .error (.unknownLetter letter (letter :: rest))
      | some flag =>
        match rest with
        | 61 :: b :: more => (arguments.set flag (b :: more)).map .done
        | _ =>
          if flag.isSwitch then
            match arguments.set flag "true" with
            | .error error => .error error
            | .ok arguments => readLetters arguments rest
          else if rest.isEmpty then .ok (.value flag (.letterNeedsValue letter [letter]))
          else (arguments.set flag rest).map .done

/-- Reads arguments; flags and plain arguments may be mixed, and after two dashes alone all are plain. -/
def read (arguments : Arguments) : List Text → Except FlagError Arguments
  | [] => .ok arguments
  | argument :: rest =>
    if argument = "--" then .ok { arguments with plain := arguments.plain ++ rest }
    else if argument = "-" ∨ ¬ Text.startsWith argument "-" then
      read { arguments with plain := arguments.plain ++ [argument] } rest
    else
      match if Text.startsWith argument "--" then arguments.readLong argument
        else arguments.readLetters (argument.drop 1) with
      | .error error => .error error
      | .ok (.done arguments) => read arguments rest
      | .ok (.value flag orElse) =>
        match rest with
        | [] => .error orElse
        | value :: rest =>
          match arguments.set flag value with
          | .error error => .error error
          | .ok arguments => read arguments rest

end Arguments

end QualityGate.CommandLine
