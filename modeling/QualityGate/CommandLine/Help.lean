import QualityGate.CommandLine.Command
import QualityGate.FileTree.Basic

/-!
The help of the commands: what a command does, how it is called, and its flags.
-/

namespace QualityGate.CommandLine

/-! ### Flags -/

def FlagValue.placeholder : FlagValue → Text
  | switch _ => ""
  | number _ => " int"
  | word _ => " string"
  | words _ => " strings"

/-- The default of a flag, unless it goes without saying. -/
def FlagValue.defaultNote : FlagValue → Text
  | switch on => if on then " (default true)" else ""
  | number n => if n = 0 then "" else " (default " ++ Text.ofInt n ++ ")"
  | word t => if t.isEmpty then "" else " (default " ++ t.quoted ++ ")"
  | words items => if items.isEmpty then "" else " (default [" ++ Text.join "," items ++ "])"

def Flag.heading (flag : Flag) : Text :=
  (match flag.letter with
    | some letter => "  -" ++ [letter] ++ ", --"
    | none => "      --" : Text) ++ flag.name ++ flag.value.placeholder

def flagLines (flags : List Flag) : Text :=
  let sorted := (Text.sortedByName (flags.map fun flag => (flag.name, flag))).map (·.2)
  let widest := (sorted.map (·.heading.length)).foldl max 0
  Text.join "\n" (sorted.map fun flag =>
    flag.heading ++ Text.spaces (widest - flag.heading.length + 3) ++ flag.usage ++ flag.value.defaultNote)

/-! ### Commands -/

namespace Command

def usageLine (command : Command) : Text :=
  command.path ++ command.synopsis ++
    (match command with
      | script _ => ""
      | _ => " [flags]" : Text)

def nameWidth : Nat := 11

def listLine (command : Command) : Text :=
  "\n  " ++ command.name ++ Text.spaces (nameWidth - command.name.length) ++ " " ++ command.summary

def childList (command : Command) : Text :=
  let sorted := (Text.sortedByName (command.children.map fun child => (child.name, child))).map (·.2)
  "\n\nAvailable Commands:" ++ sorted.flatMap listLine

/-- The flags that are not those of every command; those of the root are its own. -/
def localFlags (command : Command) (withHelp : Bool) : List Flag :=
  command.ownFlags ++ (if command = root then globalFlags else []) ++ (if withHelp then [command.helpFlag] else [])

/-- How the command is used. The flag for help is left out where it is not on offer. -/
def usage (command : Command) (withHelp : Bool) : Text :=
  let hasChildren := !command.children.isEmpty
  let part := fun (shown : Bool) (t : Text) => if shown then t else []
  "Usage:" ++ part command.isRunnable ("\n  " ++ command.usageLine) ++
    part hasChildren ("\n  " ++ command.path ++ " [command]") ++
    part hasChildren command.childList ++
    part (!(command.localFlags withHelp).isEmpty) ("\n\nFlags:\n" ++ flagLines (command.localFlags withHelp)) ++
    part (command ≠ root) ("\n\nGlobal Flags:\n" ++ flagLines globalFlags) ++
    part hasChildren
      ("\n\nUse \"" ++ command.path ++ " [command] --help\" for more information about a command.") ++ "\n"

def helpText (command : Command) : Text := command.description ++ "\n\n" ++ command.usage true

end Command

end QualityGate.CommandLine
