import QualityGate.Shell.State

/-!
What the name of a command stands for. A shell has keywords, aliases, functions and commands of its own; everything else is
a program, which is looked for in several directories.
-/

namespace QualityGate.Shell

open Text (byte)

/-- The commands of a shell that are special: a mistake in one of them ends the shell. -/
def specialNames : List Text :=
  ["break", ":", "continue", ".", "eval", "exec", "exit", "export", "local", "readonly", "return", "set", "shift", "times",
    "trap", "unset"]

def ordinaryNames : List Text :=
  ["[", "alias", "bg", "cd", "chdir", "command", "echo", "false", "fg", "getopts", "hash", "jobs", "kill", "printf",
    "pwd", "read", "test", "true", "type", "ulimit", "umask", "unalias", "wait"]

def isSpecialName (name : Text) : Bool := specialNames.contains name

def isBuiltinName (name : Text) : Bool :=
  isSpecialName name || ordinaryNames.contains name

def declaringNames : List Text := ["alias", "export", "local", "readonly"]

def takesAssignments (name : Text) : Bool := declaringNames.contains name

namespace State

/-- What is in the file at a path, if it can be run. -/
def executable? (state : State) (path : Text) : Option Text :=
  match state.workspace.find true path with
  | .ok ⟨location, some (.file content _), false⟩ =>
    if state.executables.contains location then some content else none
  | _ => none

def candidates (state : State) (name : Text) : List Text :=
  if name.contains Path.separator then [name]
  else (Text.splitAtByte (byte ':') (state.valueOf "PATH")).map fun directory =>
    if directory.isEmpty then name else directory ++ [Path.separator] ++ name

def path? (state : State) (name : Text) : Option Text :=
  if name.isEmpty then none else (state.candidates name).find? fun path => (state.executable? path).isSome

def missingStatus (state : State) (name : Text) : Nat :=
  if name.contains Path.separator then
    match state.workspace.stat name with
    | .ok _ => 126
    | .error fault => if fault = .denied then 126 else 127
  else 127

end State

inductive Meaning where
  | keyword
  | shorthand (text : Text)
  | special
  | function
  | ordinary
  | program (path : Text)
  | nothing
  deriving DecidableEq, Repr

def State.meaning (state : State) (name : Text) : Meaning :=
  if reservedWords.contains name then .keyword
  else
    match state.aliases.lookup name with
    | some text => .shorthand text
    | none =>
      if isSpecialName name then .special
      else if (state.functions.lookup name).isSome then .function
      else if isBuiltinName name then .ordinary
      else
        match state.path? name with
        | some path => .program path
        | none => .nothing

end QualityGate.Shell
