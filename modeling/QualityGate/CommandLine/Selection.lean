import QualityGate.CommandLine.Command

/-!
Which command the arguments name. The name of a command can stand anywhere among its arguments, so flags and their
values are passed over while it is looked for; a flag that is not known is taken to have a value.
-/

namespace QualityGate.CommandLine

structure UnknownCommand where
  name : Text
  path : Text
  suggestions : List Text := []
  deriving DecidableEq, Repr

def suggestionLine (name : Text) : Text := "\t" ++ name ++ "\n"

def suggestionLines (names : List Text) : Text :=
  if names.isEmpty then [] else "\n\nDid you mean this?\n" ++ names.flatMap suggestionLine

def UnknownCommand.message (error : UnknownCommand) : Text :=
  "unknown command " ++ error.name.quoted ++ " for " ++ error.path.quoted ++ suggestionLines error.suggestions

/-! ### Suggestions -/

/-- The next row of edit distances: `above` is the row of the text so far, `corner` its first entry, `left` the entry
before in the new row. -/
def nextDistances (b : UInt8) (corner left : Nat) : Text → List Nat → List Nat
  | c :: rest, up :: above =>
    let here := if b = c then corner else min (min up left) corner + 1
    here :: nextDistances b up here rest above
  | _, _ => []

/-- The distances from the beginnings of a text, the whole last, to a text that `row` belongs to so far. -/
def distanceRows (target : Text) (row : List Nat) : Text → List Nat
  | [] => row
  | b :: rest =>
    let first := row.headD 0 + 1
    distanceRows target (first :: nextDistances b (row.headD 0) first target row.tail) rest

def editDistance (source target : Text) : Nat :=
  (distanceRows target (List.range (target.length + 1)) source).getLastD 0

/-- Whether a command may be meant by a name: it differs in two bytes at most, or the name is its beginning. -/
def Command.mayBe (command : Command) (name : Text) : Bool :=
  let typed := Text.lower name
  editDistance typed command.name ≤ 2 || Text.startsWith command.name typed

def suggestions (name : Text) : List Text :=
  ((Command.root.children.filter (· ≠ .help)).filter (·.mayBe name)).map Command.name

/-! ### Looking for the command -/

def takesNext (flags : List Flag) (argument : Text) : Bool :=
  let isSwitch := fun (flag : Option Flag) => flag.any Flag.isSwitch
  !argument.contains (Text.byte '=') &&
    (Text.startsWith argument "--" && !isSwitch (flags.find? (·.name = argument.drop 2)) ||
      Text.startsWith argument "-" && argument.length = 2 &&
        !isSwitch (flags.find? fun flag => flag.letter.isSome && flag.letter = argument[1]?))

def plainArguments (flags : List Flag) : List Text → List Text
  | [] => []
  | argument :: rest =>
    if argument = "--" then []
    else if takesNext flags argument then
      match rest with
      | _ :: next :: more => plainArguments flags (next :: more)
      | _ => []
    else if ¬ argument.isEmpty ∧ ¬ Text.startsWith argument "-" then argument :: plainArguments flags rest
    else plainArguments flags rest

def without (flags : List Flag) (name : Text) : List Text → List Text
  | [] => []
  | argument :: rest =>
    if argument = "--" then argument :: rest
    else if takesNext flags argument then
      match rest with
      | value :: more => argument :: value :: without flags name more
      | [] => [argument]
    else if argument = name then rest
    else argument :: without flags name rest

/-- Looks for the command below another, and for what is left of the arguments; each name found uses up one. -/
def descend : Nat → Command → List Text → Command × List Text
  | 0, command, arguments => (command, arguments)
  | depth + 1, command, arguments =>
    match plainArguments command.flags arguments with
    | [] => (command, arguments)
    | name :: _ =>
      match command.children.find? (·.name = name) with
      | some child => descend depth child (without command.flags name arguments)
      | none => (command, arguments)

def select (arguments : List Text) : Except UnknownCommand (Command × List Text) :=
  let (command, rest) := descend arguments.length .root arguments
  match command, plainArguments command.flags rest with
  | .root, name :: _ => .error ⟨name, Command.root.path, suggestions name⟩
  | _, _ => .ok (command, rest)

end QualityGate.CommandLine
