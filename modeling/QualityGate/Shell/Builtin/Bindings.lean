import QualityGate.Shell.Builtin.Basic
import QualityGate.Shell.Wildcard

/-!
Commands that set variables and arguments.
-/

namespace QualityGate.Shell.Builtin

open Text (byte)

def assignment? (t : Text) : Option (Text × Text) :=
  let name := t.takeWhile isNameByte
  match t.drop name.length with
  | b :: value => if b = byte '=' && isName name then some (name, value) else none
  | [] => none

def listing (command : Text) (shows : Binding → Bool) (state : State) : Text :=
  let shown := (Text.sortedByName state.bindings).filter fun entry => shows entry.2
  let start : Text := if command.isEmpty then [] else command ++ " "
  let line := fun (name : Text) (binding : Binding) => (
    match binding.value with
    | some value => start ++ name ++ "=" ++ shellQuoted value ++ "\n"
    | none => if command.isEmpty then [] else start ++ name ++ "\n" : Text)
  shown.flatMap fun entry => line entry.1 entry.2

/-- Changes variables, each perhaps with a new value; without arguments, shows those that are changed already. -/
def declare (command : Text) (change : Binding → Binding) (shows : Binding → Bool) : Builtin := fun _ arguments => do
  let (letters, names) ← optionsOf "p" [] arguments
  if ¬ letters.isEmpty || names.isEmpty then Run.print (listing command shows (← get))
  else
    names.forM fun argument => do
      let name := ((assignment? argument).map (·.1)).getD argument
      if ¬ isName name then Run.fault
      match assignment? argument with
      | some (name, value) => Run.assign name value
      | none => pure ()
      modify fun state => state.bind name (change ((state.binding? name).getD {}))
  Run.setStatus 0

def keep : Builtin := fun _ arguments => do
  if (← get).calls = 0 then Run.fault
  arguments.forM fun argument => do
    if argument = "-" then modify fun state => { state with hiddenLetters := some (state.hiddenLetters.getD state.letters) }
    else
      let name := ((assignment? argument).map (·.1)).getD argument
      if ¬ isName name then Run.fault
      modify fun state => { state with hidden := (name, state.binding? name) :: state.hidden }
      match assignment? argument with
      | some (name, value) => Run.assign name value
      | none => pure ()
  Run.setStatus 0

def unset : Builtin := fun _ arguments => do
  let (letters, names) ← optionsOf "fv" [] arguments
  names.forM fun name => do
    if letters.getLast? = some (byte 'f') then
      modify fun state => { state with functions := state.functions.filter (·.1 ≠ name) }
    else
      if ¬ isName name || name = "OPTIND" then Run.fault
      if ((← get).binding? name).any (·.readOnly) then Run.fault
      modify fun state => state.rebind name none
  Run.setStatus 0

def shift : Builtin := fun _ arguments => do
  let n ←
    match arguments with
    | [] => pure 1
    | n :: _ => numberOrFault n
  if (← get).arguments.length < n then Run.fault
  modify fun state =>
    { state with arguments := state.arguments.drop n, status := 0, optionIndex := 1, optionOffset := none }

/-! ### Options of scripts -/

inductive Found where
  | option (letter : UInt8) (value : Text)
  | unknown (letter : UInt8)
  | incomplete (letter : UInt8)
  | nothing
  deriving DecidableEq, Repr

def knownOption? (letter : UInt8) : Text → Option Bool
  | [] => none
  | [b] => if b = letter then some false else none
  | b :: mark :: rest =>
    if b = letter then some (mark = byte ':')
    else if mark = byte ':' then knownOption? letter rest
    else knownOption? letter (mark :: rest)

/-- The option that is next among the words, the number of the word after it, and how much of the word before that has been
looked at. -/
def nextOption (known : Text) (words : List Text) (index : Nat) (offset : Option Nat) : Found × Nat × Option Nat :=
  let current := ((words.take (index - 1)).getLast?).getD []
  let pending := (offset.map fun n => current.drop n).getD []
  let start : Option (Text × Nat) :=
    if ¬ pending.isEmpty && 1 < index then some (pending, index)
    else
      match words[index - 1]? with
      | some (dash :: rest) => if dash = byte '-' && !rest.isEmpty then some (rest, index + 1) else none
      | _ => none
  match start with
  | none => (.nothing, index, none)
  | some (t, index) =>
    if t = "-" && pending.isEmpty then (.nothing, index, none)
    else
      match t with
      | [] => (.nothing, index, none)
      | letter :: rest =>
        let length := (((words.take (index - 1)).getLast?).getD []).length
        let offset := some (length - rest.length)
        match knownOption? letter known with
        | none => (.unknown letter, index, offset)
        | some false => (.option letter [], index, offset)
        | some true =>
          if ¬ rest.isEmpty then (.option letter rest, index, none)
          else
            match words[index - 1]? with
            | some value => (.option letter value, index + 1, none)
            | none => (.incomplete letter, index, offset)

def getOptions : Builtin := fun _ arguments => do
  match arguments with
  | known :: name :: words =>
    let state ← get
    let words := if words.isEmpty then state.arguments else words
    let isPast := words.length + 1 < state.optionIndex
    let (found, index, offset) :=
      nextOption known words (if isPast then 1 else state.optionIndex) (if isPast then none else state.optionOffset)
    let isQuiet := known.head? = some (byte ':')
    let (letter, value) : UInt8 × Option Text :=
      match found with
      | .option letter value => (letter, some value)
      | .unknown letter => (byte '?', if isQuiet then some [letter] else none)
      | .incomplete letter => if isQuiet then (byte ':', some [letter]) else (byte '?', none)
      | .nothing => (byte '?', (state.binding? "OPTARG").bind (·.value))
    match value with
    | some value => Run.assign "OPTARG" value
    | none => modify fun state => state.rebind "OPTARG" none
    Run.assign "OPTIND" (Text.ofNat index)
    if ¬ isName name then Run.fault
    Run.assign name [letter]
    modify fun state => { state with optionIndex := index, optionOffset := offset }
    Run.setStatus (if found = .nothing then 1 else 0)
  | _ => Run.fault

/-! ### Lines of input -/

/-- The first line of a text and the rest; a line can go on after a backslash if `joins`. -/
def readLine (joins : Bool) (done : List Marked) : Text → List Marked × Option Text
  | [] => (done.reverse, none)
  | [b] => if b = byte '\n' then (done.reverse, some []) else (((b, false) :: done).reverse, none)
  | b :: c :: rest =>
    if b = byte '\n' then (done.reverse, some (c :: rest))
    else if joins && b = Text.backslash then
      readLine joins (if c = byte '\n' then done else (c, true) :: done) rest
    else readLine joins ((b, false) :: done) (c :: rest)

/-- Gives the fields of a line to variables; the last one gets all that is left. -/
def distribute (separators : Text) : List Text → List Marked → List (Text × Text)
  | [], _ => []
  | name :: names, line =>
    let isSeparator := fun (next : Marked) => !next.2 && separators.contains next.1
    let isBlank := fun (next : Marked) => isSeparator next && (isSpace next.1 || next.1 = byte '\n')
    let line := line.dropWhile isBlank
    let field := line.takeWhile fun next => !isSeparator next
    let rest := (line.drop field.length).dropWhile isBlank
    let rest := if rest.head?.any fun next => isSeparator next && !isBlank next then rest.tail else rest
    match names with
    | [] =>
      let whole := (line.reverse.dropWhile isBlank).reverse
      [(name, unmark (if (rest.dropWhile isBlank).isEmpty then field else whole))]
    | _ => (name, unmark field) :: distribute separators names rest

/-- The arguments of `read` without its options. -/
def readNames (keeps : Bool) : List Text → Run (Bool × List Text)
  | [] => return (keeps, [])
  | first :: rest =>
    if first = "--" then return (keeps, rest)
    else if first = "-r" then readNames true rest
    else if first = "-p" then
      match rest with
      | [] => Run.fault
      | _ :: rest => readNames keeps rest
    else if first.head? = some (byte '-') && 1 < first.length then Run.fault
    else return (keeps, first :: rest)

def read : Builtin := fun _ arguments => do
  let (keepsBackslashes, names) ← readNames false arguments
  if names.isEmpty then Run.fault
  let state ← get
  let (line, rest) := readLine (!keepsBackslashes) [] ((state.inputOf 0).filter (· ≠ 0))
  set (state.setInput 0 (rest.getD []))
  (distribute state.separators names line).forM fun (name, value) => do
    if ¬ isName name then Run.fault
    Run.assign name value
  Run.setStatus (if rest.isSome then 0 else 1)

end QualityGate.Shell.Builtin
