import QualityGate.Shell.Builtin.Bindings

/-!
Commands that change how a shell behaves: its options, aliases and limits.
-/

namespace QualityGate.Shell.Builtin

open Text (byte)

/-! ### Options -/

def optionNames : List (Text × Option Char) :=
  [("errexit", some 'e'), ("noglob", some 'f'), ("ignoreeof", some 'I'), ("interactive", some 'i'), ("monitor", some 'm'),
    ("noexec", some 'n'), ("stdin", some 's'), ("xtrace", some 'x'), ("verbose", some 'v'), ("vi", some 'V'),
    ("emacs", some 'E'), ("noclobber", some 'C'), ("allexport", some 'a'), ("notify", some 'b'), ("nounset", some 'u'),
    ("privileged", some 'p'), ("nolog", none), ("debug", none)]

def setOption (isOn : Bool) (letter : UInt8) : Run Unit := modify fun state =>
  let others := state.letters.filter (· ≠ letter)
  { state with letters := if isOn then letter :: others else others }

def setNamed (isOn : Bool) (name : Text) : Run Unit :=
  match optionNames.lookup name with
  | some (some letter) => setOption isOn (byte letter)
  | some none => pure ()
  | none => Run.fault

def optionListing (asCommands : Bool) (state : State) : Text :=
  let line := fun (name : Text) (isOn : Bool) => (
    if asCommands then "set " ++ (if isOn then "-o " else "+o ") ++ name ++ "\n"
    else name ++ Text.spaces (16 - name.length) ++ (if isOn then "on" else "off") ++ "\n" : Text)
  (if asCommands then [] else Text.ofString "Current option settings\n") ++
    optionNames.flatMap fun entry => line entry.1 (entry.2.any state.has)

structure AfterOptions where
  rest : List Text
  /-- What is left are the arguments, even if there are none. -/
  isFinal : Bool := false
  /-- The first of what is left is a script. -/
  hasScript : Bool := false
  deriving DecidableEq, Repr

/-- Sets the options of some letters; each `o` among them takes a name from what follows. A script can be announced, and a
login asked for, only if `atStart`. -/
def setLetters (atStart isOn : Bool) (after : AfterOptions) : Text → Run AfterOptions
  | [] => return after
  | letter :: letters => do
    if atStart && letter = byte 'c' then setLetters atStart isOn { after with hasScript := true } letters
    else if atStart && letter = byte 'l' then setLetters atStart isOn after letters
    else if letter = byte 'o' then
      match after.rest with
      | [] =>
        Run.print (optionListing (!isOn) (← get))
        setLetters atStart isOn after letters
      | name :: rest =>
        setNamed isOn name
        setLetters atStart isOn { after with rest } letters
    else
      if ¬ State.allLetters.contains letter then Run.fault
      setOption isOn letter
      setLetters atStart isOn after letters

/-- Sets options, as many as `fuel` at most. -/
def setOptions (atStart : Bool) : Nat → AfterOptions → Run AfterOptions
  | 0, after => return after
  | fuel + 1, after => do
    match after.rest with
    | (sign :: letters) :: rest =>
      if sign ≠ byte '-' && sign ≠ byte '+' then return after
      else if sign = byte '-' && letters.isEmpty then
        if ¬ atStart then
          setOption false (byte 'x')
          setOption false (byte 'v')
        return { after with rest }
      else if sign = byte '-' && letters = "-" then return { after with rest, isFinal := true }
      else setOptions atStart fuel (← setLetters atStart (sign = byte '-') { after with rest } letters)
    | _ => return after

def configure : Builtin := fun _ arguments => do
  if arguments.isEmpty then Run.print (listing [] (fun _ => true) (← get))
  else
    let after ← setOptions false (arguments.length + 1) { rest := arguments }
    if ¬ after.rest.isEmpty || after.isFinal then
      modify fun state => { state with arguments := after.rest, optionIndex := 1, optionOffset := none }
  Run.setStatus 0

/-! ### Aliases -/

def aliasLine (name text : Text) : Text := name ++ "=" ++ shellQuoted text ++ "\n"

def aliasGroup (name : Text) : Nat := (name.foldl (fun sum b => sum + b.toNat) ((name.headD 0).toNat * 16)) % 39

def sortedAliases (aliases : List (Text × Text)) : List (Text × Text) :=
  aliases.mergeSort fun a b => aliasGroup a.1 ≤ aliasGroup b.1

def setEntry (name text : Text) (aliases : List (Text × Text)) : List (Text × Text) :=
  if (aliases.lookup name).isNone then aliases ++ [(name, text)]
  else aliases.map fun entry => if entry.1 = name then (name, text) else entry

def setAliases : Builtin := fun _ arguments => do
  Run.setStatus 0
  if arguments.isEmpty then Run.print ((sortedAliases (← get).aliases).flatMap fun entry => aliasLine entry.1 entry.2)
  arguments.forM fun argument => do
    let name := argument.takeWhile (· ≠ byte '=')
    match argument.drop name.length with
    | _ :: text =>
      if name.isEmpty then Run.setStatus 1
      else modify fun state => { state with aliases := setEntry name text state.aliases }
    | [] =>
      match (← get).aliases.lookup name with
      | some text => Run.print (aliasLine name text)
      | none => Run.setStatus 1

def removeAliases : Builtin := fun _ arguments => do
  let (letters, names) ← optionsOf "a" [] arguments
  Run.setStatus 0
  if ¬ letters.isEmpty then modify fun state => { state with aliases := [] }
  else
    names.forM fun name => do
      if ((← get).aliases.lookup name).isNone then Run.setStatus 1
      modify fun state => { state with aliases := state.aliases.filter (·.1 ≠ name) }

/-! ### Permissions of new files -/

def allPermissions : Nat := 0o777

def permissionBits (b : UInt8) : Nat :=
  if b = byte 'r' then 0o444 else if b = byte 'w' then 0o222 else if b = byte 'x' then 0o111 else 0

def holderBits (b : UInt8) : Nat :=
  if b = byte 'u' then 0o700 else if b = byte 'g' then 0o070 else if b = byte 'o' then 0o007 else allPermissions

/-- The permissions after changes such as `u=rw,g+x`; nothing when they cannot be read. -/
def changedPermissions? : Nat → Nat → Text → Option Nat
  | 0, _, _ => none
  | fuel + 1, permissions, t => do
    let holders := t.takeWhile fun b => (Text.ofString "ugoa").contains b
    let affected := if holders.isEmpty then allPermissions else (holders.map holderBits).foldl (· ||| ·) 0
    let rest := t.drop holders.length
    let operator ← rest.head?.filter fun b => (Text.ofString "=+-").contains b
    let letters := rest.tail.takeWhile fun b => (Text.ofString "rwxXst").contains b
    let bits := (letters.map permissionBits).foldl (· ||| ·) 0 &&& affected
    let others := permissions &&& (allPermissions ^^^ affected)
    let permissions :=
      if operator = byte '+' then permissions ||| bits
      else if operator = byte '-' then permissions &&& (allPermissions ^^^ bits)
      else others ||| bits
    match rest.tail.drop letters.length with
    | [] => some permissions
    | b :: after =>
      if b = byte ',' then changedPermissions? fuel permissions after
      else if (Text.ofString "=+-").contains b then changedPermissions? fuel permissions (holders ++ (b :: after))
      else none

def permissionLetters (permissions : Nat) : Text :=
  let letters := fun (holder : UInt8) =>
    (Text.ofString "rwx").filter fun b => permissions &&& permissionBits b &&& holderBits holder ≠ 0
  Text.join "," ((Text.ofString "ugo").map fun holder => [holder, byte '='] ++ letters holder)

def permissionMask : Builtin := fun _ arguments => do
  let (letters, rest) ← optionsOf "S" [] arguments
  let mask := (← get).mask
  match rest with
  | [] =>
    let digits := (Nat.toDigits 8 mask).map byte
    Run.print ((if letters.isEmpty then List.replicate (4 - digits.length) (byte '0') ++ digits
      else permissionLetters (allPermissions ^^^ mask)) ++ "\n")
  | value :: _ =>
    let mask ←
      if value.head?.any isDigit then
        match digits? 8 value with
        | some n => pure (n % (allPermissions + 1))
        | none => Run.fault
      else
        match changedPermissions? (value.length + 1) (allPermissions ^^^ mask) value with
        | some permissions => pure (allPermissions ^^^ permissions)
        | none => Run.fault
    modify fun state => { state with mask }
  Run.setStatus 0

/-! ### Limits -/

/-- Shows or sets a limit; what is set has no effect here. -/
def limit : Builtin := fun _ arguments => do
  let (letters, rest) ← optionsOf "HSatfdscmlpnvwr" [] arguments
  match rest with
  | [] => Run.print "unlimited\n"
  | [value] => if value ≠ "unlimited" && (letters.contains (byte 'a') || (number? value).isNone) then Run.fault
  | _ => Run.fault
  Run.setStatus 0

end QualityGate.Shell.Builtin
