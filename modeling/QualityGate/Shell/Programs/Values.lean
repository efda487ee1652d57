import QualityGate.Shell.Programs.Matching

/-!
Programs that compute numbers and names from their arguments.
-/

namespace QualityGate.Shell.Programs

open Text (byte)

/-! ### Sequences -/

/-- The numbers from one to another, at most so many. -/
def countFrom (first step last : Int) : Nat → List Int
  | 0 => []
  | fuel + 1 =>
    if (0 < step && last < first) || (step < 0 && first < last) then []
    else first :: countFrom (first + step) step last fuel

def sequenceBound : Nat := 1000000

def sequence (arguments : List Text) : Run Nat := do
  let separator := if arguments.head? = some (Text.ofString "-s") then some (arguments[1]?.getD []) else none
  let arguments := if separator.isSome then arguments.drop 2 else arguments
  match arguments.mapM integer? with
  | none => return 1
  | some numbers =>
    let written := fun (first step last : Int) => do
      if step = 0 then return 1
      let texts := (countFrom first step last sequenceBound).map Text.ofInt
      if ¬ texts.isEmpty then Run.print (Text.join (separator.getD "\n") texts ++ "\n")
      return 0
    match numbers with
    | [last] => written 1 1 last
    | [first, last] => written first 1 last
    | [first, step, last] => written first step last
    | _ => return 1

/-! ### Expressions -/

def isNull (t : Text) : Bool :=
  t.isEmpty || integer? t = some 0

def truthText (b : Bool) : Text := if b then "1" else "0"

/-- The value of a match at the beginning of a text: the part in parentheses, or the number of matched characters. -/
def matchValue? (t source : Text) : Option Text := do
  let pattern ← pattern? true ("^" ++ (if source.head? = some (byte '^') then source.tail else source))
  match (pattern.allMatches t).head? with
  | none => some (if Text.occursIn "\\(" source then [] else "0")
  | some found =>
    match found.groups with
    | some (start, stop) :: _ => some (Text.slice t start stop)
    | none :: _ => some []
    | [] => some (Text.ofNat (found.stop - found.start))

def operatorValue? (operator a b : Text) : Option Text :=
  if operator = "|" then some (if isNull a then if isNull b then "0" else b else a)
  else if operator = "&" then some (if isNull a || isNull b then "0" else a)
  else if operator = ":" then matchValue? a b
  else if (["+", "-", "*", "/", "%"] : List Text).contains operator then do
    let m ← integer? a
    let n ← integer? b
    (Arithmetic.result? operator m n).map Text.ofInt
  else
    let order : Ordering :=
      match integer? a, integer? b with
      | some m, some n => compareOfLessAndEq m n
      | _, _ => if a = b then .eq else if Text.before a b then .lt else .gt
    if operator = "=" || operator = "==" then some (truthText (order = .eq))
    else if operator = "!=" then some (truthText (order ≠ .eq))
    else if operator = "<" then some (truthText (order = .lt))
    else if operator = "<=" then some (truthText (order ≠ .gt))
    else if operator = ">" then some (truthText (order = .gt))
    else if operator = ">=" then some (truthText (order ≠ .lt))
    else none

def operatorStrengths : List (Text × Nat) :=
  [("|", 1), ("&", 2), ("=", 3), ("==", 3), ("!=", 3), ("<", 3), ("<=", 3), (">", 3), (">=", 3), ("+", 4), ("-", 4), ("*", 5),
    ("/", 5), ("%", 5), (":", 6)]

def strength? (t : Text) : Option Nat :=
  operatorStrengths.lookup t

def primary? (whole : List Text → Option (Text × List Text)) : List Text → Option (Text × List Text)
  | [] => none
  | first :: rest =>
    if first = "(" then do
      let (value, rest) ← whole rest
      if rest.head? = some (Text.ofString ")") then some (value, rest.tail) else none
    else
      match rest with
      | a :: b :: rest' =>
        if first = "match" then (matchValue? a b).map fun value => (value, rest')
        else if first = "index" then
          some (Text.ofNat (((a.findIdx? (b.contains ·)).map (· + 1)).getD 0), rest')
        else if first = "length" then some (Text.ofNat a.length, b :: rest')
        else
          match rest' with
          | c :: rest'' =>
            if first = "substr" then do
              let start ← integer? b
              let length ← integer? c
              some (if start ≤ 0 || length ≤ 0 then [] else (a.drop (start.toNat - 1)).take length.toNat, rest'')
            else some (first, rest)
          | [] => some (first, rest)
      | [a] => if first = "length" then some (Text.ofNat a.length, []) else some (first, rest)
      | [] => some (first, [])

/-- The value of what follows a left side as far as its operators are at least so strong. -/
def operators? (primary : List Text → Option (Text × List Text)) : Nat → Nat → Text → List Text → Option (Text × List Text)
  | 0, _, _, _ => none
  | fuel + 1, least, left, words =>
    match words with
    | [] => some (left, [])
    | operator :: rest =>
      match strength? operator with
      | none => some (left, words)
      | some strength =>
        if strength < least then some (left, words)
        else do
          let (right, rest) ← primary rest
          let (right, rest) ← operators? primary fuel (strength + 1) right rest
          let value ← operatorValue? operator left right
          operators? primary fuel least value rest

def expression? : Nat → List Text → Option (Text × List Text)
  | 0, _ => none
  | fuel + 1, words => do
    let primary := primary? (expression? fuel)
    let (left, rest) ← primary words
    operators? primary (fuel + 1) 0 left rest

/-- Writes the value of an expression; one that is empty or zero is a failure. -/
def evaluate (arguments : List Text) : Run Nat := do
  let arguments := if arguments.head? = some (Text.ofString "--") then arguments.tail else arguments
  match expression? (arguments.length + 1) arguments with
  | some (t, []) =>
    Run.print (t ++ "\n")
    return if isNull t then 1 else 0
  | _ => return 2

/-! ### Names -/

/-- Writes the last name of a path, without an ending if one is given. -/
def baseName (arguments : List Text) : Run Nat := do
  match arguments.dropWhile fun t => t = Text.ofString "--" with
  | [] => return 1
  | [path] => say (if path.isEmpty then [] else Path.base path)
  | [path, ending] =>
    let name := Path.base path
    say (if name = ending then name else Text.dropEnding name ending)
  | _ => return 1

def directoryPart (path : Text) : Text :=
  let path := Path.dropSeparators path
  let before := (path.reverse.dropWhile (· ≠ Path.separator)).reverse
  if before.isEmpty then if path.isEmpty then "/" else "."
  else
    let directory := Path.dropSeparators before
    if directory.isEmpty then "/" else directory

def directoryName (arguments : List Text) : Run Nat := do
  let paths := arguments.dropWhile fun t => t = Text.ofString "--"
  if paths.isEmpty then return 1
  Run.print (ofLines (paths.map fun path => if path.isEmpty then "." else directoryPart path))
  return 0

def timeUnits : List (UInt8 × Nat) := [(byte 's', 1), (byte 'm', 60), (byte 'h', 3600), (byte 'd', 86400)]

def duration? (t : Text) : Option Nat :=
  let unit := t.getLast?.bind fun b => timeUnits.lookup b
  match leadingFraction? (if unit.isSome then t.dropLast else t) with
  | some (value, []) => if value.negative then none else some (value.scaled 6 * unit.getD 1)
  | _ => none

def sleep (arguments : List Text) : Run Nat := do
  match arguments.mapM duration? with
  | some durations =>
    modify fun state => { state with slept := durations.foldl (· + ·) state.slept }
    return if durations.isEmpty then 1 else 0
  | none => return 1

def showBindings (arguments : List Text) : Run Nat := do
  let state ← get
  let exported := state.bindings.filterMap fun (name, binding) =>
    if binding.exported then binding.value.map fun value => (name, value) else none
  if arguments.isEmpty then
    Run.print (ofLines (exported.map fun (name, value) => name ++ "=" ++ value))
    return 0
  let values := arguments.map fun name => exported.lookup name
  Run.print (ofLines (values.filterMap id))
  return if values.all Option.isSome then 0 else 1

end QualityGate.Shell.Programs
