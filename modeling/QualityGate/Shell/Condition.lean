import QualityGate.Shell.Arithmetic

/-!
Conditions on texts, numbers and files.
-/

namespace QualityGate.Shell

open Text (byte)

def unaryConditions : List Text :=
  ["-b", "-c", "-d", "-e", "-f", "-g", "-h", "-k", "-L", "-n", "-O", "-G", "-p", "-r", "-s", "-S", "-t", "-u", "-w", "-x",
    "-z"]

def binaryConditions : List Text :=
  ["=", "!=", "<", ">", "-eq", "-ne", "-gt", "-ge", "-lt", "-le", "-nt", "-ot", "-ef"]

def isUnaryCondition (t : Text) : Bool := unaryConditions.contains t

def isBinaryCondition (t : Text) : Bool := binaryConditions.contains t

def decimal? (t : Text) : Option Int :=
  let isBlank := fun (b : UInt8) => b = byte ' ' || (9 ≤ b && b ≤ 13)
  (integer? ((t.dropWhile isBlank).reverse.dropWhile isBlank).reverse).filter (·.natAbs ≤ largestWord)

def isFile : FileNode → Bool
  | .file _ _ => true
  | _ => false

def isFilled : FileNode → Bool
  | .file content _ => !content.isEmpty
  | node => node.isDirectory

def isLink : FileNode → Bool
  | .link _ => true
  | _ => false

/-- Whether something holds of one word; nothing if it should be a number and is not. -/
def holdsOf? (state : State) (operator t : Text) : Option Bool :=
  let target := (state.workspace.find true t).toOption.filter fun target => target.node.isOk
  let node := target.bind (·.node?)
  let isDevice := target.any fun target => Machine.isDevice target.location
  if operator = "-n" then some !t.isEmpty
  else if operator = "-z" then some t.isEmpty
  else if operator = "-t" then (decimal? t).map fun _ => false
  else if operator = "-d" then some (node.any FileNode.isDirectory)
  else if operator = "-f" then some (node.any isFile && !isDevice)
  else if operator = "-s" then some (node.any isFilled)
  else if operator = "-p" then some (node.any FileNode.isPipe)
  else if operator = "-c" then some isDevice
  else if operator = "-h" || operator = "-L" then some ((state.workspace.entry t).toOption.any isLink)
  else if operator = "-e" || operator = "-r" || operator = "-w" || operator = "-O" || operator = "-G" then some node.isSome
  else if operator = "-x" then
    some (node.any FileNode.isDirectory || target.any fun target => state.executables.contains target.location)
  else some false

/-- Whether something holds of two words; nothing if they should be numbers and are not. -/
def holdsBetween? (state : State) (a operator b : Text) : Option Bool :=
  if operator = "=" then some (a = b)
  else if operator = "!=" then some (a ≠ b)
  else if operator = "<" then some (Text.before a b)
  else if operator = ">" then some (Text.before b a)
  else if operator = "-nt" || operator = "-ot" then some false
  else if operator = "-ef" then
    let location := fun (t : Text) =>
      ((state.workspace.find true t).toOption.filter (·.node?.isSome)).map (·.location)
    some ((location a).isSome && location a = location b)
  else do
    let a ← decimal? a
    let b ← decimal? b
    some (if operator = "-eq" then a = b
      else if operator = "-ne" then a ≠ b
      else if operator = "-gt" then b < a
      else if operator = "-ge" then b ≤ a
      else if operator = "-lt" then a < b
      else a ≤ b)

/-- Whether a word that could ask something of the next one is to be taken for itself: nothing follows it, or the next one
joins it to a third. -/
def standsAlone : List Text → Bool
  | [] => true
  | [_] => false
  | next :: _ => isBinaryCondition next

/-- One condition without a connective, and the words after it. -/
def readCondition (state : State) (inParentheses : List Text → Option (Bool × List Text)) (words : List Text) :
    Option (Bool × List Text) :=
  match words with
  | [] => some (false, [])
  | first :: rest =>
    if first = "(" && !rest.isEmpty then
      if rest.head? = some (Text.ofString ")") then some (false, rest.tail)
      else do
        let (holds, rest) ← inParentheses rest
        if rest.head? = some (Text.ofString ")") then some (holds, rest.tail) else none
    else if isUnaryCondition first && !standsAlone rest then
      (holdsOf? state first (rest.headD [])).map fun holds => (holds, rest.tail)
    else
      match rest with
      | operator :: second :: after =>
        if isBinaryCondition operator then (holdsBetween? state first operator second).map fun holds => (holds, after)
        else some (!first.isEmpty, rest)
      | [operator] => if isBinaryCondition operator then none else some (!first.isEmpty, rest)
      | [] => some (!first.isEmpty, rest)

def readNegations (state : State) (inParentheses : List Text → Option (Bool × List Text)) :
    List Text → Option (Bool × List Text)
  | [] => some (false, [])
  | first :: rest =>
    if first = "!" then (readNegations state inParentheses rest).map fun (holds, rest) => (!holds, rest)
    else readCondition state inParentheses (first :: rest)

def readConnected (connective : Text) (join : Bool → Bool → Bool) (part : List Text → Option (Bool × List Text)) :
    Nat → List Text → Option (Bool × List Text)
  | 0, _ => none
  | fuel + 1, words => do
    let (holds, rest) ← part words
    if rest.head? = some connective then do
      let (others, rest) ← readConnected connective join part fuel rest.tail
      some (join holds others, rest)
    else some (holds, rest)

/-- A whole condition, and the words after it. -/
def readConditions (state : State) : Nat → List Text → Option (Bool × List Text)
  | 0, _ => none
  | fuel + 1, words =>
    let negations := readNegations state (readConditions state fuel)
    readConnected "-o" (· || ·) (readConnected "-a" (· && ·) negations (fuel + 1)) (fuel + 1) words

/-- Whether a condition holds; nothing when it is not one. -/
def holds? (state : State) (words : List Text) : Option Bool :=
  let whole := fun (words : List Text) =>
    match readConditions state (words.length + 1) words with
    | some (holds, []) => some holds
    | _ => none
  match words with
  | [a, operator, b] =>
    if isBinaryCondition operator then holdsBetween? state a operator b
    else if a = "(" && b = ")" then whole [operator]
    else if a = "!" then (whole [operator, b]).map (!·)
    else whole words
  | [a, b, c, d] =>
    if a = "(" && d = ")" then whole [b, c]
    else if a = "!" then (whole [b, c, d]).map (!·)
    else whole words
  | _ => whole words

def conditionStatus (state : State) (words : List Text) : Nat :=
  match holds? state words with
  | some true => 0
  | some false => 1
  | none => 2

def bracketStatus (state : State) (words : List Text) : Nat :=
  if words.getLast? = some (Text.ofString "]") then conditionStatus state words.dropLast else 2

end QualityGate.Shell
