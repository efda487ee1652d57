import QualityGate.Shell.Programs.Basic

/-!
Programs that copy text from their input to their output, line by line or byte by byte.
-/

namespace QualityGate.Shell.Programs

open Text (byte)

/-- Writes what files hold, after some change; what cannot be read or written gives the status `refused`. -/
def filterOr (refused : Nat) (known valued : Text) (change : Arguments → Text → Option Text) (arguments : List Text) : Run Nat :=
  withArguments known valued refused arguments fun arguments => do
    let (found, isGood) ← contents arguments.plain
    match change arguments (found.flatMap (·.2)) with
    | some t =>
      Run.print t
      return if isGood then 0 else refused
    | none => return refused

def filter : Text → Text → (Arguments → Text → Option Text) → List Text → Run Nat := filterOr 1

def concatenate : List Text → Run Nat := filter "nbsETvuAet" [] fun arguments t =>
  if ¬ arguments.has 'n' then some t
  else some (ofLines ((linesOf t).zipIdx.map fun (line, i) =>
    let number := Text.ofNat (i + 1)
    Text.spaces (6 - number.length) ++ number ++ "\t" ++ line))

def reverseLines : List Text → Run Nat := filter [] [] fun _ t => some (wholeLines t).reverse.flatten

/-- Options such as `-5` in the spelling `-n 5`. -/
def spelledCount (arguments : List Text) : List Text :=
  arguments.flatMap fun t => if isOption t && t.tail.all isDigit then [Text.ofString "-n", t.tail] else [t]

/-- The first so many of some items; a negative number leaves out that many at the end. -/
def firstOf {α : Type} (n : Text) (items : List α) : Option (List α) :=
  if n.head? = some (byte '-') then (number? n.tail).map fun k => items.take (items.length - k)
  else (number? n).map items.take

/-- The last so many of some items; a number with a plus sign counts from the beginning. -/
def lastOf {α : Type} (n : Text) (items : List α) : Option (List α) :=
  if n.head? = some (byte '+') then (number? n.tail).map fun k => items.drop (k - 1)
  else (number? (if n.head? = some (byte '-') then n.tail else n)).map fun k => items.drop (items.length - k)

def head (arguments : List Text) : Run Nat := filter "qvz" "nc" (fun arguments t =>
  match arguments.value? 'c' with
  | some n => firstOf n t
  | none => (firstOf ((arguments.value? 'n').getD "10") (wholeLines t)).map List.flatten) (spelledCount arguments)

def tail (arguments : List Text) : Run Nat := filter "qvzfF" "nc" (fun arguments t =>
  match arguments.value? 'c' with
  | some n => lastOf n t
  | none => (lastOf ((arguments.value? 'n').getD "10") (wholeLines t)).map List.flatten) (spelledCount arguments)

def wordCount (t : Text) : Nat :=
  (t.foldl (fun (count, inWord) b =>
    if isSpace b || (10 ≤ b && b ≤ 13) then (count, false) else (if inWord then count else count + 1, true)) (0, false)).1

def count (arguments : List Text) : Run Nat := withArguments "lwcmL" [] 1 arguments fun arguments => do
  let (found, isGood) ← contents arguments.plain
  let shows := fun (c : Char) => arguments.options.isEmpty || arguments.has c
  let numbers := fun (content : Text) => (if shows 'l' then [Text.newlines content] else []) ++
    (if shows 'w' then [wordCount content] else []) ++
    (if shows 'c' || arguments.has 'm' then [content.length] else [])
  let rows := found.map fun (name, content) => (numbers content, if arguments.plain.isEmpty then [] else [name])
  let total := (rows.map (·.1)).foldl (fun sums row => sums.zipWith (· + ·) row) (numbers [] |>.map fun _ => (0 : Nat))
  let rows := if found.length < 2 then rows else rows ++ [(total, [Text.ofString "total"])]
  let isPlain := arguments.plain.isEmpty && 1 < (numbers []).length
  let width := if isPlain then 7 else if (numbers []).length = 1 && found.length < 2 then 1
    else (Text.ofNat (found.map (·.2.length) |>.foldl (· + ·) 0)).length
  let cell := fun (n : Nat) => Text.spaces (width - (Text.ofNat n).length) ++ Text.ofNat n
  Run.print (ofLines (rows.map fun (numbers, name) => Text.join " " (numbers.map cell ++ name)))
  return if isGood then 0 else 1

def tee (arguments : List Text) : Run Nat := withArguments "aip" [] 1 arguments fun arguments => do
  let input ← Run.takeInput
  Run.print input
  changeAll arguments.plain fun state name => inWorkspace (fun workspace =>
    let old := if arguments.has 'a' then (workspace.read name).toOption.getD [] else []
    (workspace.write name (old ++ input)).toOption) state

/-! ### Columns -/

/-- The numbers that a list such as `1,3-5,7-` names. -/
def ranges? (t : Text) : Option (List (Nat × Option Nat)) :=
  (Text.splitAtByte (byte ',') t).mapM fun part =>
    let first := part.takeWhile (· ≠ byte '-')
    match part.drop first.length with
    | [] => (number? first).bind fun n => if n = 0 then none else some (n, some n)
    | _ :: last => do
      let a ← if first.isEmpty then some 1 else number? first
      let b ← if last.isEmpty then some none else (number? last).map some
      if a = 0 || first.isEmpty && last.isEmpty then none else some (a, b)

def chosen {α : Type} (ranges : List (Nat × Option Nat)) (items : List α) : List α :=
  (items.zipIdx.filter fun (_, i) => ranges.any fun (a, b) => a ≤ i + 1 && b.all (i + 1 ≤ ·)).map (·.1)

def cut : List Text → Run Nat := filter "sz" "bcfd" fun arguments t => do
  let delimiter := ((arguments.value? 'd').bind List.head?).getD (byte '\t')
  match arguments.value? 'f', (arguments.value? 'c').orElse fun _ => arguments.value? 'b' with
  | some list, none =>
    let ranges ← ranges? list
    let lines := (linesOf t).filter fun line => line.contains delimiter || !arguments.has 's'
    some (ofLines (lines.map fun line =>
      if line.contains delimiter then Text.join [delimiter] (chosen ranges (Text.splitAtByte delimiter line)) else line))
  | none, some list =>
    let ranges ← ranges? list
    some (ofLines ((linesOf t).map (chosen ranges)))
  | _, _ => none

/-! ### Bytes -/

/-- The bytes that a set such as `a-z` names. -/
def byteSet : Nat → Text → Text
  | 0, _ => []
  | fuel + 1, t =>
    match t with
    | [] => []
    | a :: rest =>
      if Text.startsWith t "[:" then
        let name := (t.drop 2).takeWhile (· ≠ byte ':')
        let all := (List.range 256).map fun n => UInt8.ofNat n
        let within := fun (low high : Char) (b : UInt8) => byte low ≤ b && b ≤ byte high
        let isMember := fun (b : UInt8) =>
          if name = "upper" then within 'A' 'Z' b
          else if name = "lower" then within 'a' 'z' b
          else if name = "digit" then isDigit b
          else if name = "alpha" then within 'A' 'Z' b || within 'a' 'z' b
          else if name = "alnum" then within 'A' 'Z' b || within 'a' 'z' b || isDigit b
          else if name = "space" then isSpace b || (10 ≤ b && b ≤ 13)
          else if name = "punct" then 33 ≤ b && b ≤ 126 && !isNameByte b || b = byte '_'
          else false
        all.filter isMember ++ byteSet fuel (t.drop (name.length + 4))
      else
        let (a, rest) :=
          if a ≠ Text.backslash then (a, rest)
          else
            let (decoded, _) := unescape false 2 [] (t.take 2)
            if rest.isEmpty then (a, []) else (decoded.getLastD a, rest.tail)
        match rest with
        | dash :: b :: after =>
          if dash = byte '-' then
            (List.range (b.toNat + 1 - a.toNat)).map (fun i => a + UInt8.ofNat i) ++ byteSet fuel after
          else a :: byteSet fuel rest
        | _ => a :: byteSet fuel rest

/-- A text in which of equal neighbours among some bytes only the first is left. -/
def squeezed (set : Text) (t : Text) : Text :=
  (t.foldl (fun done b => if done.head? = some b && set.contains b then done else b :: done) []).reverse

def translate (arguments : List Text) : Run Nat := withArguments "cCdst" [] 1 arguments fun arguments => do
  let sets := arguments.plain.map fun t => byteSet (t.length + 1) t
  let isInverse := arguments.has 'c' || arguments.has 'C'
  match sets with
  | [] => return 1
  | first :: rest =>
    let first := if isInverse then ((List.range 256).map UInt8.ofNat).filter (!first.contains ·) else first
    let input ← Run.takeInput
    let second := rest.headD []
    let squeezes := fun (set t : Text) => if arguments.has 's' then squeezed set t else t
    if arguments.has 'd' then
      Run.print (squeezes second (input.filter (!first.contains ·)))
      return 0
    else if rest.isEmpty then
      if ¬ arguments.has 's' then return 1
      Run.print (squeezed first input)
      return 0
    else
      let last := second.getLastD 0
      Run.print (squeezes second (input.map fun b =>
        match first.findIdx? (· = b) with
        | some i => (second[i]?).getD last
        | none => b))
      return 0

/-! ### Order -/

def sortNumber (line : Text) : Int := ((leadingFraction? line).map fun (value, _) =>
  let n : Int := value.scaled 6
  if value.negative then -n else n).getD 0

def sortLines : List Text → Run Nat := filterOr 2 "nrufbsdg" "ktoS" fun arguments t =>
  let key := fun (line : Text) =>
    match (arguments.value? 'k').bind fun k => number? (k.takeWhile isDigit) with
    | none => line
    | some k =>
      match (arguments.value? 't').bind List.head? with
      | some mark => ((Text.splitAtByte mark line)[k - 1]?).getD []
      | none => (((Text.splitAtByte (byte ' ') line).filter (!·.isEmpty))[k - 1]?).getD []
  let isBefore := fun (a b : Text) =>
    if arguments.has 'n' && sortNumber (key a) ≠ sortNumber (key b) then sortNumber (key a) < sortNumber (key b)
    else if key a ≠ key b then Text.before (key a) (key b)
    else Text.before a b
  let lines := (linesOf t).mergeSort fun a b => !isBefore b a
  let lines := if arguments.has 'r' then lines.reverse else lines
  let isSame := fun (a b : Text) => if arguments.has 'n' then sortNumber (key a) = sortNumber (key b) else key a = key b
  let unique := lines.foldl (fun done line => if done.head?.any (isSame line) then done else line :: done) []
  some (ofLines (if arguments.has 'u' then unique.reverse else lines))

/-- Runs of equal lines, each with its length, the last one first. -/
def runs (lines : List Text) : List (Nat × Text) :=
  lines.foldl (fun done line =>
    match done with
    | (n, last) :: rest => if last = line then (n + 1, last) :: rest else (1, line) :: done
    | [] => [(1, line)]) []

def uniqueLines (arguments : List Text) : Run Nat := filter "cdui" "fsw" (fun arguments t =>
  let runs := (runs (linesOf t)).reverse.filter fun run =>
    (!arguments.has 'd' || 1 < run.1) && (!arguments.has 'u' || run.1 = 1)
  some (ofLines (runs.map fun (n, line) =>
    if arguments.has 'c' then Text.spaces (7 - (Text.ofNat n).length) ++ Text.ofNat n ++ " " ++ line else line)))
  arguments

def compare (arguments : List Text) : Run Nat := withArguments "sqlbiwBruNa" "UC" 2 arguments fun arguments => do
  match arguments.plain with
  | [_, _] =>
    let (found, isGood) ← contents arguments.plain
    if ¬ isGood then return 2
    match found with
    | [a, b] => return if a.2 = b.2 then 0 else 1
    | _ => return 2
  | _ => return 2

end QualityGate.Shell.Programs
