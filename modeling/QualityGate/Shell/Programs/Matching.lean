import QualityGate.Pattern.Search
import QualityGate.Shell.Programs.Basic

/-!
Programs that look for patterns in lines.
-/

namespace QualityGate.Shell.Programs

open Text (byte)

/-! ### Patterns -/

def swappedMarks : Text := "+?|()\x7b\x7d"

def bracket (first : Bool) (done : Text) : Text → Text × Text
  | [] => (done.reverse, [])
  | b :: rest =>
    if b = byte ']' && !first then ((b :: done).reverse, rest)
    else if b = byte '^' && first && done.length = 1 then bracket true (b :: done) rest
    else if b = Text.backslash then bracket false (b :: b :: done) rest
    else if b = byte ']' then bracket false (b :: Text.backslash :: done) rest
    else if b = byte '[' && rest.head? = some (byte ':') then
      let name := rest.takeWhile (· ≠ byte ']')
      bracket false (byte ']' :: name.reverse ++ b :: done) (rest.drop (name.length + 1))
    else bracket false (b :: done) rest
  termination_by t => t.length
  decreasing_by all_goals simp_all; try omega

/-- A pattern of lines in the spelling of this library; `isBasic` patterns have backslashes where others have none. -/
def spelled (isBasic : Bool) : Nat → Bool → Text → Text
  | 0, _, _ => []
  | _, _, [] => []
  | fuel + 1, first, b :: rest =>
    if b = byte '[' then
      let (inside, rest) := bracket true [b] rest
      inside ++ spelled isBasic fuel false rest
    else if b = Text.backslash then
      match rest with
      | [] => [b, b]
      | c :: rest =>
        if isBasic && swappedMarks.contains c then c :: spelled isBasic fuel (c = byte '(' || c = byte '|') rest
        else if c = byte '<' || c = byte '>' then b :: byte 'b' :: spelled isBasic fuel false rest
        else b :: c :: spelled isBasic fuel false rest
    else if isBasic && swappedMarks.contains b then Text.backslash :: b :: spelled isBasic fuel false rest
    else if isBasic && b = byte '*' && first then Text.backslash :: b :: spelled isBasic fuel false rest
    else b :: spelled isBasic fuel (isBasic && b = byte '^' && first) rest

def literalPattern (t : Text) : Text :=
  t.flatMap fun b => if b < 0x80 && !isNameByte b then [Text.backslash, b] else [b]

def pattern? (isBasic : Bool) (source : Text) : Option Pattern :=
  (Pattern.compile (spelled isBasic (source.length + 1) true source)).toOption

/-! ### Looking for lines -/

/-- How `grep` looks for lines. -/
def linePattern? (arguments : Arguments) (sources : List Text) : Option Pattern := do
  let spell := fun (source : Text) =>
    if arguments.has 'F' then literalPattern source
    else spelled (!arguments.has 'E') (source.length + 1) true source
  let source := Text.join "|" ((sources.flatMap fun t => Text.splitAtByte (byte '\n') t).map fun source =>
    "(?:" ++ spell source ++ ")")
  let source := if arguments.has 'x' then "^(?:" ++ source ++ ")$"
    else if arguments.has 'w' then "\\b(?:" ++ source ++ ")\\b"
    else source
  (Pattern.compile ((if arguments.has 'i' then "(?i)" else "") ++ source)).toOption

def filesUnder : Nat → Text → FileNode → List Text
  | 0, _, _ => []
  | depth + 1, path, node =>
    match node with
    | .directory _ _ => (Text.sortedByName node.listing.entries).flatMap fun (name, inner) =>
      filesUnder depth (path ++ [Path.separator] ++ name) inner
    | .file _ _ => [path]
    | _ => []

def pieces (pattern : Pattern) (line : Text) : List Text :=
  ((pattern.allMatches line).filter fun found => found.start < found.stop).map fun found =>
    Text.slice line found.start found.stop

def search (arguments : List Text) : Run Nat := withArguments "EFGicnqsvwxlLhHora" "emABC" 2 arguments fun arguments => do
  let given := (arguments.options.filter fun found => found.1 = byte 'e').map (·.2)
  let sources := if given.isEmpty then arguments.plain.take 1 else given
  let names := if given.isEmpty then arguments.plain.drop 1 else arguments.plain
  if sources.isEmpty then return 2
  match linePattern? arguments sources with
  | none => return 2
  | some pattern =>
    let workspace := (← get).workspace
    let names := if ¬ arguments.has 'r' then names
      else (if names.isEmpty then [Text.ofString "."] else names).flatMap fun path =>
        match workspace.stat path with
        | .ok node => if node.isDirectory then filesUnder 2100 path node else [path]
        | .error _ => [path]
    let (found, isGood) ← contents names
    let limit := ((arguments.value? 'm').bind number?)
    let kept := fun (content : Text) =>
      let lines := (linesOf content).zipIdx.filter fun entry => (pattern.allMatches entry.1).isEmpty == arguments.has 'v'
      lines.take (limit.getD lines.length)
    let results := found.map fun entry => (entry.1, kept entry.2)
    let isAny := results.any fun result => !result.2.isEmpty
    let labels := (1 < names.length || arguments.has 'H' || arguments.has 'r') && !arguments.has 'h'
    if ¬ arguments.has 'q' then
      results.forM fun (name, lines) => do
        let start : Text := if labels then name ++ ":" else []
        if arguments.has 'l' then Run.print (if lines.isEmpty then [] else name ++ "\n")
        else if arguments.has 'L' then Run.print (if lines.isEmpty then name ++ "\n" else [])
        else if arguments.has 'c' then Run.print (start ++ Text.ofNat lines.length ++ "\n")
        else
          Run.print (lines.flatMap fun entry =>
            let start := if arguments.has 'n' then start ++ Text.ofNat (entry.2 + 1) ++ ":" else start
            if arguments.has 'o' then ofLines ((pieces pattern entry.1).map (start ++ ·)) else start ++ entry.1 ++ "\n")
    return if isAny && (isGood || arguments.has 'q') then 0 else if !isGood then 2 else 1

/-! ### Editing lines -/

inductive Edit where
  | substitute (pattern : Pattern) (replacement : Text) (everywhere shows : Bool)
  | delete
  | display
  | quit

inductive Address where
  | all
  | number (n : Nat)
  | last
  | matching (pattern : Pattern)

/-- The text up to a mark that has no backslash before it, and what follows it. -/
def untilMark (mark : UInt8) (done : Text) : Text → Option (Text × Text)
  | [] => none
  | [b] => if b = mark then some (done.reverse, []) else none
  | b :: c :: rest =>
    if b = mark then some (done.reverse, c :: rest)
    else if b = Text.backslash then
      untilMark mark (if c = mark then c :: done else c :: b :: done) rest
    else untilMark mark (b :: done) (c :: rest)

def address? (isBasic : Bool) (t : Text) : Option (Address × Text) :=
  match t with
  | [] => none
  | b :: rest =>
    if isDigit b then (number? (t.takeWhile isDigit)).map fun n => (.number n, t.dropWhile isDigit)
    else if b = byte '$' then some (.last, rest)
    else if b = Path.separator then do
      let (source, rest) ← untilMark b [] rest
      let pattern ← pattern? isBasic source
      some (.matching pattern, rest)
    else some (.all, t)

def edit? (isBasic : Bool) (t : Text) : Option (Address × Edit) := do
  let (address, rest) ← address? isBasic (t.dropWhile isSpace)
  match rest.dropWhile isSpace with
  | [] => none
  | letter :: rest =>
    if letter = byte 's' then do
      let mark ← rest.head?
      let (source, rest) ← untilMark mark [] rest.tail
      let (replacement, flags) ← untilMark mark [] rest
      let pattern ← pattern? isBasic source
      if ¬ flags.all fun b => (Text.ofString "gpI ").contains b then none
      some (address, .substitute pattern replacement (flags.contains (byte 'g')) (flags.contains (byte 'p')))
    else if ¬ rest.all isSpace then none
    else if letter = byte 'd' then some (address, .delete)
    else if letter = byte 'p' then some (address, .display)
    else if letter = byte 'q' then some (address, .quit)
    else none

def replacementText (line : Text) (found : Pattern.Match) : Text → Text
  | [] => []
  | b :: rest =>
    if b = byte '&' then Text.slice line found.start found.stop ++ replacementText line found rest
    else if b = Text.backslash then
      match rest with
      | [] => [b]
      | c :: rest =>
        if isDigit c then
          let part := if c = byte '0' then some (some (found.start, found.stop)) else found.groups[c.toNat - 49]?
          (match part with
          | some (some (start, stop)) => Text.slice line start stop
          | _ => []) ++ replacementText line found rest
        else (if c = byte 'n' then byte '\n' else c) :: replacementText line found rest
    else b :: replacementText line found rest

def substituted (line replacement : Text) (position : Nat) : List Pattern.Match → Text
  | [] => line.drop position
  | found :: rest =>
    Text.slice line position found.start ++ replacementText line found replacement ++
      substituted line replacement found.stop rest

structure Edited where
  written : List Text := []
  line : Option Text
  quits : Bool := false

def Edited.apply (number : Nat) (isLast : Bool) (edited : Edited) (edit : Address × Edit) : Edited :=
  match edited.line with
  | none => edited
  | some line =>
    let isMeant :=
      match edit.1 with
      | .all => true
      | .number n => n = number
      | .last => isLast
      | .matching pattern => !(pattern.allMatches line).isEmpty
    if !isMeant || edited.quits then edited
    else
      match edit.2 with
      | .delete => { edited with line := none }
      | .display => { edited with written := edited.written ++ [line] }
      | .quit => { edited with quits := true }
      | .substitute pattern replacement everywhere shows =>
        let found := pattern.allMatches line
        let found := if everywhere then found else found.take 1
        let line := substituted line replacement 0 found
        { edited with
          line := some line
          written := if shows && !found.isEmpty then edited.written ++ [line] else edited.written }

def editLines (edits : List (Address × Edit)) (isSilent : Bool) : Nat → List Text → List Text
  | _, [] => []
  | number, line :: rest =>
    let edited := edits.foldl (Edited.apply number rest.isEmpty) { line := some line }
    let written := edited.written ++ if isSilent then [] else edited.line.toList
    if edited.quits then written else written ++ editLines edits isSilent (number + 1) rest

def editStream (arguments : List Text) : Run Nat := withArguments "nErsuz" "e" 1 arguments fun arguments => do
  let given := (arguments.options.filter fun found => found.1 = byte 'e').map (·.2)
  let sources := if given.isEmpty then arguments.plain.take 1 else given
  let names := if given.isEmpty then arguments.plain.drop 1 else arguments.plain
  let isBasic := !(arguments.has 'E' || arguments.has 'r')
  let texts := (sources.flatMap fun t => Text.splitAtByte (byte '\n') t).filter fun t => !t.all isSpace
  if sources.isEmpty then return 1
  match texts.mapM (edit? isBasic) with
  | none => return 1
  | some edits =>
    let (found, isGood) ← contents names
    let input := found.flatMap (·.2)
    let output := ofLines (editLines edits (arguments.has 'n') 1 (linesOf input))
    Run.print (if input.getLast? = some (byte '\n') then output else output.dropLast)
    return if isGood then 0 else 2

end QualityGate.Shell.Programs
