import QualityGate.Shell.Arithmetic
import QualityGate.Shell.Wildcard

/-!
What the words of a script stand for. Expansions outside quotes are split into fields, and fields with wildcards are
replaced by the paths that they match.
-/

namespace QualityGate.Shell

open Text (byte)

/-! ### Fields -/

inductive Segment where
  /-- Text that is not split. -/
  | whole (t : List Marked)
  /-- Text that is split into fields. -/
  | split (t : Text)
  /-- The end of a field, and what stands there when the word is one text. Where it counts as space, there is no field
  between it and a separator. -/
  | boundary (joint : Text) (isSpace : Bool)
  /-- No arguments at all, where all of them were asked for. -/
  | nothing
  deriving DecidableEq, Repr

structure Fields where
  done : List (List Marked) := []
  current : Option (List Marked) := none
  /-- A field was ended by space, so that a separator right after it does not end another one. -/
  spaced : Bool := false
  deriving DecidableEq, Repr

namespace Fields

def close (fields : Fields) : Fields :=
  match fields.current with
  | some field => { done := field.reverse :: fields.done }
  | none => fields

def push (fields : Fields) (next : Marked) : Fields :=
  { fields with current := some (next :: fields.current.getD []), spaced := false }

/-- Adds a byte of text that is split. Space between fields does not count, other separators end a field each. -/
def feed (separators : Text) (fields : Fields) (b : UInt8) : Fields :=
  if ¬ separators.contains b then fields.push (b, false)
  else if isSpace b || b = byte '\n' then
    if fields.current.isSome then { fields.close with spaced := true } else fields
  else if fields.current.isSome then fields.close
  else if fields.spaced then { fields with spaced := false }
  else { fields with done := [] :: fields.done }

def add (separators : Text) (fields : Fields) : Segment → Fields
  | .whole t =>
    { fields with current := some (t.reverse ++ fields.current.getD []), spaced := false }
  | .split t => t.foldl (feed separators) fields
  | .boundary _ isSpace =>
    if ¬ isSpace then { fields.close with spaced := false }
    else if fields.current.isSome then { fields.close with spaced := true }
    else fields
  | .nothing => fields

def ofSegments (separators : Text) (segments : List Segment) : List (List Marked) :=
  (segments.foldl (add separators) {}).close.done.reverse

end Fields

def joinSegments (segments : List Segment) : List Marked :=
  segments.flatMap fun
    | .whole t => t
    | .split t => mark false t
    | .boundary joint _ => mark true joint
    | .nothing => []

/-! ### Parameters -/

structure Reference where
  name : Text
  /-- The length of the value is asked for. -/
  measures : Bool := false
  operator : Text := []
  word : Text := []
  deriving DecidableEq, Repr

def nameOf? (t : Text) : Option (Text × Text) :=
  match t with
  | [] => none
  | b :: rest =>
    if isDigit b then some (t.takeWhile isDigit, t.dropWhile isDigit)
    else if startsName b then some (t.takeWhile isNameByte, t.dropWhile isNameByte)
    else if specialParameters.contains b then some ([b], rest)
    else none

/-- The operators after the name of a parameter, the longest first. -/
def referenceOperators : List Text := [":-", ":=", ":?", ":+", "%%", "##", "-", "=", "?", "+", "%", "#"]

def Reference.parse? (t : Text) : Option Reference :=
  match t with
  | [] => none
  | b :: rest =>
    match if b = byte '#' then nameOf? rest else none with
    | some (name, []) => some { name, measures := true }
    | found =>
      if b = byte '#' && found.isNone && rest.length = 1 then none
      else do
        let (name, rest) ← nameOf? t
        if rest.isEmpty then some { name }
        else
          let operator ← referenceOperators.find? (Text.startsWith rest ·)
          some { name, operator, word := rest.drop operator.length }

def segmentOf (inQuotes : Bool) (t : Text) : Segment := if inQuotes then .whole (mark true t) else .split t

/-- What a parameter stands for. All arguments stay apart from each other. -/
def State.segments (state : State) (name : Text) (inQuotes : Bool) : List Segment :=
  if (name = "@" || name = "*") && !(name = "*" && inQuotes) then
    if state.arguments.isEmpty then [.nothing]
    else (state.arguments.map (segmentOf inQuotes)).intersperse (.boundary (state.separators.take 1) (!inQuotes))
  else [segmentOf inQuotes ((state.parameter? name).getD [])]

/-- A value without the part at one of its ends that a pattern matches. -/
def trimmed (operator : Text) (pattern : List Marked) (t : Text) : Text :=
  let items := wildcards (pattern.length + 1) pattern
  let atEnd := operator.head? = some (byte '%')
  let lengths := if atEnd then matchLengths items.reverse t.reverse else matchLengths items t
  match if operator.length = 2 then lengths.head? else lengths.getLast? with
  | some length => if atEnd then t.take (t.length - length) else t.drop length
  | none => t

/-! ### Words -/

/-- The home directory of a user; no name stands for the one who runs the shell. -/
def State.home? (state : State) (user : Text) : Option Text :=
  if user.isEmpty then (state.binding? "HOME").bind (·.value)
  else if user = "root" then some "/root"
  else none

/-- Replaces the tilde at the front of a text, and the name after it, by a home directory. The name ends before a separator,
or before a colon if `inList`; `isWhole` says that nothing else follows the text in its word. -/
def tilde? (state : State) (inList isWhole : Bool) (t : Text) : Option (Text × Text) :=
  match t with
  | b :: rest =>
    if b ≠ byte '~' then none
    else
      let user := rest.takeWhile fun c => c ≠ Path.separator && !(inList && c = byte ':')
      let after := rest.drop user.length
      if after.isEmpty && !isWhole then none else (state.home? user).map fun home => (home, after)
  | [] => none

def tildesAfterColons (state : State) (isWhole : Bool) : Nat → Text → List Piece
  | 0, t => [.plain t]
  | fuel + 1, t =>
    let before := t.takeWhile (· ≠ byte ':')
    match t.drop before.length with
    | [] => [.plain t]
    | colon :: rest =>
      match tilde? state true isWhole rest with
      | some (home, after) =>
        .plain (before ++ [colon]) :: .quoted home :: tildesAfterColons state isWhole fuel after
      | none =>
        .plain (before ++ [colon]) :: tildesAfterColons state isWhole fuel rest

/-- A word with home directories in place of tildes: at its front and, if `inList`, after colons. -/
def withHome (state : State) (inList : Bool) (word : Word) : Word :=
  let afterColons := fun (word : Word) =>
    if ¬ inList then word
    else word.zipIdx.flatMap fun (piece, i) =>
      match piece with
      | .plain t => tildesAfterColons state (i + 1 = word.length) (t.length + 1) t
      | piece => [piece]
  match word with
  | .plain t :: rest =>
    match tilde? state inList rest.isEmpty t with
    | some (home, after) => .quoted home :: afterColons (.plain after :: rest)
    | none => afterColons word
  | _ => afterColons word

/-- The output of a script without the line breaks at its end. -/
def captured (runScript : Text → Run Unit) (script : Text) : Run Text := do
  let pipe := (← get).nextPipe
  modify (·.withPipe [])
  let ending ← Run.apart (fun state => { state.copy.withStream 1 (.writes pipe) with tested := false }) (runScript script)
  let output := (((← get).pipes.lookup pipe).map Pipe.content).getD []
  modify fun state => { state.withoutPipe pipe with substituted := ending.status }
  return (output.filter (· ≠ 0)).reverse.dropWhile (· = byte '\n') |>.reverse

/-- The parts that a word stands for. Text that is not quoted is split if `splitsText`. Words in words go `depth` deep. -/
def segments (runScript : Text → Run Unit) : Nat → Bool → Word → Run (List Segment)
  | 0, _, _ => Run.fault
  | depth + 1, splitsText, word => do
    let inner := fun (context : Context) (t : Text) => do
      let state ← get
      match piecesIn? context t with
      | some word =>
        let word := if context = .braces then withHome state false word else word
        segments runScript depth (context = .braces) word
      | none => Run.fault
    let parts ← word.mapM fun piece => do
      match piece with
      | .plain t => return [if splitsText then .split t else .whole (mark false t)]
      | .quoted t => return [.whole (mark true t)]
      | .command script inQuotes => return [segmentOf inQuotes (← captured runScript script)]
      | .arithmetic expression inQuotes =>
        let text := unmark (joinSegments (← inner .document expression))
        match Arithmetic.parse? text with
        | some e => return [segmentOf inQuotes (Text.ofInt (← e.value))]
        | none => Run.fault
      | .parameter expression inQuotes =>
        match Reference.parse? expression with
        | none => Run.fault
        | some reference =>
          let state ← get
          let name := reference.name
          let value := state.parameter? name
          let isList := name = "@" || name = "*"
          let context := if inQuotes then Context.quotedBraces else .braces
          let operator := reference.operator
          let needsValue := operator.isEmpty || operator.head?.any fun b => b = byte '%' || b = byte '#'
          if state.refusesUnset && value.isNone && needsValue && !isList then Run.fault
          else if reference.measures then
            return [segmentOf inQuotes (Text.ofNat (value.getD []).length)]
          else if operator.isEmpty then return state.segments name inQuotes
          else if needsValue then
            let pattern := joinSegments (← inner .braces reference.word)
            if name = "@" && inQuotes then
              let joined := trimmed operator pattern (Text.join [0] state.arguments)
              return ((Text.splitAtByte 0 joined).map (segmentOf true)).intersperse
                (.boundary (state.separators.take 1) false)
            else return [segmentOf inQuotes (trimmed operator pattern (value.getD []))]
          else
            let isAbsent := if operator.head? = some (byte ':') then (value.getD []).isEmpty else value.isNone
            let kind := operator.getLast?
            if kind = some (byte '+') then if isAbsent then return [] else inner context reference.word
            else if ¬ isAbsent then return state.segments name inQuotes
            else if kind = some (byte '-') then inner context reference.word
            else if kind = some (byte '=') && isName name then
              let value := unmark (joinSegments (← inner context reference.word))
              Run.assign name value
              return [segmentOf inQuotes value]
            else Run.fault
    return parts.flatten

def expand (runScript : Text → Run Unit) (word : Word) : Run (List Text) := do
  let segments ← segments runScript wordDepth false (withHome (← get) false word)
  let state ← get
  let fields := Fields.ofSegments state.separators segments
  return if state.keepsWildcards then fields.map unmark else fields.flatMap (expandPaths state.workspace)

def expandAll (runScript : Text → Run Unit) (words : List Word) : Run (List Text) := do
  return (← words.mapM (expand runScript)).flatten

def expandMarked (runScript : Text → Run Unit) (word : Word) : Run (List Marked) := do
  return joinSegments (← segments runScript wordDepth false (withHome (← get) false word))

def expandText (runScript : Text → Run Unit) (word : Word) : Run Text := do
  return unmark (← expandMarked runScript word)

def expandValue (runScript : Text → Run Unit) (word : Word) : Run Text := do
  return unmark (joinSegments (← segments runScript wordDepth false (withHome (← get) true word)))

end QualityGate.Shell
