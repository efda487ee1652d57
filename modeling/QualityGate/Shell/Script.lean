import QualityGate.Shell.Lexeme

/-!
The commands of a shell script and what joins them. A script is read one line of commands at a time, so that what stands
in front of a line that cannot be read is still run.
-/

namespace QualityGate.Shell

open Text (byte)

def wordDepth : Nat := 1000

inductive Redirection where
  | to (stream : Nat) (operator : Text) (target : Word)
  | document (stream : Nat) (content : Word)
  deriving DecidableEq, Repr

inductive Command where
  | simple (words : List Word)
  | pipeline (commands : List Command)
  | negated (command : Command)
  | both (first second : Command)
  | either (first second : Command)
  | background (command : Command)
  | sequence (commands : List Command)
  | subshell (body : Command)
  | branch (test body otherwise : Command)
  /-- A loop that goes on while the test succeeds, or until it does. -/
  | loop (untilSuccess : Bool) (test body : Command)
  | each (name : Text) (words : Option (List Word)) (body : Command)
  | select (word : Word) (arms : List (List Word × Command))
  | define (name : Text) (body : Command)
  | redirected (command : Command) (redirections : List Redirection)

/-! ### Lexemes with a meaning -/

def reservedWords : List Text :=
  ["!", "\x7b", "\x7d", "case", "do", "done", "elif", "else", "esac", "fi", "for", "if", "in", "then", "until",
    "while"]

def spelling? : Lexeme → Option Text
  | .word [.plain t] => some t
  | _ => none

def startsWithWord (t : Text) : List Lexeme → Bool
  | lexeme :: _ => spelling? lexeme = some t
  | [] => false

def startsWithOperator (t : Text) : List Lexeme → Bool
  | lexeme :: _ => lexeme = .operator t
  | [] => false

def afterWord? (t : Text) (lexemes : List Lexeme) : Option (List Lexeme) :=
  if startsWithWord t lexemes then some lexemes.tail else none

def afterOperator? (t : Text) (lexemes : List Lexeme) : Option (List Lexeme) :=
  if startsWithOperator t lexemes then some lexemes.tail else none

def skipLines (lexemes : List Lexeme) : List Lexeme := lexemes.dropWhile (· = .operator "\n")

def closingWords : List Text := ["\x7d", "do", "done", "elif", "else", "esac", "fi", "then"]

def endsList : List Lexeme → Bool
  | [] => true
  | lexeme :: _ =>
    lexeme = .operator ")" || lexeme = .operator ";;" || (spelling? lexeme).any (closingWords.contains ·)

/-! ### Parts of commands -/

def readRedirections (done : List Redirection) : List Lexeme → Option (List Redirection × List Lexeme)
  | .redirection stream operator :: .word target :: rest =>
    readRedirections (.to stream operator target :: done) rest
  | .redirection _ _ :: _ => none
  | .document stream content :: rest => readRedirections (.document stream content :: done) rest
  | rest => some (done.reverse, rest)

def withRedirections (command : Command) (redirections : List Redirection) : Command :=
  if redirections.isEmpty then command else .redirected command redirections

def readSimple (words : List Word) (redirections : List Redirection) : List Lexeme → Option (Command × List Lexeme)
  | .word word :: rest => readSimple (word :: words) redirections rest
  | .redirection stream operator :: .word target :: rest =>
    readSimple words (.to stream operator target :: redirections) rest
  | .redirection _ _ :: _ => none
  | .document stream content :: rest => readSimple words (.document stream content :: redirections) rest
  | rest =>
    if words.isEmpty && redirections.isEmpty then none
    else some (withRedirections (.simple words.reverse) redirections.reverse, rest)

def readWords (done : List Word) : List Lexeme → Option (List Word × List Lexeme)
  | .word word :: rest => readWords (word :: done) rest
  | rest =>
    if startsWithOperator ";" rest || startsWithOperator "\n" rest then some (done.reverse, rest.tail)
    else if rest.isEmpty then some (done.reverse, [])
    else none

def readPatterns (done : List Word) : List Lexeme → Option (List Word × List Lexeme)
  | .word word :: rest =>
    match rest with
    | .operator t :: rest =>
      if t = "|" then readPatterns (word :: done) rest
      else if t = ")" then some ((word :: done).reverse, rest)
      else none
    | _ => none
  | _ => none

def Command.ofList : List Command → Command
  | [command] => command
  | commands => .sequence commands

/-! ### Aliases -/

structure Alias where
  lexemes : List Lexeme
  continues : Bool
  deriving DecidableEq, Repr

def Alias.ofText (t : Text) : Alias := ⟨Shell.lexemes t, t.getLast?.any isSpace⟩

/-- A word that stands for itself and is no alias: an empty piece follows it. -/
def settled (names : List Text) (lexeme : Lexeme) : Lexeme :=
  match lexeme with
  | .word word => if (spelling? lexeme).any (names.contains ·) then .word (word ++ [.plain []]) else lexeme
  | _ => lexeme

/-- Lexemes with the alias at their front replaced by what it stands for. An alias does not stand for itself again: those
in `used` are being replaced. -/
def replaceAliases (aliases : List (Text × Alias)) : Nat → List Text → List Lexeme → List Lexeme
  | 0, _, lexemes => lexemes
  | _, _, [] => []
  | fuel + 1, used, first :: rest =>
    match spelling? first with
    | none => first :: rest
    | some name =>
      if reservedWords.contains name || used.contains name then first :: rest
      else
        match aliases.lookup name with
        | none => first :: rest
        | some found =>
          let used := name :: used
          let body := replaceAliases aliases fuel used (found.lexemes.map (settled used))
          let rest := if found.continues then replaceAliases aliases fuel [] rest else rest
          if body.isEmpty then replaceAliases aliases fuel used rest else body ++ rest

def Word.assigns : Word → Bool
  | .plain t :: _ => isName (t.takeWhile (· ≠ byte '=')) && t.contains (byte '=')
  | _ => false

/-- Lexemes with the alias replaced that stands where the name of a command does: after assignments and redirections. -/
def replaceFirstAlias (aliases : List (Text × Alias)) : List Lexeme → List Lexeme
  | .redirection stream operator :: .word target :: rest =>
    .redirection stream operator :: .word target :: replaceFirstAlias aliases rest
  | .document stream content :: rest => .document stream content :: replaceFirstAlias aliases rest
  | .word word :: rest =>
    if Word.assigns word then .word word :: replaceFirstAlias aliases rest
    else replaceAliases aliases (aliases.length + 1) [] (.word word :: rest)
  | rest => rest

/-! ### Commands -/

structure Grammar where
  aliases : List (Text × Alias)
  list : List Lexeme → Option (Command × List Lexeme)
  command : List Lexeme → Option (Command × List Lexeme)

namespace Grammar

/-- A list of commands between two words, the first of which is gone already. -/
def body (grammar : Grammar) (closing : Text) (lexemes : List Lexeme) : Option (Command × List Lexeme) := do
  let (commands, rest) ← grammar.list lexemes
  let rest ← afterWord? closing rest
  some (commands, rest)

/-- What follows the body of a branch: another branch, a last one, or the end. -/
def readOtherwise (grammar : Grammar) : Nat → List Lexeme → Option (Command × List Lexeme)
  | 0, _ => none
  | fuel + 1, lexemes =>
    if startsWithWord "elif" lexemes then do
      let (test, rest) ← grammar.body "then" lexemes.tail
      let (body, rest) ← grammar.list rest
      let (otherwise, rest) ← readOtherwise grammar fuel rest
      some (.branch test body otherwise, rest)
    else if startsWithWord "else" lexemes then grammar.body "fi" lexemes.tail
    else do
      let rest ← afterWord? "fi" lexemes
      some (.sequence [], rest)

def readBranch (grammar : Grammar) (fuel : Nat) (lexemes : List Lexeme) : Option (Command × List Lexeme) := do
  let (test, rest) ← grammar.body "then" lexemes
  let (body, rest) ← grammar.list rest
  let (otherwise, rest) ← grammar.readOtherwise fuel rest
  some (.branch test body otherwise, rest)

def readLoopBody (grammar : Grammar) (lexemes : List Lexeme) : Option (Command × List Lexeme) := do
  let rest ← afterWord? "do" (skipLines lexemes)
  grammar.body "done" rest

def readEach (grammar : Grammar) : List Lexeme → Option (Command × List Lexeme)
  | .word [.plain name] :: rest => do
    if ¬ isName name then none
    let rest := skipLines rest
    let (words, rest) ←
      if startsWithWord "in" rest then (readWords [] rest.tail).map fun (words, rest) => (some words, rest)
      else some (none, if startsWithOperator ";" rest then rest.tail else rest)
    let (body, rest) ← grammar.readLoopBody rest
    some (.each name words body, rest)
  | _ => none

/-- The arms of a selection, up to its last word. -/
def readArms (grammar : Grammar) : Nat → List (List Word × Command) → List Lexeme →
    Option (List (List Word × Command) × List Lexeme)
  | 0, _, _ => none
  | fuel + 1, done, lexemes =>
    let lexemes := skipLines lexemes
    if startsWithWord "esac" lexemes then some (done.reverse, lexemes.tail)
    else do
      let lexemes := if startsWithOperator "(" lexemes then lexemes.tail else lexemes
      let (patterns, rest) ← readPatterns [] lexemes
      let (body, rest) ←
        if endsList (skipLines rest) then some (.sequence [], skipLines rest) else grammar.list rest
      let done := (patterns, body) :: done
      if startsWithOperator ";;" rest then readArms grammar fuel done rest.tail
      else
        let rest ← afterWord? "esac" rest
        some (done.reverse, rest)

def readSelect (grammar : Grammar) (fuel : Nat) : List Lexeme → Option (Command × List Lexeme)
  | .word word :: rest => do
    let rest ← afterWord? "in" (skipLines rest)
    let (arms, rest) ← grammar.readArms fuel [] rest
    some (.select word arms, rest)
  | _ => none

def readReserved (grammar : Grammar) (fuel : Nat) (word : Text) (lexemes : List Lexeme) :
    Option (Command × List Lexeme) :=
  if word = "\x7b" then grammar.body "\x7d" lexemes
  else if word = "if" then grammar.readBranch fuel lexemes
  else if word = "while" || word = "until" then do
    let (test, rest) ← grammar.list lexemes
    let (body, rest) ← grammar.readLoopBody rest
    some (.loop (word = "until") test body, rest)
  else if word = "for" then grammar.readEach lexemes
  else if word = "case" then grammar.readSelect fuel lexemes
  else none

def readRedirected (found : Option (Command × List Lexeme)) : Option (Command × List Lexeme) := do
  let (command, rest) ← found
  let (redirections, rest) ← readRedirections [] rest
  some (withRedirections command redirections, rest)

def readCommand (grammar : Grammar) (fuel : Nat) (lexemes : List Lexeme) : Option (Command × List Lexeme) :=
  let lexemes := if grammar.aliases.isEmpty then lexemes else replaceFirstAlias grammar.aliases lexemes
  match lexemes with
  | [] => none
  | first :: rest =>
    if first = .operator "(" then
      readRedirected do
        let (body, rest) ← grammar.list rest
        let rest ← afterOperator? ")" rest
        some (.subshell body, rest)
    else
      match spelling? first with
      | some word =>
        if reservedWords.contains word then readRedirected (grammar.readReserved fuel word rest)
        else if startsWithOperator "(" rest then do
          let rest ← afterOperator? ")" rest.tail
          if ¬ isName word then none
          let (body, rest) ← grammar.command (skipLines rest)
          some (.define word body, rest)
        else readSimple [] [] lexemes
      | none => readSimple [] [] lexemes

/-- The commands of a pipeline, after those in `done`, which come latest first. -/
def readPipes (grammar : Grammar) : Nat → List Command → List Lexeme → Option (Command × List Lexeme)
  | 0, _, _ => none
  | fuel + 1, done, lexemes => do
    let (command, rest) ← grammar.command lexemes
    let done := command :: done
    if startsWithOperator "|" rest then readPipes grammar fuel done (skipLines rest.tail)
    else
      match done with
      | [command] => some (command, rest)
      | _ => some (.pipeline done.reverse, rest)

def readPipeline (grammar : Grammar) (fuel : Nat) (lexemes : List Lexeme) : Option (Command × List Lexeme) :=
  if startsWithWord "!" lexemes then
    (grammar.readPipes fuel [] lexemes.tail).map fun (command, rest) => (.negated command, rest)
  else grammar.readPipes fuel [] lexemes

def readChain (grammar : Grammar) : Nat → Command → List Lexeme → Option (Command × List Lexeme)
  | 0, _, _ => none
  | fuel + 1, first, lexemes =>
    if startsWithOperator "&&" lexemes then do
      let (second, rest) ← grammar.readPipeline fuel (skipLines lexemes.tail)
      readChain grammar fuel (.both first second) rest
    else if startsWithOperator "||" lexemes then do
      let (second, rest) ← grammar.readPipeline fuel (skipLines lexemes.tail)
      readChain grammar fuel (.either first second) rest
    else some (first, lexemes)

/-- One item of a list of commands, and whether another one may follow. A line break ends it only if `inside`. -/
def readItem (grammar : Grammar) (fuel : Nat) (inside : Bool) (lexemes : List Lexeme) :
    Option (Command × Bool × List Lexeme) := do
  let (first, rest) ← grammar.readPipeline fuel lexemes
  let (command, rest) ← grammar.readChain fuel first rest
  if startsWithOperator ";" rest then some (command, true, rest.tail)
  else if startsWithOperator "&" rest then some (.background command, true, rest.tail)
  else if inside && startsWithOperator "\n" rest then some (command, true, rest.tail)
  else some (command, false, rest)

/-- A list of commands inside a command; there is at least one of them. -/
def readList (grammar : Grammar) : Nat → List Command → List Lexeme → Option (Command × List Lexeme)
  | 0, _, _ => none
  | fuel + 1, done, lexemes =>
    let lexemes := skipLines lexemes
    if endsList lexemes then if done.isEmpty then none else some (Command.ofList done.reverse, lexemes)
    else do
      let (command, more, rest) ← grammar.readItem fuel true lexemes
      if more then readList grammar fuel (command :: done) rest
      else some (Command.ofList (command :: done).reverse, rest)

def ofDepth (aliases : List (Text × Alias)) : Nat → Nat → Grammar
  | 0, _ => ⟨aliases, fun _ => none, fun _ => none⟩
  | depth + 1, fuel =>
    ⟨aliases, fun lexemes => (ofDepth aliases depth fuel).readList fuel [] lexemes,
      fun lexemes => (ofDepth aliases depth fuel).readCommand fuel lexemes⟩

/-- The commands on a line, after those in `done`, which come latest first. -/
def readLine (grammar : Grammar) : Nat → List Command → List Lexeme → Option (Command × List Lexeme)
  | 0, _, _ => none
  | fuel + 1, done, lexemes =>
    if lexemes.isEmpty || startsWithOperator "\n" lexemes then
      if done.isEmpty then none else some (Command.ofList done.reverse, lexemes.tail)
    else do
      let (command, more, rest) ← grammar.readItem fuel false lexemes
      if more then readLine grammar fuel (command :: done) rest
      else if rest.isEmpty || startsWithOperator "\n" rest then
        some (Command.ofList (command :: done).reverse, rest.tail)
      else none

end Grammar

/-- The commands on the first line that has some; the lines above it are skipped. There are at most `bound` lexemes. -/
def readLine (aliases : List (Text × Alias)) (bound : Nat) (lexemes : List Lexeme) :
    Option (Command × List Lexeme) :=
  let fuel := (bound + 2) * ((aliases.map (·.2.lexemes.length)).foldl (· + ·) 1)
  (Grammar.ofDepth aliases fuel fuel).readLine fuel [] (skipLines lexemes)

/-! ### Scripts in words -/

/-- The scripts in a part of a word, also those in words inside it, which go `depth` deep. -/
def Piece.scripts : Nat → Piece → List Text
  | 0, _ => []
  | depth + 1, piece =>
    let inside := fun (context : Context) (t : Text) => ((piecesIn? context t).getD []).flatMap (scripts depth)
    match piece with
    | .plain _ | .quoted _ => []
    | .command script _ => [script]
    | .arithmetic expression _ => inside .document expression
    | .parameter expression inQuotes => inside (if inQuotes && !trims expression then .quotedBraces else .braces) expression

def Lexeme.scripts (lexeme : Lexeme) : List Text :=
  match lexeme with
  | .word pieces | .document _ pieces => pieces.flatMap (Piece.scripts wordDepth)
  | _ => []

/-- Whether lexemes are the lines of a script; there are at most `bound` of them. -/
def areLines : Nat → List Lexeme → Bool
  | 0, lexemes => lexemes.isEmpty
  | bound + 1, lexemes =>
    (skipLines lexemes).isEmpty ||
      match readLine [] (bound + 1) lexemes with
      | some (_, rest) => areLines bound rest
      | none => false

def withSoundScripts : Nat → List Lexeme → List Lexeme
  | 0, lexemes => lexemes
  | depth + 1, lexemes => lexemes.map fun lexeme =>
    let isSound := lexeme.scripts.all fun script =>
      let inner := withSoundScripts depth (Shell.lexemes script)
      areLines (inner.length + 1) inner
    if isSound then lexeme else .unfinished

end QualityGate.Shell
