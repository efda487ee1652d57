import QualityGate.Shell.Nesting

/-!
The words and operators of a shell script. What is written between the marks of an expansion is kept as text; it is read
when the expansion is made.
-/

namespace QualityGate.Shell

open Text (byte)

inductive Piece where
  | plain (t : Text)
  | quoted (t : Text)
  | parameter (expression : Text) (inQuotes : Bool)
  | arithmetic (expression : Text) (inQuotes : Bool)
  | command (script : Text) (inQuotes : Bool)
  deriving DecidableEq, Repr

abbrev Word := List Piece

inductive Lexeme where
  | word (word : Word)
  | operator (t : Text)
  | redirection (stream : Nat) (operator : Text)
  | document (stream : Nat) (content : Word)
  /-- A quote or an expansion that is not closed. -/
  | unfinished
  deriving DecidableEq, Repr

/-- Where a word is read: in a command, between double quotes, between braces, between braces that are between double
quotes, where more of those quotes change nothing, or in a document, where they stand for themselves. -/
inductive Context where
  | command
  | quotes
  | braces
  | quotedBraces
  | document
  deriving DecidableEq, Repr

def Context.isQuoted : Context → Bool
  | quotes | quotedBraces | document => true
  | _ => false

/-! ### Expansions -/

def untilBackquote (inQuotes : Bool) (done : Text) : Text → Option (Text × Text)
  | [] => none
  | b :: rest =>
    if b = Text.backquote then some (done.reverse, rest)
    else if b = Text.backslash then
      match rest with
      | c :: rest =>
        if c = Text.backquote || c = Text.backslash || c = byte '$' || (inQuotes && c = Text.doubleQuote) then
          untilBackquote inQuotes (c :: done) rest
        else untilBackquote inQuotes (c :: b :: done) rest
      | [] => none
    else untilBackquote inQuotes (b :: done) rest

/-- The expansion after a dollar sign, or the sign itself, and the rest. `bound` is more than the length of the text. -/
def dollarPiece (bound : Nat) (inQuotes : Bool) (t : Text) : Option (Piece × Text) :=
  match opening? inQuotes t with
  | some (mark, length) => do
    let (inside, rest) ← untilClosed bound [mark] [] (t.drop length)
    match mark with
    | .arithmetic _ => some (.arithmetic inside inQuotes, rest)
    | .script _ => some (.command inside inQuotes, rest)
    | _ => some (.parameter inside inQuotes, rest)
  | none =>
    match t with
    | [] => some (.plain "$", [])
    | b :: rest =>
      if isDigit b || specialParameters.contains b then some (.parameter [b] inQuotes, rest)
      else if startsName b then
        some (.parameter (t.takeWhile isNameByte) inQuotes, t.dropWhile isNameByte)
      else some (if inQuotes then .quoted "$" else .plain "$", t)

def escapedPiece (context : Context) (b : UInt8) : List Piece :=
  if b = byte '\n' then []
  else
    let isKept := b = byte '$' || b = Text.backquote || b = Text.backslash ||
      (b = Text.doubleQuote && context ≠ .document) || (b = byte '\x7d' && context = .quotedBraces)
    if context.isQuoted && !isKept then [.quoted [Text.backslash, b]] else [.quoted [b]]

/-! ### Words -/

/-- The pieces of a word, after those in `done`, which come latest first, and the rest of the text. -/
def piecesFrom (context : Context) : Nat → List Piece → Text → Option (Word × Text)
  | 0, _, _ => none
  | fuel + 1, done, t =>
    match t with
    | [] => if context = .quotes then none else some (done.reverse, [])
    | b :: rest =>
      if context = .command && endsWord b then some (done.reverse, t)
      else if context = .quotes && b = Text.doubleQuote then some (done.reverse, rest)
      else if context = .quotedBraces && b = Text.doubleQuote then piecesFrom context fuel done rest
      else if b = Text.backslash then
        match rest with
        | [] => if context = .quotes then none else some ((.quoted [b] :: done).reverse, [])
        | c :: rest => piecesFrom context fuel ((escapedPiece context c).reverse ++ done) rest
      else if b = byte '$' then do
        let (piece, rest) ← dollarPiece (2 * fuel + 2) context.isQuoted rest
        piecesFrom context fuel (piece :: done) rest
      else if b = Text.backquote then do
        let (script, rest) ← untilBackquote context.isQuoted [] rest
        piecesFrom context fuel (.command script context.isQuoted :: done) rest
      else if b = Text.singleQuote && !context.isQuoted then do
        let (inside, rest) ← untilClosed (fuel + 1) [.single] [] rest
        piecesFrom context fuel (.quoted inside :: done) rest
      else if b = Text.doubleQuote && !context.isQuoted then do
        let (inside, rest) ← piecesFrom .quotes fuel [] rest
        let inside := if inside = [.parameter "@" true] then inside else .quoted [] :: inside
        piecesFrom context fuel (inside.reverse ++ done) rest
      else
        let run := b :: rest.takeWhile fun c => !isSpecial c && !(context = .command && endsWord c)
        let piece := if context.isQuoted then Piece.quoted run else .plain run
        piecesFrom context fuel (piece :: done) (t.drop run.length)

def piecesIn? (context : Context) (t : Text) : Option Word := (piecesFrom context (t.length + 1) [] t).map (·.1)

/-! ### Lexemes -/

def operators : List Text :=
  ["<<-", "&&", "||", ";;", ">>", ">&", "<&", "<<", "<>", ">|", ";", "&", "|", "<", ">", "(", ")"]

def redirects (operator : Text) : Bool := operator.head?.any fun b => b = byte '<' || b = byte '>'

def usualStream (operator : Text) : Nat := if operator.head? = some (byte '<') then 0 else 1

/-- A document whose delimiter is at the front of a text: its content, and the text without it. `bound` is more than the
length of the text. -/
def readDocument? (bound stream : Nat) (dropsTabs : Bool) (t : Text) : Option (Lexeme × Text) := do
  let t := t.dropWhile isSpace
  let (delimiter, rest) ← if t.head? = some (byte '#') then none else delimiterFrom dropsTabs none false [] t
  let line := rest.takeWhile (· ≠ byte '\n')
  let (content, after) := documentFrom delimiter bound [] (rest.drop (line.length + 1))
  let word ← if delimiter.isQuoted then some [.quoted content] else piecesIn? .document content
  some (.document stream word, line ++ "\n" ++ after)

/-- The stream whose number a word is, when a redirection follows it. -/
def streamOf? (word : Word) (rest : Text) : Option Nat :=
  match word with
  | [.plain t] =>
    match t with
    | [digit] =>
      if isDigit digit && rest.head?.any (fun b => b = byte '<' || b = byte '>') then some (digit.toNat - 48) else none
    | _ => none
  | _ => none

/-- The lexemes of a text, after those in `done`, which come latest first. `stream` is the number right before a
redirection. -/
def lexemesFrom : Nat → Option Nat → List Lexeme → Text → List Lexeme
  | 0, _, done, _ => (.unfinished :: done).reverse
  | fuel + 1, stream, done, t =>
    match t with
    | [] => done.reverse
    | b :: rest =>
      if isSpace b then lexemesFrom fuel none done rest
      else if b = byte '\n' then lexemesFrom fuel none (.operator [b] :: done) rest
      else if b = Text.backslash && rest.head? = some (byte '\n') then lexemesFrom fuel none done rest.tail
      else if b = byte '#' then lexemesFrom fuel none done (rest.dropWhile (· ≠ byte '\n'))
      else
        match operators.find? (Text.startsWith t ·) with
        | some operator =>
          let rest := t.drop operator.length
          if ¬ redirects operator then lexemesFrom fuel none (.operator operator :: done) rest
          else
            let stream := stream.getD (usualStream operator)
            if Text.startsWith operator "<<" then
              match readDocument? (fuel + 1) stream (operator = "<<-") rest with
              | some (document, rest) => lexemesFrom fuel none (document :: done) rest
              | none => (.unfinished :: done).reverse
            else lexemesFrom fuel none (.redirection stream operator :: done) rest
        | none =>
          match piecesFrom .command (fuel + 1) [] t with
          | none => (.unfinished :: done).reverse
          | some (word, rest) =>
            match streamOf? word rest with
            | some stream => lexemesFrom fuel (some stream) done rest
            | none => lexemesFrom fuel none (.word word :: done) rest

def lexemes (script : Text) : List Lexeme := lexemesFrom (2 * script.length + 2) none [] script

end QualityGate.Shell
