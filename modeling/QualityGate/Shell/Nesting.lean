import QualityGate.Text.Basic

/-!
What closes what in a shell script. Where a script stands between parentheses, its end is found by following its words: a
parenthesis after a pattern, in a comment or in a document closes nothing.
-/

namespace QualityGate.Shell

open Text (byte)

/-! ### Bytes -/

def isDigit (b : UInt8) : Bool := byte '0' ≤ b && b ≤ byte '9'

def startsName (b : UInt8) : Bool :=
  byte 'a' ≤ b && b ≤ byte 'z' || byte 'A' ≤ b && b ≤ byte 'Z' || b = byte '_'

def isNameByte (b : UInt8) : Bool := startsName b || isDigit b

def isName (t : Text) : Bool := t.head?.any startsName && t.all isNameByte

def isSpace (b : UInt8) : Bool := b = byte ' ' || b = byte '\t'

def endsWord (b : UInt8) : Bool := isSpace b || b = byte '\n' || (Text.ofString ";&|<>()").contains b

def isSpecial (b : UInt8) : Bool :=
  b = byte '$' || b = Text.backslash || b = Text.backquote || b = Text.doubleQuote || b = Text.singleQuote

def specialParameters : Text := "@*#?-$!"

/-! ### Documents -/

structure Delimiter where
  line : Text
  /-- A part of the delimiter is quoted, so that nothing in the document means anything. -/
  isQuoted : Bool
  dropsTabs : Bool
  deriving DecidableEq, Repr

/-- The delimiter at the front of a text, after what is in `done`, backwards; `quote` is the quote it is in. What it would
mean elsewhere does not matter. -/
def delimiterFrom (dropsTabs : Bool) (quote : Option UInt8) (isQuoted : Bool) (done : Text) :
    Text → Option (Delimiter × Text)
  | [] => if quote.isSome || done.isEmpty && !isQuoted then none else some (⟨done.reverse, isQuoted, dropsTabs⟩, [])
  | b :: rest =>
    match quote with
    | some mark =>
      if b = mark then delimiterFrom dropsTabs none true done rest
      else if mark = Text.doubleQuote && b = Text.backslash then
        match rest with
        | c :: rest =>
          if isSpecial c && c ≠ Text.singleQuote then delimiterFrom dropsTabs quote true (c :: done) rest
          else delimiterFrom dropsTabs quote true (c :: b :: done) rest
        | [] => none
      else delimiterFrom dropsTabs quote true (b :: done) rest
    | none =>
      if endsWord b then
        if done.isEmpty && !isQuoted then none else some (⟨done.reverse, isQuoted, dropsTabs⟩, b :: rest)
      else if b = Text.singleQuote || b = Text.doubleQuote then delimiterFrom dropsTabs (some b) true done rest
      else if b = Text.backslash then
        match rest with
        | c :: rest => delimiterFrom dropsTabs none true (c :: done) rest
        | [] => some (⟨(b :: done).reverse, true, dropsTabs⟩, [])
      else delimiterFrom dropsTabs none isQuoted (b :: done) rest

/-- The lines of a document up to the one that is the delimiter, after what is in `done`, backwards, and the text after it.
A document that is not ended goes on to the end. -/
def documentFrom (delimiter : Delimiter) : Nat → Text → Text → Text × Text
  | 0, done, t => (done.reverse, t)
  | fuel + 1, done, t =>
    if t.isEmpty then (done.reverse, [])
    else
      let line := t.takeWhile (· ≠ byte '\n')
      let rest := t.drop line.length
      let line := if delimiter.dropsTabs then line.dropWhile (· = byte '\t') else line
      if line = delimiter.line then (done.reverse, rest.tail)
      else
        match rest with
        | [] => ((line.reverse ++ done).reverse, [])
        | b :: rest => documentFrom delimiter fuel (b :: (line.reverse ++ done)) rest

/-! ### Scripts inside others -/

inductive Expectation where
  | command
  | argument
  /-- The word that is looked at by a `case`. -/
  | subject
  /-- The `in` after it. -/
  | patterns
  /-- The first word of a pattern, or the end of all of them. -/
  | pattern
  | morePatterns
  deriving DecidableEq, Repr

structure Following where
  expects : Expectation := .command
  /-- The number of `case` commands around. -/
  cases : Nat := 0
  /-- The word being read, backwards. A zero byte stands for what is quoted or expanded. -/
  word : Option Text := none
  /-- The operator byte right before. -/
  previous : Option UInt8 := none
  /-- The documents that begin after the line, the latest first. -/
  documents : List Delimiter := []
  deriving DecidableEq, Repr

namespace Following

def leadingWords : List Text := ["!", "\x7b", "do", "elif", "else", "if", "then", "until", "while"]

def endWord (script : Following) : Following :=
  match script.word with
  | none => script
  | some word =>
    let word := word.reverse
    let after := { script with word := none, previous := none }
    match script.expects with
    | .command =>
      if word = "case" then { after with expects := .subject, cases := script.cases + 1 }
      else if word = "esac" then { after with expects := .argument, cases := script.cases - 1 }
      else if leadingWords.contains word then after
      else { after with expects := .argument }
    | .subject => { after with expects := .patterns }
    | .patterns => if word = "in" then { after with expects := .pattern } else after
    | .pattern =>
      if word = "esac" then { after with expects := .argument, cases := script.cases - 1 }
      else { after with expects := .morePatterns }
    | _ => after

def inPattern (script : Following) : Bool := script.expects = .pattern || script.expects = .morePatterns

def operator (script : Following) (b : UInt8) : Following :=
  let after := { script with previous := some b }
  if b = byte '<' || b = byte '>' then after
  else if b = byte ';' && script.previous = some b && 0 < script.cases then { after with expects := .pattern }
  else if script.expects = .argument || script.expects = .command then { after with expects := .command }
  else after

def push (script : Following) (b : UInt8) : Following :=
  { script with word := some (b :: script.word.getD []), previous := none }

end Following

/-! ### Marks -/

inductive Mark where
  | single
  | double
  | backquote
  /-- Braces; single quotes mean nothing in them if they are themselves quoted. -/
  | braces (inQuotes : Bool)
  /-- An arithmetic expression with so many parentheses open in it. -/
  | arithmetic (level : Nat)
  | script (script : Following)
  | comment
  deriving DecidableEq, Repr

def trims (t : Text) : Bool :=
  let name := t.takeWhile isNameByte
  let name := if name.isEmpty then t.take 1 else name
  let isLong := 1 < t.length && (name.all isNameByte || specialParameters.contains (name.headD 0))
  isLong && (t.drop name.length).head?.any fun b => b = byte '%' || b = byte '#'

/-- The marks after the opening of an expansion behind a dollar sign: what it opens, and how many bytes that takes. -/
def opening? (inQuotes : Bool) : Text → Option (Mark × Nat)
  | [] => none
  | b :: rest =>
    if b = byte '(' then if rest.head? = some (byte '(') then some (.arithmetic 0, 2) else some (.script {}, 1)
    else if b = byte '\x7b' then some (.braces (inQuotes && !trims rest), 1)
    else none

def Mark.isQuoted : Mark → Bool
  | .double => true
  | .braces inQuotes => inQuotes
  | _ => false

/-- The text of documents, after what is in `done`, backwards, together with what ends them; and the rest. -/
def throughDocuments (fuel : Nat) : List Delimiter → Text → Text → Text × Text
  | [], done, t => (done, t)
  | delimiter :: others, done, t =>
    let (_, rest) := documentFrom delimiter fuel [] t
    throughDocuments fuel others ((t.take (t.length - rest.length)).reverse ++ done) rest

/-- The text up to the byte that closes the innermost of several open marks, and so on to the outermost one, and what
follows it. -/
def untilClosed : Nat → List Mark → Text → Text → Option (Text × Text)
  | 0, _, _, _ => none
  | _, [], _, _ => none
  | _, _, _, [] => none
  | fuel + 1, mark :: outer, done, b :: rest =>
    let go := untilClosed fuel
    let closed := fun (_ : Unit) => if outer.isEmpty then some (done.reverse, rest) else go outer (b :: done) rest
    let escaped := fun (marks : List Mark) =>
      match rest with
      | c :: rest => go marks (c :: b :: done) rest
      | [] => none
    let expanded := fun (mark : Mark) =>
      match opening? mark.isQuoted rest with
      | some (inner, length) =>
        go (inner :: mark :: outer) ((rest.take length).reverse ++ (b :: done)) (rest.drop length)
      | none => go (mark :: outer) (b :: done) rest
    match mark with
    | .single => if b = Text.singleQuote then closed () else go (mark :: outer) (b :: done) rest
    | .backquote =>
      if b = Text.backquote then closed ()
      else if b = Text.backslash then escaped (mark :: outer)
      else go (mark :: outer) (b :: done) rest
    | .comment => if b = byte '\n' then go outer done (b :: rest) else go (mark :: outer) (b :: done) rest
    | .double =>
      if b = Text.doubleQuote then closed ()
      else if b = Text.backslash then escaped (mark :: outer)
      else if b = byte '$' then expanded mark
      else if b = Text.backquote then go (.backquote :: mark :: outer) (b :: done) rest
      else go (mark :: outer) (b :: done) rest
    | .braces inQuotes =>
      if b = byte '\x7d' then closed ()
      else if b = Text.backslash then escaped (mark :: outer)
      else if b = byte '$' then expanded mark
      else if b = Text.backquote then go (.backquote :: mark :: outer) (b :: done) rest
      else if b = Text.doubleQuote then go (.double :: mark :: outer) (b :: done) rest
      else if b = Text.singleQuote && !inQuotes then go (.single :: mark :: outer) (b :: done) rest
      else go (mark :: outer) (b :: done) rest
    | .arithmetic level =>
      if b = byte '(' then go (.arithmetic (level + 1) :: outer) (b :: done) rest
      else if b = byte ')' then
        if 0 < level then go (.arithmetic (level - 1) :: outer) (b :: done) rest
        else if rest.head? ≠ some (byte ')') then go (mark :: outer) (b :: done) rest
        else if outer.isEmpty then some (done.reverse, rest.tail)
        else go outer (b :: b :: done) rest.tail
      else if b = Text.backslash then escaped (mark :: outer)
      else if b = byte '$' then expanded mark
      else if b = Text.backquote then go (.backquote :: mark :: outer) (b :: done) rest
      else go (mark :: outer) (b :: done) rest
    | .script script =>
      let grown : Mark := .script (script.push 0)
      if b = Text.backslash then escaped (grown :: outer)
      else if b = Text.singleQuote then go (.single :: grown :: outer) (b :: done) rest
      else if b = Text.doubleQuote then go (.double :: grown :: outer) (b :: done) rest
      else if b = Text.backquote then go (.backquote :: grown :: outer) (b :: done) rest
      else if b = byte '$' then expanded grown
      else if b = byte '#' && script.word.isNone then go (.comment :: mark :: outer) (b :: done) rest
      else if isSpace b then go (.script { script.endWord with previous := none } :: outer) (b :: done) rest
      else if ¬ endsWord b then go (.script (script.push b) :: outer) (b :: done) rest
      else
        let script := script.endWord
        if b = byte '(' then
          if script.inPattern then go (.script script :: outer) (b :: done) rest
          else go (.script {} :: .script { script with expects := .command } :: outer) (b :: done) rest
        else if b = byte ')' then
          if script.inPattern && 0 < script.cases then
            go (.script { script with expects := .command } :: outer) (b :: done) rest
          else closed ()
        else if b = byte '\n' && !script.documents.isEmpty then
          let (done, rest) := throughDocuments fuel script.documents.reverse (b :: done) rest
          go (.script { script.operator b with documents := [] } :: outer) done rest
        else if b = byte '<' && script.previous = some b then
          let dropsTabs := rest.head? = some (byte '-')
          let start := (if dropsTabs then rest.tail else rest).dropWhile isSpace
          match if start.head? = some (byte '#') then none else delimiterFrom dropsTabs none false [] start with
          | none => none
          | some (delimiter, after) =>
            let script := { script with documents := delimiter :: script.documents, previous := none }
            let length := rest.length - after.length
            go (.script script :: outer) ((rest.take length).reverse ++ (b :: done)) after
        else go (.script (script.operator b) :: outer) (b :: done) rest

end QualityGate.Shell
