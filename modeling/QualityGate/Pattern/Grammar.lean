import QualityGate.Pattern.Builder
import QualityGate.Pattern.Reader

/-!
Reading a whole pattern. Every item that is read is handed to the tree under construction. Repeat counts are limited.
-/

namespace QualityGate.Pattern

open Text (byte)

def maxCount : Nat := 1000

structure Source where
  whole : Text
  bound : Nat

def Source.of (whole : Text) : Source := ⟨whole, whole.length + 2⟩

/-- Takes a step of the construction; a fault quotes the pattern as a whole. -/
def Source.build {α : Type} (source : Source) (b : Builder) (step : Building α) : Except Error (α × Builder) :=
  match step b with
  | .ok result => .ok result
  | .error fault => .error ⟨fault, source.whole⟩

def Source.add (source : Source) (b : Builder) (step : Building Unit) (rest : Text) : Except Error (Builder × Text) :=
  (source.build b step).map fun result => (result.2, rest)

/-- Applies a repetition to the last item. `start` is the text from the operator on, `rest` the text after it, and
`previous` the text from the operator before it when the two touch. -/
def repeatLast (source : Source) (b : Builder) (repetition : Repetition) (start rest : Text)
    (previous : Option Text) : Except Error (Builder × Text) := do
  let lazyMark := rest.head? = some (byte '?')
  let rest := if lazyMark then rest.tail else rest
  let greedy := (lazyMark = b.flags.lazyByDefault : Bool)
  match previous with
  | some previous => throw ⟨.nestedRepeat, upToRest previous rest⟩
  | none =>
    match ← source.build b (Builder.repeatTop repetition greedy) with
    | (none, _) => throw ⟨.missingRepeatArgument, upToRest start rest⟩
    | (some t, b) =>
      if repetition.isMultiple ∧ ¬ t.countsWithin maxCount then throw ⟨.repeatCount, upToRest start rest⟩
      return (b, rest)

def isCaptureName (name : Text) : Bool :=
  !name.isEmpty && (Text.charsReplaced name).all fun c => c = '_' || isAsciiAlphanumeric c

/-- Reads flags after `(?`, up to a colon or a closing parenthesis. `cleared` holds once a minus sign was read, and
`seen` whether a flag followed it. `start` is the text from the parenthesis on. -/
def readFlags (source : Source) (start : Text) (b : Builder) : Nat → Flags → Bool → Bool → Text →
    Except Error (Builder × Text)
  | 0, _, _, _, t => .error ⟨.perlSyntax, upToRest start t⟩
  | fuel + 1, flags, cleared, seen, t =>
    if t.isEmpty then .error ⟨.perlSyntax, upToRest start t⟩
    else do
      let (c, rest) ← nextChar t
      match c with
      | 'i' => readFlags source start b fuel { flags with fold := !cleared } cleared true rest
      | 'm' => readFlags source start b fuel { flags with multiLine := !cleared } cleared true rest
      | 's' => readFlags source start b fuel { flags with dotMatchesNewline := !cleared } cleared true rest
      | 'U' => readFlags source start b fuel { flags with lazyByDefault := !cleared } cleared true rest
      | '-' =>
        if cleared then throw ⟨.perlSyntax, upToRest start rest⟩
        else readFlags source start b fuel flags true false rest
      | ':' =>
        if cleared ∧ ¬ seen then throw ⟨.perlSyntax, upToRest start rest⟩
        else
          let (b, rest) ← source.add b Builder.openGroup rest
          return ({ b with flags }, rest)
      | ')' =>
        if cleared ∧ ¬ seen then throw ⟨.perlSyntax, upToRest start rest⟩
        else return ({ b with flags }, rest)
      | _ => throw ⟨.perlSyntax, upToRest start rest⟩

/-- Reads what follows `(?`: a named group, a plain group, or a change of flags. -/
def readSpecialGroup (source : Source) (b : Builder) (t : Text) : Except Error (Builder × Text) := do
  let nameStart :=
    if ¬ (t.drop 4).isEmpty ∧ t.startsWith "(?P<" then some 4
    else if ¬ (t.drop 3).isEmpty ∧ t.startsWith "(?<" then some 3
    else none
  match nameStart with
  | none => readFlags source t b source.bound b.flags false false (t.drop 2)
  | some nameStart =>
    match t.findIdx? (· = byte '>') with
    | none => do
      requireWellFormed t
      throw ⟨.namedCapture, t⟩
    | some stop => do
      let name := t.slice nameStart stop
      requireWellFormed name
      if ¬ isCaptureName name then throw ⟨.namedCapture, t.take (stop + 1)⟩
      source.add b (Builder.openCapture name) (t.drop (stop + 1))

def pushLiterals (source : Source) (b : Builder) : Nat → Text → Except Error Builder
  | 0, _ => .ok b
  | fuel + 1, t =>
    if t.isEmpty then .ok b
    else do
      let (c, rest) ← nextChar t
      let (b, rest) ← source.add b (Builder.pushLiteral c.toNat) rest
      pushLiterals source b fuel rest

def readEscape (source : Source) (b : Builder) (t : Text) : Except Error (Builder × Text) := do
  let letter := t.tail.head?
  let rest := t.drop 2
  let assertion := fun (condition : Assertion) => source.add b (Builder.pushNew (.assertion condition)) rest
  if letter = some (byte 'A') then assertion .beginText
  else if letter = some (byte 'b') then assertion .wordBoundary
  else if letter = some (byte 'B') then assertion .noWordBoundary
  else if letter = some (byte 'C') then throw ⟨.escape, t.take 2⟩
  else if letter = some (byte 'Q') then
    let stop := (Text.find? rest "\\E").getD source.bound
    return (← pushLiterals source b source.bound (rest.take stop), rest.drop (stop + 2))
  else if letter = some (byte 'z') then assertion .endText
  else
    match ← property b.flags.fold t with
    | some (set, rest) => source.add b (Builder.pushSet set) rest
    | none =>
      match escapedSet? b.flags.fold t with
      | some (set, rest) => source.add b (Builder.pushSet set) rest
      | none =>
        let (c, rest) ← escape source.bound t
        source.add b (Builder.pushLiteral c) rest

/-- Reads one item. The last component of the result says whether the item was a repetition. -/
def readItem (source : Source) (b : Builder) (t : Text) (previous : Option Text) :
    Except Error (Builder × Text × Bool) := do
  let item := fun (found : Builder × Text) => (found.1, found.2, false)
  let push := fun (label : Label) => do return item (← source.add b (Builder.pushNew label) t.tail)
  let repetition := fun (kind : Repetition) (rest : Text) => do
    let (b, rest) ← repeatLast source b kind t rest previous
    return (b, rest, true)
  let first := t.headD 0
  if first = byte '(' then
    if t.tail.head? = some (byte '?') then return item (← readSpecialGroup source b t)
    else return item (← source.add b (Builder.openCapture []) t.tail)
  else if first = byte '|' then return item (← source.add b Builder.nextAlternative t.tail)
  else if first = byte ')' then return item (← source.add b (Builder.closeGroup source.bound) t.tail)
  else if first = byte '^' then push (.assertion (if b.flags.multiLine then .beginLine else .beginText))
  else if first = byte '$' then push (.assertion (if b.flags.multiLine then .endLine else .endText))
  else if first = byte '.' then push (if b.flags.dotMatchesNewline then .any else .anyButNewline)
  else if first = byte '[' then
    let (set, rest) ← bracketed source.bound b.flags.fold t
    return item (← source.add b (Builder.pushSet set) rest)
  else if first = byte '*' then repetition .star t.tail
  else if first = byte '+' then repetition .plus t.tail
  else if first = byte '?' then repetition .opt t.tail
  else if first = byte '{' then
    match bounds? t with
    | none => return item (← source.add b (Builder.pushLiteral first.toNat) t.tail)
    | some (min, max, rest) =>
      if maxCount < min ∨ max.any (fun max => maxCount < max || max < min) then
        throw ⟨.repeatCount, upToRest t rest⟩
      repetition (.counted min max) rest
  else if first = Text.backslash then return item (← readEscape source b t)
  else
    let (c, rest) ← nextChar t
    return item (← source.add b (Builder.pushLiteral c.toNat) rest)

def readItems (source : Source) : Nat → Builder → Text → Option Text → Except Error Builder
  | 0, b, _, _ => .ok b
  | fuel + 1, b, t, previous =>
    if t.isEmpty then .ok b
    else do
      let (b, rest, repeated) ← readItem source b t previous
      readItems source fuel b rest (if repeated then some t else none)

/-- Reads a pattern: its tree and the names of its groups in order. -/
def parse (whole : Text) : Except Error (Tree × List Text) := do
  let source := Source.of whole
  let b ← readItems source source.bound {} whole none
  let (t, b) ← source.build b (Builder.finish source.bound)
  return (t, b.names.reverse)

end QualityGate.Pattern
