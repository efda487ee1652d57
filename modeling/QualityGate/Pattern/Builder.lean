import QualityGate.Pattern.Error
import QualityGate.Pattern.Tree

/-!
Putting the tree of a pattern together. What is read goes on a stack; a group that ends takes its parts from there.
Alternatives that begin alike are factored on the way. Height, instructions and stored characters are limited, and a
limit is noticed as soon as a tree on the stack exceeds it.

Instructions are counted from the time on when the number of nodes and the counts of repetitions suggest that they
could be too many. A node that falls away leaves its measured size to the next new node, which keeps it until that node
is measured itself.
-/

namespace QualityGate.Pattern

def maxHeight : Nat := 1000

def maxSize : Nat := 3355443

def maxCharacters : Nat := 33554432

/-- A pattern under construction: the trees that are not part of others yet, latest first, the flags, the names of the
groups, latest first, and their number. -/
structure Builder where
  stack : List Tree := []
  flags : Flags := {}
  names : List Text := []
  groups : Nat := 0
  /-- How many nodes were in use at most. -/
  allocated : Nat := 0
  /-- The sizes left by nodes that fell away, latest first. -/
  spare : List (Option Nat) := []
  /-- The characters and bounds stored so far. -/
  characters : Nat := 0
  /-- The product of the counts of repetitions so far. -/
  repeats : Nat := 1
  /-- Whether instructions are counted. -/
  measuring : Bool := false

abbrev Building := StateT Builder (Except Fault)

namespace Builder

/-! ### Nodes and limits -/

/-- Takes a node into use: the size that it starts with. -/
def take : Building (Option Nat) :=
  modifyGet fun b =>
    match b.spare with
    | measured :: spare => (measured, { b with spare })
    | [] => (none, { b with allocated := b.allocated + 1 })

def release (t : Tree) : Building Unit := modify fun b => { b with spare := t.measured :: b.spare }

def create (label : Label) (parts : List Tree) : Building Tree := do
  return Tree.make label parts (← take)

def requireSize (t : Tree) : Building Unit :=
  if maxSize < t.measured.getD 0 then throw .tooLarge else pure ()

/-- Takes the counts of a repetition into account, and says whether instructions have to be counted. -/
def mayBeLarge (label : Label) : Building Bool := do
  match label with
  | .repetition kind _ =>
    match kind.count? with
    | some count =>
      let count := max count 1
      modify fun b =>
        { b with repeats := if maxSize / b.repeats < count then maxSize else b.repeats * count }
    | none => pure ()
  | _ => pure ()
  let b ← get
  return maxSize / b.repeats ≤ b.allocated

def startMeasuring : Building Unit := do
  let stack := (← get).stack.map Tree.remeasure
  modify fun b => { b with stack, measuring := true }
  stack.forM requireSize

def inspect (t : Tree) : Building Tree := do
  if maxCharacters < (← get).characters then throw .tooLarge
  if ¬ (← get).measuring then
    if ← mayBeLarge t.label then startMeasuring
  let t := if (← get).measuring then t.remeasure else t
  requireSize t
  if maxHeight < t.height then throw .nestingDepth
  return t

/-! ### The stack -/

def setStack (stack : List Tree) : Building Unit := modify fun b => { b with stack }

/-- Joins the two literals on top of the stack if they agree on case. The newer one then becomes the literal `next`, and
the result is true; without `next` it falls away. -/
def joinLiterals (next : Option (Nat × Flags)) : Building Bool := do
  match (← get).stack with
  | newer :: older :: below =>
    match newer.label, older.label with
    | .literal end' newerFlags, .literal beginning flags =>
      if newerFlags.fold ≠ flags.fold then return false
      let joined := older.relabel (.literal (end' ++ beginning) flags)
      match next with
      | some (c, nextFlags) =>
        setStack (newer.relabel (.literal [c] nextFlags) :: joined :: below)
        return true
      | none =>
        setStack (joined :: below)
        release newer
        return false
    | _, _ => return false
  | _ => return false

def append (t : Tree) : Building Unit := do
  let t ← inspect t
  modify fun b => { b with stack := t :: b.stack }

/-- Whether two code points differ only in case, and from no other code point so. -/
def areTheTwoCases (a b : Nat) : Bool :=
  let orbit := CodePoint.foldOrbit a
  a ≠ b && orbit.length = 2 && orbit.contains b

def literalOf? (bounds : List Nat) : Option (Nat × Bool) :=
  match bounds with
  | [a, b] => if a = b then some (a, false) else if b = a + 1 && areTheTwoCases a b then some (a, true) else none
  | [a, a', b, b'] => if a = a' && b = b' && areTheTwoCases a b then some (a, true) else none
  | _ => none

/-- Puts a tree on the stack after the literals below it were joined. A set of one character, or of its two cases, is a
literal. -/
def push (t : Tree) : Building Unit := do
  modify fun b => { b with characters := b.characters + t.label.characters }
  let literal? :=
    match t.label with
    | .set _ bounds => literalOf? bounds
    | _ => none
  match literal? with
  | some (c, fold) =>
    let flags := { (← get).flags with fold }
    if ¬ (← joinLiterals (some (c, flags))) then append (t.relabel (.literal [c] flags))
  | none =>
    let _ ← joinLiterals none
    append t

def pushNew (label : Label) : Building Unit := do push (← create label [])

/-! ### Single characters -/

def takesNewline : Label → Bool
  | .literal [c] _ => c = 0x0A
  | .set members _ => members.contains 0x0A
  | .any => true
  | _ => false

def setLabel (members : CharSet) : Label := .set members members.bounds

def setOf : Label → CharSet
  | .literal [c] flags => Label.literalSet c flags
  | .set members _ => members
  | .anyButNewline => Label.notNewline
  | .any => .all
  | _ => .none

/-- What takes a character that one of two nodes takes, if the first is the broader one. A set that grew has no bounds
until it is cleaned. -/
def mergeLabels (broad narrow : Label) : Label :=
  match broad with
  | .any => .any
  | .anyButNewline => if takesNewline narrow then .any else .anyButNewline
  | .literal _ _ => if broad = narrow then broad else .set (.union (setOf narrow) (setOf broad)) []
  | _ => .set (.union (setOf narrow) (setOf broad)) []

def simplestOf (members : CharSet) (bounds : List Nat) : Label :=
  if bounds = [0, CodePoint.last] then .any
  else if bounds = [0, 0x09, 0x0B, CodePoint.last] then .anyButNewline
  else .set members bounds

/-- The simplest form of a node. A set that grew becomes the table of its bounds. -/
def cleanLabel : Label → Label
  | .set members [] =>
    let bounds := (CharSet.unions (members.leaves [])).bounds
    simplestOf (.table bounds) bounds
  | .set members bounds => simplestOf members bounds
  | label => label

def clean (t : Tree) : Tree :=
  match t.label with
  | .set _ _ => t.relabel (cleanLabel t.label)
  | _ => t

/-! ### Factoring -/

def leadingText (t : Tree) : List Nat × Bool :=
  let first :=
    match t.label, t.parts with
    | .sequence, first :: _ => first
    | _, _ => t
  match first.label with
  | .literal reversed flags => (reversed.reverse, flags.fold)
  | _ => ([], false)

/-- The longest common beginning, after `done`, which comes latest first. -/
def commonAfter (done : List Nat) : List Nat → List Nat → List Nat
  | a :: s, b :: t => if a = b then commonAfter (a :: done) s t else done.reverse
  | _, _ => done.reverse

def commonBeginning (s t : List Nat) : List Nat := commonAfter [] s t

/-- A literal without its first `n` characters. -/
def dropText (n : Nat) (t : Tree) : Tree :=
  match t.label with
  | .literal reversed flags =>
    let left := reversed.take (reversed.length - n)
    t.relabel (if left.isEmpty then .empty else .literal left flags)
  | _ => t

def dropEmptyFirst (t first : Tree) (rest : List Tree) : Building Tree := do
  if first.label ≠ .empty then return Tree.make t.label (first :: rest) t.measured
  release first
  match rest with
  | [] => return t.relabel .empty
  | [only] =>
    release t
    return only
  | _ => return Tree.make t.label rest t.measured

/-- A tree without the first `n` characters of the literal that it begins with. -/
def removeLeadingText (n : Nat) (t : Tree) : Building Tree :=
  match t.label, t.parts with
  | .sequence, first :: rest => dropEmptyFirst t (dropText n first) rest
  | _, _ => return dropText n t

def leadingPart? (t : Tree) : Option Tree :=
  match t.label, t.parts with
  | .empty, _ => none
  | .sequence, first :: _ => if first.label = .empty then none else some first
  | _, _ => some t

/-- A tree without the part that it begins with, whose root is given up if `releasing`. -/
def removeLeadingPart (releasing : Bool) (t : Tree) : Building Tree := do
  match t.label, t.parts with
  | .sequence, first :: rest =>
    if releasing then release first
    match rest with
    | [] => return t.relabel .empty
    | [only] =>
      release t
      return only
    | _ => return Tree.make t.label rest t.measured
  | _, _ =>
    if releasing then release t
    create .empty []

def sameCharacters : Label → Label → Bool
  | .literal a _, .literal b _ => a = b
  | .set _ a, .set _ b => a = b
  | a, b => a = b

/-- Whether two trees are the same and simple enough to be factored: one character, or a fixed number of them. -/
def sameSimple (a b : Tree) : Bool :=
  match a.label, a.parts, b.label, b.parts with
  | .repetition (.counted min max) greedy, [x], .repetition kind greedy', [y] =>
    max = some min && kind = .counted min max && greedy = greedy' && x.breadth?.isSome &&
      sameCharacters x.label y.label
  | label, _, label', _ => a.breadth?.isSome && sameCharacters label label'

/-- The tree of a choice or a sequence. Parts of the same kind are taken apart, and the alternatives of a choice go
through `factor`. -/
def collapse (factor : List Tree → Building (List Tree)) (label : Label) (parts : List Tree) : Building Tree := do
  match parts with
  | [only] => return only
  | _ =>
    let measured ← take
    parts.forM fun part => if part.label = label then release part else pure ()
    let parts := parts.flatMap fun part => if part.label = label then part.parts else [part]
    if label ≠ .choice then return Tree.make label parts measured
    match ← factor parts with
    | [only] =>
      modify fun b => { b with spare := measured :: b.spare }
      return only
    | parts => return Tree.make label parts measured

/-- Puts what alternatives have in common before a choice between the rest of them. -/
def withBeginning (factor : List Tree → Building (List Tree)) (beginning : Tree) (rests : List Tree) :
    Building Tree := do
  let choice ← collapse factor .choice rests
  create .sequence [beginning, choice]

/-- Ends a run of alternatives, latest first, that begin with the same literal. -/
def endTextRun (factor : List Tree → Building (List Tree)) (run : List Tree) (text : List Nat) (fold : Bool) :
    Building (List Tree) := do
  match run with
  | [] | [_] => return run
  | _ =>
    let beginning ← create (.literal text.reverse { fold, factored := true }) []
    let rests ← run.reverse.mapM fun t => do inspect (← removeLeadingText text.length t)
    return [← withBeginning factor beginning rests]

/-- Factors literals out of alternatives. The run under way begins with `text`; what is done comes latest first. -/
def factorTexts (factor : List Tree → Building (List Tree)) (done run : List Tree) (text : List Nat) (fold : Bool) :
    List Tree → Building (List Tree)
  | [] => return ((← endTextRun factor run text fold) ++ done).reverse
  | t :: rest => do
    let (leading, leadingFold) := leadingText t
    let common := commonBeginning text leading
    if fold = leadingFold ∧ ¬ common.isEmpty then factorTexts factor done (t :: run) common fold rest
    else
      let ended ← endTextRun factor run text fold
      factorTexts factor (ended ++ done) [t] leading leadingFold rest

/-- Removes the common first part from a run of alternatives; the first of them lends it. -/
def removeParts : List Tree → Building (List Tree)
  | [] => return []
  | first :: rest => do
    let first ← inspect (← removeLeadingPart false first)
    let rest ← rest.mapM fun t => do inspect (← removeLeadingPart true t)
    return first :: rest

/-- Ends a run of alternatives, latest first, that begin with the same part. -/
def endPartRun (factor : List Tree → Building (List Tree)) (run : List Tree) (part : Option Tree) :
    Building (List Tree) := do
  match run, part with
  | _ :: _ :: _, some part =>
    let rests ← removeParts run.reverse
    return [← withBeginning factor part rests]
  | _, _ => return run

def factorParts (factor : List Tree → Building (List Tree)) (done run : List Tree) (part : Option Tree) :
    List Tree → Building (List Tree)
  | [] => return ((← endPartRun factor run part) ++ done).reverse
  | t :: rest => do
    let leading := leadingPart? t
    let same :=
      match part, leading with
      | some a, some b => sameSimple a b
      | _, _ => false
    if same then factorParts factor done (t :: run) part rest
    else
      let ended ← endPartRun factor run part
      factorParts factor (ended ++ done) [t] leading rest

def isBroader (a b : Tree) : Bool :=
  let breadth := fun (t : Tree) => t.breadth?.getD 0
  breadth b < breadth a || (breadth b = breadth a && b.label.characters < a.label.characters)

/-- The first of the broadest trees, beside the others with the very first tree in its place. -/
def broadestFirst (first : Tree) (rest : List Tree) : Tree × List Tree :=
  let (index, broadest, _) := rest.foldl
    (fun (index, broadest, i) t => if isBroader t broadest then (i, t, i + 1) else (index, broadest, i + 1))
    (0, first, 1)
  if index = 0 then (first, rest) else (broadest, rest.set (index - 1) first)

/-- Ends a run of alternatives, latest first, that take one character each. -/
def endCharacterRun (run : List Tree) : Building (List Tree) := do
  match run.reverse with
  | [] => return []
  | [only] => return [only]
  | first :: rest =>
    let (broadest, others) := broadestFirst first rest
    let merged := others.foldl (fun label t => mergeLabels label t.label) broadest.label
    others.forM release
    return [broadest.relabel (cleanLabel merged)]

def mergeCharacters (done run : List Tree) : List Tree → Building (List Tree)
  | [] => return ((← endCharacterRun run) ++ done).reverse
  | t :: rest => do
    if t.breadth?.isSome then mergeCharacters done (t :: run) rest
    else
      let ended ← endCharacterRun run
      mergeCharacters (t :: ended ++ done) [] rest

/-- Leaves one of neighbouring empty alternatives; what is kept comes latest first. -/
def mergeEmpty (done : List Tree) : List Tree → List Tree
  | a :: b :: rest =>
    mergeEmpty (if a.label = .empty && b.label = .empty then done else a :: done) (b :: rest)
  | [a] => (a :: done).reverse
  | [] => done.reverse

/-- Factors alternatives: common literals first, then common parts, then single characters and empty alternatives. -/
def factor : Nat → List Tree → Building (List Tree)
  | 0, parts => return parts
  | fuel + 1, parts => do
    if parts.length < 2 then return parts
    let parts ← factorTexts (factor fuel) [] [] [] false parts
    let parts ← factorParts (factor fuel) [] [] none parts
    let parts ← mergeCharacters [] [] parts
    return mergeEmpty [] parts

/-! ### Groups -/

/-- The trees above the last mark, in order, and the stack from the mark on. -/
def aboveMark (done : List Tree) : List Tree → List Tree × List Tree
  | [] => (done, [])
  | t :: rest => if t.isMark then (done, t :: rest) else aboveMark (t :: done) rest

def takeParts : Building (List Tree) := modifyGet fun b =>
  let (parts, stack) := aboveMark [] b.stack
  (parts, { b with stack })

def endSequence : Building Unit := do
  let _ ← joinLiterals none
  match ← takeParts with
  | [] => pushNew .empty
  | parts => push (← collapse pure .sequence parts)

/-- Moves the alternative on top of the stack below the bar under it, or merges it with the alternative there if both
take one character. The result says whether there was a bar. -/
def passBar : Building Bool := do
  match (← get).stack with
  | newer :: bar :: below =>
    if bar.label ≠ .bar then return false
    match below with
    | [] =>
      setStack [bar, newer]
      return true
    | older :: below =>
      match newer.breadth?, older.breadth? with
      | some newerBreadth, some olderBreadth =>
        let (narrow, broad) := if olderBreadth < newerBreadth then (older, newer) else (newer, older)
        setStack (bar :: broad.relabel (mergeLabels broad.label narrow.label) :: below)
        release narrow
        return true
      | _, _ =>
        setStack (bar :: newer :: clean older :: below)
        return true
  | _ => return false

def cleanLast (parts : List Tree) : List Tree :=
  match parts.reverse with
  | last :: earlier => (clean last :: earlier).reverse
  | [] => []

/-- Ends the alternatives above the last mark; `fuel` bounds how deep factoring goes. -/
def endChoice (fuel : Nat) : Building Unit := do
  endSequence
  if ← passBar then modify fun b => { b with stack := b.stack.tail }
  let parts ← takeParts
  push (← collapse (factor fuel) .choice (cleanLast parts))

def nextAlternative : Building Unit := do
  endSequence
  if ¬ (← passBar) then pushNew .bar

def openGroup : Building Unit := do pushNew (.opening none (← get).flags)

/-- Opens a capturing group; a group without a name has the empty name. -/
def openCapture (name : Text) : Building Unit := do
  modify fun b => { b with groups := b.groups + 1, names := name :: b.names }
  pushNew (.opening (some (← get).groups) (← get).flags)

def closeGroup (fuel : Nat) : Building Unit := do
  endChoice fuel
  match (← get).stack with
  | content :: mark :: below =>
    match mark.label with
    | .opening group flags =>
      modify fun b => { b with stack := below, flags }
      match group with
      | some group => push (Tree.make (.capture group) [content] mark.measured)
      | none => push content
    | _ => throw .unexpectedParen
  | _ => throw .unexpectedParen

def finish (fuel : Nat) : Building Tree := do
  endChoice fuel
  match (← get).stack with
  | [t] => return t
  | _ => throw .missingParen

/-- Repeats the tree on top of the stack, unless there is none. The result says whether there was one. -/
def repeatTop (repetition : Repetition) (greedy : Greedy) : Building (Option Tree) := do
  match (← get).stack with
  | [] => return none
  | t :: below =>
    if t.isMark then return none
    let repeated ← create (.repetition repetition greedy) [t]
    setStack below
    let repeated ← inspect repeated
    modify fun b => { b with stack := repeated :: b.stack }
    return some repeated

/-- Adds a literal character. Where case is ignored the least of its cases stands for all. -/
def pushLiteral (c : Nat) : Building Unit := do
  let flags := (← get).flags
  let c := if flags.fold then (CodePoint.foldOrbit c).foldl min c else c
  pushNew (.literal [c] flags)

def pushSet (members : CharSet) : Building Unit := pushNew (setLabel members)

end Builder

end QualityGate.Pattern
