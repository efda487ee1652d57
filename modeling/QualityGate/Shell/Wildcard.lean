import QualityGate.FileTree.Access

/-!
Patterns with wildcards, over bytes of which some are quoted and stand for themselves.
-/

namespace QualityGate.Shell

open Text (byte)

abbrev Marked := UInt8 × Bool

def mark (quoted : Bool) (t : Text) : List Marked := t.map fun b => (b, quoted)

def unmark (field : List Marked) : Text := field.map (·.1)

inductive Wildcard where
  | byte (b : UInt8)
  | one
  | many
  | set (negated : Bool) (ranges : List (UInt8 × UInt8))
  deriving DecidableEq, Repr

def namedRanges (name : Text) : List (UInt8 × UInt8) :=
  let range := fun (a b : Char) => (byte a, byte b)
  if name = "alpha" then [range 'a' 'z', range 'A' 'Z']
  else if name = "digit" then [range '0' '9']
  else if name = "alnum" then [range 'a' 'z', range 'A' 'Z', range '0' '9']
  else if name = "lower" then [range 'a' 'z']
  else if name = "upper" then [range 'A' 'Z']
  else if name = "xdigit" then [range '0' '9', range 'a' 'f', range 'A' 'F']
  else if name = "space" then [(9, 13), (32, 32)]
  else if name = "blank" then [(9, 9), (32, 32)]
  else if name = "punct" then [(33, 47), (58, 64), (91, 96), (123, 126)]
  else []

/-- The ranges of a bracket up to its end, and the rest; nothing when it has no end. -/
def bracketRanges : Nat → Bool → List (UInt8 × UInt8) → List Marked → Option (List (UInt8 × UInt8) × List Marked)
  | 0, _, _, _ => none
  | _, _, _, [] => none
  | fuel + 1, first, done, (b, quoted) :: rest =>
    if b = byte ']' && !quoted && !first then some (done, rest)
    else if b = byte '[' && !quoted && (rest.head?.any fun next => next.1 = byte ':') then
      let name := unmark (rest.tail.takeWhile fun next => next.1 ≠ byte ':')
      bracketRanges fuel false (namedRanges name ++ done) (rest.drop (name.length + 3))
    else
      match rest with
      | (dash, false) :: (c, cQuoted) :: more =>
        if dash = byte '-' && !(c = byte ']' && !cQuoted) then bracketRanges fuel false ((b, c) :: done) more
        else bracketRanges fuel false ((b, b) :: done) rest
      | _ => bracketRanges fuel false ((b, b) :: done) rest

/-- The items of a pattern. A backslash keeps the next byte from meaning something. -/
def wildcards : Nat → List Marked → List Wildcard
  | 0, _ => []
  | _, [] => []
  | fuel + 1, (b, quoted) :: rest =>
    if quoted then .byte b :: wildcards fuel rest
    else if b = byte '*' then .many :: wildcards fuel rest
    else if b = byte '?' then .one :: wildcards fuel rest
    else if b = byte '[' then
      let negated := rest.head?.any fun next => next.1 = byte '!' && !next.2
      match bracketRanges (rest.length + 1) true [] (if negated then rest.tail else rest) with
      | some (ranges, rest) => .set negated ranges :: wildcards fuel rest
      | none => .byte b :: wildcards fuel rest
    else if b = Text.backslash then
      match rest with
      | (c, _) :: rest => .byte c :: wildcards fuel rest
      | [] => [.byte b]
    else .byte b :: wildcards fuel rest

def Wildcard.takes : Wildcard → UInt8 → Bool
  | byte b, c => b = c
  | one, _ => true
  | many, _ => true
  | set negated ranges, c => (ranges.any fun range => range.1 ≤ c && c ≤ range.2) != negated

def afterStars : List Wildcard → List (List Wildcard)
  | .many :: rest => (.many :: rest) :: afterStars rest
  | items => [items]

/-- What can be left of a pattern after one more byte, given what could be left before it. -/
def advanceWith (b : UInt8) (left : List (List Wildcard)) : List (List Wildcard) :=
  (left.flatMap fun
    | .many :: rest => afterStars (.many :: rest)
    | item :: rest => if item.takes b then afterStars rest else []
    | [] => []).eraseDups

def isMatched (left : List (List Wildcard)) : Bool := left.any List.isEmpty

def matchesPattern (pattern : List Marked) (t : Text) : Bool :=
  isMatched (t.foldl (fun left b => advanceWith b left) (afterStars (wildcards (pattern.length + 1) pattern)))

/-- The lengths of the beginnings of a text that a pattern matches, the longest first. -/
def matchLengths (items : List Wildcard) (t : Text) : List Nat :=
  let start := afterStars items
  (t.foldl (fun (lengths, count, left) b =>
    let left := advanceWith b left
    (if isMatched left then (count + 1) :: lengths else lengths, count + 1, left))
    (if isMatched start then [0] else [], 0, start)).1

def hasWildcard (field : List Marked) : Bool :=
  field.any fun (b, quoted) => !quoted && (b = byte '*' || b = byte '?' || b = byte '[')

/-! ### Paths -/

def components (field : List Marked) : List (List Marked) :=
  field.foldr (fun next parts =>
    if next.1 = Path.separator then [] :: parts
    else
      match parts with
      | part :: parts => (next :: part) :: parts
      | [] => [[next]]) [[]]

/-- The names in a directory that a part of a path matches. Names that begin with a dot have to be asked for. -/
def namesMatching (workspace : Workspace) (directory : Text) (part : List Marked) : List Text :=
  match workspace.stat (if directory.isEmpty then "." else directory) with
  | .ok node =>
    if ¬ node.isDirectory ∨ node.faults.opening.isSome then []
    else
      (Text.ofString "." :: Text.ofString ".." :: node.listing.entries.map (·.1)).filter fun name =>
        matchesPattern part name && (name.head? ≠ some (byte '.') || part.head?.any fun next => next.1 = byte '.')
  | .error _ => []

/-- The paths that a field with wildcards leads to, from the directories `found` on. -/
def pathsFrom (workspace : Workspace) (found : List Text) : List (List Marked) → List Text
  | [] => found
  | part :: rest =>
    let next := found.flatMap fun directory =>
      if hasWildcard part then (namesMatching workspace directory part).map (directory ++ ·)
      else [directory ++ unmark part]
    match rest with
    | [] => next.filter fun path => (workspace.entry path).isOk
    | _ => pathsFrom workspace (next.map (· ++ [Path.separator])) rest

/-- The paths that a field with wildcards stands for, in byte order; the field itself when there are none. -/
def expandPaths (workspace : Workspace) (field : List Marked) : List Text :=
  if ¬ hasWildcard field then [unmark field]
  else
    match pathsFrom workspace [[]] (components field) with
    | [] => [unmark field]
    | paths => (Text.sortedByName (paths.map fun path => (path, ()))).map (·.1)

end QualityGate.Shell
