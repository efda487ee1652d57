import QualityGate.Pattern.CharSet
import QualityGate.Pattern.Error
import QualityGate.Text.Utf8

/-!
Reading single characters, escapes, counts and bracketed sets from the front of a pattern. Every reader returns what
is left of the pattern, and a refusal quotes the text between two such rests.
-/

namespace QualityGate.Pattern

open Text (byte)

def upToRest (t rest : Text) : Text := t.take (t.length - rest.length)

/-- The first character and the rest; ill-formed bytes are refused. At the end of the pattern the character is the
replacement character. -/
def nextChar (t : Text) : Except Error (Char × Text) :=
  match Text.front t with
  | (none, 0) => .ok (Text.replacement, t)
  | (none, _) => .error ⟨.utf8, t⟩
  | (some c, width) => .ok (c, t.drop width)

def illFormedAt? : Nat → Text → Option Text
  | _, [] => none
  | skip + 1, _ :: rest => illFormedAt? skip rest
  | 0, b :: rest =>
    match Text.front (b :: rest) with
    | (none, _) => some (b :: rest)
    | (some _, width) => illFormedAt? (width - 1) rest

def requireWellFormed (t : Text) : Except Error Unit :=
  match illFormedAt? 0 t with
  | some rest => .error ⟨.utf8, rest⟩
  | none => .ok ()

def hexValue? (c : Char) : Option Nat :=
  if '0' ≤ c ∧ c ≤ '9' then some (c.toNat - 0x30)
  else if 'a' ≤ c ∧ c ≤ 'f' then some (c.toNat - 0x57)
  else if 'A' ≤ c ∧ c ≤ 'F' then some (c.toNat - 0x37)
  else none

def isOctal (b : UInt8) : Bool := byte '0' ≤ b && b ≤ byte '7'

def isDecimal (b : UInt8) : Bool := byte '0' ≤ b && b ≤ byte '9'

def isAsciiAlphanumeric (c : Char) : Bool := c.isAlphanum

/-- Up to `n` more octal digits. -/
def octalDigits : Nat → Nat → Text → Nat × Text
  | 0, value, t => (value, t)
  | n + 1, value, t =>
    match t with
    | b :: rest => if isOctal b then octalDigits n (value * 8 + (b.toNat - 0x30)) rest else (value, t)
    | [] => (value, t)

/-- Hexadecimal digits up to a closing brace: the value and the rest, or the rest at the place of the fault. -/
def bracedHex (fuel : Nat) (digits value : Nat) (t : Text) : Except Error (Except Text (Nat × Text)) :=
  match fuel with
  | 0 => .ok (.error t)
  | fuel + 1 =>
    if t.isEmpty then .ok (.error t)
    else do
      let (c, rest) ← nextChar t
      if c = '}' then return if digits = 0 then .error rest else .ok (value, rest)
      match hexValue? c with
      | none => return .error rest
      | some digit =>
        if 0x10FFFF < value * 16 + digit then return .error rest
        else bracedHex fuel (digits + 1) (value * 16 + digit) rest

def controlEscape? : Char → Option Nat
  | 'a' => some 0x07
  | 'f' => some 0x0C
  | 'n' => some 0x0A
  | 'r' => some 0x0D
  | 't' => some 0x09
  | 'v' => some 0x0B
  | _ => none

/-- A hexadecimal escape after its `x`: its value and the rest, or the rest at the place of the fault. A value in braces
has at most `bound` characters. -/
def hexEscape (bound : Nat) (t : Text) : Except Error (Except Text (Nat × Text)) :=
  if t.isEmpty then .ok (.error t)
  else do
    let (c, rest) ← nextChar t
    if c = '\x7b' then bracedHex bound 0 0 rest
    else
      let (d, rest) ← nextChar rest
      match hexValue? c, hexValue? d with
      | some x, some y => return .ok (x * 16 + y, rest)
      | _, _ => return .error rest

/-- The code point that an escape stands for. The text begins with the backslash and has less than `bound` bytes. -/
def escape (bound : Nat) (t : Text) : Except Error (Nat × Text) :=
  if t.tail.isEmpty then .error ⟨.trailingBackslash, []⟩
  else do
    let (c, rest) ← nextChar t.tail
    let refused := fun (rest : Text) => (⟨.escape, upToRest t rest⟩ : Error)
    if c = '0' ∨ ('1' ≤ c ∧ c ≤ '7' ∧ rest.head?.any isOctal) then
      return octalDigits 2 (c.toNat - 0x30) rest
    else if c = 'x' then
      match ← hexEscape bound rest with
      | .ok found => return found
      | .error rest => throw (refused rest)
    else
      match controlEscape? c with
      | some value => return (value, rest)
      | none =>
        if c.toNat < 0x80 ∧ ¬ isAsciiAlphanumeric c then return (c.toNat, rest) else throw (refused rest)

def greatestCount : Nat := 100000000

/-- Decimal digits as a number, or `none` when there are none or a zero stands before another digit. -/
def count? (t : Text) : Option (Nat × Text) :=
  let digits := t.takeWhile isDecimal
  if digits.isEmpty ∨ (2 ≤ digits.length ∧ digits.head? = some (byte '0')) then none
  else some (digits.foldl (fun n b => min (n * 10 + (b.toNat - 0x30)) greatestCount) 0, t.drop digits.length)

/-- The bounds of a counted repetition that begins with its opening brace: least, most, and the rest. What does not
have this form is no repetition. -/
def bounds? (t : Text) : Option (Nat × Option Nat × Text) := do
  let (min, rest) ← count? t.tail
  match rest with
  | [] => none
  | b :: after =>
    if b = byte '}' then some (min, some min, after)
    else if b = byte ',' then
      if after.head? = some (byte '}') then some (min, none, after.tail)
      else do
        let (max, rest) ← count? after
        if rest.head? = some (byte '}') then some (min, some max, rest.tail) else none
    else none

abbrev SetReading := Except Error (Option (CharSet × Text))

/-- A property such as `\pL` or `\p{Greek}`. -/
def property (fold : Bool) (t : Text) : SetReading :=
  match t with
  | backslash :: kind :: rest =>
    if backslash ≠ Text.backslash ∨ (kind ≠ byte 'p' ∧ kind ≠ byte 'P') then .ok none
    else do
      let (c, after) ← nextChar rest
      let (spelling, name, after) ←
        if c ≠ '\x7b' then
          let width := (Text.front rest).2
          pure (t.take (width + 2), rest.take width, after)
        else
          match t.findIdx? (· = byte '}') with
          | none => do
            requireWellFormed t
            throw ⟨.charRange, t⟩
          | some stop => do
            let name := t.slice 3 stop
            requireWellFormed name
            pure (t.take (stop + 1), name, t.drop (stop + 1))
      let negated := kind = byte 'P'
      let (negated, name) := if name.head? = some (byte '^') then (!negated, name.tail) else (negated, name)
      match CharSet.ofProperty? fold name with
      | some set => return some (set.adapted false negated, after)
      | none => throw ⟨.charRange, spelling⟩
  | _ => .ok none

def escapedSet? (fold : Bool) (t : Text) : Option (CharSet × Text) :=
  match t with
  | backslash :: letter :: rest =>
    if backslash ≠ Text.backslash then none
    else (CharSet.ofEscape? (Char.ofNat letter.toNat)).map fun (set, negated) => (set.adapted fold negated, rest)
  | _ => none

/-- A set named by `[:name:]`. -/
def namedSet (fold : Bool) (t : Text) : SetReading :=
  if (t.drop 2).isEmpty ∨ ¬ t.startsWith "[:" then .ok none
  else
    match Text.find? (t.drop 2) ":]" with
    | none => .ok none
    | some stop =>
      let spelling := t.take (stop + 4)
      let name := t.slice 2 (stop + 2)
      let (negated, name) := if name.head? = some (byte '^') then (true, name.tail) else (false, name)
      match CharSet.bracketNames.find? fun entry => Text.ofString entry.1 = name with
      | some (_, set) => .ok (some (set.adapted fold negated, t.drop (stop + 4)))
      | none => .error ⟨.charRange, spelling⟩

/-- One character inside brackets. `whole` is the text from the opening bracket on. -/
def bracketChar (bound : Nat) (whole t : Text) : Except Error (Nat × Text) :=
  if t.isEmpty then .error ⟨.missingBracket, whole⟩
  else if t.head? = some Text.backslash then escape bound t
  else (nextChar t).map fun (c, rest) => (c.toNat, rest)

def bracketRange (bound : Nat) (fold : Bool) (whole t : Text) : Except Error (CharSet × Text) := do
  let (lo, rest) ← bracketChar bound whole t
  if rest.head? = some (byte '-') ∧ ¬ rest.tail.isEmpty ∧ rest.tail.head? ≠ some (byte ']') then
    let (hi, rest) ← bracketChar bound whole rest.tail
    if hi < lo then throw ⟨.charRange, upToRest t rest⟩
    return ((CharSet.range lo hi).adapted fold false, rest)
  else return ((CharSet.single lo).adapted fold false, rest)

def bracketItem (bound : Nat) (fold : Bool) (whole t : Text) : Except Error (CharSet × Text) := do
  match ← namedSet fold t with
  | some found => return found
  | none =>
    match ← property fold t with
    | some found => return found
    | none =>
      match escapedSet? fold t with
      | some found => return found
      | none => bracketRange bound fold whole t

/-- The members of a bracketed set, latest first, up to the closing bracket, which does not close at the very front. -/
def bracketItems (bound : Nat) (fold : Bool) (whole : Text) :
    Nat → Bool → List CharSet → Text → Except Error (List CharSet × Text)
  | 0, _, _, _ => .error ⟨.missingBracket, whole⟩
  | fuel + 1, first, sets, t =>
    if t.head? = some (byte ']') ∧ ¬ first then .ok (sets, t.tail)
    else do
      let (item, rest) ← bracketItem bound fold whole t
      bracketItems bound fold whole fuel false (item :: sets) rest

/-- A bracketed set. The text begins with the opening bracket and has less than `bound` bytes. -/
def bracketed (bound : Nat) (fold : Bool) (t : Text) : Except Error (CharSet × Text) := do
  let negated := t.tail.head? = some (byte '^')
  let inside := if negated then t.tail.tail else t.tail
  let (sets, rest) ← bracketItems bound fold t bound true [] inside
  return ((CharSet.unions sets.reverse).adapted false negated, rest)

end QualityGate.Pattern
