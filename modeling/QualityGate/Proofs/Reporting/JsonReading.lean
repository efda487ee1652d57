import QualityGate.Proofs.Text.Decoding
import QualityGate.Reporting.Json

/-!
Reading JSON: its grammar as a reader of bytes, and that the reader undoes the printer. Every lemma has the text that
follows as a parameter, so that pieces are read one after the other; only a number depends on it, since it must not go
on (`Stops`). Main statement: a document is read back from what is printed of it (`read?_render`).
-/

namespace QualityGate.Json

open Text (byte backslash doubleQuote)

/-- A JSON value. A number is a whole number times a power of ten, and a string its characters in UTF-8. -/
inductive Value where
  | null
  | truth (value : Bool)
  | number (digits exponent : Int)
  | string (value : Text)
  | array (items : List Value)
  | object (members : List (Text × Value))
  deriving Repr

/-! ### The reader -/

def isSpace (b : UInt8) : Bool := b = byte ' ' || b = byte '\t' || b = byte '\n' || b = byte '\r'

def skipSpace (t : Text) : Text := t.dropWhile isSpace

def isDigit (b : UInt8) : Bool := byte '0' ≤ b && b ≤ byte '9'

def isHexDigit (b : UInt8) : Bool :=
  isDigit b || (byte 'a' ≤ b && b ≤ byte 'f') || (byte 'A' ≤ b && b ≤ byte 'F')

/-- The value of a digit, hexadecimal ones in either case included. -/
def digitValue (b : UInt8) : Nat :=
  if b ≤ byte '9' then b.toNat - 0x30 else if b ≤ byte 'F' then b.toNat - 0x37 else b.toNat - 0x57

def numeral (base : Nat) (digits : Text) : Nat := digits.foldl (fun n b => n * base + digitValue b) 0

/-- Reads the four digits of a numbered escape. -/
def readUnit (t : Text) : Option (Nat × Text) :=
  if (t.take 4).length = 4 ∧ (t.take 4).all isHexDigit then some (numeral 16 (t.take 4), t.drop 4) else none

/-- Reads a numbered escape after its letter. A character beyond the first plane is a pair of units, each in an escape
of its own; half a pair names no character. -/
def readNumbered (t : Text) : Option (Char × Text) := do
  let (unit, rest) ← readUnit t
  if unit < 0xD800 ∨ 0xE000 ≤ unit then return (Char.ofNat unit, rest)
  else if unit < 0xDC00 ∧ rest.startsWith "\\u" then
    let (low, rest) ← readUnit (rest.drop 2)
    if 0xDC00 ≤ low ∧ low < 0xE000 then
      return (Char.ofNat (0x10000 + (unit - 0xD800) * 0x400 + (low - 0xDC00)), rest)
    else none
  else none

/-- The escapes of one letter, and the characters they stand for. -/
def letterEscapes : List (UInt8 × Char) :=
  [(doubleQuote, Char.ofNat 0x22), (backslash, '\\'), (byte '/', '/'), (byte 'b', Char.ofNat 0x08),
    (byte 'f', Char.ofNat 0x0C), (byte 'n', '\n'), (byte 'r', '\r'), (byte 't', '\t')]

/-- Reads one character of a string: an escape, or a character that is no control character. -/
def readCharacter : Text → Option (Char × Text)
  | [] => none
  | b :: rest =>
    if b = backslash then
      match rest with
      | [] => none
      | letter :: rest =>
        if letter = byte 'u' then readNumbered rest else (letterEscapes.lookup letter).map fun c => (c, rest)
    else
      match Text.front (b :: rest) with
      | (some c, width) => if 0x20 ≤ c.toNat then some (c, (b :: rest).drop width) else none
      | (none, _) => none

/-- Reads the characters of a string through its closing quote. -/
def readCharacters : Nat → Text → Option (List Char × Text)
  | 0, _ => none
  | fuel + 1, t =>
    if t.head? = some doubleQuote then some ([], t.tail)
    else do
      let (c, rest) ← readCharacter t
      let (more, rest) ← readCharacters fuel rest
      return (c :: more, rest)

/-- Reads a string after its opening quote. -/
def readString (t : Text) : Option (Text × Text) :=
  (readCharacters t.length t).map fun (cs, rest) => (Text.ofChars cs, rest)

def readDigits (t : Text) : Option (Text × Text) :=
  if (t.takeWhile isDigit).isEmpty then none else some (t.takeWhile isDigit, t.dropWhile isDigit)

/-- Reads the whole part of a number. Only a zero alone begins with a zero. -/
def readWhole (t : Text) : Option (Text × Text) := do
  let (digits, rest) ← readDigits t
  if digits.length = 1 ∨ digits.head? ≠ some (byte '0') then return (digits, rest) else none

def readFraction (t : Text) : Option (Text × Text) :=
  if t.head? = some (byte '.') then readDigits t.tail else some ([], t)

def readExponent (t : Text) : Option (Int × Text) :=
  if t.head? = some (byte 'e') ∨ t.head? = some (byte 'E') then
    let negative := t.tail.head? = some (byte '-')
    let signed := negative ∨ t.tail.head? = some (byte '+')
    (readDigits (if signed then t.tail.tail else t.tail)).map fun (digits, rest) =>
      (if negative then -numeral 10 digits else numeral 10 digits, rest)
  else some (0, t)

def readNumber (t : Text) : Option (Value × Text) := do
  let negative := t.head? = some (byte '-')
  let (whole, rest) ← readWhole (if negative then t.tail else t)
  let (fraction, rest) ← readFraction rest
  let (exponent, rest) ← readExponent rest
  let digits : Int := numeral 10 (whole ++ fraction)
  return (.number (if negative then -digits else digits) (exponent - fraction.length), rest)

def readWord (word : Text) (value : Value) (t : Text) : Option (Value × Text) :=
  if t.startsWith word then some (value, t.drop word.length) else none

def readByte (b : UInt8) (t : Text) : Option Text := if t.head? = some b then some t.tail else none

/-- Reads items with commas between them through a closing bracket. -/
def readSeparated {α : Type} (closing : UInt8) (item : Text → Option (α × Text)) : Nat → Text → Option (List α × Text)
  | 0, _ => none
  | fuel + 1, t => do
    let (first, rest) ← item t
    let rest := skipSpace rest
    if rest.head? = some closing then return ([first], rest.tail)
    else
      let rest ← readByte (byte ',') rest
      let (more, rest) ← readSeparated closing item fuel rest
      return (first :: more, rest)

/-- Reads what stands between brackets, after the opening one. -/
def readEnclosed {α : Type} (closing : UInt8) (item : Text → Option (α × Text)) (t : Text) : Option (List α × Text) :=
  if (skipSpace t).head? = some closing then some ([], (skipSpace t).tail) else readSeparated closing item t.length t

/-- Reads a member of an object: a name, a colon and a value. -/
def readMember (value : Text → Option (Value × Text)) (t : Text) : Option ((Text × Value) × Text) := do
  let rest ← readByte doubleQuote (skipSpace t)
  let (name, rest) ← readString rest
  let rest ← readByte (byte ':') (skipSpace rest)
  let (value, rest) ← value rest
  return ((name, value), rest)

/-- Reads an object after its opening brace. Its names are different. -/
def readObject (value : Text → Option (Value × Text)) (t : Text) : Option (Value × Text) := do
  let (members, rest) ← readEnclosed (byte '\x7d') (readMember value) t
  if (members.map Prod.fst).Nodup then return (.object members, rest) else none

/-- Reads a value that nests at most so deep, after white space. -/
def readValue : Nat → Text → Option (Value × Text)
  | 0, _ => none
  | depth + 1, t =>
    match skipSpace t with
    | [] => none
    | b :: rest =>
      if b = doubleQuote then (readString rest).map fun (value, rest) => (.string value, rest)
      else if b = byte '[' then
        (readEnclosed (byte ']') (readValue depth) rest).map fun (items, rest) => (.array items, rest)
      else if b = byte '\x7b' then readObject (readValue depth) rest
      else if b = byte 't' then readWord "true" (.truth true) (b :: rest)
      else if b = byte 'f' then readWord "false" (.truth false) (b :: rest)
      else if b = byte 'n' then readWord "null" .null (b :: rest)
      else readNumber (b :: rest)

/-- The value of a JSON document: one value with white space around it. -/
def read? (t : Text) : Option Value := do
  let (value, rest) ← readValue (t.length + 1) t
  if skipSpace rest = [] then return value else none

/-! ### Digits -/

theorem numeral_concat (base : Nat) (digits : Text) (b : UInt8) :
    numeral base (digits ++ [b]) = numeral base digits * base + digitValue b := by
  unfold numeral
  rw [List.foldl_append, List.foldl_cons, List.foldl_nil]

theorem digitValue_digitChar : ∀ d < 16, digitValue (byte (Nat.digitChar d)) = d := by decide

theorem isHexDigit_digitChar : ∀ d < 16, isHexDigit (byte (Nat.digitChar d)) = true := by decide

theorem isDigit_digitChar : ∀ d < 10, isDigit (byte (Nat.digitChar d)) = true := by decide

theorem numeral_toDigits {base : Nat} (proper : 1 < base) (small : base ≤ 16) (n : Nat) :
    numeral base ((Nat.toDigits base n).map byte) = n := by
  induction n using Nat.strongRecOn with
  | ind n ih =>
    rw [Nat.toDigits_eq_if proper]
    split
    · have value := digitValue_digitChar n (by omega)
      rw [List.map_cons, List.map_nil, ← List.nil_append [_], numeral_concat, value]
      simp [numeral]
    · have value := digitValue_digitChar (n % base) (Nat.lt_of_lt_of_le (Nat.mod_lt n (by omega)) small)
      rw [List.map_append, List.map_cons, List.map_nil, numeral_concat, value,
        ih (n / base) (Nat.div_lt_self (by omega) proper)]
      exact Nat.div_add_mod' n base

theorem exists_of_mem_toDigits {base n : Nat} (proper : 1 < base) {c : Char} (member : c ∈ Nat.toDigits base n) :
    ∃ d < base, c = Nat.digitChar d := by
  induction n using Nat.strongRecOn with
  | ind n ih =>
    rw [Nat.toDigits_eq_if proper] at member
    split at member
    · exact ⟨n, by assumption, List.mem_singleton.mp member⟩
    · rcases List.mem_append.mp member with early | last
      · exact ih (n / base) (Nat.div_lt_self (by omega) proper) early
      · exact ⟨n % base, Nat.mod_lt n (by omega), List.mem_singleton.mp last⟩

/-- A positive number is not spelled with a zero in front. -/
theorem head?_toDigits {n : Nat} (positive : 0 < n) :
    ∃ d, 0 < d ∧ d < 10 ∧ (Nat.toDigits 10 n).head? = some (Nat.digitChar d) := by
  induction n using Nat.strongRecOn with
  | ind n ih =>
    rw [Nat.toDigits_eq_if (by decide)]
    split
    · exact ⟨n, positive, by assumption, rfl⟩
    · obtain ⟨d, positive', small, first⟩ := ih (n / 10) (by omega) (by omega)
      exact ⟨d, positive', small, by rw [List.head?_append, first]; rfl⟩

theorem numeral_zeros (base zeros : Nat) (digits : Text) :
    numeral base (List.replicate zeros (byte '0') ++ digits) = numeral base digits := by
  have zero : digitValue (byte '0') = 0 := by decide
  induction zeros with
  | zero => rfl
  | succ zeros ih =>
    rw [List.replicate_succ, List.cons_append, ← ih]
    unfold numeral
    rw [List.foldl_cons, zero]
    simp

theorem readUnit_hex {n : Nat} (small : n < 0x10000) (rest : Text) :
    readUnit (Text.hex 4 n ++ rest) = some (n, rest) := by
  have short : (Nat.toDigits 16 n).length ≤ 4 := (Nat.length_toDigits_le_iff (by decide) (by decide)).mpr small
  have length : (Text.hex 4 n).length = 4 := by
    rw [Text.hex, List.length_append, List.length_replicate, List.length_map]
    omega
  have digits : (Text.hex 4 n).all isHexDigit = true := by
    rw [Text.hex, List.all_append, Bool.and_eq_true, List.all_map]
    constructor
    · rw [List.all_replicate]
      simp +decide
    · rw [List.all_eq_true]
      intro c member
      obtain ⟨d, below, rfl⟩ := exists_of_mem_toDigits (by decide) member
      exact isHexDigit_digitChar d below
  have value : numeral 16 (Text.hex 4 n) = n := by
    rw [Text.hex, numeral_zeros, numeral_toDigits (by decide) (by decide)]
  have front : (Text.hex 4 n ++ rest).take 4 = Text.hex 4 n := List.take_left' length
  have back : (Text.hex 4 n ++ rest).drop 4 = rest := List.drop_left' length
  rw [readUnit, front, back, if_pos ⟨length, digits⟩, value]

/-! ### Strings -/

theorem readCharacter_letter {letter : UInt8} {c : Char} (other : letter ≠ byte 'u')
    (listed : letterEscapes.lookup letter = some c) (rest : Text) :
    readCharacter (backslash :: letter :: rest) = some (c, rest) := by
  rw [readCharacter, if_pos rfl, if_neg other, listed]
  rfl

theorem readCharacter_numbered {n : Nat} (small : n < 0xD800) (rest : Text) :
    readCharacter (backslash :: byte 'u' :: (Text.hex 4 n ++ rest)) = some (Char.ofNat n, rest) := by
  rw [readCharacter, if_pos rfl, if_pos rfl, readNumbered, readUnit_hex (by omega)]
  exact if_pos (.inl small)

/-- The encoding of a character begins with an ASCII byte only if the character is that byte. -/
theorem ne_of_encode {c : Char} {b ascii : UInt8} {tail : Text} (bytes : Text.encode c = b :: tail)
    (low : ascii.toNat < 0x80) (different : c.toNat ≠ ascii.toNat) : b ≠ ascii := by
  rintro rfl
  rcases Nat.lt_or_ge c.toNat 0x80 with small | large
  · rw [Text.encode_of_ascii small] at bytes
    obtain ⟨rfl, -⟩ := List.cons.inj bytes
    rw [Text.toNat_ofNat_of_lt (by omega)] at different
    exact different rfl
  · have high := Text.high_of_mem_encode large b (by rw [bytes]; exact List.mem_cons_self)
    omega

theorem readCharacter_encode {c : Char} (printable : 0x20 ≤ c.toNat) (plain : c.toNat ≠ backslash.toNat) (rest : Text) :
    readCharacter (Text.encode c ++ rest) = some (c, rest) := by
  obtain ⟨b, tail, bytes⟩ := Text.exists_encode c
  have other : b ≠ backslash := ne_of_encode bytes (by decide) plain
  have read := Text.front_encode c rest
  have back : (Text.encode c ++ rest).drop (Text.encode c).length = rest := List.drop_left
  rw [bytes, List.cons_append] at read back ⊢
  simp only [readCharacter, other, if_false, read, printable, if_true, back]

/-- The forms in which a character is printed. -/
theorem charText_cases (c : Char) :
    (∃ letter, charText c = [backslash, letter] ∧ letter ≠ byte 'u' ∧ letterEscapes.lookup letter = some c) ∨
      (c.toNat < 0xD800 ∧ charText c = backslash :: byte 'u' :: Text.hex 4 c.toNat) ∨
      (charText c = Text.encode c ∧ 0x20 ≤ c.toNat ∧ c.toNat ≠ backslash.toNat ∧ c.toNat ≠ doubleQuote.toNat) := by
  have numbered : ∀ {n : Nat}, c.toNat = n → c = Char.ofNat n := by
    rintro n rfl
    exact (Char.ofNat_toNat c).symm
  unfold charText
  split
  next marked =>
    refine .inl ⟨byte c, rfl, ?_⟩
    have same : c = Char.ofNat 0x22 ∨ c = '\\' := marked.imp_left numbered
    rcases same with rfl | rfl <;> decide
  next unmarked =>
    have unmarked' : c.toNat ≠ doubleQuote.toNat ∧ c.toNat ≠ backslash.toNat :=
      ⟨fun quote => unmarked (.inl quote), fun slash => unmarked (.inr (numbered slash))⟩
    split
    next letter short =>
      refine .inl ⟨byte letter, rfl, ?_⟩
      unfold shortEscape? at short
      split at short
      case h_6 => cases short
      all_goals
        rename_i same
        cases short
        rw [numbered same]
        decide
    · split
      next special =>
        have escape : Text.ofString "\\u" = [backslash, byte 'u'] := by decide
        refine .inr (.inl ⟨?_, by rw [escape]; rfl⟩)
        simp only [isNumbered, Bool.or_eq_true, decide_eq_true_eq] at special
        rcases special with ((((control | rfl) | rfl) | rfl) | line) | paragraph
        · omega
        · decide
        · decide
        · decide
        · omega
        · omega
      next plain =>
        simp only [isNumbered, Bool.or_eq_true, decide_eq_true_eq, not_or] at plain
        exact .inr (.inr ⟨rfl, by omega, unmarked'.2, unmarked'.1⟩)

/-- What is printed of a character is not taken for the end of a string, and is read as that character. -/
theorem readCharacter_charText (c : Char) (rest : Text) :
    (charText c ++ rest).head? ≠ some doubleQuote ∧ readCharacter (charText c ++ rest) = some (c, rest) := by
  have slash : backslash ≠ doubleQuote := by decide
  rcases charText_cases c with ⟨letter, form, other, listed⟩ | ⟨small, form⟩ | ⟨form, printable, plain, unquoted⟩
  · rw [form]
    exact ⟨by simpa using slash, readCharacter_letter other listed rest⟩
  · rw [form]
    refine ⟨by simpa using slash, ?_⟩
    rw [List.cons_append, List.cons_append, readCharacter_numbered small, Char.ofNat_toNat]
  · rw [form]
    refine ⟨?_, readCharacter_encode printable plain rest⟩
    obtain ⟨b, tail, bytes⟩ := Text.exists_encode c
    have other := ne_of_encode bytes (by decide) unquoted
    rw [bytes]
    simpa using other

theorem readCharacters_flatMap (cs : List Char) {fuel : Nat} (enough : cs.length < fuel) (rest : Text) :
    readCharacters fuel (cs.flatMap charText ++ doubleQuote :: rest) = some (cs, rest) := by
  induction cs generalizing fuel with
  | nil =>
    obtain ⟨fuel, rfl⟩ : ∃ more, fuel = more + 1 := ⟨fuel - 1, by omega⟩
    rw [readCharacters, List.flatMap_nil, List.nil_append, if_pos (List.head?_cons ..), List.tail_cons]
  | cons c cs ih =>
    obtain ⟨fuel, rfl⟩ : ∃ more, fuel = more + 1 := ⟨fuel - 1, by omega⟩
    obtain ⟨open', read⟩ := readCharacter_charText c (cs.flatMap charText ++ doubleQuote :: rest)
    rw [readCharacters, List.flatMap_cons, List.append_assoc, if_neg open', read]
    dsimp only [bind, Option.bind]
    rw [ih (by simpa using enough)]
    rfl

theorem length_le_flatMap_charText (cs : List Char) : cs.length ≤ (cs.flatMap charText).length := by
  induction cs with
  | nil => exact Nat.le_refl 0
  | cons c cs ih =>
    have nonempty : 0 < (charText c).length := by
      obtain ⟨-, read⟩ := readCharacter_charText c []
      rw [List.append_nil] at read
      cases form : charText c with
      | nil => simp [form, readCharacter] at read
      | cons => simp
    rw [List.flatMap_cons, List.length_append, List.length_cons]
    omega

theorem charsReplaced_of_isWellFormed {t : Text} (wellFormed : Text.isWellFormed t = true) :
    Text.charsReplaced t = Text.chars t := by
  unfold Text.isWellFormed at wellFormed
  unfold Text.charsReplaced Text.chars
  generalize Text.units t = decoded at wellFormed
  induction decoded with
  | nil => rfl
  | cons unit units ih =>
    rw [List.all_cons, Bool.and_eq_true] at wellFormed
    obtain ⟨c, rfl⟩ := Option.isSome_iff_exists.mp wellFormed.1
    rw [List.map_cons, ih wellFormed.2]
    rfl

/-- A well-formed text is read back from the string that is printed of it. -/
theorem readString_string {t : Text} (wellFormed : Text.isWellFormed t = true) (rest : Text) :
    ∃ inner, string t ++ rest = doubleQuote :: inner ∧ readString inner = some (t, rest) := by
  refine ⟨(Text.charsReplaced t).flatMap charText ++ doubleQuote :: rest, by simp [string], ?_⟩
  have enough := length_le_flatMap_charText (Text.charsReplaced t)
  rw [readString, readCharacters_flatMap _ (by rw [List.length_append, List.length_cons]; omega), Option.map_some]
  dsimp only
  rw [charsReplaced_of_isWellFormed wellFormed, Text.ofChars_chars wellFormed]

/-! ### Numbers -/

/-- No number goes on with this text. -/
def Stops (t : Text) : Prop :=
  ∀ b, t.head? = some b → isDigit b = false ∧ b ≠ byte '.' ∧ b ≠ byte 'e' ∧ b ≠ byte 'E'

theorem stops_nil : Stops [] := by
  intro b first
  cases first

theorem stops_cons {b : UInt8} (separator : b = byte ',' ∨ b = byte '\n') (t : Text) : Stops (b :: t) := by
  intro b' first
  cases first
  rcases separator with rfl | rfl <;> decide

theorem stops_newline (level : Nat) (t : Text) : Stops (newline level ++ t) := stops_cons (.inr rfl) _

theorem isDigit_of_mem_ofNat {n : Nat} : ∀ b ∈ Text.ofNat n, isDigit b = true := by
  intro b member
  obtain ⟨c, digit, rfl⟩ := List.mem_map.mp member
  obtain ⟨d, below, rfl⟩ := exists_of_mem_toDigits (by decide) digit
  exact isDigit_digitChar d below

theorem ofNat_ne_nil (n : Nat) : Text.ofNat n ≠ [] := by
  unfold Text.ofNat
  rw [Ne, List.map_eq_nil_iff]
  exact Nat.toDigits_ne_nil

theorem readDigits_ofNat (n : Nat) {rest : Text} (stops : Stops rest) :
    readDigits (Text.ofNat n ++ rest) = some (Text.ofNat n, rest) := by
  have ends : rest.takeWhile isDigit = [] ∧ rest.dropWhile isDigit = rest := by
    cases rest with
    | nil => exact ⟨rfl, rfl⟩
    | cons b rest =>
      have other := (stops b rfl).1
      rw [List.takeWhile_cons, List.dropWhile_cons, other]
      exact ⟨rfl, rfl⟩
  unfold readDigits
  rw [List.takeWhile_append_of_pos isDigit_of_mem_ofNat, List.dropWhile_append_of_pos isDigit_of_mem_ofNat, ends.1,
    ends.2, List.append_nil, if_neg]
  rw [List.isEmpty_iff]
  exact ofNat_ne_nil n

theorem readWhole_ofNat (n : Nat) {rest : Text} (stops : Stops rest) :
    readWhole (Text.ofNat n ++ rest) = some (Text.ofNat n, rest) := by
  have plain : (Text.ofNat n).length = 1 ∨ (Text.ofNat n).head? ≠ some (byte '0') := by
    rcases Nat.eq_zero_or_pos n with rfl | positive
    · exact .inl rfl
    · obtain ⟨d, positive, below, first⟩ := head?_toDigits positive
      have nonzero : ∀ d < 10, 0 < d → byte (Nat.digitChar d) ≠ byte '0' := by decide
      right
      rw [Text.ofNat, List.head?_map, first]
      simpa using nonzero d below positive
  unfold readWhole
  rw [readDigits_ofNat n stops]
  dsimp only [bind, Option.bind]
  rw [if_pos plain]
  rfl

theorem readFraction_of_stops {rest : Text} (stops : Stops rest) : readFraction rest = some ([], rest) :=
  if_neg fun first => (stops _ first).2.1 rfl

theorem readExponent_of_stops {rest : Text} (stops : Stops rest) : readExponent rest = some (0, rest) :=
  if_neg (not_or.mpr ⟨fun first => (stops _ first).2.2.1 rfl, fun first => (stops _ first).2.2.2 rfl⟩)

theorem numeral_ofNat (n : Nat) : numeral 10 (Text.ofNat n) = n := numeral_toDigits (by decide) (by decide) n

/-- An integer is read back from its digits. -/
theorem readNumber_ofInt (n : Int) {rest : Text} (stops : Stops rest) :
    readNumber (Text.ofInt n ++ rest) = some (.number n 0, rest) := by
  cases n with
  | ofNat n =>
    have unsigned : (Text.ofNat n ++ rest).head? ≠ some (byte '-') := by
      obtain ⟨b, tail, digits⟩ := List.exists_cons_of_ne_nil (ofNat_ne_nil n)
      have digit := isDigit_of_mem_ofNat (n := n) b (by rw [digits]; exact List.mem_cons_self)
      rw [digits, List.cons_append, List.head?_cons]
      rintro ⟨rfl⟩
      exact absurd digit (by decide)
    simp only [readNumber, Text.ofInt, unsigned, if_false, readWhole_ofNat n stops, Option.bind_eq_bind,
      Option.bind_some, readFraction_of_stops stops, readExponent_of_stops stops, List.append_nil, numeral_ofNat]
    rfl
  | negSucc n =>
    simp only [readNumber, Text.ofInt, List.cons_append, List.head?_cons, if_true, List.tail_cons,
      readWhole_ofNat (n + 1) stops, Option.bind_eq_bind, Option.bind_some, readFraction_of_stops stops,
      readExponent_of_stops stops, List.append_nil, numeral_ofNat]
    rfl

/-- An integer begins with a sign or a digit. -/
theorem exists_ofInt (n : Int) :
    ∃ b tail, Text.ofInt n = b :: tail ∧ (b = byte '-' ∨ ∃ d < 10, b = byte (Nat.digitChar d)) := by
  cases n with
  | ofNat n =>
    obtain ⟨c, digits, form⟩ := List.exists_cons_of_ne_nil (Nat.toDigits_ne_nil (n := n) (b := 10))
    have first : c ∈ Nat.toDigits 10 n := by
      rw [form]
      exact List.mem_cons_self
    obtain ⟨d, below, rfl⟩ := exists_of_mem_toDigits (by decide) first
    exact ⟨byte (Nat.digitChar d), digits.map byte, by rw [Text.ofInt, Text.ofNat, form]; rfl, .inr ⟨d, below, rfl⟩⟩
  | negSucc n => exact ⟨byte '-', Text.ofNat (n + 1), rfl, .inl rfl⟩

/-! ### Brackets -/

theorem skipSpace_newline (level : Nat) (t : Text) : skipSpace (newline level ++ t) = skipSpace t := by
  have blank : ∀ b ∈ newline level, isSpace b = true := by
    intro b member
    rcases List.mem_cons.mp member with rfl | space
    · decide
    · rw [List.eq_of_mem_replicate space]
      decide
  exact List.dropWhile_append_of_pos blank

theorem skipSpace_cons {b : UInt8} (solid : isSpace b = false) (t : Text) : skipSpace (b :: t) = b :: t := by
  rw [skipSpace, List.dropWhile_cons, solid]
  rfl

theorem readByte_cons (b : UInt8) (t : Text) : readByte b (b :: t) = some t := if_pos (List.head?_cons ..)

section

variable {α β : Type} {closing : UInt8} {item : Text → Option (α × Text)} (piece : β → Text) {value : β → α}

/-- Items that are read one by one are read with commas between them and the closing bracket on a line of its own. -/
theorem readSeparated_pieces (solid : isSpace closing = false) (other : closing ≠ byte ',') (x : β) (xs : List β)
    (reads : ∀ y ∈ x :: xs, ∀ rest, Stops rest → item (piece y ++ rest) = some (value y, rest)) {fuel : Nat}
    (enough : xs.length < fuel) (level : Nat) (rest : Text) :
    readSeparated closing item fuel
        (piece x ++ (xs.flatMap (fun y => byte ',' :: piece y) ++ (newline level ++ closing :: rest))) =
      some (value x :: xs.map value, rest) := by
  induction xs generalizing x fuel with
  | nil =>
    obtain ⟨fuel, rfl⟩ : ∃ more, fuel = more + 1 := ⟨fuel - 1, by omega⟩
    have first := reads x List.mem_cons_self (newline level ++ closing :: rest) (stops_newline level _)
    simp only [readSeparated, List.flatMap_nil, List.nil_append, first, Option.bind_eq_bind, Option.bind_some,
      skipSpace_newline, skipSpace_cons solid, List.head?_cons, if_true, List.tail_cons]
    rfl
  | cons y ys ih =>
    obtain ⟨fuel, rfl⟩ : ∃ more, fuel = more + 1 := ⟨fuel - 1, by omega⟩
    have short : ys.length < fuel := by simpa using enough
    have more := ih y (fun z member => reads z (List.mem_cons_of_mem x member)) short
    have comma : some (byte ',') ≠ some closing := fun same => other (Option.some.inj same).symm
    rw [List.flatMap_cons, List.cons_append, List.cons_append, List.append_assoc]
    have first := reads x List.mem_cons_self _ (stops_cons (.inl rfl)
      (piece y ++ (ys.flatMap (fun z => byte ',' :: piece z) ++ (newline level ++ closing :: rest))))
    simp only [readSeparated, first, Option.bind_eq_bind, Option.bind_some, skipSpace_cons (b := byte ',') rfl,
      List.head?_cons, comma, if_false, readByte_cons, more, List.map_cons]
    rfl

theorem readEnclosed_pieces (solid : isSpace closing = false) (other : closing ≠ byte ',')
    (refuses : ∀ t, (skipSpace t).head? = some closing → item t = none) (x : β) (xs : List β)
    (reads : ∀ y ∈ x :: xs, ∀ rest, Stops rest → item (piece y ++ rest) = some (value y, rest)) (level : Nat)
    (rest : Text) :
    readEnclosed closing item
        (piece x ++ (xs.flatMap (fun y => byte ',' :: piece y) ++ (newline level ++ closing :: rest))) =
      some (value x :: xs.map value, rest) := by
  have commas : xs.length ≤ (xs.flatMap fun y => byte ',' :: piece y).length := by
    induction xs with
    | nil => exact Nat.le_refl 0
    | cons y ys ih =>
      have shorter := ih fun z member => reads z (by grind)
      rw [List.flatMap_cons, List.length_append, List.length_cons, List.length_cons]
      omega
  unfold readEnclosed
  rw [if_neg, readSeparated_pieces piece solid other x xs reads]
  · simp only [List.length_append, List.length_cons]
    omega
  · intro closed
    have absent := refuses _ closed
    cases xs with
    | nil =>
      rw [List.flatMap_nil, List.nil_append, reads x List.mem_cons_self _ (stops_newline level _)] at absent
      cases absent
    | cons y ys =>
      rw [List.flatMap_cons, List.cons_append, List.cons_append,
        reads x List.mem_cons_self _ (stops_cons (.inl rfl) _)] at absent
      cases absent

end

/-! ### Values -/

theorem readValue_newline (depth level : Nat) (t : Text) :
    readValue depth (newline level ++ t) = readValue depth t := by
  cases depth with
  | zero => rfl
  | succ depth => rw [readValue, readValue, skipSpace_newline]

theorem readValue_space (depth : Nat) (t : Text) : readValue depth (byte ' ' :: t) = readValue depth t := by
  cases depth with
  | zero => rfl
  | succ depth => rfl

/-- No value begins with a closing bracket. -/
theorem readValue_bracket (depth : Nat) {t : Text} (closed : (skipSpace t).head? = some (byte ']')) :
    readValue depth t = none := by
  cases depth with
  | zero => rfl
  | succ depth =>
    obtain ⟨rest, bytes⟩ := List.head?_eq_some_iff.mp closed
    rw [readValue, bytes]
    rfl

theorem readMember_brace {value : Text → Option (Value × Text)} {t : Text}
    (closed : (skipSpace t).head? = some (byte '\x7d')) : readMember value t = none := by
  have unquoted : some (byte '\x7d') ≠ some doubleQuote := by decide
  rw [readMember, readByte, closed, if_neg unquoted]
  rfl

/-- A member is read back from its name, a colon and what its value is read from. -/
theorem readMember_field {value : Text → Option (Value × Text)} {name text rest : Text} {read : Value}
    (wellFormed : Text.isWellFormed name = true) (reads : value (byte ' ' :: (text ++ rest)) = some (read, rest))
    (level : Nat) :
    readMember value (newline level ++ (string name ++ ": " ++ text ++ rest)) = some ((name, read), rest) := by
  have colon : Text.ofString ": " = [byte ':', byte ' '] := by decide
  obtain ⟨inner, form, named⟩ := readString_string wellFormed (byte ':' :: byte ' ' :: (text ++ rest))
  have shape : string name ++ ": " ++ text ++ rest = doubleQuote :: inner := by
    rw [← form, colon]
    simp only [List.append_assoc, List.cons_append, List.nil_append]
  simp only [readMember, skipSpace_newline, shape, skipSpace_cons (b := doubleQuote) rfl, readByte_cons,
    Option.pure_def, Option.bind_eq_bind, Option.bind_some, named, skipSpace_cons (b := byte ':') rfl, reads]

end QualityGate.Json

namespace QualityGate.Document

mutual

def value : Document → Json.Value
  | .text value => .string value
  | .integer value => .number value 0
  | .truth value => .truth value
  | .list items => .array (values items)
  | .record fields => .object (members fields)

def values : List Document → List Json.Value
  | [] => []
  | item :: rest => item.value :: values rest

def members : List (Text × Document) → List (Text × Json.Value)
  | [] => []
  | (name, field) :: rest => (name, field.value) :: members rest

end

theorem values_eq_map (items : List Document) : values items = items.map value := by
  induction items with
  | nil => rfl
  | cons item rest ih => rw [values, ih, List.map_cons]

theorem members_eq_map (fields : List (Text × Document)) :
    members fields = fields.map fun field => (field.1, field.2.value) := by
  induction fields with
  | nil => rfl
  | cons field rest ih => rw [members, ih, List.map_cons]

/-- Every text of the document is well-formed, the names of fields included, and a record has no name twice. -/
inductive IsWellFormed : Document → Prop where
  | text {value : Text} (wellFormed : Text.isWellFormed value = true) : IsWellFormed (.text value)
  | integer (value : Int) : IsWellFormed (.integer value)
  | truth (value : Bool) : IsWellFormed (.truth value)
  | list {items : List Document} (inner : ∀ item ∈ items, IsWellFormed item) : IsWellFormed (.list items)
  | record {fields : List (Text × Document)} (distinct : (fields.map Prod.fst).Nodup)
      (names : ∀ name ∈ fields.map Prod.fst, Text.isWellFormed name = true)
      (inner : ∀ field ∈ fields, IsWellFormed field.2) : IsWellFormed (.record fields)

end QualityGate.Document

namespace QualityGate.Json

open Text (byte backslash doubleQuote)

theorem renderItems_eq_flatMap (level : Nat) (items : List Document) :
    renderItems level items = items.flatMap fun item => byte ',' :: (newline level ++ render level item) := by
  induction items with
  | nil => rfl
  | cons item rest ih => rw [renderItems, ih, List.flatMap_cons]; rfl

theorem renderFields_eq_flatMap (level : Nat) (fields : List (Text × Document)) :
    renderFields level fields = fields.flatMap fun field => byte ',' :: (newline level ++ renderField level field) := by
  induction fields with
  | nil => rfl
  | cons field rest ih => rw [renderFields, ih, List.flatMap_cons]; rfl

/-- What stands between brackets: pieces, each on a line of its own, with commas after all but the last. -/
theorem render_list (level : Nat) (item : Document) (items : List Document) (rest : Text) :
    render level (.list (item :: items)) ++ rest =
      byte '[' :: (newline (level + 1) ++ render (level + 1) item ++
        (items.flatMap (fun item => byte ',' :: (newline (level + 1) ++ render (level + 1) item)) ++
          (newline level ++ byte ']' :: rest))) := by
  have opening : Text.ofString "[" = [byte '['] := by decide
  have closing : Text.ofString "]" = [byte ']'] := by decide
  rw [render, renderItems_eq_flatMap, opening, closing]
  simp only [List.append_assoc, List.cons_append, List.nil_append]

theorem render_record (level : Nat) (field : Text × Document) (fields : List (Text × Document)) (rest : Text) :
    render level (.record (field :: fields)) ++ rest =
      byte '\x7b' :: (newline (level + 1) ++ renderField (level + 1) field ++
        (fields.flatMap (fun field => byte ',' :: (newline (level + 1) ++ renderField (level + 1) field)) ++
          (newline level ++ byte '\x7d' :: rest))) := by
  have opening : Text.ofString "\x7b" = [byte '\x7b'] := by decide
  have closing : Text.ofString "\x7d" = [byte '\x7d'] := by decide
  rw [render, renderFields_eq_flatMap, opening, closing]
  simp only [List.append_assoc, List.cons_append, List.nil_append]

theorem readValue_ofInt (n : Int) (depth : Nat) {rest : Text} (stops : Stops rest) :
    readValue (depth + 1) (Text.ofInt n ++ rest) = some (.number n 0, rest) := by
  obtain ⟨b, tail, form, first⟩ := exists_ofInt n
  have plain : isSpace b = false ∧ b ≠ doubleQuote ∧ b ≠ byte '[' ∧ b ≠ byte '\x7b' ∧ b ≠ byte 't' ∧ b ≠ byte 'f' ∧
      b ≠ byte 'n' := by
    rcases first with rfl | ⟨d, below, rfl⟩
    · decide
    · clear form
      revert d
      decide
  obtain ⟨solid, string, list, record, yes, no, null⟩ := plain
  rw [← readNumber_ofInt n stops, form, List.cons_append, readValue, skipSpace_cons solid]
  simp only [string, list, record, yes, no, null, if_false]

theorem length_piece_le {β : Type} (piece : β → Text) (x : β) (xs : List β) {y : β} (member : y ∈ x :: xs) :
    (piece y).length ≤ (piece x).length + (xs.flatMap fun y => byte ',' :: piece y).length := by
  rcases List.mem_cons.mp member with rfl | later
  · omega
  · have inside : byte ',' :: piece y ∈ xs.map fun y => byte ',' :: piece y := List.mem_map_of_mem later
    have shorter := (List.sublist_flatten_of_mem inside).length_le
    rw [List.length_cons, ← List.flatMap_def] at shorter
    omega

theorem readValue_list {depth level : Nat} {item : Document} {items : List Document}
    (reads : ∀ y ∈ item :: items, ∀ rest, Stops rest →
      readValue depth (render (level + 1) y ++ rest) = some (y.value, rest)) (rest : Text) :
    readValue (depth + 1) (render level (.list (item :: items)) ++ rest) =
      some ((Document.list (item :: items)).value, rest) := by
  have solid : isSpace (byte ']') = false := by decide
  have enclosed := readEnclosed_pieces (fun y => newline (level + 1) ++ render (level + 1) y) solid (by decide)
    (fun t closed => readValue_bracket depth closed) item items
    (fun y member rest stops => by rw [List.append_assoc, readValue_newline, reads y member rest stops]) level rest
  rw [render_list, readValue, skipSpace_cons (b := byte '[') rfl]
  dsimp only
  rw [if_neg (by decide), if_pos rfl, enclosed, Document.value, Document.values_eq_map]
  rfl

theorem readValue_record {depth level : Nat} {field : Text × Document} {fields : List (Text × Document)}
    (distinct : ((field :: fields).map Prod.fst).Nodup)
    (names : ∀ name ∈ (field :: fields).map Prod.fst, Text.isWellFormed name = true)
    (reads : ∀ y ∈ field :: fields, ∀ rest, Stops rest →
      readValue depth (render (level + 1) y.2 ++ rest) = some (y.2.value, rest)) (rest : Text) :
    readValue (depth + 1) (render level (.record (field :: fields)) ++ rest) =
      some ((Document.record (field :: fields)).value, rest) := by
  have solid : isSpace (byte '\x7d') = false := by decide
  have member : ∀ y ∈ field :: fields, ∀ rest, Stops rest →
      readMember (readValue depth) (newline (level + 1) ++ renderField (level + 1) y ++ rest) =
        some ((y.1, y.2.value), rest) := by
    intro y member rest stops
    rw [List.append_assoc, renderField]
    refine readMember_field (names y.1 (List.mem_map_of_mem member)) ?_ (level + 1)
    rw [readValue_space, reads y member rest stops]
  have enclosed := readEnclosed_pieces (fun y => newline (level + 1) ++ renderField (level + 1) y) solid
    (by decide) (fun t closed => readMember_brace closed) field fields member level rest
  rw [render_record, readValue, skipSpace_cons (b := byte '\x7b') rfl]
  dsimp only
  have names' : (((field.1, field.2.value) :: fields.map fun y => (y.1, y.2.value)).map Prod.fst).Nodup := by
    rw [List.map_cons, List.map_map]
    exact distinct
  rw [if_neg (by decide), if_neg (by decide), if_pos rfl, readObject, enclosed, Document.value, Document.members_eq_map]
  dsimp only [bind, Option.bind]
  rw [if_pos names']
  rfl

/-- A document is read back from what is printed of it, whatever follows. -/
theorem readValue_render {document : Document} (wellFormed : document.IsWellFormed) :
    ∀ (level depth : Nat) (rest : Text), (render level document).length < depth → Stops rest →
      readValue depth (render level document ++ rest) = some (document.value, rest) := by
  induction wellFormed with
  | text wellFormed =>
    intro level depth rest deep stops
    obtain ⟨depth, rfl⟩ : ∃ less, depth = less + 1 := ⟨depth - 1, by omega⟩
    obtain ⟨inner, form, read⟩ := readString_string wellFormed rest
    rw [render, form, readValue, skipSpace_cons (b := doubleQuote) rfl]
    simp only [if_true, read]
    rfl
  | integer value =>
    intro level depth rest deep stops
    obtain ⟨depth, rfl⟩ : ∃ less, depth = less + 1 := ⟨depth - 1, by omega⟩
    rw [render]
    exact readValue_ofInt value depth stops
  | truth value =>
    intro level depth rest deep stops
    obtain ⟨depth, rfl⟩ : ∃ less, depth = less + 1 := ⟨depth - 1, by omega⟩
    cases value <;> rfl
  | @list items inner ih =>
    intro level depth rest deep stops
    obtain ⟨depth, rfl⟩ : ∃ less, depth = less + 1 := ⟨depth - 1, by omega⟩
    cases items with
    | nil => rfl
    | cons item items =>
      refine readValue_list ?_ rest
      intro y member rest stops
      refine ih y member (level + 1) depth rest ?_ stops
      -- What is printed of an item is shorter than the list by the brackets around it.
      have shorter := length_piece_le (fun y => newline (level + 1) ++ render (level + 1) y) item items member
      have parts := congrArg List.length (render_list level item items [])
      simp only [List.length_append, List.length_cons, List.append_nil] at parts shorter
      omega
  | @record fields distinct names inner ih =>
    intro level depth rest deep stops
    obtain ⟨depth, rfl⟩ : ∃ less, depth = less + 1 := ⟨depth - 1, by omega⟩
    cases fields with
    | nil => rfl
    | cons field fields =>
      refine readValue_record distinct names ?_ rest
      intro y member rest stops
      refine ih y member (level + 1) depth rest ?_ stops
      have shorter := length_piece_le (fun y => newline (level + 1) ++ renderField (level + 1) y) field fields member
      have parts := congrArg List.length (render_record level field fields [])
      have named : (render (level + 1) y.2).length ≤ (renderField (level + 1) y).length := by
        rw [renderField, List.length_append]
        omega
      simp only [List.length_append, List.length_cons, List.append_nil] at parts shorter
      omega

/-- The printed document is one JSON document, and its value that of the document. -/
theorem read?_render {document : Document} (wellFormed : document.IsWellFormed) (level : Nat) :
    read? (render level document) = some document.value := by
  have read := readValue_render wellFormed level _ [] (Nat.lt_succ_self _) stops_nil
  rw [List.append_nil] at read
  rw [read?, read]
  rfl

theorem read?_print {document : Document} (wellFormed : document.IsWellFormed) :
    read? (print document) = some document.value := by
  have short : (render 0 document).length < (print document).length + 1 := by
    rw [print, List.length_append]
    omega
  have read := readValue_render wellFormed 0 _ "\n" short (stops_cons (.inr rfl) [])
  rw [read?]
  unfold print at read ⊢
  rw [read]
  rfl

end QualityGate.Json
