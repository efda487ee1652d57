import QualityGate.Text.Blank

/-!
Reading UTF-8 undoes writing it. `Scalar` is the syntax of a code point; the bytes that the encoding writes have it
(`scalar_encode`), bytes that have it are what the encoding writes (`Scalar.encode_eq`), and `front` reads exactly
them. So the code points of a text are found by the encoding alone (`decodes_iff`).
-/

namespace QualityGate.Text

def IsTail (b : UInt8) : Prop := 0x80 ≤ b.toNat ∧ b.toNat < 0xC0

/-- The bytes of one code point, and its number. -/
inductive Scalar : Text → Nat → Prop where
  | one {a : UInt8} (ascii : a.toNat < 0x80) : Scalar [a] a.toNat
  | two {a b : UInt8} {n : Nat} (lead : 0xC2 ≤ a.toNat ∧ a.toNat < 0xE0) (second : IsTail b)
      (number : n = (a.toNat - 0xC0) * 0x40 + (b.toNat - 0x80)) : Scalar [a, b] n
  | three {a b c : UInt8} {n : Nat} (lead : 0xE0 ≤ a.toNat ∧ a.toNat < 0xF0) (second : IsTail b) (third : IsTail c)
      (number : n = ((a.toNat - 0xE0) * 0x40 + (b.toNat - 0x80)) * 0x40 + (c.toNat - 0x80))
      (long : 0x800 ≤ n) (character : n < 0xD800 ∨ 0xE000 ≤ n) : Scalar [a, b, c] n
  | four {a b c d : UInt8} {n : Nat} (lead : 0xF0 ≤ a.toNat ∧ a.toNat < 0xF5) (second : IsTail b) (third : IsTail c)
      (fourth : IsTail d)
      (number : n = (((a.toNat - 0xF0) * 0x40 + (b.toNat - 0x80)) * 0x40 + (c.toNat - 0x80)) * 0x40 + (d.toNat - 0x80))
      (long : 0x10000 ≤ n) (character : n ≤ 0x10FFFF) : Scalar [a, b, c, d] n

theorem isContinuation_iff {b : UInt8} : isContinuation b = true ↔ IsTail b := by
  simp [isContinuation, IsTail, UInt8.le_iff_toNat_le, UInt8.lt_iff_toNat_lt]

theorem toNat_ofNat_of_lt {n : Nat} (small : n < 256) : (UInt8.ofNat n).toNat = n := by
  rw [UInt8.toNat_ofNat', Nat.mod_eq_of_lt small]

theorem ofNat_eq {b : UInt8} {n : Nat} (same : n = b.toNat) : UInt8.ofNat n = b := by
  rw [same, UInt8.ofNat_toNat]

theorem toNat_ofNat_of_valid {n : Nat} (valid : n.isValidChar) : (Char.ofNat n).toNat = n := by
  rw [Char.ofNat, dif_pos valid]
  rfl

theorem Scalar.front {bytes : Text} {n : Nat} (scalar : Scalar bytes n) (rest : Text) :
    front (bytes ++ rest) = (some (Char.ofNat n), bytes.length) := by
  cases scalar with
  | @one a ascii =>
    have ascii' : a < 0x80 := UInt8.lt_iff_toNat_lt.mpr ascii
    simp only [List.singleton_append, Text.front, ascii', if_true, List.length_singleton]
  | @two a b _ lead second number =>
    have above : ¬ a.toNat < 128 := by omega
    simp [Text.front, UInt8.lt_iff_toNat_lt, UInt8.le_iff_toNat_le, above, isContinuation_iff.mpr second, lead, number]
  | @three a b c _ lead second third number long character =>
    have above : ¬ a.toNat < 128 := by omega
    have other : ¬ a.toNat < 224 := by omega
    have here : ¬ n < 0x800 := by omega
    have here' : ¬ (0xD800 ≤ n ∧ n < 0xE000) := by omega
    simp [Text.front, UInt8.lt_iff_toNat_lt, UInt8.le_iff_toNat_le, above, other, isContinuation_iff.mpr second,
      isContinuation_iff.mpr third, lead, ← number, here, here']
  | @four a b c d _ lead second third fourth number long character =>
    have above : ¬ a.toNat < 128 := by omega
    have other : ¬ a.toNat < 224 := by omega
    have other' : ¬ a.toNat < 240 := by omega
    have here : ¬ n < 0x10000 := by omega
    have here' : ¬ 0x10FFFF < n := by omega
    simp [Text.front, UInt8.lt_iff_toNat_lt, UInt8.le_iff_toNat_le, above, other, other', isContinuation_iff.mpr second,
      isContinuation_iff.mpr third, isContinuation_iff.mpr fourth, lead, ← number, here, here']

/-- What stands at the front of a text is a code point, or one byte that begins none. -/
theorem front_cons_cases (b : UInt8) (rest : Text) :
    front (b :: rest) = (none, 1) ∨ ∃ bytes n after, b :: rest = bytes ++ after ∧ Scalar bytes n := by
  generalize whole : b :: rest = t
  fun_cases front t with
  | case1 => cases whole
  | case2 a after ascii => exact .inr ⟨[a], _, after, rfl, .one (UInt8.lt_iff_toNat_lt.mp ascii)⟩
  | case4 a above b after second lead =>
    refine .inr ⟨[a, b], _, after, rfl, .two ?_ ?_ rfl⟩
    · simpa [UInt8.lt_iff_toNat_lt, UInt8.le_iff_toNat_le] using lead
    · simpa [← isContinuation_iff] using second
  | case7 a above b second low c after third lead n proper =>
    rw [Bool.not_eq_true, Bool.or_eq_false_iff, Bool.and_eq_false_iff] at proper
    simp only [decide_eq_false_iff_not] at proper
    refine .inr ⟨[a, b, c], n, after, rfl, .three ?_ ?_ ?_ rfl (by omega) (by omega)⟩
    · simpa [UInt8.lt_iff_toNat_lt, UInt8.le_iff_toNat_le] using lead
    · simpa [← isContinuation_iff] using second
    · simpa [← isContinuation_iff] using third
  | case10 a above b second low c third low' d after fourth lead n proper =>
    rw [Bool.not_eq_true, Bool.or_eq_false_iff] at proper
    simp only [decide_eq_false_iff_not] at proper
    refine .inr ⟨[a, b, c, d], n, after, rfl, .four ?_ ?_ ?_ ?_ rfl (by omega) (by omega)⟩
    · simpa [UInt8.lt_iff_toNat_lt, UInt8.le_iff_toNat_le] using lead
    · simpa [← isContinuation_iff] using second
    · simpa [← isContinuation_iff] using third
    · simpa [← isContinuation_iff] using fourth
  -- In all other cases the first byte is given up.
  | _ => exact .inl rfl

theorem Scalar.isValidChar {bytes : Text} {n : Nat} (scalar : Scalar bytes n) : n.isValidChar := by
  unfold Nat.isValidChar
  cases scalar with
  | one ascii => omega
  | two lead second number =>
    unfold IsTail at second
    omega
  | three lead second third number long character =>
    unfold IsTail at second third
    omega
  | four lead second third fourth number long character => omega

theorem Scalar.encode_eq {bytes : Text} {n : Nat} (scalar : Scalar bytes n) : encode (Char.ofNat n) = bytes := by
  have value : (Char.ofNat n).val.toNat = n := toNat_ofNat_of_valid scalar.isValidChar
  rw [encode, String.utf8EncodeChar.eq_def]
  simp only [value]
  cases scalar with
  | one ascii => rw [if_pos (by omega), UInt8.ofNat_toNat]
  | @two a b _ lead second number =>
    unfold IsTail at second
    rw [if_neg (by omega), if_pos (by omega), ofNat_eq (b := a) (by omega), ofNat_eq (b := b) (by omega)]
  | @three a b c _ lead second third number long character =>
    unfold IsTail at second third
    rw [if_neg (by omega), if_neg (by omega), if_pos (by omega), ofNat_eq (b := a) (by omega),
      ofNat_eq (b := b) (by omega), ofNat_eq (b := c) (by omega)]
  | @four a b c d _ lead second third fourth number long character =>
    unfold IsTail at second third fourth
    rw [if_neg (by omega), if_neg (by omega), if_neg (by omega), ofNat_eq (b := a) (by omega),
      ofNat_eq (b := b) (by omega), ofNat_eq (b := c) (by omega), ofNat_eq (b := d) (by omega)]

theorem scalar_encode (c : Char) : Scalar (encode c) c.toNat := by
  have valid : c.toNat < 0xD800 ∨ 0xDFFF < c.toNat ∧ c.toNat < 0x110000 := c.valid
  have value : c.val.toNat = c.toNat := rfl
  rw [encode, String.utf8EncodeChar.eq_def]
  simp only [value]
  generalize c.toNat = v at valid
  -- One case for each length of an encoding, with the values of its bytes.
  split
  · have first := toNat_ofNat_of_lt (show v < 256 by omega)
    have scalar : Scalar [UInt8.ofNat v] _ := .one (by omega)
    rwa [first] at scalar
  split
  · have first := toNat_ofNat_of_lt (show v / 64 % 32 + 192 < 256 by omega)
    have second := toNat_ofNat_of_lt (show v % 64 + 128 < 256 by omega)
    exact .two (by omega) (by unfold IsTail; omega) (by omega)
  split
  · have first := toNat_ofNat_of_lt (show v / 4096 % 16 + 224 < 256 by omega)
    have second := toNat_ofNat_of_lt (show v / 64 % 64 + 128 < 256 by omega)
    have third := toNat_ofNat_of_lt (show v % 64 + 128 < 256 by omega)
    exact .three (by omega) (by unfold IsTail; omega) (by unfold IsTail; omega) (by omega) (by omega) (by omega)
  · have first := toNat_ofNat_of_lt (show v / 262144 % 8 + 240 < 256 by omega)
    have second := toNat_ofNat_of_lt (show v / 4096 % 64 + 128 < 256 by omega)
    have third := toNat_ofNat_of_lt (show v / 64 % 64 + 128 < 256 by omega)
    have fourth := toNat_ofNat_of_lt (show v % 64 + 128 < 256 by omega)
    exact .four (by omega) (by unfold IsTail; omega) (by unfold IsTail; omega) (by unfold IsTail; omega) (by omega)
      (by omega) (by omega)

theorem encode_of_ascii {c : Char} (ascii : c.toNat < 0x80) : encode c = [UInt8.ofNat c.toNat] := by
  have scalar := scalar_encode c
  generalize encode c = bytes, c.toNat = n at scalar ascii
  cases scalar with
  | one => rw [UInt8.ofNat_toNat]
  | two lead _ number => omega
  | three _ _ _ _ long => omega
  | four _ _ _ _ _ long => omega

/-- The bytes of a code point above the ASCII range are above it, too. -/
theorem high_of_mem_encode {c : Char} (above : 0x80 ≤ c.toNat) : ∀ b ∈ encode c, 0x80 ≤ b.toNat := by
  have scalar := scalar_encode c
  generalize encode c = bytes, c.toNat = n at scalar above
  intro b member
  cases scalar with
  | one ascii => omega
  | two lead second =>
    unfold IsTail at second
    simp only [List.mem_cons, List.not_mem_nil, or_false] at member
    rcases member with rfl | rfl <;> omega
  | three lead second third =>
    unfold IsTail at second third
    simp only [List.mem_cons, List.not_mem_nil, or_false] at member
    rcases member with rfl | rfl | rfl <;> omega
  | four lead second third fourth =>
    unfold IsTail at second third fourth
    simp only [List.mem_cons, List.not_mem_nil, or_false] at member
    rcases member with rfl | rfl | rfl | rfl <;> omega

theorem front_encode (c : Char) (rest : Text) : front (encode c ++ rest) = (some c, (encode c).length) := by
  rw [(scalar_encode c).front rest, Char.ofNat_toNat]

theorem exists_encode (c : Char) : ∃ b tail, encode c = b :: tail := by
  have scalar := scalar_encode c
  generalize encode c = bytes, c.toNat = n at scalar
  cases scalar <;> exact ⟨_, _, rfl⟩

/-- The front of a text is read as the encoding says: as the code point that is encoded there, if there is one. -/
theorem front_cons (b : UInt8) (rest : Text) :
    (front (b :: rest) = (none, 1) ∧ ∀ c, ¬ encode c <+: b :: rest) ∨ ∃ c after, b :: rest = encode c ++ after := by
  rcases front_cons_cases b rest with none | ⟨bytes, n, after, split, scalar⟩
  · refine .inl ⟨none, fun c ⟨after, begins⟩ => ?_⟩
    rw [← begins, front_encode] at none
    cases none
  · exact .inr ⟨Char.ofNat n, after, by rw [scalar.encode_eq, split]⟩

theorem front_of_ascii {b : UInt8} (ascii : b.toNat < 0x80) (rest : Text) :
    front (b :: rest) = (some (Char.ofNat b.toNat), 1) :=
  (Scalar.one ascii).front rest

theorem above_of_encode {b : UInt8} {c : Char} {rest after : Text} (high : 0x80 ≤ b.toNat)
    (split : b :: rest = encode c ++ after) : 0x80 ≤ c.toNat := by
  rcases Nat.lt_or_ge c.toNat 0x80 with ascii | above
  · rw [encode_of_ascii ascii] at split
    rw [(List.cons.inj split).1, toNat_ofNat_of_lt (by omega)] at high
    exact high
  · exact above

/-- A byte above the ASCII range stands in a unit of such bytes. -/
theorem front_of_high {b : UInt8} (high : 0x80 ≤ b.toNat) (rest : Text) :
    (∀ d ∈ (b :: rest).take (front (b :: rest)).2, 0x80 ≤ d.toNat) ∧
      1 ≤ (front (b :: rest)).2 ∧ (front (b :: rest)).2 ≤ (b :: rest).length ∧
      0x80 ≤ (frontChar (b :: rest)).toNat := by
  rcases front_cons b rest with ⟨none, -⟩ | ⟨c, after, split⟩
  · rw [frontChar, none]
    exact ⟨by simpa using high, Nat.le_refl 1, by simp, by decide⟩
  · obtain ⟨first, tail, bytes⟩ := exists_encode c
    have above := above_of_encode high split
    rw [split, frontChar, front_encode, List.take_left]
    refine ⟨high_of_mem_encode above, ?_, by simp, above⟩
    rw [bytes]
    simp

theorem length_take_front (t : Text) : (t.take (front t).2).length = (front t).2 := by
  match t with
  | [] => rfl
  | b :: rest =>
    rw [List.length_take]
    rcases Nat.lt_or_ge b.toNat 0x80 with low | high
    · rw [front_of_ascii low, List.length_cons]
      omega
    · obtain ⟨-, -, within, -⟩ := front_of_high high rest
      omega

/-! ### Units -/

theorem unitsFrom_append (front rest : Text) : unitsFrom front.length (front ++ rest) = unitsFrom 0 rest := by
  induction front with
  | nil => rfl
  | cons b front ih => exact ih

theorem units_encode (c : Char) (rest : Text) : units (encode c ++ rest) = some c :: units rest := by
  obtain ⟨b, tail, bytes⟩ := exists_encode c
  have read := front_encode c rest
  rw [bytes, List.cons_append] at read ⊢
  rw [units, unitsFrom, read]
  exact congrArg _ (unitsFrom_append tail rest)

theorem units_illFormed {b : UInt8} {rest : Text} (none : front (b :: rest) = (none, 1)) :
    units (b :: rest) = Option.none :: units rest := by
  rw [units, unitsFrom, none]
  rfl

theorem piecesFrom_append (front rest : Text) : piecesFrom front.length (front ++ rest) = piecesFrom 0 rest := by
  induction front with
  | nil => rfl
  | cons b front ih => exact ih

theorem pieces_encode (c : Char) (rest : Text) : pieces (encode c ++ rest) = (some c, encode c) :: pieces rest := by
  obtain ⟨b, tail, bytes⟩ := exists_encode c
  have read := front_encode c rest
  rw [bytes, List.cons_append] at read ⊢
  simp only [pieces, piecesFrom, read, List.length_cons, Nat.add_sub_cancel, List.take_succ_cons, List.take_left,
    piecesFrom_append]

/-! ### Decoding -/

/-- The code points of a text, from left to right: where the encoding of one stands it is taken, and a byte that begins
no encoding is dropped. -/
inductive Decodes : Text → List Char → Prop where
  | nil : Decodes [] []
  | char (c : Char) {rest : Text} {cs : List Char} (more : Decodes rest cs) : Decodes (encode c ++ rest) (c :: cs)
  | drop {b : UInt8} {rest : Text} {cs : List Char} (illFormed : ∀ c, ¬ encode c <+: b :: rest)
      (more : Decodes rest cs) : Decodes (b :: rest) cs

theorem decodes_chars (t : Text) : Decodes t (chars t) := by
  match t with
  | [] => exact .nil
  | b :: rest =>
    rcases front_cons b rest with ⟨none, illFormed⟩ | ⟨c, after, split⟩
    · rw [chars, units_illFormed none]
      exact .drop illFormed (decodes_chars rest)
    · have shorter : after.length < (b :: rest).length := by
        obtain ⟨first, tail, bytes⟩ := exists_encode c
        rw [split, bytes, List.cons_append, List.length_cons, List.length_append]
        omega
      rw [split, chars, units_encode]
      exact .char c (decodes_chars after)
termination_by t.length
decreasing_by
  all_goals
    simp only [List.length_cons] at *
    omega

theorem chars_encode (c : Char) (rest : Text) : chars (encode c ++ rest) = c :: chars rest := by
  rw [chars, units_encode]
  rfl

theorem chars_ofChars (cs : List Char) : chars (ofChars cs) = cs := by
  induction cs with
  | nil => rfl
  | cons c cs ih => rw [ofChars, List.flatMap_cons, chars_encode, ← ofChars, ih]

theorem Decodes.chars_eq {t : Text} {cs : List Char} (decodes : Decodes t cs) : chars t = cs := by
  induction decodes with
  | nil => rfl
  | char c more ih => rw [chars_encode, ih]
  | @drop b rest cs illFormed more ih =>
    rcases front_cons b rest with ⟨none, -⟩ | ⟨c, after, split⟩
    · rw [chars, units_illFormed none, ← ih]
      rfl
    · exact absurd ⟨after, split.symm⟩ (illFormed c)

theorem decodes_iff {t : Text} {cs : List Char} : Decodes t cs ↔ chars t = cs :=
  ⟨Decodes.chars_eq, fun same => same ▸ decodes_chars t⟩

/-! ### Well-formed texts -/

theorem isWellFormed_ofChars (cs : List Char) : isWellFormed (ofChars cs) = true := by
  have read : units (ofChars cs) = cs.map some := by
    induction cs with
    | nil => rfl
    | cons c cs ih => rw [ofChars, List.flatMap_cons, units_encode, List.map_cons, ← ih, ofChars]
  rw [isWellFormed, read, List.all_map]
  exact List.all_eq_true.mpr fun _ _ => rfl

theorem Decodes.ofChars_eq {t : Text} {cs : List Char} (decodes : Decodes t cs) (wellFormed : isWellFormed t = true) :
    ofChars cs = t := by
  induction decodes with
  | nil => rfl
  | @char c rest cs _ ih =>
    rw [isWellFormed, units_encode, List.all_cons, Bool.and_eq_true] at wellFormed
    rw [ofChars, List.flatMap_cons, ← ofChars, ih wellFormed.2]
  | @drop b rest cs illFormed _ _ =>
    rcases front_cons b rest with ⟨none, -⟩ | ⟨c, after, split⟩
    · rw [isWellFormed, units_illFormed none] at wellFormed
      simp at wellFormed
    · exact absurd ⟨after, split.symm⟩ (illFormed c)

theorem ofChars_chars {t : Text} (wellFormed : isWellFormed t = true) : ofChars (chars t) = t :=
  (decodes_chars t).ofChars_eq wellFormed

/-! ### White space at the ends -/

theorem pieces_ofChars (cs : List Char) : pieces (ofChars cs) = cs.map fun c => (some c, encode c) := by
  induction cs with
  | nil => rfl
  | cons c cs ih => rw [ofChars, List.flatMap_cons, pieces_encode, List.map_cons, ← ih, ofChars]

/-- The part of a sequence between the white space at its two ends. -/
structure Trims (cs inner : List Char) : Prop where
  surrounded : ∃ lead trail, cs = lead ++ inner ++ trail ∧ (∀ c ∈ lead, isBlank c = true) ∧
    ∀ c ∈ trail, isBlank c = true
  starts : ∀ c, inner.head? = some c → isBlank c = false
  ends : ∀ c, inner.getLast? = some c → isBlank c = false

theorem trim_ofChars_eq (cs : List Char) :
    trim (ofChars cs) = ofChars ((cs.dropWhile isBlank).reverse.dropWhile isBlank).reverse := by
  have unit : (isBlankUnit ∘ fun c => (some c, encode c)) = isBlank := rfl
  rw [trim, pieces_ofChars, List.dropWhile_map, unit, ← List.map_reverse, List.dropWhile_map, unit, ← List.map_reverse]
  exact List.flatMap_map ..

theorem dropWhile_blank_of_head {cs : List Char} (starts : ∀ c, cs.head? = some c → isBlank c = false) :
    cs.dropWhile isBlank = cs := by
  cases cs with
  | nil => rfl
  | cons c cs => exact List.dropWhile_cons_of_neg (by simp [starts c rfl])

theorem Trims.trim_ofChars {cs inner : List Char} (trims : Trims cs inner) : trim (ofChars cs) = ofChars inner := by
  obtain ⟨⟨lead, trail, rfl, before, after⟩, starts, ends⟩ := trims
  have after' : ∀ c ∈ trail.reverse, isBlank c = true := fun c member => after c (List.mem_reverse.mp member)
  have ends' : ∀ c, inner.reverse.head? = some c → isBlank c = false := by
    rw [List.head?_reverse]
    exact ends
  rw [trim_ofChars_eq, List.append_assoc, List.dropWhile_append_of_pos before]
  cases inner with
  | nil =>
    have none : (trail ++ []).dropWhile isBlank = [] := List.dropWhile_append_of_pos after
    rw [List.append_nil] at none
    rw [List.nil_append, none]
    rfl
  | cons c inner =>
    have first := starts c rfl
    rw [List.cons_append, List.dropWhile_cons_of_neg (by simp [first]), ← List.cons_append, List.reverse_append,
      List.dropWhile_append_of_pos after', dropWhile_blank_of_head ends', List.reverse_reverse]

theorem exists_blank_front (cs : List Char) :
    ∃ lead rest, cs = lead ++ rest ∧ (∀ c ∈ lead, isBlank c = true) ∧ ∀ c, rest.head? = some c → isBlank c = false := by
  refine ⟨cs.takeWhile isBlank, cs.dropWhile isBlank, List.takeWhile_append_dropWhile.symm, ?_, fun c first => ?_⟩
  · exact List.all_eq_true.mp List.all_takeWhile
  · have nonblank := List.head?_dropWhile_not isBlank cs
    rwa [first] at nonblank

theorem exists_trims (cs : List Char) : ∃ inner, Trims cs inner := by
  obtain ⟨lead, rest, rfl, before, starts⟩ := exists_blank_front cs
  obtain ⟨trail, inner, split, after, ends⟩ := exists_blank_front rest.reverse
  have split' : rest = inner.reverse ++ trail.reverse := by
    rw [← List.reverse_append, ← split, List.reverse_reverse]
  refine ⟨inner.reverse, ⟨lead, trail.reverse, ?_, before, ?_⟩, ?_, ?_⟩
  · rw [split', List.append_assoc]
  · intro c member
    exact after c (List.mem_reverse.mp member)
  · intro c first
    refine starts c ?_
    rw [split', List.head?_append, first]
    rfl
  · intro c last
    rw [List.getLast?_reverse] at last
    exact ends c last

end QualityGate.Text
