import QualityGate.Proofs.GoSource.Comments
import QualityGate.Proofs.Lookup
import QualityGate.Proofs.Masking.Characters
import QualityGate.Proofs.Masking.Geometry

/-!
Names, numbers and operators are not changed by masking, and are read alike before and after it. Two cursors mirror one
another when one is in a text where the other is in the masked text; `Mirrors.step` says that they stay so over everything
that opens no comment and no literal, and then each reader is followed on both sides at once.
-/

namespace QualityGate.GoSource

open Cursor
open Masking (Covers Element)
open Text (byte front frontChar doubleQuote singleQuote backquote)

variable {s c d : Cursor} {α : Type}

/-! ### The front of a masked text -/

/-- The characters that open a comment or a literal. -/
def openers : List Char := ['/', quoteChar, '\'', backquoteChar]

/-- Neither they nor the space that a comment becomes belong to a name or a number. -/
theorem wordless_of_mem {ch : Char} (member : ch ∈ ' ' :: openers) :
    (isLetter ch || isDigit ch) = false ∧ ch ≠ '_' ∧ ch.isDigit = false ∧ isHexDigit ch = false := by
  simp only [openers, List.mem_cons, List.not_mem_nil, or_false] at member
  rcases member with rfl | rfl | rfl | rfl | rfl <;> decide

theorem ascii_of_quote {quote : UInt8} (member : quote ∈ [doubleQuote, singleQuote, backquote]) :
    0 < quote.toNat ∧ quote.toNat < 0x80 := by
  simp only [List.mem_cons, List.not_mem_nil, or_false] at member
  rcases member with rfl | rfl | rfl <;> decide

/-- No comment and no literal starts at the front. -/
structure PlainFront (t : Text) : Prop where
  unquoted : t.head? ≠ some doubleQuote ∧ t.head? ≠ some singleQuote ∧ t.head? ≠ some backquote
  uncommented : t.head? = some (byte '/') → t.tail.head? ≠ some (byte '/') ∧ t.tail.head? ≠ some (byte '*')

theorem mask_cons {b : UInt8} {rest : Text} (plain : PlainFront (b :: rest)) :
    Language.go.mask (b :: rest) = b :: Language.go.mask rest := by
  obtain ⟨⟨notDouble, notSingle, notBack⟩, uncommented⟩ := plain
  simp only [List.head?_cons, List.tail_cons, ne_eq, Option.some.injEq] at notDouble notSingle notBack uncommented
  exact Element.maskIn_code ⟨notDouble, notSingle, fun _ => notBack⟩ ⟨uncommented, fun other => absurd other (by decide)⟩

theorem mask_high {bytes : Text} (high : ∀ b ∈ bytes, 0x80 ≤ b.toNat) (rest : Text) :
    Language.go.mask (bytes ++ rest) = bytes ++ Language.go.mask rest := by
  have code : Masking.State.code.Proper := trivial
  have masked : Language.go.mask (bytes ++ rest) = _ := Masking.maskIn_high code high rest
  rw [masked]
  exact congrArg (· ++ _) (Masking.map_write_true bytes)

/-- Bytes above the ASCII range in a masked text stand in the text itself. -/
theorem prefix_of_covers {text masked bytes : Text} (covers : List.Forall₂ Covers text masked)
    (high : ∀ b ∈ bytes, 0x80 ≤ b.toNat) (begins : bytes <+: masked) : bytes <+: text := by
  induction bytes generalizing text masked with
  | nil => exact List.nil_prefix
  | cons b bytes ih =>
    obtain ⟨rest, rfl⟩ := begins
    rw [List.cons_append] at covers
    cases covers with
    | cons first others =>
      rcases first with rfl | ⟨rfl, -⟩
      · exact List.cons_prefix_cons.mpr
          ⟨rfl, ih others (fun d member => high d (List.mem_cons_of_mem _ member)) ⟨rest, rfl⟩⟩
      · exact absurd (high (byte ' ') List.mem_cons_self) (by decide)

/-- What opens no comment and no literal is left as it is, whole characters at a time. -/
theorem mask_plainFront {t : Text} (plain : PlainFront t) :
    front (Language.go.mask t) = front t ∧
      Language.go.mask t = t.take (front t).2 ++ Language.go.mask (t.drop (front t).2) := by
  match t, plain with
  | [], _ => exact ⟨rfl, rfl⟩
  | b :: rest, plain =>
    have first := mask_cons plain
    rcases Nat.lt_or_ge b.toNat 0x80 with low | high
    · rw [first, Text.front_of_ascii low, Text.front_of_ascii low]
      exact ⟨rfl, rfl⟩
    · refine ⟨?_, ?_⟩
      · rcases Text.front_cons b rest with ⟨none, noChar⟩ | ⟨ch, after, split⟩
        · rcases Text.front_cons b (Language.go.mask rest) with ⟨none', -⟩ | ⟨ch, after, split⟩
          · rw [first, none, none']
          · -- A character in the masked text would stand in the text as well.
            have begins : Text.encode ch <+: Language.go.mask (b :: rest) := ⟨after, by rw [first, split]⟩
            have above := Text.above_of_encode high split
            have inside := prefix_of_covers (Masking.covers_mask _ _) (Text.high_of_mem_encode above) begins
            exact absurd inside (noChar ch)
        · have above := Text.above_of_encode high split
          rw [split, mask_high (Text.high_of_mem_encode above), Text.front_encode, Text.front_encode]
      · obtain ⟨all, -, -, -⟩ := Text.front_of_high high rest
        have masked := mask_high all ((b :: rest).drop (front (b :: rest)).2)
        rwa [List.take_append_drop] at masked

/-- A comment or a literal at the front: the quote stays, and the first byte of a comment becomes a space. -/
theorem mask_openFront {t : Text} (opens : ¬ PlainFront t) :
    (∃ quote ∈ [doubleQuote, singleQuote, backquote], ∃ rest masked,
        t = quote :: rest ∧ Language.go.mask t = quote :: masked) ∨
      ∃ mark rest masked, (mark = '/' ∨ mark = '*') ∧ t = byte '/' :: byte mark :: rest ∧
        Language.go.mask t = byte ' ' :: masked := by
  match t with
  | [] => exact absurd ⟨by simp, by simp⟩ opens
  | b :: rest =>
    by_cases quoted : b ∈ [doubleQuote, singleQuote, backquote]
    · refine .inl ⟨b, quoted, rest, ?_⟩
      simp only [List.mem_cons, List.not_mem_nil, or_false] at quoted
      rcases quoted with rfl | rfl | rfl
      · exact ⟨_, rfl, Masking.maskIn_keep (by simp +decide [Masking.step, Masking.enter]; rfl)⟩
      · exact ⟨_, rfl, Masking.maskIn_keep (by simp +decide [Masking.step, Masking.enter]; rfl)⟩
      · exact ⟨_, rfl, Masking.maskIn_keep (by simp +decide [Masking.step, Masking.enter]; rfl)⟩
    · simp only [List.mem_cons, List.not_mem_nil, or_false, not_or] at quoted
      have comment : b = byte '/' ∧ (rest.head? = some (byte '/') ∨ rest.head? = some (byte '*')) := by
        by_contra other
        refine opens ⟨by simpa using quoted, fun slash => ?_⟩
        rw [List.head?_cons, Option.some.injEq] at slash
        simpa [slash] using other
      obtain ⟨rfl, second⟩ := comment
      rcases second with second | second
      · obtain ⟨rest, rfl⟩ := List.head?_eq_some_iff.mp second
        have stepped : Masking.step Language.go.maskRules .code (byte '/' :: byte '/' :: rest) =
            ⟨2, false, .lineComment⟩ := by
          simp +decide [Masking.step, Masking.enter]
        exact .inr ⟨'/', rest, _, .inl rfl, rfl, Masking.maskIn_pair stepped⟩
      · obtain ⟨rest, rfl⟩ := List.head?_eq_some_iff.mp second
        have stepped : Masking.step Language.go.maskRules .code (byte '/' :: byte '*' :: rest) =
            ⟨2, false, .blockComment⟩ := by
          simp +decide [Masking.step, Masking.enter]
        exact .inr ⟨'*', rest, _, .inr rfl, rfl, Masking.maskIn_pair stepped⟩

theorem isUnreadable_mask (offset : Nat) (t : Text) :
    isUnreadable offset (Language.go.mask t) = isUnreadable offset t := by
  by_cases plain : PlainFront t
  · rw [isUnreadable, (mask_plainFront plain).1, isUnreadable]
  rcases mask_openFront plain with ⟨quote, member, rest, masked, rfl, same⟩ | ⟨mark, rest, masked, -, rfl, same⟩
  · obtain ⟨positive, low⟩ := ascii_of_quote member
    rw [same, isUnreadable_ascii positive low, isUnreadable_ascii positive low]
  · rw [same, isUnreadable_ascii (by decide) (by decide), isUnreadable_ascii (by decide) (by decide)]

theorem head?_mask (t : Text) : (Language.go.mask t).head? = t.head? ∨
    t.head? = some (byte '/') ∧ (Language.go.mask t).head? = some (byte ' ') := by
  by_cases plain : PlainFront t
  · left
    match t, plain with
    | [], _ => rfl
    | b :: rest, plain => rw [mask_cons plain, List.head?_cons, List.head?_cons]
  rcases mask_openFront plain with ⟨quote, -, rest, masked, rfl, same⟩ | ⟨mark, rest, masked, -, rfl, same⟩
  · exact .inl (by rw [same, List.head?_cons, List.head?_cons])
  · exact .inr ⟨rfl, by rw [same, List.head?_cons]⟩

/-! ### Cursors in the text and in the masked text -/

/-- A comment is seen as a space after masking, and everything else as it is. -/
theorem peek_mask (masked : d.rest = Language.go.mask c.rest) :
    d.peek = c.peek ∨ startsComment c = true ∧ c.peek = some '/' ∧ d.peek = some ' ' := by
  by_cases plain : PlainFront c.rest
  · left
    match here : c.rest with
    | [] => rw [peek_nil here, peek_nil (by rw [masked, here]; rfl)]
    | b :: rest =>
      have ahead : d.rest = b :: Language.go.mask rest := by rw [masked, here, mask_cons (here ▸ plain)]
      have same := (mask_plainFront plain).1
      rw [← masked, ahead, here] at same
      rw [peek_cons here, peek_cons ahead, frontChar, frontChar, same]
  rcases mask_openFront plain with ⟨quote, member, rest, others, here, same⟩ | ⟨mark, rest, others, marked, here, same⟩
  · left
    have ascii := (ascii_of_quote member).2
    rw [peek_ascii here ascii, peek_ascii (masked.trans same) ascii]
  · right
    refine ⟨startsComment_iff.mpr ⟨mark, rest, marked, here⟩, ?_, ?_⟩
    · exact (peek_eq_some_iff (by decide)).mpr ⟨_, here⟩
    · exact (peek_eq_some_iff (by decide)).mpr ⟨_, masked.trans same⟩

/-- One cursor is in a text where another is in the masked text. Between a cursor before them, the start, and the first
one nothing has been blanked. -/
structure Mirrors (start c d : Cursor) : Prop where
  rest : d.rest = Language.go.mask c.rest
  offset : d.offset = c.offset
  faults : d.faults = c.faults
  bound : c.bound = start.bound ∧ d.bound = start.bound
  looked : isUnreadable c.offset c.rest = true → c.faults ≠ []
  keeps : KeepsFaults start c
  kept : ∃ taken, start.rest = taken ++ c.rest ∧ Language.go.mask start.rest = taken ++ Language.go.mask c.rest ∧
    c.offset = start.offset + taken.length

namespace Mirrors

theorem refl (rest : d.rest = Language.go.mask c.rest) (offset : d.offset = c.offset) (faults : d.faults = c.faults)
    (bound : d.bound = c.bound) (looked : isUnreadable c.offset c.rest = true → c.faults ≠ []) : Mirrors c c d :=
  ⟨rest, offset, faults, ⟨rfl, bound⟩, looked, .refl c, [], rfl, rfl, rfl⟩

theorem peek (mirrors : Mirrors s c d) :
    d.peek = c.peek ∨ startsComment c = true ∧ c.peek = some '/' ∧ d.peek = some ' ' :=
  peek_mask mirrors.rest

theorem at? (mirrors : Mirrors s c d) {ch : Char} (visible : ch ≠ '/' ∧ ch ≠ ' ') : d.at? ch = c.at? ch := by
  rcases mirrors.peek with same | ⟨-, slash, space⟩
  · rw [Cursor.at?, Cursor.at?, same]
  · rw [Cursor.at?, Cursor.at?, slash, space]
    simp [Ne.symm visible.1, Ne.symm visible.2]

theorem fault (mirrors : Mirrors s c d) (offset : Nat) : Mirrors s (c.fault offset) (d.fault offset) where
  rest := mirrors.rest
  offset := mirrors.offset
  faults := congrArg (offset :: ·) mirrors.faults
  bound := mirrors.bound
  looked _ := List.cons_ne_nil _ _
  keeps := mirrors.keeps.trans (keepsFaults_fault c offset)
  kept := mirrors.kept

theorem fault_if (mirrors : Mirrors s c d) (condition : Prop) [Decidable condition] (offset : Nat) :
    Mirrors s (if condition then c.fault offset else c) (if condition then d.fault offset else d) := by
  split
  · exact mirrors.fault offset
  · exact mirrors

/-- Two cursors move over the same character, unless it opens a comment or a literal. -/
theorem step (mirrors : Mirrors s c d) (plain : PlainFront c.rest) : Mirrors s c.step d.step := by
  obtain ⟨sameFront, masked⟩ := mask_plainFront plain
  have width : (front d.rest).2 = (front c.rest).2 := by rw [mirrors.rest, sameFront]
  have length := Text.length_take_front c.rest
  have rest : d.step.rest = Language.go.mask c.step.rest := by
    rw [rest_step, rest_step, width, mirrors.rest, masked, List.drop_left' length]
  have offset : d.step.offset = c.step.offset := by rw [offset_step, offset_step, width, mirrors.offset]
  refine ⟨rest, offset, ?_, ?_, ?_, mirrors.keeps.trans (keepsFaults_step c), ?_⟩
  · rw [faults_step, faults_step, rest, offset, isUnreadable_mask, mirrors.faults]
  · rw [bound_step, bound_step]
    exact mirrors.bound
  · intro unreadable
    rw [faults_step, unreadable]
    exact List.cons_ne_nil _ _
  · obtain ⟨taken, before, masked', moved⟩ := mirrors.kept
    refine ⟨taken ++ c.rest.take (front c.rest).2, ?_, ?_, ?_⟩
    · rw [rest_step, List.append_assoc, List.take_append_drop, before]
    · rw [rest_step, List.append_assoc, ← masked, masked']
    · rw [offset_step, moved, List.length_append, length, Nat.add_assoc]

theorem since {s' : Cursor} (mirrors : Mirrors s c d) (rest : s'.rest = Language.go.mask s.rest)
    (offset : s'.offset = s.offset) : d.since s' = c.since s := by
  obtain ⟨taken, before, masked, moved⟩ := mirrors.kept
  have length : c.offset - s.offset = taken.length := by omega
  rw [Cursor.since, Cursor.since, mirrors.offset, offset, length, rest, masked, before, List.take_left, List.take_left]

end Mirrors

theorem plainFront_of_peek {ch : Char} (seen : c.peek = some ch) (plain : ch ∉ openers) : PlainFront c.rest := by
  have other : ∀ opener ∈ openers, opener.toNat < 0x80 → c.rest.head? ≠ some (byte opener) := by
    intro opener member ascii first
    obtain ⟨rest, here⟩ := List.head?_eq_some_iff.mp first
    rw [(peek_eq_some_iff ascii).mpr ⟨rest, here⟩, Option.some.injEq] at seen
    exact plain (seen ▸ member)
  refine ⟨⟨?_, ?_, ?_⟩, fun slash => absurd slash ?_⟩
  · exact other quoteChar (by decide) (by decide)
  · exact other '\'' (by decide) (by decide)
  · exact other backquoteChar (by decide) (by decide)
  · exact other '/' (by decide) (by decide)

theorem Mirrors.step_seen (mirrors : Mirrors s c d) {ch : Char} (seen : c.at? ch = true) (plain : ch ∉ openers) :
    Mirrors s c.step d.step :=
  mirrors.step (plainFront_of_peek (at?_iff.mp seen) plain)

/-! ### Readers on both sides -/

/-- Two results of a reader: the same value, and cursors that mirror one another. -/
structure Twins (start : Cursor) (left right : α × Cursor) : Prop where
  same : right.1 = left.1
  mirrors : Mirrors start left.2 right.2

theorem Twins.split {left right : α × Cursor} (twins : Twins s left right) :
    ∃ value c d, left = (value, c) ∧ right = (value, d) ∧ Mirrors s c d :=
  ⟨left.1, left.2, right.2, rfl, by rw [← twins.same], twins.mirrors⟩

theorem Twins.ite {left right left' right' : α × Cursor} (condition : Prop) [Decidable condition]
    (yes : condition → Twins s left right) (no : ¬ condition → Twins s left' right') :
    Twins s (if condition then left else left') (if condition then right else right') := by
  split
  next holds => exact yes holds
  next fails => exact no fails

theorem Twins.fault_unless {left right : α × Cursor} (twins : Twins s left right) (test : α → Bool) (offset : Nat) :
    Mirrors s (if test left.1 then left.2 else left.2.fault offset)
      (if test right.1 then right.2 else right.2.fault offset) := by
  rw [twins.same]
  split
  · exact twins.mirrors
  · exact twins.mirrors.fault offset

theorem mirrors_skipWhile {test : Char → Bool} (blind : ∀ ch ∈ ' ' :: openers, test ch = false) (fuel : Nat)
    (mirrors : Mirrors s c d) : Mirrors s (skipWhile test fuel c) (skipWhile test fuel d) := by
  induction fuel generalizing c d with
  | zero => exact mirrors
  | succ fuel ih =>
    have same : d.sees test = c.sees test := by
      rcases mirrors.peek with same | ⟨-, slash, space⟩
      · simp only [Cursor.sees, same]
      · simp only [Cursor.sees, slash, space, Option.any_some, blind ' ' (by decide), blind '/' (by decide)]
    unfold skipWhile
    rw [same]
    split
    next seen =>
      obtain ⟨ch, here, passes⟩ := sees_iff.mp seen
      have plain : ch ∉ openers := fun member => by
        rw [blind ch (List.mem_cons_of_mem _ member)] at passes
        cases passes
      exact ih (mirrors.step (plainFront_of_peek here plain))
    · exact mirrors

theorem twins_readDigits (base fuel : Nat) (digits : Digits) (mirrors : Mirrors s c d) :
    Twins s (readDigits base fuel digits c) (readDigits base fuel digits d) := by
  induction fuel generalizing digits c d with
  | zero => exact ⟨rfl, mirrors⟩
  | succ fuel ih =>
    unfold readDigits
    rcases mirrors.peek with same | ⟨-, slash, space⟩
    · rw [same, mirrors.offset]
      split
      next ch seen =>
        refine .ite _ (fun underscore => ?_) fun _ => .ite _ (fun digit => ?_) fun _ => ⟨rfl, mirrors⟩
        · exact ih _ (mirrors.step (plainFront_of_peek seen (by rw [underscore]; decide)))
        · have plain : ch ∉ openers := by
            intro member
            obtain ⟨-, -, notDecimal, notHex⟩ := wordless_of_mem (List.mem_cons_of_mem ' ' member)
            simp [notDecimal, notHex] at digit
          exact ih _ (mirrors.step (plainFront_of_peek seen plain))
      · exact ⟨rfl, mirrors⟩
    · have ofSlash := (wordless_of_mem (show '/' ∈ ' ' :: openers by decide)).2
      have ofSpace := (wordless_of_mem (show ' ' ∈ ' ' :: openers by decide)).2
      simp [slash, space, ofSlash, ofSpace]
      exact ⟨rfl, mirrors⟩

theorem Mirrors.either (mirrors : Mirrors s c d) {lower upper : Char} (visible : lower ≠ '/' ∧ lower ≠ ' ')
    (visible' : upper ≠ '/' ∧ upper ≠ ' ') : (d.at? lower || d.at? upper) = (c.at? lower || c.at? upper) := by
  rw [mirrors.at? visible, mirrors.at? visible']

theorem Mirrors.step_either (mirrors : Mirrors s c d) {lower upper : Char} (seen : (c.at? lower || c.at? upper) = true)
    (plain : lower ∉ openers) (plain' : upper ∉ openers) : Mirrors s c.step d.step := by
  rcases (Bool.or_eq_true _ _).mp seen with seen | seen
  · exact mirrors.step_seen seen plain
  · exact mirrors.step_seen seen plain'

theorem twins_readRadix (mirrors : Mirrors s c d) : Twins s (readRadix c) (readRadix d) := by
  unfold readRadix
  rw [mirrors.at? (by decide)]
  refine .ite _ (fun zero => ?_) fun _ => ⟨rfl, mirrors⟩
  have after := mirrors.step_seen zero (by decide)
  dsimp only
  rw [after.either (by decide) (by decide), after.either (by decide) (by decide), after.either (by decide) (by decide)]
  refine .ite _ (fun mark => ⟨rfl, ?_⟩) fun _ => .ite _ (fun mark => ⟨rfl, ?_⟩) fun _ => .ite _ (fun mark => ⟨rfl, ?_⟩)
    fun _ => ⟨rfl, after⟩
  · exact after.step_either mark (by decide) (by decide)
  · exact after.step_either mark (by decide) (by decide)
  · exact after.step_either mark (by decide) (by decide)

theorem Mirrors.optional_step (mirrors : Mirrors s c d) {lower upper : Char} (visible : lower ≠ '/' ∧ lower ≠ ' ')
    (visible' : upper ≠ '/' ∧ upper ≠ ' ') (plain : lower ∉ openers) (plain' : upper ∉ openers) :
    Mirrors s (if c.at? lower || c.at? upper then c.step else c) (if d.at? lower || d.at? upper then d.step else d) := by
  rw [mirrors.either visible visible']
  split
  next seen => exact mirrors.step_either seen plain plain'
  · exact mirrors

theorem Mirrors.readDigits (mirrors : Mirrors s c d) (base : Nat) (digits : Digits) :
    Twins s (readDigits base c.bound digits c) (readDigits base d.bound digits d) := by
  rw [mirrors.bound.2, ← mirrors.bound.1]
  exact twins_readDigits base c.bound digits mirrors

theorem twins_readExponent (start : Nat) (radix : Radix) (mirrors : Mirrors s c d) :
    Option.Rel (Twins s) (readExponent start radix c) (readExponent start radix d) := by
  unfold readExponent
  dsimp only
  rw [mirrors.either (by decide) (by decide), mirrors.either (by decide) (by decide), mirrors.offset]
  split
  next marked =>
    have plain : PlainFront c.rest := by
      simp only [Bool.or_eq_true, at?_iff] at marked
      rcases marked with (seen | seen) | (seen | seen) <;> exact plainFront_of_peek seen (by decide)
    have noted := mirrors.fault_if (if (c.at? 'e' || c.at? 'E') = true then radix ≠ .decimal ∧ radix ≠ .leadingZero
      else radix ≠ .hexadecimal) c.offset
    have marked := noted.step (by rw [rest_fault_if]; exact plain)
    have signed := marked.optional_step (show '+' ≠ '/' ∧ '+' ≠ ' ' by decide) (show '-' ≠ '/' ∧ '-' ≠ ' ' by decide)
      (by decide) (by decide)
    have digits := signed.readDigits 10 {}
    exact .some ⟨digits.same, digits.fault_unless (·.digit) start⟩
  · exact .none

theorem twins_readMantissa (radix : Radix) (fromPoint : Bool) (mirrors : Mirrors s c d) :
    Twins s (readMantissa radix fromPoint c) (readMantissa radix fromPoint d) := by
  have whole : Twins s (if fromPoint then ({}, c) else readDigits radix.base c.bound { digit := radix = .leadingZero } c)
      (if fromPoint then ({}, d) else readDigits radix.base d.bound { digit := radix = .leadingZero } d) :=
    .ite _ (fun _ => ⟨rfl, mirrors⟩) fun _ => mirrors.readDigits _ _
  obtain ⟨digits, c', d', left, right, mirrors⟩ := whole.split
  unfold readMantissa
  rw [left, right]
  dsimp only
  rw [mirrors.at? (by decide), mirrors.offset]
  refine .ite _ (fun point => ?_) fun _ => ⟨rfl, mirrors⟩
  have noted := mirrors.fault_if (radix = .octal ∨ radix = .binary) c'.offset
  have after := noted.step (by rw [rest_fault_if]; exact plainFront_of_peek (at?_iff.mp point) (by decide))
  have fraction := after.readDigits radix.base digits
  rw [bound_step, bound_step] at fraction
  exact ⟨by rw [fraction.same], fraction.mirrors⟩

theorem twins_readScale (start : Nat) (radix : Radix) (digits : Digits) (isFraction : Bool) (mirrors : Mirrors s c d) :
    Twins s (readScale start radix digits isFraction c) (readScale start radix digits isFraction d) := by
  have exponent := twins_readExponent start radix mirrors
  unfold readScale
  generalize readExponent start radix c = left at exponent
  generalize readExponent start radix d = right at exponent
  cases exponent with
  | none => exact ⟨rfl, mirrors.fault_if _ start⟩
  | some twins =>
    obtain ⟨exponent, c', d', rfl, rfl, mirrors⟩ := twins.split
    exact ⟨rfl, mirrors⟩

theorem twins_readImaginary (token : Token) (mirrors : Mirrors s c d) :
    Twins s (readImaginary token c) (readImaginary token d) := by
  unfold readImaginary
  rw [mirrors.at? (by decide)]
  exact .ite _ (fun mark => ⟨rfl, mirrors.step_seen mark (by decide)⟩) fun _ => ⟨rfl, mirrors⟩

theorem mirrors_checkNumber (start : Nat) (radix : Radix) (tooLarge : Option Nat) (underscore : Bool) (token : Token)
    (spelling : Text) (mirrors : Mirrors s c d) :
    Mirrors s (checkNumber start radix tooLarge underscore token spelling c)
      (checkNumber start radix tooLarge underscore token spelling d) := by
  unfold checkNumber
  cases tooLarge with
  | none => exact mirrors.fault_if _ start
  | some offset => exact (mirrors.fault_if _ offset).fault_if _ start

theorem twins_readNumber {s' : Cursor} (mirrors : Mirrors s s s') : Twins s (readNumber s) (readNumber s') := by
  have marks : Twins s (if s.at? '.' then (.decimal, s) else readRadix s)
      (if s.at? '.' then (.decimal, s') else readRadix s') :=
    .ite _ (fun _ => ⟨rfl, mirrors⟩) fun _ => twins_readRadix mirrors
  unfold readNumber
  rw [mirrors.at? (by decide), mirrors.offset]
  obtain ⟨radix, c, d, left, right, begun⟩ := marks.split
  rw [left, right]
  have mantissa := twins_readMantissa radix (s.at? '.') begun
  obtain ⟨⟨digits, isFraction⟩, c₁, d₁, left, right, -⟩ := mantissa.split
  have present := mantissa.fault_unless (fun read => read.1.digit) s.offset
  simp only [left, right] at present ⊢
  obtain ⟨⟨token, underscore⟩, c₂, d₂, left, right, scaled⟩ :=
    (twins_readScale s.offset radix digits isFraction present).split
  rw [left, right]
  obtain ⟨kind, c₃, d₃, left, right, read⟩ := (twins_readImaginary token scaled).split
  simp only [left, right]
  rw [read.since mirrors.rest mirrors.offset]
  exact ⟨rfl, mirrors_checkNumber _ _ _ _ _ _ read⟩

/-- Whether the characters that an operator looks for open nothing. -/
def Operator.isPlain : Operator → Bool
  | just _ => true
  | ifNext next longer shorter => next ∉ ' ' :: openers && longer.isPlain && shorter.isPlain

theorem Operator.twins_read (operator : Operator) (plain : operator.isPlain = true) (mirrors : Mirrors s c d) :
    Twins s (operator.read c) (operator.read d) := by
  induction operator generalizing c d with
  | just token => exact ⟨rfl, mirrors⟩
  | ifNext next longer shorter longerIH shorterIH =>
    simp only [isPlain, Bool.and_eq_true, decide_eq_true_eq, List.mem_cons, not_or] at plain
    obtain ⟨⟨⟨notSpace, closed⟩, longerPlain⟩, shorterPlain⟩ := plain
    have notSlash : next ≠ '/' := fun same => closed (by rw [same]; decide)
    unfold read
    rw [mirrors.at? ⟨notSlash, notSpace⟩]
    exact .ite _ (fun seen => longerIH longerPlain (mirrors.step_seen seen closed))
      fun _ => shorterIH shorterPlain mirrors

theorem Mirrors.drop_one {ch : Char} (mirrors : Mirrors s c d) (seen : c.at? ch = true) (ascii : ch.toNat < 0x80)
    (plain : ch ∉ openers) : d.rest.drop 1 = Language.go.mask (c.rest.drop 1) := by
  have front := plainFront_of_peek (at?_iff.mp seen) plain
  obtain ⟨rest, here⟩ := (peek_eq_some_iff ascii).mp (at?_iff.mp seen)
  rw [here] at front
  rw [mirrors.rest, here, mask_cons front, List.drop_one, List.drop_one, List.tail_cons, List.tail_cons]

theorem twins_readPeriods (mirrors : Mirrors s c d) : Twins s (readPeriods c) (readPeriods d) := by
  have same : (d.at? '.' = true ∧ (d.rest.drop 1).head? = some (byte '.')) ↔
      c.at? '.' = true ∧ (c.rest.drop 1).head? = some (byte '.') := by
    rw [mirrors.at? (by decide)]
    refine and_congr_right fun seen => ?_
    rw [mirrors.drop_one seen (by decide) (by decide)]
    rcases head?_mask (c.rest.drop 1) with same | ⟨slash, space⟩
    · rw [same]
    · rw [slash, space]
      decide
  unfold readPeriods
  simp only [same]
  refine .ite _ (fun dots => ⟨rfl, ?_⟩) fun _ => ⟨rfl, mirrors⟩
  have first := mirrors.step_seen dots.1 (by decide)
  have second : c.step.at? '.' = true := by
    obtain ⟨rest, here⟩ := (peek_eq_some_iff (by decide)).mp (at?_iff.mp dots.1)
    have ahead : c.step.rest = c.rest.drop 1 := by rw [rest_step, here, Text.front_of_ascii (by decide)]
    obtain ⟨others, dot⟩ := List.head?_eq_some_iff.mp dots.2
    exact at?_iff.mpr ((peek_eq_some_iff (by decide)).mpr ⟨others, ahead.trans dot⟩)
  exact first.step_seen second (by decide)

theorem twins_readOperator? (ch : Char) (mirrors : Mirrors s c d) :
    Option.Rel (Twins s) (readOperator? ch c) (readOperator? ch d) := by
  unfold readOperator?
  split
  · exact .some (twins_readPeriods mirrors)
  match found : Operator.all.lookup ch with
  | none => exact .none
  | some operator =>
    have plain : ∀ entry ∈ Operator.all, entry.2.isPlain = true := by decide
    exact .some (operator.twins_read (plain _ (mem_of_lookup found)) mirrors)

theorem twins_name {s' : Cursor} (mirrors : Mirrors s s s') :
    let test := fun ch => isLetter ch || isDigit ch
    Mirrors s (s.skip test) (s'.skip test) ∧ (s'.skip test).since s' = (s.skip test).since s := by
  intro test
  have blind : ∀ ch ∈ ' ' :: openers, test ch = false := fun ch member => (wordless_of_mem member).1
  have stop : Mirrors s (s.skip test) (s'.skip test) := by
    rw [skip, skip, mirrors.bound.2]
    exact mirrors_skipWhile blind s.bound mirrors
  exact ⟨stop, stop.since mirrors.rest mirrors.offset⟩

theorem startsNumber_iff {s' : Cursor} {ch : Char} (mirrors : Mirrors s s s') (seen : s.peek = some ch) :
    (ch = '.' ∧ ((s'.rest.drop 1).head?.any fun b => (Char.ofNat b.toNat).isDigit) = true) ↔
      ch = '.' ∧ ((s.rest.drop 1).head?.any fun b => (Char.ofNat b.toNat).isDigit) = true := by
  refine and_congr_right fun period => ?_
  rw [mirrors.drop_one (at?_iff.mpr (period ▸ seen)) (by decide) (by decide)]
  rcases head?_mask (s.rest.drop 1) with same | ⟨slash, space⟩
  · rw [same]
  · rw [slash, space]
    decide

theorem PlainFront.ne_quote {ch : Char} (plain : PlainFront c.rest) (seen : c.peek = some ch) :
    ch ≠ quoteChar ∧ ch ≠ '\'' ∧ ch ≠ backquoteChar := by
  have other : ∀ {quote : Char}, quote.toNat < 0x80 → c.rest.head? ≠ some (byte quote) → ch ≠ quote := by
    rintro quote ascii closed rfl
    obtain ⟨rest, here⟩ := (peek_eq_some_iff ascii).mp seen
    exact closed (by rw [here, List.head?_cons])
  exact ⟨other (by decide) plain.unquoted.1, other (by decide) plain.unquoted.2.1, other (by decide) plain.unquoted.2.2⟩

/-- A token that is no literal is read alike before and after masking. -/
theorem twins_readToken {s' : Cursor} {ch : Char} (mirrors : Mirrors s s s') (plain : PlainFront s.rest)
    (seen : s.peek = some ch) : Twins s (readToken s ch) (readToken s' ch) := by
  obtain ⟨notString, notCharacter, notRaw⟩ := plain.ne_quote seen
  obtain ⟨stop, spelling⟩ := twins_name mirrors
  unfold readToken
  simp only [startsNumber_iff mirrors seen, if_neg notString, if_neg notCharacter, if_neg notRaw, spelling, mirrors.offset]
  refine .ite _ (fun _ => ?_) fun _ => .ite _ (fun _ => twins_readNumber mirrors) fun _ => ?_
  · split
    · exact ⟨rfl, stop⟩
    · exact ⟨rfl, stop⟩
  · have after := mirrors.step plain
    have operator := twins_readOperator? ch after
    generalize readOperator? ch s.step = left at operator
    generalize readOperator? ch s'.step = right at operator
    cases operator with
    | some twins => exact twins
    | none =>
      refine ⟨rfl, ?_⟩
      dsimp only
      split
      · exact after
      · exact after.fault s.offset

end QualityGate.GoSource
