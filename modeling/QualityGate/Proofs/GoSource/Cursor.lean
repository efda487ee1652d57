import QualityGate.GoSource.Lexer
import QualityGate.Proofs.Text.Decoding

/-!
How a cursor moves over the bytes of a source. `Passes` says that one has come over some bytes without a fault, and
`skipWhile_passes` and `passes_skipWhile` are the two sides of it for the stretch that a test lets through. Faults are
only ever added, so a cursor without one has never met one.
-/

namespace QualityGate.GoSource

open Text (byte front frontChar)

/-! ### What a cursor sees -/

theorem toNat_byte {ch : Char} (ascii : ch.toNat < 0x80) : (byte ch).toNat = ch.toNat :=
  Text.toNat_ofNat_of_lt (by omega)

theorem ofNat_byte {ch : Char} (ascii : ch.toNat < 0x80) : Char.ofNat (byte ch).toNat = ch := by
  rw [toNat_byte ascii, Char.ofNat_toNat]

theorem byte_ofNat {b : UInt8} (ascii : b.toNat < 0x80) : byte (Char.ofNat b.toNat) = b := by
  have valid : b.toNat.isValidChar := .inl (by omega)
  rw [byte, Text.toNat_ofNat_of_valid valid]
  exact UInt8.ofNat_toNat

theorem byte_injective {ch other : Char} (ascii : ch.toNat < 0x80) (ascii' : other.toNat < 0x80)
    (same : byte ch = byte other) : ch = other := by
  rw [← ofNat_byte ascii, same, ofNat_byte ascii']

/-- The bytes that a character may stand for: its ASCII byte, or bytes above the ASCII range. -/
def IsSpelling (ch : Char) (taken : Text) : Prop :=
  ch.toNat < 0x80 ∧ taken = [byte ch] ∨ 0x80 ≤ ch.toNat ∧ taken ≠ [] ∧ ∀ b ∈ taken, 0x80 ≤ b.toNat

theorem IsSpelling.ne_nil {ch : Char} {taken : Text} (spelling : IsSpelling ch taken) : taken ≠ [] := by
  rcases spelling with ⟨-, rfl⟩ | ⟨-, nonempty, -⟩
  · simp
  · exact nonempty

theorem IsSpelling.eq_singleton {ch : Char} {taken : Text} (spelling : IsSpelling ch taken) (ascii : ch.toNat < 0x80) :
    taken = [byte ch] := by
  rcases spelling with ⟨-, same⟩ | ⟨above, -⟩
  · exact same
  · omega

theorem IsSpelling.ne_byte {ch other : Char} {taken : Text} (spelling : IsSpelling ch taken)
    (ascii : other.toNat < 0x80) (different : ch ≠ other) : ∀ b ∈ taken, b ≠ byte other := by
  rintro b member rfl
  rcases spelling with ⟨low, rfl⟩ | ⟨-, -, high⟩
  · exact different (byte_injective low ascii (List.mem_singleton.mp member).symm)
  · have above := high _ member
    rw [toNat_byte ascii] at above
    omega

namespace Cursor

variable {c d e : Cursor} {taken more : Text} {test : Char → Bool}

theorem peek_nil (ended : c.rest = []) : c.peek = none := by
  rw [peek, ended]
  rfl

theorem peek_cons {b : UInt8} {rest : Text} (here : c.rest = b :: rest) : c.peek = some (frontChar (b :: rest)) := by
  rw [peek, here]
  rfl

theorem peek_eq_none_iff : c.peek = none ↔ c.rest = [] := by
  constructor
  · intro unseen
    match here : c.rest with
    | [] => rfl
    | b :: rest => simp [peek_cons here] at unseen
  · exact peek_nil

theorem peek_ascii {b : UInt8} {rest : Text} (here : c.rest = b :: rest) (ascii : b.toNat < 0x80) :
    c.peek = some (Char.ofNat b.toNat) := by
  rw [peek_cons here, frontChar, Text.front_of_ascii ascii]
  rfl

/-- An ASCII character is seen where its byte stands. -/
theorem peek_eq_some_iff {ch : Char} (ascii : ch.toNat < 0x80) :
    c.peek = some ch ↔ ∃ rest, c.rest = byte ch :: rest := by
  constructor
  · intro seen
    match here : c.rest with
    | [] => simp [peek_nil here] at seen
    | b :: rest =>
      rcases Nat.lt_or_ge b.toNat 0x80 with low | high
      · rw [peek_ascii here low, Option.some.injEq] at seen
        exact ⟨rest, by rw [← seen, byte_ofNat low]⟩
      · have above := (Text.front_of_high high rest).2.2.2
        rw [peek_cons here, Option.some.injEq] at seen
        rw [seen] at above
        omega
  · rintro ⟨rest, here⟩
    rw [peek_ascii here (by rw [toNat_byte ascii]; exact ascii), ofNat_byte ascii]

theorem at?_iff {ch : Char} : c.at? ch = true ↔ c.peek = some ch := decide_eq_true_iff

/-- Of the ASCII characters only NUL cannot be read. -/
theorem isUnreadable_ascii {b : UInt8} (positive : 0 < b.toNat) (ascii : b.toNat < 0x80) (offset : Nat) (rest : Text) :
    isUnreadable offset (b :: rest) = false := by
  have number : (Char.ofNat b.toNat).toNat = b.toNat := Text.toNat_ofNat_of_valid (.inl (by omega))
  have other : Char.ofNat b.toNat ≠ byteOrderMark := by
    intro same
    have mark : byteOrderMark.toNat = 0xFEFF := rfl
    rw [← same, number] at mark
    omega
  rw [isUnreadable, Text.front_of_ascii ascii]
  simp [number, other]
  omega

/-! ### Steps -/

@[simp] theorem offset_look (c : Cursor) : c.look.offset = c.offset := by
  unfold look
  split <;> rfl

@[simp] theorem rest_look (c : Cursor) : c.look.rest = c.rest := by
  unfold look
  split <;> rfl

@[simp] theorem bound_look (c : Cursor) : c.look.bound = c.bound := by
  unfold look
  split <;> rfl

theorem rest_fault_if (condition : Prop) [Decidable condition] (c : Cursor) (offset : Nat) :
    (if condition then c.fault offset else c).rest = c.rest := by
  split <;> rfl

@[simp] theorem offset_step (c : Cursor) : c.step.offset = c.offset + (front c.rest).2 := offset_look _

@[simp] theorem rest_step (c : Cursor) : c.step.rest = c.rest.drop (front c.rest).2 := rest_look _

@[simp] theorem bound_step (c : Cursor) : c.step.bound = c.bound := bound_look _

theorem faults_look (c : Cursor) :
    c.look.faults = if isUnreadable c.offset c.rest then c.offset :: c.faults else c.faults := by
  unfold look
  split <;> rfl

theorem faults_step (c : Cursor) :
    c.step.faults = if isUnreadable c.step.offset c.step.rest then c.step.offset :: c.faults else c.faults := by
  rw [offset_step, rest_step]
  exact faults_look _

/-- A cursor that has met no fault, the character that it is at included. -/
structure Clean (c : Cursor) : Prop where
  faults : c.faults = []
  readable : isUnreadable c.offset c.rest = false

theorem faultless_eq_self (none : c.faults = []) : c.faultless = c := by
  rw [faultless, ← none]

/-- The second cursor has the faults of the first, and perhaps later ones. -/
def KeepsFaults (c e : Cursor) : Prop := c.faults <:+ e.faults

theorem KeepsFaults.refl (c : Cursor) : KeepsFaults c c := List.suffix_rfl

theorem KeepsFaults.trans (early : KeepsFaults c d) (late : KeepsFaults d e) : KeepsFaults c e :=
  List.IsSuffix.trans early late

theorem KeepsFaults.faults_eq_nil (keeps : KeepsFaults c e) (faultless : e.faults = []) : c.faults = [] :=
  List.suffix_nil.mp (faultless ▸ keeps)

theorem keepsFaults_fault (c : Cursor) (offset : Nat) : KeepsFaults c (c.fault offset) := List.suffix_cons _ _

theorem keepsFaults_step (c : Cursor) : KeepsFaults c c.step := by
  rw [KeepsFaults, faults_step]
  split
  · exact List.suffix_cons _ _
  · exact List.suffix_rfl

theorem keepsFaults_ite (condition : Prop) [Decidable condition] (c : Cursor) (offset : Nat) :
    KeepsFaults c (if condition then c.fault offset else c) := by
  split
  · exact keepsFaults_fault c offset
  · exact .refl c

theorem clean_step (faultless : c.step.faults = []) : c.step.Clean := by
  refine ⟨faultless, ?_⟩
  rw [faults_step] at faultless
  split at faultless
  · cases faultless
  next readable => simpa using readable

/-- One cursor has come from another over some bytes, and has met no fault. -/
structure Passes (c : Cursor) (taken : Text) (e : Cursor) : Prop where
  rest : c.rest = taken ++ e.rest
  offset : e.offset = c.offset + taken.length
  bound : e.bound = c.bound
  clean : e.Clean

theorem Clean.passes (clean : c.Clean) : Passes c [] c := ⟨rfl, rfl, rfl, clean⟩

theorem Passes.trans (early : Passes c taken d) (late : Passes d more e) : Passes c (taken ++ more) e where
  rest := by rw [early.rest, late.rest, List.append_assoc]
  offset := by rw [late.offset, early.offset, List.length_append, Nat.add_assoc]
  bound := late.bound.trans early.bound
  clean := late.clean

theorem Passes.length_le (passes : Passes c taken e) : e.rest.length ≤ c.rest.length := by
  rw [passes.rest, List.length_append]
  omega

theorem Passes.length_lt (passes : Passes c taken e) (nonempty : taken ≠ []) : e.rest.length < c.rest.length := by
  have positive := List.length_pos_iff.mpr nonempty
  rw [passes.rest, List.length_append]
  omega

theorem passes_step_ascii {b : UInt8} {rest : Text} (here : c.rest = b :: rest) (ascii : b.toNat < 0x80)
    (faultless : c.step.faults = []) : Passes c [b] c.step where
  rest := by rw [rest_step, here, Text.front_of_ascii ascii]; rfl
  offset := by rw [offset_step, here, Text.front_of_ascii ascii]; rfl
  bound := bound_step c
  clean := clean_step faultless

theorem passes_step_readable {b : UInt8} {rest : Text} (here : c.rest = b :: rest) (ascii : b.toNat < 0x80)
    (faultless : c.faults = []) (readable : isUnreadable (c.offset + 1) rest = false) : Passes c [b] c.step := by
  refine passes_step_ascii here ascii ?_
  have offset : c.step.offset = c.offset + 1 := by rw [offset_step, here, Text.front_of_ascii ascii]
  have rest : c.step.rest = rest := by rw [rest_step, here, Text.front_of_ascii ascii]; rfl
  rw [faults_step, offset, rest, readable]
  exact faultless

theorem Passes.faultless (passes : Passes c taken e) : Passes c taken e.faultless :=
  ⟨passes.rest, passes.offset, passes.bound, rfl, passes.clean.readable⟩

theorem Passes.step_quote {quote : UInt8} {rest : Text} (passes : Passes c taken d)
    (here : c.rest = taken ++ quote :: rest) (ascii : quote.toNat < 0x80)
    (readable : isUnreadable (c.offset + taken.length + 1) rest = false) :
    Passes c (taken ++ [quote]) d.step := by
  have ahead : d.rest = quote :: rest := List.append_cancel_left (passes.rest.symm.trans here)
  exact passes.trans (passes_step_readable ahead ascii passes.clean.faults (by rw [passes.offset]; exact readable))

theorem passes_step_seen {ch : Char} (ascii : ch.toNat < 0x80) (seen : c.peek = some ch)
    (faultless : c.step.faults = []) : Passes c [byte ch] c.step := by
  obtain ⟨rest, here⟩ := (peek_eq_some_iff ascii).mp seen
  exact passes_step_ascii here (by rw [toNat_byte ascii]; exact ascii) faultless

theorem passes_step {ch : Char} (seen : c.peek = some ch) (faultless : c.step.faults = []) :
    ∃ taken, Passes c taken c.step ∧ IsSpelling ch taken := by
  rcases Nat.lt_or_ge ch.toNat 0x80 with ascii | above
  · exact ⟨_, passes_step_seen ascii seen faultless, .inl ⟨ascii, rfl⟩⟩
  match here : c.rest with
  | [] => simp [peek_nil here] at seen
  | b :: rest =>
    have high : 0x80 ≤ b.toNat := by
      rcases Nat.lt_or_ge b.toNat 0x80 with low | high
      · rw [peek_ascii here low, Option.some.injEq] at seen
        have valid : b.toNat.isValidChar := .inl (by omega)
        rw [← seen, Text.toNat_ofNat_of_valid valid] at above
        exact above
      · exact high
    obtain ⟨all, positive, -, -⟩ := Text.front_of_high high rest
    have length := Text.length_take_front c.rest
    refine ⟨c.rest.take (front c.rest).2, ⟨?_, ?_, bound_step c, clean_step faultless⟩, .inr ⟨above, ?_, ?_⟩⟩
    · rw [rest_step, List.take_append_drop]
    · rw [offset_step, length]
    · exact List.ne_nil_of_length_pos (by rw [length, here]; omega)
    · rw [here]
      exact all

/-! ### Stretches of characters -/

theorem keepsFaults_skipWhile (test : Char → Bool) (fuel : Nat) (c : Cursor) :
    KeepsFaults c (skipWhile test fuel c) := by
  induction fuel generalizing c with
  | zero => exact .refl c
  | succ fuel ih =>
    unfold skipWhile
    split
    · exact (keepsFaults_step c).trans (ih c.step)
    · exact .refl c

theorem sees_iff : c.sees test = true ↔ ∃ ch, c.peek = some ch ∧ test ch = true :=
  Option.any_eq_true _ _

theorem test_of_sees_eq_false {ch : Char} (stopped : c.sees test = false) (seen : c.peek = some ch) :
    test ch = false := by
  simpa [sees, seen] using stopped

/-- What a test lets through, when no fault is met: bytes of characters that pass it, up to one that does not. -/
theorem skipWhile_passes {property : UInt8 → Prop} {fuel : Nat} (clean : c.Clean) (enough : c.rest.length < fuel)
    (holds : ∀ ch taken, test ch = true → IsSpelling ch taken → ∀ b ∈ taken, property b)
    (faultless : (skipWhile test fuel c).faults = []) :
    ∃ taken, Passes c taken (skipWhile test fuel c) ∧ (∀ b ∈ taken, property b) ∧
      (skipWhile test fuel c).sees test = false := by
  induction fuel generalizing c with
  | zero => omega
  | succ fuel ih =>
    unfold skipWhile at faultless ⊢
    split
    next seen =>
      rw [if_pos seen] at faultless
      obtain ⟨ch, here, passes⟩ := sees_iff.mp seen
      have faultless' : c.step.faults = [] := (keepsFaults_skipWhile test fuel c.step).faults_eq_nil faultless
      obtain ⟨first, moved, spelling⟩ := passes_step here faultless'
      have shorter := moved.length_lt spelling.ne_nil
      obtain ⟨rest, onward, all, stopped⟩ := ih moved.clean (by omega) faultless
      refine ⟨first ++ rest, moved.trans onward, fun b member => ?_, stopped⟩
      rcases List.mem_append.mp member with early | late
      · exact holds ch first passes spelling b early
      · exact all b late
    next unseen => exact ⟨[], clean.passes, by simp, by simpa using unseen⟩

/-- ASCII bytes that pass a test are skipped, up to something that does not. -/
theorem passes_skipWhile {rest : Text} {fuel : Nat} (here : c.rest = taken ++ rest) (faultless : c.faults = [])
    (ascii : ∀ b ∈ taken, 0 < b.toNat ∧ b.toNat < 0x80 ∧ test (Char.ofNat b.toNat) = true)
    (stops : ∀ e : Cursor, e.rest = rest → e.sees test = false)
    (readable : isUnreadable (c.offset + taken.length) rest = false) (enough : taken.length ≤ fuel) :
    Passes c taken (skipWhile test fuel c) := by
  induction taken generalizing c fuel with
  | nil =>
    have unseen : c.sees test = false := stops c here
    have same : skipWhile test fuel c = c := by
      cases fuel with
      | zero => rfl
      | succ fuel => rw [skipWhile, unseen]; rfl
    rw [same]
    exact Clean.passes ⟨faultless, by rw [here]; exact readable⟩
  | cons b taken ih =>
    obtain ⟨-, low, passes⟩ := ascii b List.mem_cons_self
    match fuel with
    | 0 => simp at enough
    | fuel + 1 =>
      have seen : c.sees test = true := by
        rw [sees, peek_ascii here low]
        exact passes
      -- The next byte is one of those to be skipped, or the one at which the skipping stops.
      have ready : isUnreadable (c.offset + 1) (taken ++ rest) = false := by
        cases taken with
        | nil => exact readable
        | cons b' taken =>
          obtain ⟨positive, low', -⟩ := ascii b' (by simp)
          exact isUnreadable_ascii positive low' _ _
      have moved := passes_step_readable here low faultless ready
      have ahead : c.step.rest = taken ++ rest := by simpa [here] using moved.rest.symm
      have onward := ih ahead moved.clean.faults (fun b member => ascii b (List.mem_cons_of_mem _ member))
        (by rw [moved.offset]; simpa [Nat.add_assoc, Nat.add_comm 1] using readable) (by simpa using enough)
      rw [skipWhile, if_pos seen]
      exact moved.trans onward

end Cursor

end QualityGate.GoSource
