import Mathlib.Data.List.Forall2
import QualityGate.Checking.Checker
import QualityGate.Proofs.Masking.Steps
import QualityGate.Proofs.Text.Decoding

/-!
Masking works on bytes, but it never cuts a character. A byte above the ASCII range changes no state, so all bytes of
a longer character are kept or all are blanked (`maskIn_high`). Only an escape takes a byte along without looking at
it, and there the other bytes of its character are blanked as the inside of the same literal.
-/

namespace QualityGate

namespace Masking

open Text (byte doubleQuote backslash encode ofChars)

variable {rules : Rules} {state : State}

/-! ### Bytes above the ASCII range -/

theorem ne_of_high {b c : UInt8} (high : 0x80 ≤ b.toNat) (ascii : c.toNat < 0x80) : b ≠ c := by
  rintro rfl
  omega

theorem step_high (proper : state.Proper) {b : UInt8} (high : 0x80 ≤ b.toNat) (rest : Text) :
    step rules state (b :: rest) = ⟨1, state = .code, state⟩ := by
  have plain : b ∉ marks := fun mark => ne_of_high high (ascii_of_mem_marks mark).2 rfl
  have notBreak : b ≠ byte '\n' := ne_of_high high (by decide)
  exact step_plain proper plain (fun newline => absurd newline notBreak) rest

theorem maskIn_high (proper : state.Proper) {bytes : Text} (high : ∀ b ∈ bytes, 0x80 ≤ b.toNat) (rest : Text) :
    maskIn rules state (bytes ++ rest) = bytes.map (write (state = .code)) ++ maskIn rules state rest := by
  induction bytes with
  | nil => rfl
  | cons b bytes ih =>
    have stepped : step rules state (b :: (bytes ++ rest)) = _ := step_high proper (high b List.mem_cons_self) _
    have onward : maskIn rules state (b :: (bytes ++ rest)) =
        write (state = .code) b :: maskIn rules state (bytes ++ rest) := maskIn_step [] stepped
    rw [List.cons_append, onward, ih fun c member => high c (List.mem_cons_of_mem b member)]
    rfl

theorem map_blank_high {bytes : Text} (high : ∀ b ∈ bytes, 0x80 ≤ b.toNat) :
    bytes.map blank = Text.spaces bytes.length := by
  refine List.eq_replicate_iff.mpr ⟨List.length_map .., fun b member => ?_⟩
  obtain ⟨c, present, rfl⟩ := List.mem_map.mp member
  have newline : c ≠ byte '\n' := ne_of_high (high c present) (by decide)
  have carriageReturn : c ≠ byte '\r' := ne_of_high (high c present) (by decide)
  simp [blank, newline, carriageReturn]

/-! ### The bytes that a step takes -/

/-- What stands before bytes that a step has still to write: they are ASCII, or it is the one byte after a backslash
in a literal. -/
def Due (state : State) (pending : Nat) (keeps : Bool) (text : Text) : Prop :=
  (∀ b ∈ text.take pending, b.toNat < 0x80) ∨ pending = 1 ∧ keeps = false ∧ state ≠ .code

/-- What a step leaves to be written after its first byte. -/
def Step.Leaves (taken : Step) (rest : Text) : Prop := Due taken.next (taken.width - 1) taken.keeps rest

theorem due_zero (state : State) (keeps : Bool) (text : Text) : Due state 0 keeps text :=
  .inl (by simp)

theorem due_one (state : State) (keeps : Bool) {text : Text} {b : UInt8} (next : text.head? = some b)
    (ascii : b.toNat < 0x80) : Due state 1 keeps text := by
  match text, next with
  | c :: rest, next =>
    obtain rfl : c = b := by simpa using next
    exact .inl (by simpa using ascii)

theorem due_quotes (state : State) (keeps : Bool) {b : UInt8} {rest : Text} {width : Nat}
    (run : width ≤ quoteRun (b :: rest)) : Due state (width - 1) keeps rest := by
  refine .inl fun c member => ?_
  have quotes : ∀ d ∈ (b :: rest).take width, d = doubleQuote := by
    intro d inside
    have begun : (b :: rest).take width <+: (b :: rest).takeWhile (· = doubleQuote) :=
      List.prefix_of_prefix_length_le (List.take_prefix _ _) (List.takeWhile_prefix _)
        (by rw [List.length_take]; exact Nat.le_trans (Nat.min_le_left _ _) run)
    simpa using List.all_eq_true.mp List.all_takeWhile d (begun.mem inside)
  match width with
  | 0 => simp at member
  | width + 1 =>
    rw [quotes c (List.mem_cons_of_mem b member)]
    decide

theorem leaves_enter (rules : Rules) (b : UInt8) (rest : Text) :
    (enter rules (b :: rest)).Leaves rest := by
  unfold enter
  dsimp only
  split
  next comment => exact due_one _ _ comment.2.2 (by decide)
  split
  next comment => exact due_one _ _ comment.2.2 (by decide)
  split
  next raw => exact due_quotes _ _ (Nat.le_refl _)
  split
  next block => exact due_quotes _ _ ((startsTextBlock_iff _).mp block.2)
  split
  next verbatim => exact due_one _ _ verbatim.2.2 (by decide)
  -- The other openings are one byte long.
  all_goals repeat' split
  all_goals exact due_zero _ _ _

theorem leaves_step (rules : Rules) (state : State) (b : UInt8) (rest : Text) :
    (step rules state (b :: rest)).Leaves rest := by
  cases state with
  | code => exact leaves_enter rules b rest
  | lineComment => exact due_zero _ _ _
  | blockComment =>
    simp only [step]
    split
    next closes => exact due_one _ _ closes.2 (by decide)
    · exact due_zero _ _ _
  | quoted quote =>
    simp only [step]
    split
    · exact .inr ⟨rfl, rfl, by simp⟩
    split
    · exact due_zero _ _ _
    · exact due_zero _ _ _
  | verbatim =>
    simp only [step]
    split
    next doubled => exact due_one _ _ doubled.2 (by decide)
    split
    · exact due_zero _ _ _
    · exact due_zero _ _ _
  | textBlock =>
    simp only [step]
    split
    next closes => exact due_quotes _ _ ((startsTextBlock_iff _).mp closes)
    split
    · exact .inr ⟨rfl, rfl, by simp⟩
    · exact due_zero _ _ _
  | rawQuoted quotes =>
    simp only [step]
    split
    · split
      · exact due_quotes _ _ (Nat.le_refl _)
      · exact due_quotes _ _ (Nat.le_refl _)
    · exact due_zero _ _ _
  | backquoted =>
    simp only [step]
    split
    · exact due_zero _ _ _
    · exact due_zero _ _ _

/-! ### Characters -/

/-- A character after masking: it is kept whole, or there is a space for each of its bytes. -/
def Spared (c : Char) (masked : Text) : Prop := masked = encode c ∨ masked = Text.spaces (encode c).length

theorem spared_write {c : Char} {b : UInt8} (alone : encode c = [b]) (keeps : Bool) : Spared c [write keeps b] := by
  rw [Spared, alone]
  unfold write blank
  split
  · exact .inl rfl
  split
  · exact .inl rfl
  · exact .inr rfl

theorem spared_high {c : Char} (high : ∀ b ∈ encode c, 0x80 ≤ b.toNat) (keeps : Bool) :
    Spared c ((encode c).map (write keeps)) := by
  cases keeps with
  | true => exact .inl (map_write_true _)
  | false => exact .inr (map_blank_high high)

/-- The bytes of a longer character are all written in one way, whether it is met by a step or after a backslash. -/
theorem maskFrom_high (proper : state.Proper) {b : UInt8} {tail rest : Text} {pending : Nat} {keeps : Bool}
    (high : ∀ d ∈ b :: tail, 0x80 ≤ d.toNat) (due : Due state pending keeps (b :: tail ++ rest)) :
    maskFrom rules state pending keeps (b :: tail ++ rest) =
      (b :: tail).map (write (state = .code)) ++ maskIn rules state rest := by
  match pending with
  | 0 => rw [maskFrom_zero, maskIn_high proper high]
  | pending + 1 =>
    rcases due with ascii | ⟨one, rfl, literal⟩
    · have low := ascii b (by simp)
      have := high b List.mem_cons_self
      omega
    · obtain rfl : pending = 0 := by omega
      have high' : ∀ d ∈ tail, 0x80 ≤ d.toNat := fun d member => high d (List.mem_cons_of_mem b member)
      rw [List.cons_append, maskFrom, maskFrom_zero, maskIn_high proper high']
      simp [literal]

theorem exists_spared (rules : Rules) (cs : List Char) {state : State} (proper : state.Proper) {pending : Nat}
    {keeps : Bool} (due : Due state pending keeps (ofChars cs)) :
    ∃ masked, List.Forall₂ Spared cs masked ∧ maskFrom rules state pending keeps (ofChars cs) = masked.flatten := by
  induction cs generalizing state pending keeps with
  | nil => exact ⟨[], .nil, rfl⟩
  | cons c cs ih =>
    rw [ofChars, List.flatMap_cons, ← ofChars] at due ⊢
    rcases Nat.lt_or_ge c.toNat 0x80 with ascii | above
    · have alone := Text.encode_of_ascii ascii
      generalize UInt8.ofNat c.toNat = b at alone
      rw [alone, List.singleton_append] at due ⊢
      cases pending with
      | zero =>
        obtain ⟨masked, each, whole⟩ := ih (proper_step rules proper _) (leaves_step rules state b (ofChars cs))
        refine ⟨_, .cons (spared_write alone (step rules state (b :: ofChars cs)).keeps) each, ?_⟩
        rw [maskFrom, whole]
        rfl
      | succ pending =>
        have later : Due state pending keeps (ofChars cs) := by
          rcases due with ascii | ⟨one, -, -⟩
          · exact .inl fun d member => ascii d (List.mem_cons_of_mem b member)
          · obtain rfl : pending = 0 := by omega
            exact due_zero _ _ _
        obtain ⟨masked, each, whole⟩ := ih proper later
        refine ⟨_, .cons (spared_write alone keeps) each, ?_⟩
        rw [maskFrom, whole]
        rfl
    · have high := Text.high_of_mem_encode above
      obtain ⟨b, tail, bytes⟩ := Text.exists_encode c
      obtain ⟨masked, each, whole⟩ := ih proper (due_zero state true (ofChars cs))
      refine ⟨_, .cons (spared_high high (state = .code)) each, ?_⟩
      rw [bytes] at due high ⊢
      rw [maskFrom_high proper high due, maskIn, whole]
      rfl

theorem Spared.exists_ofChars {c : Char} {masked : Text} (spared : Spared c masked) : ∃ cs, masked = ofChars cs := by
  rcases spared with rfl | rfl
  · exact ⟨[c], (List.flatMap_singleton ..).symm⟩
  · refine ⟨List.replicate (encode c).length ' ', ?_⟩
    have space : encode ' ' = [byte ' '] := by decide
    rw [ofChars, List.flatMap_replicate, space, Text.spaces, List.flatten_replicate_singleton]

theorem exists_ofChars_flatten {cs : List Char} {masked : List Text} (each : List.Forall₂ Spared cs masked) :
    ∃ ds, masked.flatten = ofChars ds := by
  induction each with
  | nil => exact ⟨[], rfl⟩
  | cons spared _ ih =>
    obtain ⟨first, same⟩ := spared.exists_ofChars
    obtain ⟨ds, same'⟩ := ih
    exact ⟨first ++ ds, by rw [List.flatten_cons, same, same', ofChars, ofChars, ofChars, List.flatMap_append]⟩

end Masking

/-! ### What a check masks -/

theorem all_isSome_of_illFormedTail? {skip : Nat} {text : Text} (none : illFormedTail? skip text = none) :
    (Text.unitsFrom skip text).all (·.isSome) = true := by
  induction text generalizing skip with
  | nil => cases skip <;> rfl
  | cons b rest ih =>
    cases skip with
    | succ skip => exact ih none
    | zero =>
      rw [illFormedTail?] at none
      split at none
      next found => rw [Text.unitsFrom, List.all_cons, found, ih none, Bool.true_and]
      · cases none

theorem Source.isWellFormed_of_decode {source : Source} {text : Text} (decoded : source.decode = .ok text) :
    text.isWellFormed = true := by
  unfold decode at decoded
  split at decoded
  next none _ =>
    cases decoded
    exact all_isSome_of_illFormedTail? none
  all_goals cases decoded

namespace Masking

open Text (ofChars)

/-- Masking keeps a text well-formed: every character of it is kept whole or becomes as many spaces as it has bytes.
A check of methods masks nothing else than well-formed texts. -/
theorem mask_isWellFormed (language : Language) :
    (∀ source text, Source.decode source = .ok text → text.isWellFormed = true) ∧
    ∀ text : Text, text.isWellFormed = true →
      (language.mask text).isWellFormed = true ∧
      ∃ masked, List.Forall₂ Spared text.chars masked ∧ ofChars text.chars = text ∧
        language.mask text = masked.flatten := by
  refine ⟨fun source text => Source.isWellFormed_of_decode, fun text wellFormed => ?_⟩
  have whole := Text.ofChars_chars wellFormed
  have start : State.code.Proper := trivial
  obtain ⟨masked, each, same⟩ := exists_spared language.maskRules text.chars start (due_zero _ true _)
  rw [whole] at same
  obtain ⟨ds, read⟩ := exists_ofChars_flatten each
  refine ⟨?_, masked, each, whole, same⟩
  rw [Language.mask, mask, same, read, Text.isWellFormed_ofChars]

/-- A character of two bytes after a backslash, and one in code. -/
theorem mask_escaped_umlaut :
    let text : Text := "\"\\ä\"ü"
    text.isWellFormed = true ∧ Language.java.mask text = "\"   \"ü" ∧
      (Language.java.mask text).isWellFormed = true ∧
      ∃ masked, List.Forall₂ Spared text.chars masked ∧ ofChars text.chars = text ∧
        Language.java.mask text = masked.flatten := by
  intro text
  have wellFormed : text.isWellFormed = true := by decide
  exact ⟨wellFormed, by decide, (mask_isWellFormed .java).2 text wellFormed⟩

end Masking

end QualityGate
