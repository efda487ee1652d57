import QualityGate.Proofs.GoSource.Cursor
import QualityGate.Proofs.Masking.Elements

/-!
What literals look like when they are read without a fault, and how the reader takes what masking makes of them: what is
between the delimiters is then the inside of a literal in the sense of masking, and blanks between the same delimiters are
read up to the same place.
-/

namespace QualityGate.GoSource

open Cursor
open Masking (QuotedBody blank marks)
open Text (byte doubleQuote singleQuote backquote backslash)

variable {c e : Cursor} {taken body rest : Text}

/-! ### Escapes -/

theorem keepsFaults_readEscapeDigits (base count value : Nat) (c : Cursor) :
    KeepsFaults c (readEscapeDigits base count value c).2 := by
  induction count generalizing value c with
  | zero => exact .refl c
  | succ count ih =>
    unfold readEscapeDigits
    dsimp only
    split
    · exact keepsFaults_fault c _
    · exact (keepsFaults_step c).trans (ih _ c.step)

theorem keepsFaults_readNumericEscape (start count base limit : Nat) (c : Cursor) :
    KeepsFaults c (readNumericEscape start count base limit c).2 := by
  have digits := keepsFaults_readEscapeDigits base count 0 c
  unfold readNumericEscape
  split
  next read => simpa [read] using digits
  next value after read =>
    rw [read] at digits
    split
    · exact digits.trans (keepsFaults_fault after start)
    · exact digits

theorem keepsFaults_readEscape (quote : Char) (c : Cursor) : KeepsFaults c (readEscape quote c).2 := by
  unfold readEscape
  split
  · exact keepsFaults_fault c _
  split
  · exact keepsFaults_step c
  split
  · exact keepsFaults_readNumericEscape _ _ _ _ c
  split
  · exact (keepsFaults_step c).trans (keepsFaults_readNumericEscape _ _ _ _ c.step)
  split
  · exact (keepsFaults_step c).trans (keepsFaults_readNumericEscape _ _ _ _ c.step)
  split
  · exact (keepsFaults_step c).trans (keepsFaults_readNumericEscape _ _ _ _ c.step)
  · exact keepsFaults_fault c _

/-- Bytes that mean nothing inside a literal. -/
def Unremarkable (b : UInt8) : Prop := b ∉ marks ∧ b ≠ byte '\n'

theorem unremarkable_digit {ch : Char} (digit : digitValue ch < 16) :
    ch.toNat < 0x80 ∧ Unremarkable (byte ch) := by
  have range : 0x30 ≤ ch.toNat ∧ ch.toNat ≤ 0x39 ∨ 0x61 ≤ ch.toNat ∧ ch.toNat ≤ 0x66 ∨
      0x41 ≤ ch.toNat ∧ ch.toNat ≤ 0x46 := by
    unfold digitValue at digit
    split at digit
    next decimal =>
      simp only [Char.isDigit, Bool.and_eq_true, decide_eq_true_eq] at decimal
      exact .inl decimal
    split at digit
    next lower => exact .inr (.inl lower)
    split at digit
    next upper => exact .inr (.inr upper)
    · omega
  have ascii : ch.toNat < 0x80 := by omega
  refine ⟨ascii, fun mark => ?_, fun newline => ?_⟩
  · have number : (byte ch).toNat ∈ marks.map UInt8.toNat := List.mem_map_of_mem mark
    rw [toNat_byte ascii] at number
    simp only [marks, List.map_cons, List.map_nil, List.mem_cons, List.not_mem_nil, or_false] at number
    have : (byte '/').toNat = 0x2F ∧ (byte '*').toNat = 0x2A ∧ (byte '@').toNat = 0x40 ∧ doubleQuote.toNat = 0x22 ∧
      singleQuote.toNat = 0x27 ∧ backquote.toNat = 0x60 ∧ backslash.toNat = 0x5C := by decide
    omega
  · have number : ch.toNat = (byte '\n').toNat := by rw [← newline, toNat_byte ascii]
    have : (byte '\n').toNat = 0x0A := by decide
    omega

theorem readEscapeDigits_passes {base count value : Nat} {value? : Option Nat} (small : base ≤ 16) (clean : c.Clean)
    (read : readEscapeDigits base count value c = (value?, e)) (faultless : e.faults = []) :
    ∃ taken, Passes c taken e ∧ taken.length = count ∧ value?.isSome ∧ ∀ b ∈ taken, Unremarkable b := by
  induction count generalizing value c with
  | zero =>
    cases read
    exact ⟨[], clean.passes, rfl, rfl, by simp⟩
  | succ count ih =>
    unfold readEscapeDigits at read
    dsimp only at read
    split at read
    · cases read
      cases faultless
    next digit =>
      match seen : c.peek with
      | none =>
        simp only [seen, Option.map_none, Option.getD_none] at digit
        omega
      | some ch =>
        simp only [seen, Option.map_some, Option.getD_some] at digit read
        obtain ⟨ascii, plain⟩ := unremarkable_digit (show digitValue ch < 16 by omega)
        have kept := keepsFaults_readEscapeDigits base count (value * base + digitValue ch) c.step
        rw [read] at kept
        have moved := passes_step_seen ascii seen (kept.faults_eq_nil faultless)
        obtain ⟨rest, onward, length, valued, all⟩ := ih moved.clean read
        exact ⟨_, moved.trans onward, by simp [length], valued, by simpa using ⟨plain, all⟩⟩

theorem readNumericEscape_passes {start count base limit : Nat} {valid : Bool} (small : base ≤ 16) (clean : c.Clean)
    (read : readNumericEscape start count base limit c = (valid, e)) (faultless : e.faults = []) :
    ∃ taken, Passes c taken e ∧ taken.length = count ∧ valid = true ∧ ∀ b ∈ taken, Unremarkable b := by
  unfold readNumericEscape at read
  split at read
  next digits =>
    cases read
    obtain ⟨-, -, -, valued, -⟩ := readEscapeDigits_passes small clean digits faultless
    cases valued
  next digits =>
    split at read
    · cases read
      cases faultless
    · cases read
      obtain ⟨taken, moved, length, -, all⟩ := readEscapeDigits_passes small clean digits faultless
      exact ⟨taken, moved, length, rfl, all⟩

/-- An escape that is read without a fault has something after its backslash that breaks no line, and then digits. -/
theorem readEscape_passes {quote : Char} {valid : Bool} (ascii : quote.toNat < 0x80) (unbroken : quote ≠ '\n')
    (clean : c.Clean) (read : readEscape quote c = (valid, e)) (faultless : e.faults = []) :
    ∃ b rest, Passes c (b :: rest) e ∧ valid = true ∧ b ≠ byte '\n' ∧ ∀ d ∈ rest, Unremarkable d := by
  -- A letter, and the digits that it asks for.
  have numeric : ∀ {ch : Char} {count limit : Nat}, c.peek = some ch → ch.toNat < 0x80 ∧ byte ch ≠ byte '\n' →
      readNumericEscape c.offset count 16 limit c.step = (valid, e) →
      ∃ b rest, Passes c (b :: rest) e ∧ valid = true ∧ b ≠ byte '\n' ∧ ∀ d ∈ rest, Unremarkable d := by
    intro ch count limit seen plain read
    have kept := keepsFaults_readNumericEscape c.offset count 16 limit c.step
    rw [read] at kept
    have moved := passes_step_seen plain.1 seen (kept.faults_eq_nil faultless)
    obtain ⟨rest, onward, -, well, all⟩ := readNumericEscape_passes (by decide) moved.clean read faultless
    exact ⟨_, rest, moved.trans onward, well, plain.2, all⟩
  unfold readEscape at read
  split at read
  · cases read
    cases faultless
  next ch seen =>
    split at read
    next simple =>
      cases read
      have plain : ch.toNat < 0x80 ∧ byte ch ≠ byte '\n' := by
        rcases simple with rfl | letter
        · refine ⟨ascii, fun same => unbroken ?_⟩
          rw [← ofNat_byte ascii, same]
          rfl
        · simp only [List.mem_cons, List.not_mem_nil, or_false] at letter
          rcases letter with rfl | rfl | rfl | rfl | rfl | rfl | rfl | rfl <;> decide
      exact ⟨_, [], passes_step_seen plain.1 seen faultless, rfl, plain.2, by simp⟩
    split at read
    next octal =>
      obtain ⟨taken, moved, length, well, all⟩ := readNumericEscape_passes (by decide) clean read faultless
      match taken, length with
      | b :: rest, _ =>
        exact ⟨b, rest, moved, well, (all b List.mem_cons_self).2, fun d member => all d (List.mem_cons_of_mem b member)⟩
    split at read
    next short => exact numeric seen (by rw [short]; decide) read
    split at read
    next middle => exact numeric seen (by rw [middle]; decide) read
    split at read
    next long => exact numeric seen (by rw [long]; decide) read
    · cases read
      cases faultless

/-! ### Literals on one line -/

theorem keepsFaults_readString (start fuel : Nat) (c : Cursor) : KeepsFaults c (readString start fuel c) := by
  induction fuel generalizing c with
  | zero => exact .refl c
  | succ fuel ih =>
    unfold readString
    split
    · exact keepsFaults_fault c start
    split
    · exact keepsFaults_fault c start
    split
    · exact keepsFaults_step c
    split
    · exact ((keepsFaults_step c).trans (keepsFaults_readEscape _ c.step)).trans (ih _)
    · exact (keepsFaults_step c).trans (ih c.step)

theorem keepsFaults_readCharacter (start fuel : Nat) (valid : Bool) (count : Nat) (c : Cursor) :
    KeepsFaults c (readCharacter start fuel valid count c) := by
  induction fuel generalizing valid count c with
  | zero => exact .refl c
  | succ fuel ih =>
    unfold readCharacter
    split
    · exact keepsFaults_ite _ c start
    split
    · exact keepsFaults_ite _ c start
    split
    · exact (keepsFaults_step c).trans (keepsFaults_ite _ c.step start)
    split
    · exact ((keepsFaults_step c).trans (keepsFaults_readEscape _ c.step)).trans (ih _ _ _)
    · exact (keepsFaults_step c).trans (ih _ _ c.step)

theorem quotedBody_append {quote : UInt8} (plain : ∀ b ∈ taken, b ≠ quote ∧ b ≠ backslash ∧ b ≠ byte '\n')
    (inside : QuotedBody quote body) : QuotedBody quote (taken ++ body) := by
  induction taken with
  | nil => exact inside
  | cons b taken ih =>
    obtain ⟨notQuote, notBackslash, notBreak⟩ := plain b List.mem_cons_self
    exact .plain notQuote notBackslash notBreak (ih fun d member => plain d (List.mem_cons_of_mem b member))

/-- A cursor has come to the end of a literal: over its body and its closing quote. -/
def Closes (quote : UInt8) (c e : Cursor) : Prop :=
  ∃ body, QuotedBody quote body ∧ Passes c (body ++ [quote]) e

/-- A cursor has come over bytes that may stand in a literal before all others that may. -/
def PassesInside (quote : UInt8) (c d : Cursor) : Prop :=
  ∃ taken, Passes c taken d ∧ taken ≠ [] ∧ ∀ body, QuotedBody quote body → QuotedBody quote (taken ++ body)

theorem PassesInside.closes {quote : UInt8} {d : Cursor} (inside : PassesInside quote c d) (closes : Closes quote d e) :
    Closes quote c e := by
  obtain ⟨taken, moved, -, extended⟩ := inside
  obtain ⟨body, quoted, onward⟩ := closes
  refine ⟨taken ++ body, extended body quoted, ?_⟩
  rw [List.append_assoc]
  exact moved.trans onward

theorem PassesInside.length_lt {quote : UInt8} {d : Cursor} (inside : PassesInside quote c d) :
    d.rest.length < c.rest.length := by
  obtain ⟨taken, moved, nonempty, -⟩ := inside
  exact moved.length_lt nonempty

theorem PassesInside.clean {quote : UInt8} {d : Cursor} (inside : PassesInside quote c d) : d.Clean := by
  obtain ⟨taken, moved, -, -⟩ := inside
  exact moved.clean

theorem passesInside_step {ch quote : Char} (seen : c.peek = some ch) (faultless : c.step.faults = [])
    (ascii : quote.toNat < 0x80) (going : ch ≠ quote) (unescaped : ch ≠ '\\') (unbroken : ch ≠ '\n') :
    PassesInside (byte quote) c c.step := by
  obtain ⟨taken, moved, spelling⟩ := passes_step seen faultless
  refine ⟨taken, moved, spelling.ne_nil, fun body inside => quotedBody_append (fun b member => ⟨?_, ?_, ?_⟩) inside⟩
  · exact spelling.ne_byte ascii going b member
  · exact spelling.ne_byte (by decide) unescaped b member
  · exact spelling.ne_byte (by decide) unbroken b member

theorem passesInside_escape {quote : Char} {valid : Bool} (mark : byte quote ∈ marks) (ascii : quote.toNat < 0x80)
    (unbroken : quote ≠ '\n') (seen : c.peek = some '\\') (read : readEscape quote c.step = (valid, e))
    (faultless : e.faults = []) : PassesInside (byte quote) c e ∧ valid = true := by
  have kept := keepsFaults_readEscape quote c.step
  rw [read] at kept
  have moved := passes_step_seen (by decide) seen (kept.faults_eq_nil faultless)
  obtain ⟨b, rest, onward, well, notBreak, all⟩ := readEscape_passes ascii unbroken moved.clean read faultless
  refine ⟨⟨_, moved.trans onward, by simp, fun body inside => .escape notBreak (quotedBody_append ?_ inside)⟩, well⟩
  intro d member
  obtain ⟨plain, notBreak⟩ := all d member
  exact ⟨fun same => plain (same ▸ mark), fun same => plain (by rw [same]; decide), notBreak⟩

theorem readString_closes {start fuel : Nat} (clean : c.Clean) (enough : c.rest.length < fuel)
    (faultless : (readString start fuel c).faults = []) : Closes doubleQuote c (readString start fuel c) := by
  induction fuel generalizing c with
  | zero => omega
  | succ fuel ih =>
    generalize read : readString start (fuel + 1) c = e at faultless ⊢
    unfold readString at read
    split at read
    · subst read
      cases faultless
    next ch seen =>
    split at read
    · subst read
      cases faultless
    next unbroken =>
    split at read
    next closing =>
      subst read closing
      exact ⟨[], .nil, passes_step_seen (by decide) seen faultless⟩
    next going =>
    split at read
    next escape =>
      subst escape
      rcases escaped : readEscape quoteChar c.step with ⟨valid, after⟩
      rw [escaped] at read
      subst read
      have reached := (keepsFaults_readString start fuel after).faults_eq_nil faultless
      obtain ⟨inside, -⟩ := passesInside_escape (by decide) (by decide) (by decide) seen escaped reached
      have shorter := inside.length_lt
      exact inside.closes (ih inside.clean (by omega) faultless)
    next unescaped =>
      subst read
      have reached := (keepsFaults_readString start fuel c.step).faults_eq_nil faultless
      have inside := passesInside_step seen reached (by decide) going unescaped unbroken
      have shorter := inside.length_lt
      exact inside.closes (ih inside.clean (by omega) faultless)

theorem readCharacter_closes {start fuel count : Nat} (clean : c.Clean) (enough : c.rest.length < fuel)
    (faultless : (readCharacter start fuel true count c).faults = []) :
    Closes singleQuote c (readCharacter start fuel true count c) := by
  induction fuel generalizing count c with
  | zero => omega
  | succ fuel ih =>
    generalize read : readCharacter start (fuel + 1) true count c = e at faultless ⊢
    unfold readCharacter at read
    split at read
    · subst read
      cases faultless
    next ch seen =>
    split at read
    · subst read
      cases faultless
    next unbroken =>
    split at read
    next closing =>
      subst closing
      split at read
      · subst read
        cases faultless
      · subst read
        exact ⟨[], .nil, passes_step_seen (by decide) seen faultless⟩
    next going =>
    split at read
    next escape =>
      subst escape
      rcases escaped : readEscape '\'' c.step with ⟨valid, after⟩
      simp only [escaped] at read
      subst read
      have reached := (keepsFaults_readCharacter start fuel _ _ after).faults_eq_nil faultless
      obtain ⟨inside, rfl⟩ := passesInside_escape (by decide) (by decide) (by decide) seen escaped reached
      have shorter := inside.length_lt
      exact inside.closes (ih inside.clean (by omega) faultless)
    next unescaped =>
      subst read
      have reached := (keepsFaults_readCharacter start fuel _ _ c.step).faults_eq_nil faultless
      have inside := passesInside_step seen reached (by decide) going unescaped unbroken
      have shorter := inside.length_lt
      exact inside.closes (ih inside.clean (by omega) faultless)

/-! ### Blanks between quotes -/

def IsWhite (b : UInt8) : Prop := b = byte ' ' ∨ b = byte '\t' ∨ b = byte '\r' ∨ b = byte '\n'

theorem isWhite_blank (b : UInt8) : IsWhite (blank b) := by
  unfold blank
  split
  next breaks =>
    rcases breaks with rfl | rfl
    · exact .inr (.inr (.inr rfl))
    · exact .inr (.inr (.inl rfl))
  · exact .inl rfl

theorem IsWhite.ascii {b : UInt8} (white : IsWhite b) : 0 < b.toNat ∧ b.toNat < 0x80 := by
  rcases white with rfl | rfl | rfl | rfl <;> decide

/-- What is left of the inside of a literal on one line. -/
def IsBlankLine (blanks : Text) : Prop := ∀ b ∈ blanks, b = byte ' ' ∨ b = byte '\r'

theorem IsBlankLine.white {blanks : Text} (isBlank : IsBlankLine blanks) : ∀ b ∈ blanks, IsWhite b := fun b member =>
  (isBlank b member).elim .inl fun same => .inr (.inr (.inl same))

theorem isBlankLine_map_blank (unbroken : byte '\n' ∉ body) : IsBlankLine (body.map blank) := by
  intro b member
  obtain ⟨d, inside, rfl⟩ := List.mem_map.mp member
  unfold blank
  split
  next breaks =>
    rcases breaks with rfl | rfl
    · exact absurd inside unbroken
    · exact .inr rfl
  · exact .inl rfl

theorem peek_blank {b : UInt8} (here : c.rest = b :: rest) (blank : b = byte ' ' ∨ b = byte '\r') :
    c.peek = some ' ' ∨ c.peek = some '\r' := by
  rcases blank with rfl | rfl
  · exact .inl ((peek_eq_some_iff (by decide)).mpr ⟨rest, here⟩)
  · exact .inr ((peek_eq_some_iff (by decide)).mpr ⟨rest, here⟩)

theorem isUnreadable_white {blanks rest : Text} {offset : Nat} (white : ∀ b ∈ blanks, IsWhite b)
    (readable : isUnreadable (offset + blanks.length) rest = false) : isUnreadable offset (blanks ++ rest) = false := by
  cases blanks with
  | nil => exact readable
  | cons b blanks =>
    have first := (white b List.mem_cons_self).ascii
    exact isUnreadable_ascii first.1 first.2 offset _

theorem isUnreadable_mark {mark : UInt8} (isMark : mark ∈ marks) (offset : Nat) (rest : Text) :
    isUnreadable offset (mark :: rest) = false :=
  isUnreadable_ascii (Masking.ascii_of_mem_marks isMark).1 (Masking.ascii_of_mem_marks isMark).2 offset rest

/-- A reader that goes on over a blank, and perhaps counts it, comes to the quote after the blanks. -/
theorem read_blanks (read : Nat → Nat → Cursor → Cursor) (count : Nat) {blanks : Text} {quote : UInt8} {fuel : Nat}
    (goes : ∀ fuel count (d : Cursor), d.peek = some ' ' ∨ d.peek = some '\r' →
      read (fuel + 1) count d = read fuel (count + 1) d.step)
    (here : c.rest = blanks ++ quote :: rest) (isBlank : IsBlankLine blanks) (mark : quote ∈ marks)
    (faultless : c.faults = []) (enough : blanks.length < fuel) :
    ∃ fuel' count' d, Passes c blanks d ∧ read fuel count c = read (fuel' + 1) count' d := by
  induction blanks generalizing c fuel count with
  | nil =>
    obtain ⟨fuel', rfl⟩ : ∃ fuel', fuel = fuel' + 1 := ⟨fuel - 1, by simp at enough; omega⟩
    have readable : isUnreadable c.offset c.rest = false := by
      rw [here]
      exact isUnreadable_mark mark _ rest
    exact ⟨fuel', count, c, Clean.passes ⟨faultless, readable⟩, rfl⟩
  | cons b blanks ih =>
    obtain ⟨fuel, rfl⟩ : ∃ fuel', fuel = fuel' + 1 := ⟨fuel - 1, by simp at enough; omega⟩
    have first := isBlank b List.mem_cons_self
    have others : IsBlankLine blanks := fun d member => isBlank d (List.mem_cons_of_mem b member)
    have moved : Passes c [b] c.step := by
      refine passes_step_readable here ?_ faultless 
        (isUnreadable_white others.white (isUnreadable_mark mark _ rest))
      rcases first with rfl | rfl <;> decide
    have ahead : c.step.rest = blanks ++ quote :: rest := by simpa [here] using moved.rest.symm
    obtain ⟨fuel', count', d, onward, same⟩ := ih (count + 1) ahead others moved.clean.faults (by simpa using enough)
    exact ⟨fuel', count', d, moved.trans onward, (goes fuel count c (peek_blank here first)).trans same⟩

/-- Blanks up to a closing quote are read as the inside of a string. -/
theorem passes_readString (start : Nat) {blanks : Text} {fuel : Nat} (here : c.rest = blanks ++ doubleQuote :: rest)
    (isBlank : IsBlankLine blanks) (faultless : c.faults = [])
    (readable : isUnreadable (c.offset + blanks.length + 1) rest = false) (enough : blanks.length < fuel) :
    Passes c (blanks ++ [doubleQuote]) (readString start fuel c) := by
  have goes : ∀ fuel (_ : Nat) (d : Cursor), d.peek = some ' ' ∨ d.peek = some '\r' →
      readString start (fuel + 1) d = readString start fuel d.step := by
    rintro fuel - d (seen | seen) <;> simp +decide [readString, seen]
  obtain ⟨fuel', -, d, passes, same⟩ :=
    read_blanks (fun fuel _ => readString start fuel) 0 goes here isBlank (by decide) faultless enough
  have ahead : d.rest = doubleQuote :: rest := List.append_cancel_left (passes.rest.symm.trans here)
  have seen : d.peek = some quoteChar := (peek_eq_some_iff (by decide)).mpr ⟨rest, ahead⟩
  have closed : readString start (fuel' + 1) d = d.step := by simp +decide [readString, seen]
  rw [same, closed]
  exact passes.step_quote here (by decide) readable

/-- Blanks between single quotes are read up to the closing one too, but it is a fault when there is not just one. -/
theorem passes_readCharacter (start : Nat) (valid : Bool) (count : Nat) {blanks : Text} {fuel : Nat}
    (here : c.rest = blanks ++ singleQuote :: rest) (isBlank : IsBlankLine blanks) (faultless : c.faults = [])
    (readable : isUnreadable (c.offset + blanks.length + 1) rest = false) (enough : blanks.length < fuel) :
    Passes c (blanks ++ [singleQuote]) (readCharacter start fuel valid count c).faultless := by
  have goes : ∀ fuel count (d : Cursor), d.peek = some ' ' ∨ d.peek = some '\r' →
      readCharacter start (fuel + 1) valid count d = readCharacter start fuel valid (count + 1) d.step := by
    rintro fuel count d (seen | seen) <;> simp +decide [readCharacter, seen]
  obtain ⟨fuel', count', d, passes, same⟩ :=
    read_blanks (fun fuel => readCharacter start fuel valid) count goes here isBlank (by decide) faultless enough
  have ahead : d.rest = singleQuote :: rest := List.append_cancel_left (passes.rest.symm.trans here)
  have seen : d.peek = some '\'' := (peek_eq_some_iff (by decide)).mpr ⟨rest, ahead⟩
  have onward := passes.step_quote here (by decide) readable
  have closed : (readCharacter start (fuel' + 1) valid count' d).faultless = d.step := by
    have clear := faultless_eq_self onward.clean.faults
    simp +decide only [readCharacter, seen, if_false, if_true]
    split
    · exact clear
    · exact clear
  rw [same, closed]
  exact onward

/-! ### Raw strings -/

theorem keepsFaults_readRawString (start : Nat) (c : Cursor) : KeepsFaults c (readRawString start c) := by
  have skipped := keepsFaults_skipWhile (· ≠ backquoteChar) c.bound c
  unfold readRawString skip
  dsimp only
  split
  · exact skipped.trans (keepsFaults_fault _ start)
  · exact skipped.trans (keepsFaults_step _)

theorem readRawString_passes {start : Nat} (clean : c.Clean) (enough : c.rest.length < c.bound)
    (faultless : (readRawString start c).faults = []) :
    ∃ body, backquote ∉ body ∧ Passes c (body ++ [backquote]) (readRawString start c) := by
  unfold readRawString skip at faultless ⊢
  dsimp only at faultless ⊢
  split at faultless
  · cases faultless
  next going =>
    rw [if_neg going]
    have holds : ∀ ch taken, decide (ch ≠ backquoteChar) = true → IsSpelling ch taken →
        ∀ b ∈ taken, b ≠ backquote := by
      intro ch taken other spelling
      exact spelling.ne_byte (show backquoteChar.toNat < 0x80 by decide) (by simpa using other)
    obtain ⟨body, moved, inside, stopped⟩ :=
      skipWhile_passes clean enough holds ((keepsFaults_step _).faults_eq_nil faultless)
    obtain ⟨ch, seen⟩ := Option.ne_none_iff_exists'.mp (mt Option.isNone_iff_eq_none.mpr going)
    have closing : ch = backquoteChar := by simpa using test_of_sees_eq_false stopped seen
    rw [closing] at seen
    exact ⟨body, fun member => inside _ member rfl, moved.trans (passes_step_seen (by decide) seen faultless)⟩

theorem passes_readRawString (start : Nat) (here : c.rest = body.map blank ++ backquote :: rest)
    (faultless : c.faults = []) (readable : isUnreadable (c.offset + (body.map blank).length + 1) rest = false)
    (enough : body.length ≤ c.bound) :
    Passes c (body.map blank ++ [backquote]) (readRawString start c) := by
  have blanks : ∀ b ∈ body.map blank,
      0 < b.toNat ∧ b.toNat < 0x80 ∧ decide (Char.ofNat b.toNat ≠ backquoteChar) = true := by
    intro b member
    obtain ⟨d, -, rfl⟩ := List.mem_map.mp member
    have white := isWhite_blank d
    refine ⟨white.ascii.1, white.ascii.2, ?_⟩
    rcases white with same | same | same | same <;> rw [same] <;> decide
  have moved : Passes c (body.map blank) (skipWhile (· ≠ backquoteChar) c.bound c) :=
    passes_skipWhile here faultless blanks (fun e ahead => by rw [Cursor.sees, peek_ascii ahead (by decide)]; decide)
      (isUnreadable_ascii (by decide) (by decide) _ rest) (by simpa using enough)
  have ahead := List.append_cancel_left (moved.rest.symm.trans here)
  have going : ¬ (skipWhile (· ≠ backquoteChar) c.bound c).peek.isNone = true := by
    rw [peek_cons ahead]
    simp
  unfold readRawString skip
  dsimp only
  rw [if_neg going]
  exact moved.step_quote here (by decide) readable

end QualityGate.GoSource
