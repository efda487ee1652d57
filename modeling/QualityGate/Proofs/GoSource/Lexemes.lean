import QualityGate.Proofs.GoSource.Literals
import QualityGate.Proofs.GoSource.Mirroring
import QualityGate.Proofs.Masking.Idempotence

/-!
The lexemes of a source without lexical faults are those of the masked source, in the same places. A comment is white
space after masking, so the cursor in the masked text may stay behind the one in the text; `Trails` says by what, and
`follows_readLexeme` that the next lexeme is the same all the same. Only character literals may have become faulty.
-/

namespace QualityGate.GoSource

open Cursor
open Masking (QuotedBody blank marks)
open Text (byte doubleQuote singleQuote backquote backslash)

variable {s c d e : Cursor} {taken body rest : Text}

/-! ### Literals in the masked text -/

theorem newline_not_mem_quotedBody {quote : UInt8} (inside : QuotedBody quote body) : byte '\n' ∉ body := by
  induction inside with
  | nil => exact List.not_mem_nil
  | plain _ _ notBreak _ ih => simp [Ne.symm notBreak, ih]
  | escape notBreak _ ih => simp +decide [Ne.symm notBreak, ih]

theorem mask_quoted {quote : UInt8} (isQuote : quote = doubleQuote ∨ quote = singleQuote)
    (inside : QuotedBody quote body) :
    Language.go.mask (quote :: (body ++ quote :: rest)) =
      quote :: (body.map blank ++ quote :: Language.go.mask rest) := by
  have opened : Masking.step Language.go.maskRules .code (quote :: (body ++ quote :: rest)) =
      ⟨1, true, .quoted quote⟩ := by
    rcases isQuote with rfl | rfl <;> simp +decide [Masking.step, Masking.enter]
  have notBackslash : quote ≠ backslash := by rcases isQuote with rfl | rfl <;> decide
  have masked : Language.go.mask (quote :: (body ++ quote :: rest)) = _ := Masking.maskIn_keep opened
  rw [masked, Masking.maskIn_quotedBody notBackslash inside]
  rfl

theorem mask_backquoted (inside : backquote ∉ body) :
    Language.go.mask (backquote :: (body ++ backquote :: rest)) =
      backquote :: (body.map blank ++ backquote :: Language.go.mask rest) := by
  have opened : Masking.step Language.go.maskRules .code (backquote :: (body ++ backquote :: rest)) =
      ⟨1, true, .backquoted⟩ := by
    simp +decide [Masking.step, Masking.enter]
  have masked : Language.go.mask (backquote :: (body ++ backquote :: rest)) = _ := Masking.maskIn_keep opened
  rw [masked, Masking.maskIn_backquotedBody inside]
  rfl

theorem mask_white {blanks : Text} (white : ∀ b ∈ blanks, IsWhite b) (rest : Text) :
    Language.go.mask (blanks ++ rest) = blanks ++ Language.go.mask rest := by
  induction blanks with
  | nil => rfl
  | cons b blanks ih =>
    have plain : PlainFront (b :: (blanks ++ rest)) := by
      rcases white b List.mem_cons_self with rfl | rfl | rfl | rfl <;>
        exact ⟨by simp +decide, fun slash => absurd slash (by simp +decide)⟩
    rw [List.cons_append, mask_cons plain, ih fun other member => white other (List.mem_cons_of_mem b member),
      List.cons_append]

/-! ### Faults are kept -/

/-- A masked text starts with no comment. -/
theorem startsComment_mask (masked : d.rest = Language.go.mask c.rest) : startsComment d = false := by
  rw [← Bool.not_eq_true, startsComment_iff]
  rintro ⟨mark, others, marked, here⟩
  rw [masked] at here
  by_cases plain : PlainFront c.rest
  · match front : c.rest with
    | [] =>
      rw [front] at here
      cases here
    | b :: rest =>
      rw [front] at plain here
      rw [mask_cons plain] at here
      obtain ⟨rfl, second⟩ := List.cons.inj here
      have next := head?_mask rest
      rw [second, List.head?_cons] at next
      have closed := plain.uncommented rfl
      rw [List.tail_cons] at closed
      rcases next with same | ⟨-, space⟩
      · rcases marked with rfl | rfl
        · exact closed.1 same.symm
        · exact closed.2 same.symm
      · rcases marked with rfl | rfl <;> exact absurd space (by decide)
  · rcases mask_openFront plain with ⟨quote, member, rest, others', -, same⟩ | ⟨_, _, others', -, -, same⟩
    · rw [same] at here
      rw [(List.cons.inj here).1] at member
      exact absurd member (by decide)
    · rw [same] at here
      exact absurd (List.cons.inj here).1 (by decide)

theorem quote_of_openFront {ch : Char} (opens : ¬ PlainFront c.rest) (uncommented : startsComment c = false)
    (seen : c.peek = some ch) : ch = quoteChar ∨ ch = '\'' ∨ ch = backquoteChar := by
  rcases mask_openFront opens with ⟨quote, member, rest, -, here, -⟩ | ⟨mark, rest, -, marked, here, -⟩
  · have known {other : Char} (ascii : other.toNat < 0x80) (same : quote = byte other) : ch = other := by
      rw [(peek_eq_some_iff ascii).mpr ⟨rest, same ▸ here⟩, Option.some.injEq] at seen
      exact seen.symm
    simp only [List.mem_cons, List.not_mem_nil, or_false] at member
    rcases member with same | same | same
    · exact .inl (known (by decide) same)
    · exact .inr (.inl (known (by decide) same))
    · exact .inr (.inr (known (by decide) same))
  · rw [startsComment_iff.mpr ⟨mark, rest, marked, here⟩] at uncommented
    cases uncommented

theorem readToken_string (c : Cursor) : readToken c quoteChar = (.string, readString c.offset c.bound c.step) := by
  simp +decide [readToken]

theorem readToken_character (c : Cursor) :
    readToken c '\'' = (.character, readCharacter c.offset c.bound true 0 c.step) := by
  simp +decide [readToken]

theorem readToken_rawString (c : Cursor) : readToken c backquoteChar = (.string, readRawString c.offset c.step) := by
  simp +decide [readToken]

theorem keepsFaults_readToken {ch : Char} (seen : c.peek = some ch) (uncommented : startsComment c = false) :
    KeepsFaults c (readToken c ch).2 := by
  by_cases plain : PlainFront c.rest
  · by_cases faultless : c.faults = []
    · rw [KeepsFaults, faultless]
      exact List.nil_suffix
    · have mirrors : Mirrors c c { c with rest := Language.go.mask c.rest } :=
        .refl rfl rfl rfl rfl fun _ => faultless
      exact (twins_readToken mirrors plain seen).mirrors.keeps
  rcases quote_of_openFront plain uncommented seen with rfl | rfl | rfl
  · rw [readToken_string]
    exact (keepsFaults_step c).trans (keepsFaults_readString _ _ _)
  · rw [readToken_character]
    exact (keepsFaults_step c).trans (keepsFaults_readCharacter _ _ _ _ _)
  · rw [readToken_rawString]
    exact (keepsFaults_step c).trans (keepsFaults_readRawString _ _)

/-- All that is read after the white space keeps the faults, if what is read after a comment does. -/
theorem keepsFaults_afterGap {size fuel : Nat} (onward : ∀ armed c, KeepsFaults c (readLexeme size fuel armed c).2.2)
    (armed : Bool) (c : Cursor) : KeepsFaults (c.skip (isGap armed)) (readLexeme size (fuel + 1) armed c).2.2 := by
  unfold readLexeme
  dsimp only
  generalize c.skip (isGap armed) = start
  split
  · split
    · exact .refl start
    · exact .refl start
  next ch seen =>
  split
  · exact keepsFaults_step start
  split
  · have comment := keepsFaults_readComment size start
    split
    next read =>
      rw [read] at comment
      split
      · exact comment
      · exact comment.trans (onward _ _)
    next read =>
      rw [read] at comment
      exact comment.trans (onward _ _)
  next uncommented => exact keepsFaults_readToken seen (by simpa using uncommented)

theorem keepsFaults_readLexeme (size fuel : Nat) (armed : Bool) (c : Cursor) :
    KeepsFaults c (readLexeme size fuel armed c).2.2 := by
  induction fuel generalizing armed c with
  | zero => exact .refl c
  | succ fuel ih => exact (keepsFaults_skipWhile _ _ c).trans (keepsFaults_afterGap ih armed c)

theorem faults_readLexeme (size fuel : Nat) (armed : Bool) (c : Cursor) :
    (readLexeme size fuel armed c).1.faults = (readLexeme size fuel armed c).2.2.faults.reverse := by
  induction fuel generalizing armed c with
  | zero => rfl
  | succ fuel ih =>
    unfold readLexeme
    dsimp only
    repeat' split
    all_goals first | rfl | exact ih _ _

/-! ### One cursor behind the other -/

/-- One cursor is in a text, and the other in the masked text at the same place or before it, with white space between.
When a line break is a semicolon, there is none in it. -/
structure Trails (armed : Bool) (c d : Cursor) : Prop where
  clean : c.Clean
  faultless : d.faults = []
  bound : d.bound = c.bound
  fits : d.rest.length < d.bound
  behind : ∃ blanks, d.rest = blanks ++ Language.go.mask c.rest ∧ c.offset = d.offset + blanks.length ∧
    ∀ b ∈ blanks, IsWhite b ∧ (armed = true → b ≠ byte '\n')

theorem length_mask (t : Text) : (Language.go.mask t).length = t.length :=
  (Masking.covers_mask _ t).length_eq.symm

theorem Trails.fits_text {armed : Bool} (trails : Trails armed c d) : c.rest.length < c.bound := by
  obtain ⟨blanks, split, -⟩ := trails.behind
  have fits := trails.fits
  rw [split, List.length_append, length_mask, trails.bound] at fits
  omega

theorem Trails.cleared {armed : Bool} (trails : Trails armed c d) : Trails armed c d.faultless :=
  ⟨trails.clean, rfl, trails.bound, trails.fits, trails.behind⟩

theorem Mirrors.trails (mirrors : Mirrors s c d) (faultless : c.faults = []) (fits : s.rest.length < s.bound)
    (armed : Bool) : Trails armed c d.faultless where
  clean := ⟨faultless, by simpa using mt mirrors.looked (by simpa using faultless)⟩
  faultless := rfl
  bound := mirrors.bound.2.trans mirrors.bound.1.symm
  fits := by
    obtain ⟨taken, split, -⟩ := mirrors.kept
    have length : d.faultless.rest.length = c.rest.length := (congrArg _ mirrors.rest).trans (length_mask _)
    have bound : d.faultless.bound = s.bound := mirrors.bound.2
    rw [split, List.length_append] at fits
    omega
  behind := ⟨[], mirrors.rest, mirrors.offset.symm, by simp⟩

/-! ### White space -/

theorem isGap_iff {armed : Bool} {ch : Char} :
    isGap armed ch = true ↔ ch = ' ' ∨ ch = '\t' ∨ ch = '\r' ∨ ch = '\n' ∧ armed = false := by
  simp [isGap, or_assoc]

theorem white_of_isGap {armed : Bool} {ch : Char} (gap : isGap armed ch = true) (spelling : IsSpelling ch taken) :
    ∀ b ∈ taken, IsWhite b ∧ (armed = true → b ≠ byte '\n') := by
  rcases isGap_iff.mp gap with rfl | rfl | rfl | ⟨rfl, unarmed⟩
  · rw [spelling.eq_singleton (by decide)]
    simp +decide [IsWhite]
  · rw [spelling.eq_singleton (by decide)]
    simp +decide [IsWhite]
  · rw [spelling.eq_singleton (by decide)]
    simp +decide [IsWhite]
  · rw [spelling.eq_singleton (by decide)]
    simp +decide [IsWhite, unarmed]

theorem isGap_of_white {armed : Bool} {b : UInt8} (white : IsWhite b) (unbroken : armed = true → b ≠ byte '\n') :
    isGap armed (Char.ofNat b.toNat) = true := by
  rw [isGap_iff]
  rcases white with rfl | rfl | rfl | rfl
  · exact .inl rfl
  · exact .inr (.inl rfl)
  · exact .inr (.inr (.inl rfl))
  · exact .inr (.inr (.inr ⟨rfl, by simpa using unbroken⟩))

/-- White space in the text is white space for the other cursor to catch up with. -/
theorem Trails.skip {armed : Bool} (trails : Trails armed c d) (faultless : (c.skip (isGap armed)).faults = []) :
    Trails armed (c.skip (isGap armed)) d ∧ (c.skip (isGap armed)).sees (isGap armed) = false ∧
      (c.skip (isGap armed)).rest.length ≤ c.rest.length := by
  obtain ⟨blanks, split, offset, white⟩ := trails.behind
  obtain ⟨taken, passes, gap, stopped⟩ :=
    skipWhile_passes trails.clean trails.fits_text (fun ch taken gap => white_of_isGap gap) faultless
  have bound := trails.bound.trans passes.bound.symm
  refine ⟨⟨passes.clean, trails.faultless, bound, trails.fits, blanks ++ taken, ?_, ?_, ?_⟩, stopped, passes.length_le⟩
  · rw [split, passes.rest, mask_white fun b member => (gap b member).1, List.append_assoc]
    rfl
  · have moved := passes.offset
    rw [List.length_append]
    unfold Cursor.skip
    omega
  · intro b member
    rcases List.mem_append.mp member with early | late
    · exact white b early
    · exact gap b late

theorem passes_skip_gap {armed : Bool} {blanks : Text} (here : d.rest = blanks ++ rest) (faultless : d.faults = [])
    (white : ∀ b ∈ blanks, IsWhite b ∧ (armed = true → b ≠ byte '\n')) (fits : d.rest.length < d.bound)
    (stops : ∀ e : Cursor, e.rest = rest → e.sees (isGap armed) = false)
    (readable : isUnreadable (d.offset + blanks.length) rest = false) : Passes d blanks (d.skip (isGap armed)) := by
  refine passes_skipWhile here faultless (fun b member => ?_) stops readable ?_
  · obtain ⟨isWhite, unbroken⟩ := white b member
    exact ⟨isWhite.ascii.1, isWhite.ascii.2, isGap_of_white isWhite unbroken⟩
  · rw [here, List.length_append] at fits
    omega

/-- The cursor behind catches up with one that is at a token, over the white space between. -/
theorem Trails.catch_up {armed : Bool} (trails : Trails armed c d) (stopped : c.sees (isGap armed) = false)
    (uncommented : startsComment c = false) : Mirrors c c (d.skip (isGap armed)) := by
  obtain ⟨blanks, split, offset, white⟩ := trails.behind
  have stops : ∀ e : Cursor, e.rest = Language.go.mask c.rest → e.sees (isGap armed) = false := by
    intro e masked
    rcases peek_mask masked with same | ⟨comment, -⟩
    · rw [Cursor.sees, same]
      exact stopped
    · rw [uncommented] at comment
      cases comment
  have readable : isUnreadable (d.offset + blanks.length) (Language.go.mask c.rest) = false := by
    rw [isUnreadable_mask, ← offset]
    exact trails.clean.readable
  have passes := passes_skip_gap split trails.faultless white trails.fits stops readable
  refine .refl ?_ ?_ ?_ ?_ ?_
  · exact List.append_cancel_left (passes.rest.symm.trans split)
  · rw [passes.offset, offset]
  · rw [passes.clean.faults, trails.clean.faults]
  · rw [passes.bound, trails.bound]
  · intro unreadable
    rw [trails.clean.readable] at unreadable
    cases unreadable

/-! ### Comments in the masked text -/

theorem exists_split_of_findIdx? {b : UInt8} {i : Nat} (found : taken.findIdx? (· = b) = some i) :
    ∃ before after, taken = before ++ b :: after ∧ b ∉ before ∧ before.length = i := by
  induction taken generalizing i with
  | nil => cases found
  | cons first taken ih =>
    rw [List.findIdx?_cons] at found
    split at found
    next here =>
      cases found
      exact ⟨[], taken, by simpa using here, List.not_mem_nil, rfl⟩
    next other =>
      obtain ⟨j, later, rfl⟩ := Option.map_eq_some_iff.mp found
      obtain ⟨before, after, rfl, absent, rfl⟩ := ih later
      have different : b ≠ first := fun same => other (by simp [same])
      exact ⟨first :: before, after, rfl, by simp [different, absent], rfl⟩

theorem white_map_blank {armed : Bool} (unbroken : armed = true → byte '\n' ∉ taken) :
    ∀ b ∈ taken.map blank, IsWhite b ∧ (armed = true → b ≠ byte '\n') := by
  intro b member
  obtain ⟨original, inside, rfl⟩ := List.mem_map.mp member
  refine ⟨isWhite_blank original, fun isArmed newline => ?_⟩
  rcases Masking.blank_cases original with space | ⟨-, same⟩ | cr
  · exact absurd (space.symm.trans newline) (by decide)
  · exact unbroken isArmed (same ▸ inside)
  · exact absurd (cr.symm.trans newline) (by decide)

/-- A comment is white space for the other cursor to catch up with. -/
theorem Trails.pass_comment {armed : Bool} {size : Nat} {lineBreak : Option Nat} (trails : Trails armed c d)
    (starts : startsComment c = true) (read : readComment size c = (lineBreak, e)) (faultless : e.faults = [])
    (goes : armed = true → lineBreak = none) : Trails armed e d ∧ e.rest.length < c.rest.length := by
  obtain ⟨blanks, split, offset, white⟩ := trails.behind
  obtain ⟨taken, passes, nonempty, masked, noted⟩ := readComment_passes starts trails.fits_text read faultless
  have unbroken : armed = true → byte '\n' ∉ taken := by
    intro isArmed
    have none := goes isArmed
    rw [noted, Option.map_eq_none_iff, List.findIdx?_eq_none_iff] at none
    exact fun member => by simpa using none _ member
  refine ⟨⟨passes.clean, trails.faultless, trails.bound.trans passes.bound.symm, trails.fits, blanks ++ taken.map blank,
    ?_, ?_, ?_⟩, passes.length_lt nonempty⟩
  · rw [split, masked, List.append_assoc]
  · rw [passes.offset, offset, List.length_append, List.length_map, Nat.add_assoc]
  · intro b member
    rcases List.mem_append.mp member with early | late
    · exact white b early
    · exact white_map_blank unbroken b late

/-- A comment with a line break that is a semicolon: the other cursor comes to the line break, and what is left of the
comment is white space. -/
theorem Trails.break_comment {size lineBreak : Nat} (trails : Trails true c d) (starts : startsComment c = true)
    (read : readComment size c = (some lineBreak, e)) (faultless : e.faults = []) :
    (d.skip (isGap true)).peek = some '\n' ∧ (d.skip (isGap true)).offset = lineBreak ∧
      (d.skip (isGap true)).step.offset = lineBreak + 1 ∧ Trails false e (d.skip (isGap true)).step := by
  obtain ⟨blanks, split, offset, white⟩ := trails.behind
  obtain ⟨taken, passes, nonempty, masked, noted⟩ := readComment_passes starts trails.fits_text read faultless
  obtain ⟨i, found, rfl⟩ := Option.map_eq_some_iff.mp noted.symm
  obtain ⟨before, after, rfl, absent, rfl⟩ := exists_split_of_findIdx? found
  -- Only the first line break of the comment is a semicolon; those after it are white space like the rest.
  have here : d.rest = (blanks ++ before.map blank) ++ byte '\n' :: (after.map blank ++ Language.go.mask e.rest) := by
    rw [split, masked]
    simp [Masking.blank]
  have stops : ∀ e' : Cursor, e'.rest = byte '\n' :: (after.map blank ++ Language.go.mask e.rest) →
      e'.sees (isGap true) = false := by
    intro e' ahead
    rw [Cursor.sees, peek_ascii ahead (by decide)]
    decide
  have gap : ∀ b ∈ blanks ++ before.map blank, IsWhite b ∧ (true = true → b ≠ byte '\n') := by
    intro b member
    rcases List.mem_append.mp member with early | late
    · exact white b early
    · exact white_map_blank (fun _ => absent) b late
  have reached := passes_skip_gap here trails.faultless gap trails.fits stops
    (isUnreadable_ascii (by decide) (by decide) _ _)
  have ahead := List.append_cancel_left (reached.rest.symm.trans here)
  have moved := reached.offset
  have stop := passes.offset
  rw [List.length_append, List.length_map] at moved
  rw [List.length_append, List.length_cons] at stop
  have remaining : ∀ b ∈ after.map blank, IsWhite b ∧ (false = true → b ≠ byte '\n') :=
    white_map_blank fun unarmed => absurd unarmed (by decide)
  have readable :
      isUnreadable ((d.skip (isGap true)).offset + 1) (after.map blank ++ Language.go.mask e.rest) = false := by
    refine isUnreadable_white (fun b member => (remaining b member).1) ?_
    have same : (d.skip (isGap true)).offset + 1 + (after.map blank).length = e.offset := by
      rw [List.length_map]
      omega
    rw [same, isUnreadable_mask]
    exact passes.clean.readable
  have past := passes_step_readable ahead (by decide) reached.clean.faults readable
  have after' : (d.skip (isGap true)).step.rest = after.map blank ++ Language.go.mask e.rest := by
    simpa [ahead] using past.rest.symm
  have moved' : (d.skip (isGap true)).step.offset = (d.skip (isGap true)).offset + 1 := past.offset
  refine ⟨(peek_eq_some_iff (by decide)).mpr ⟨_, ahead⟩, by omega, by omega, passes.clean, past.clean.faults, ?_, ?_,
    after.map blank, after', ?_, remaining⟩
  · rw [past.bound, reached.bound, trails.bound, passes.bound]
  · have shorter := (reached.trans past).length_le
    rw [past.bound, reached.bound]
    have fits := trails.fits
    omega
  · rw [List.length_map]
    omega

/-! ### Tokens -/

/-- The same token has been read from two cursors, up to the same place, and nothing is wrong with it in the masked text
unless it is a character literal. -/
structure Lands (c d : Cursor) (left right : Token × Cursor) : Prop where
  token : right.1 = left.1
  offset : right.2.offset = left.2.offset
  spelling : left.1 = .identifier → right.2.since d = left.2.since c
  faulty : right.2.faults ≠ [] → left.1 = .character
  trails : ∀ armed, Trails armed left.2 right.2.faultless

theorem Twins.lands {left right : Token × Cursor} (twins : Twins c left right) (mirrors : Mirrors c c d)
    (fits : c.rest.length < c.bound) (faultless : left.2.faults = []) : Lands c d left right where
  token := twins.same
  offset := twins.mirrors.offset
  spelling _ := twins.mirrors.since mirrors.rest mirrors.offset
  faulty faults := absurd (twins.mirrors.faults.trans faultless) faults
  trails := twins.mirrors.trails faultless fits

/-- The opening of a literal in the masked text, with what its reader needs to come to the end. -/
theorem open_literal {quote : UInt8} (mirrors : Mirrors c c d) (clean : c.Clean) (fits : c.rest.length < c.bound)
    (mark : quote ∈ marks) (passes : Passes c (quote :: (body ++ [quote])) e)
    (masked : Language.go.mask c.rest = quote :: (body.map blank ++ quote :: Language.go.mask e.rest)) :
    Passes d [quote] d.step ∧ d.step.rest = body.map blank ++ quote :: Language.go.mask e.rest ∧
      isUnreadable (d.step.offset + (body.map blank).length + 1) (Language.go.mask e.rest) = false ∧
      (body.map blank).length < d.bound := by
  have here : d.rest = quote :: (body.map blank ++ quote :: Language.go.mask e.rest) := mirrors.rest.trans masked
  have white : ∀ b ∈ body.map blank, IsWhite b := by
    intro b member
    obtain ⟨original, -, rfl⟩ := List.mem_map.mp member
    exact isWhite_blank original
  have opened := passes_step_readable here (Masking.ascii_of_mem_marks mark).2 (mirrors.faults.trans clean.faults)
    (isUnreadable_white white (isUnreadable_mark mark _ _))
  refine ⟨opened, by simpa [here] using opened.rest.symm, ?_, ?_⟩
  · have stop : d.step.offset + (body.map blank).length + 1 = e.offset := by
      rw [opened.offset, passes.offset, mirrors.offset]
      simp
      omega
    rw [stop, isUnreadable_mask]
    exact passes.clean.readable
  · rw [passes.rest] at fits
    simp at fits ⊢
    rw [mirrors.bound.2]
    omega

theorem lands_literal {token : Token} {quote : UInt8} {e' : Cursor} (mirrors : Mirrors c c d)
    (fits : c.rest.length < c.bound) (named : token ≠ .identifier) (passes : Passes c (quote :: (body ++ [quote])) e)
    (masked : Language.go.mask c.rest = quote :: (body.map blank ++ quote :: Language.go.mask e.rest))
    (reached : Passes d (quote :: (body.map blank ++ [quote])) e'.faultless)
    (faulty : e'.faults ≠ [] → token = .character) : Lands c d (token, e) (token, e') := by
  have rest : e'.rest = Language.go.mask e.rest := by
    have both := reached.rest.symm.trans (mirrors.rest.trans masked)
    rw [List.cons_append, List.append_assoc, List.singleton_append, List.cons.injEq] at both
    exact (List.cons.inj (List.append_cancel_left both.2)).2
  have offset : e'.offset = e.offset := by
    have moved : e'.offset = _ := reached.offset
    rw [moved, passes.offset, mirrors.offset]
    simp
  have bound : e'.bound = e.bound := reached.bound.trans (mirrors.bound.2.trans passes.bound.symm)
  refine ⟨rfl, offset, fun identifier => absurd identifier named, faulty, fun armed => ?_⟩
  refine ⟨passes.clean, rfl, bound, ?_, [], rest, offset.symm, by simp⟩
  have shorter := passes.length_le
  have length : e'.faultless.rest.length = e.rest.length := (congrArg _ rest).trans (length_mask _)
  have bound' : e'.faultless.bound = c.bound := reached.bound.trans mirrors.bound.2
  show e'.faultless.rest.length < e'.faultless.bound
  omega

theorem lands_string (mirrors : Mirrors c c d) (clean : c.Clean) (fits : c.rest.length < c.bound)
    (seen : c.peek = some quoteChar) (faultless : (readString c.offset c.bound c.step).faults = []) :
    Lands c d (.string, readString c.offset c.bound c.step) (.string, readString d.offset d.bound d.step) := by
  have opened := passes_step_seen (by decide) seen ((keepsFaults_readString _ _ _).faults_eq_nil faultless)
  have shorter := opened.length_le
  obtain ⟨body, inside, closed⟩ := readString_closes opened.clean (by omega) faultless
  have whole : Passes c (doubleQuote :: (body ++ [doubleQuote])) _ := opened.trans closed
  have masked : Language.go.mask c.rest = _ :=
    (congrArg _ (by simpa using whole.rest)).trans (mask_quoted (.inl rfl) inside)
  obtain ⟨opened', ahead, readable, enough⟩ := open_literal mirrors clean fits (by decide) whole masked
  have reached := passes_readString d.offset ahead (isBlankLine_map_blank (newline_not_mem_quotedBody inside))
    opened'.clean.faults readable enough
  exact lands_literal mirrors fits (by decide) whole masked (opened'.trans reached).faultless
    fun faults => absurd reached.clean.faults faults

theorem lands_character (mirrors : Mirrors c c d) (clean : c.Clean) (fits : c.rest.length < c.bound)
    (seen : c.peek = some '\'') (faultless : (readCharacter c.offset c.bound true 0 c.step).faults = []) :
    Lands c d (.character, readCharacter c.offset c.bound true 0 c.step)
      (.character, readCharacter d.offset d.bound true 0 d.step) := by
  have opened := passes_step_seen (by decide) seen ((keepsFaults_readCharacter _ _ _ _ _).faults_eq_nil faultless)
  have shorter := opened.length_le
  obtain ⟨body, inside, closed⟩ := readCharacter_closes opened.clean (by omega) faultless
  have whole : Passes c (singleQuote :: (body ++ [singleQuote])) _ := opened.trans closed
  have masked : Language.go.mask c.rest = _ :=
    (congrArg _ (by simpa using whole.rest)).trans (mask_quoted (.inr rfl) inside)
  obtain ⟨opened', ahead, readable, enough⟩ := open_literal mirrors clean fits (by decide) whole masked
  have reached := passes_readCharacter d.offset true 0 ahead (isBlankLine_map_blank (newline_not_mem_quotedBody inside))
    opened'.clean.faults readable enough
  exact lands_literal mirrors fits (by decide) whole masked (opened'.trans reached) fun _ => rfl

theorem lands_rawString (mirrors : Mirrors c c d) (clean : c.Clean) (fits : c.rest.length < c.bound)
    (seen : c.peek = some backquoteChar) (faultless : (readRawString c.offset c.step).faults = []) :
    Lands c d (.string, readRawString c.offset c.step) (.string, readRawString d.offset d.step) := by
  have opened := passes_step_seen (by decide) seen ((keepsFaults_readRawString _ _).faults_eq_nil faultless)
  have shorter := opened.length_le
  obtain ⟨body, inside, closed⟩ := readRawString_passes opened.clean (by rw [bound_step]; omega) faultless
  have whole : Passes c (backquote :: (body ++ [backquote])) _ := opened.trans closed
  have masked : Language.go.mask c.rest = _ :=
    (congrArg _ (by simpa using whole.rest)).trans (mask_backquoted inside)
  obtain ⟨opened', ahead, readable, enough⟩ := open_literal mirrors clean fits (by decide) whole masked
  have reached := passes_readRawString d.offset ahead opened'.clean.faults readable (by simp at enough ⊢; omega)
  exact lands_literal mirrors fits (by decide) whole masked (opened'.trans reached).faultless
    fun faults => absurd reached.clean.faults faults

theorem lands_readToken {ch : Char} (mirrors : Mirrors c c d) (clean : c.Clean) (fits : c.rest.length < c.bound)
    (seen : c.peek = some ch) (uncommented : startsComment c = false) (faultless : (readToken c ch).2.faults = []) :
    Lands c d (readToken c ch) (readToken d ch) := by
  by_cases plain : PlainFront c.rest
  · exact (twins_readToken mirrors plain seen).lands mirrors fits faultless
  rcases quote_of_openFront plain uncommented seen with rfl | rfl | rfl
  · simp only [readToken_string] at faultless ⊢
    exact lands_string mirrors clean fits seen faultless
  · simp only [readToken_character] at faultless ⊢
    exact lands_character mirrors clean fits seen faultless
  · simp only [readToken_rawString] at faultless ⊢
    exact lands_rawString mirrors clean fits seen faultless

/-! ### Lexemes -/

section

variable {size fuel : Nat} {armed : Bool} {ch : Char}

theorem readLexeme_end (ended : (c.skip (isGap armed)).peek = none) :
    readLexeme size (fuel + 1) armed c =
      (if armed then lineBreakLexeme (c.skip (isGap armed)).offset (c.skip (isGap armed)).offset (c.skip (isGap armed))
        else lexemeOf .endOfFile (c.skip (isGap armed)) (c.skip (isGap armed)), false, c.skip (isGap armed)) := by
  simp only [readLexeme, ended]
  split <;> rfl

theorem readLexeme_newline (seen : (c.skip (isGap armed)).peek = some '\n') :
    readLexeme size (fuel + 1) armed c =
      (lineBreakLexeme (c.skip (isGap armed)).offset (c.skip (isGap armed)).step.offset (c.skip (isGap armed)).step, false,
        (c.skip (isGap armed)).step) := by
  simp only [readLexeme, seen, if_true]

theorem readLexeme_token (seen : (c.skip (isGap armed)).peek = some ch) (unbroken : ch ≠ '\n')
    (uncommented : startsComment (c.skip (isGap armed)) = false) :
    readLexeme size (fuel + 1) armed c =
      (lexemeOf (readToken (c.skip (isGap armed)) ch).1 (c.skip (isGap armed)) (readToken (c.skip (isGap armed)) ch).2,
        (readToken (c.skip (isGap armed)) ch).1.endsStatement ||
          (armed && (readToken (c.skip (isGap armed)) ch).1 = .illegal),
        (readToken (c.skip (isGap armed)) ch).2) := by
  simp only [readLexeme, seen, unbroken, if_false, uncommented]
  rfl

theorem readLexeme_comment {lineBreak : Option Nat} (seen : (c.skip (isGap armed)).peek = some '/')
    (starts : startsComment (c.skip (isGap armed)) = true)
    (read : readComment size (c.skip (isGap armed)) = (lineBreak, e)) (goes : armed = true → lineBreak = none) :
    readLexeme size (fuel + 1) armed c = readLexeme size fuel armed e := by
  simp +decide only [readLexeme, seen, starts, read, if_true, if_false]
  cases lineBreak with
  | none => rfl
  | some lineBreak =>
    cases armed with
    | true => cases goes rfl
    | false => rfl

theorem readLexeme_brokenComment {lineBreak : Nat} (seen : (c.skip (isGap true)).peek = some '/')
    (starts : startsComment (c.skip (isGap true)) = true)
    (read : readComment size (c.skip (isGap true)) = (some lineBreak, e)) :
    readLexeme size (fuel + 1) true c = (lineBreakLexeme lineBreak (lineBreak + 1) e, false, e) := by
  simp +decide only [readLexeme, seen, starts, read, if_true, if_false]

end

/-- A lexeme of the masked text for one of the text: the same, but a character literal may have become faulty. -/
structure Resembles (lexeme masked : Lexeme) : Prop where
  same : masked.faultless = lexeme.faultless
  faulty : masked.faults ≠ [] → lexeme.token = .character

theorem Resembles.token {lexeme masked : Lexeme} (resembles : Resembles lexeme masked) :
    masked.token = lexeme.token :=
  show masked.faultless.token = lexeme.faultless.token by rw [resembles.same]

/-- The results of reading a lexeme in the text and in the masked text. -/
structure Follows (left right : Lexeme × Bool × Cursor) : Prop where
  resembles : Resembles left.1 right.1
  armed : right.2.1 = left.2.1
  trails : Trails left.2.1 left.2.2 right.2.2.faultless

theorem resembles_lineBreak {start stop : Nat} (faultless : d.faults = []) :
    Resembles (lineBreakLexeme start stop c) (lineBreakLexeme start stop d) :=
  ⟨rfl, fun faults => absurd (show d.faults.reverse = [] by rw [faultless]; rfl) faults⟩

theorem resembles_endOfFile (offset : d.offset = c.offset) (faultless : d.faults = []) :
    Resembles (lexemeOf .endOfFile c c) (lexemeOf .endOfFile d d) := by
  refine ⟨?_, fun faults => absurd (show d.faults.reverse = [] by rw [faultless]; rfl) faults⟩
  simp [lexemeOf, Lexeme.faultless, offset]

theorem Lands.resembles {left right : Token × Cursor} (lands : Lands c d left right) (offset : d.offset = c.offset) :
    Resembles (lexemeOf left.1 c left.2) (lexemeOf right.1 d right.2) := by
  constructor
  · simp only [lexemeOf, Lexeme.faultless, lands.token, lands.offset, offset]
    split
    next identifier => rw [lands.spelling identifier]
    · rfl
  · intro faults
    exact lands.faulty fun none => faults (by rw [lexemeOf, none]; rfl)

/-- The next lexeme without a fault is the next one in the masked text. -/
theorem follows_readLexeme (size size' : Nat) {fuel : Nat} (fuel' : Nat) {armed : Bool} (trails : Trails armed c d)
    (enough : c.rest.length < fuel) (faultless : (readLexeme size fuel armed c).2.2.faults = []) :
    Follows (readLexeme size fuel armed c) (readLexeme size' (fuel' + 1) armed d) := by
  -- The induction is on the comments before the lexeme: the first cursor goes over them, the other one stays behind.
  induction fuel generalizing c with
  | zero => omega
  | succ fuel ih =>
    have begun := (keepsFaults_afterGap (keepsFaults_readLexeme size fuel) armed c).faults_eq_nil faultless
    obtain ⟨ahead, stopped, shorter⟩ := trails.skip begun
    have fits := ahead.fits_text
    by_cases starts : startsComment (c.skip (isGap armed)) = true
    · have seen : (c.skip (isGap armed)).peek = some '/' := by
        obtain ⟨mark, rest, -, here⟩ := startsComment_iff.mp starts
        exact (peek_eq_some_iff (by decide)).mpr ⟨_, here⟩
      rcases read : readComment size (c.skip (isGap armed)) with ⟨lineBreak, after⟩
      by_cases goes : armed = true → lineBreak = none
      · rw [readLexeme_comment seen starts read goes] at faultless ⊢
        have reached := (keepsFaults_readLexeme size fuel armed after).faults_eq_nil faultless
        obtain ⟨ahead, shorter⟩ := ahead.pass_comment starts read reached goes
        exact ih ahead (by omega) faultless
      · obtain ⟨rfl, broken⟩ := Classical.not_imp.mp goes
        obtain ⟨lineBreak, rfl⟩ := Option.ne_none_iff_exists'.mp broken
        rw [readLexeme_brokenComment seen starts read] at faultless ⊢
        obtain ⟨seen', start, stop, ahead⟩ := ahead.break_comment starts read faultless
        rw [readLexeme_newline seen', start, stop]
        exact ⟨resembles_lineBreak ahead.faultless, rfl, ahead.cleared⟩
    · have uncommented : startsComment (c.skip (isGap armed)) = false := by simpa using starts
      have mirrors := ahead.catch_up stopped uncommented
      have peeks : (d.skip (isGap armed)).peek = (c.skip (isGap armed)).peek := by
        rcases mirrors.peek with same | ⟨starts', -⟩
        · exact same
        · exact absurd starts' starts
      match seen : (c.skip (isGap armed)).peek with
      | none =>
        rw [readLexeme_end seen] at faultless ⊢
        rw [readLexeme_end (peeks.trans seen), mirrors.offset]
        refine ⟨?_, rfl, mirrors.trails begun fits false⟩
        split
        · exact resembles_lineBreak (mirrors.faults.trans begun)
        · exact resembles_endOfFile mirrors.offset (mirrors.faults.trans begun)
      | some ch =>
        by_cases newline : ch = '\n'
        · subst newline
          rw [readLexeme_newline seen] at faultless ⊢
          rw [readLexeme_newline (peeks.trans seen), mirrors.offset]
          have past := mirrors.step_seen (at?_iff.mpr seen) (by decide)
          rw [past.offset]
          exact ⟨resembles_lineBreak (past.faults.trans faultless), rfl, past.trails faultless fits false⟩
        · rw [readLexeme_token seen newline uncommented] at faultless ⊢
          rw [readLexeme_token (peeks.trans seen) newline (startsComment_mask mirrors.rest)]
          have lands := lands_readToken mirrors ahead.clean fits seen uncommented faultless
          exact ⟨lands.resembles mirrors.offset, by dsimp only; rw [lands.token], lands.trails _⟩

/-! ### Whole sources -/

theorem mem_readLexemes {size fuel : Nat} {armed : Bool} {found : List Lexeme} {lexeme : Lexeme}
    (member : lexeme ∈ found) :
    lexeme ∈ (readLexemes size fuel armed found c).1 := by
  induction fuel generalizing armed found c with
  | zero => exact member
  | succ fuel ih =>
    unfold readLexemes
    dsimp only
    split
    · exact List.mem_cons_of_mem _ member
    · exact ih (List.mem_cons_of_mem _ member)

theorem faults_eq_nil_of_readLexemes {size fuel : Nat} {armed : Bool} {found : List Lexeme}
    (faultless : ∀ lexeme ∈ (readLexemes size (fuel + 1) armed found c).1, lexeme.faults = []) :
    (readLexeme size c.bound armed c).2.2.faults = [] := by
  have first : (readLexeme size c.bound armed c).1 ∈ (readLexemes size (fuel + 1) armed found c).1 := by
    unfold readLexemes
    dsimp only
    split
    · exact List.mem_cons_self
    · exact mem_readLexemes List.mem_cons_self
  have none := faultless _ first
  rwa [faults_readLexeme, List.reverse_eq_nil_iff] at none

theorem forall₂_readLexemes (size size' fuel : Nat) {armed : Bool} {found masked : List Lexeme}
    (sofar : List.Forall₂ Resembles found masked) (trails : Trails armed c d)
    (faultless : ∀ lexeme ∈ (readLexemes size fuel armed found c).1, lexeme.faults = []) :
    List.Forall₂ Resembles (readLexemes size fuel armed found c).1 (readLexemes size' fuel armed masked d).1 := by
  induction fuel generalizing armed found masked c d with
  | zero => exact sofar
  | succ fuel ih =>
    obtain ⟨fuel', bound⟩ : ∃ fuel', d.bound = fuel' + 1 := ⟨d.bound - 1, by have := trails.fits; omega⟩
    have clean := faults_eq_nil_of_readLexemes faultless
    have follows := follows_readLexeme size size' fuel' trails trails.fits_text clean
    unfold readLexemes at faultless ⊢
    dsimp only at faultless ⊢
    rw [bound, follows.resembles.token, follows.armed]
    split
    · exact .cons follows.resembles sofar
    next going =>
      rw [if_neg going] at faultless
      rw [faultless_eq_self clean] at faultless ⊢
      exact ih (.cons follows.resembles sofar) follows.trails faultless

theorem mirrors_ofText (text : Text) : Mirrors (ofText text) (ofText text) (ofText (Language.go.mask text)) := by
  unfold ofText
  refine .refl ?_ ?_ ?_ ?_ ?_
  · rw [rest_look, rest_look]
  · rw [offset_look, offset_look]
  · rw [faults_look, faults_look, isUnreadable_mask]
  · rw [bound_look, bound_look, length_mask]
  · rw [offset_look, rest_look, faults_look]
    intro unreadable
    rw [if_pos unreadable]
    exact List.cons_ne_nil _ _

theorem Mirrors.pastMark (mirrors : Mirrors s c d) : Mirrors s c.pastMark d.pastMark := by
  unfold Cursor.pastMark
  rw [mirrors.at? (by decide)]
  split
  next mark => exact mirrors.step_seen mark (by decide)
  · exact mirrors

theorem fits_ofText (text : Text) : (ofText text).rest.length < (ofText text).bound := by
  rw [ofText, rest_look, bound_look]
  exact Nat.lt_succ_self _

/-- The lexemes of a source without lexical faults are those of the masked source, in the same places. -/
theorem forall₂_lexemes_mask {text : Text} (faultless : ∀ lexeme ∈ (lexemes text).1, lexeme.faults = []) :
    List.Forall₂ Resembles (lexemes text).1 (lexemes (Language.go.mask text)).1 := by
  have clean : ∀ lexeme ∈ (readLexemes text.length (2 * text.length + 3) false [] (ofText text).pastMark).1,
      lexeme.faults = [] := fun lexeme member => faultless lexeme (List.mem_reverse.mpr member)
  have begun := (keepsFaults_readLexeme _ _ _ _).faults_eq_nil (faults_eq_nil_of_readLexemes clean)
  have mirrors := (mirrors_ofText text).pastMark
  have trails := mirrors.trails begun (fits_ofText text) false
  rw [faultless_eq_self (mirrors.faults.trans begun)] at trails
  have matched := forall₂_readLexemes text.length text.length (2 * text.length + 3) .nil trails clean
  rw [lexemes, lexemes, length_mask]
  exact List.forall₂_reverse_iff.mpr matched

end QualityGate.GoSource
