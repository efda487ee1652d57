import QualityGate.Language.Basic
import QualityGate.Proofs.Masking.Geometry

/-!
Masking at the ends of lines. No step looks beyond a line break that it has not passed (`step_append`), so a text that
ends in a line break is masked as it would be alone, and what follows is masked from the state after it
(`Reaches.maskIn_append`). A literal on one line is left at the line break that ends it, but not at one that follows a
backslash. Later lines never change how earlier ones are masked (`mask_causal`).
-/

namespace QualityGate.Masking

open Text (byte doubleQuote backslash)

/-- Masking comes from a state, at a text, to another state with a rest of the text. -/
inductive Reaches (rules : Rules) : State → Text → State → Text → Prop where
  | here (state : State) (text : Text) : Reaches rules state text state text
  | next {state last : State} {text rest : Text} (nonempty : text ≠ [])
      (onward : Reaches rules (step rules state text).next (text.drop (step rules state text).width) last rest) :
      Reaches rules state text last rest

variable {rules : Rules} {state middle last : State} {text other rest : Text}

theorem Reaches.trans (early : Reaches rules state text middle other) (late : Reaches rules middle other last rest) :
    Reaches rules state text last rest := by
  induction early with
  | here => exact late
  | next nonempty _ ih => exact .next nonempty (ih late)

theorem Reaches.of_step {taken : Step} (nonempty : text ≠ []) (stepped : step rules state text = taken) :
    Reaches rules state text taken.next (text.drop taken.width) := by
  subst stepped
  exact .next nonempty (.here _ _)

theorem Reaches.suffix (reached : Reaches rules state text last rest) : rest <:+ text := by
  induction reached with
  | here => exact List.suffix_rfl
  | next _ _ ih => exact ih.trans (List.drop_suffix _ _)

/-! ### What a step looks at -/

/-- A step sees two bytes and the number of quotes at the front. -/
theorem step_eq_of_sight (first : text.head? = other.head?) (second : text.tail.head? = other.tail.head?)
    (run : quoteRun text = quoteRun other) : step rules state text = step rules state other := by
  have block : startsTextBlock text = startsTextBlock other := by
    rw [Bool.eq_iff_iff, startsTextBlock_iff, startsTextBlock_iff, run]
  cases state <;> simp only [step, enter, first, second, run, block]

/-- At a line break a step sees nothing else. -/
theorem step_newline (rules : Rules) (state : State) (rest : Text) :
    step rules state (byte '\n' :: rest) = step rules state [byte '\n'] := by
  have run : ∀ rest : Text, quoteRun (byte '\n' :: rest) = 0 := fun rest =>
    quoteRun_eq_zero (by rw [List.head?_cons]; decide)
  have block : ∀ rest : Text, startsTextBlock (byte '\n' :: rest) = false := fun rest => by
    rw [← Bool.not_eq_true, startsTextBlock_iff, run]
    decide
  cases state <;> simp +decide [step, enter, run, block]

theorem quoteRun_append_newline (front rest : Text) :
    quoteRun (front ++ byte '\n' :: rest) = quoteRun (front ++ [byte '\n']) := by
  induction front with
  | nil => rw [List.nil_append, List.nil_append, quoteRun_eq_zero, quoteRun_eq_zero] <;> simp <;> decide
  | cons b front ih =>
    by_cases quote : b = doubleQuote
    · simp only [quote, List.cons_append, quoteRun_quote, ih]
    · rw [List.cons_append, List.cons_append, quoteRun_eq_zero (by simpa using quote),
        quoteRun_eq_zero (by simpa using quote)]

/-- No step sees what comes after a line break. -/
theorem step_append (rules : Rules) (state : State) (front rest : Text) :
    step rules state (front ++ byte '\n' :: rest) = step rules state (front ++ [byte '\n']) := by
  cases front with
  | nil => exact step_newline rules state rest
  | cons b front =>
    refine step_eq_of_sight rfl ?_ (quoteRun_append_newline (b :: front) rest)
    cases front <;> rfl

/-! ### Whole lines -/

/-- A text of whole lines: nothing, or something that ends in a line break. -/
def WholeLines (text : Text) : Prop := ∀ nonempty : text ≠ [], text.getLast nonempty = byte '\n'

theorem WholeLines.drop (whole : WholeLines text) (count : Nat) : WholeLines (text.drop count) := by
  intro nonempty
  rw [List.getLast_drop]
  exact whole _

theorem WholeLines.step_append (whole : WholeLines text) (nonempty : text ≠ []) (more : Text) :
    step rules state (text ++ more) = step rules state text := by
  have split : text = text.dropLast ++ [byte '\n'] := by
    rw [← whole nonempty, List.dropLast_append_getLast]
  rw [split, List.append_assoc, List.singleton_append, Masking.step_append]

/-- Whole lines are masked in the same way whatever follows them, and what follows is masked from the state after
them. -/
theorem Reaches.maskIn_append (reached : Reaches rules state text last rest) (whole : WholeLines text) (more : Text) :
    ∃ done, maskIn rules state text = done ++ maskIn rules last rest ∧
      maskIn rules state (text ++ more) = done ++ maskIn rules last (rest ++ more) := by
  induction reached with
  | here => exact ⟨[], rfl, rfl⟩
  | @next state last text rest nonempty _ ih =>
    obtain ⟨done, alone, followed⟩ := ih (whole.drop _)
    have within := (fits_step rules state nonempty).2
    have split := maskIn_split rules state nonempty
    have split' := maskIn_split rules state (List.append_ne_nil_of_left_ne_nil nonempty more)
    rw [whole.step_append nonempty, List.take_append_of_le_length within, List.drop_append_of_le_length within,
      followed] at split'
    rw [alone] at split
    exact ⟨_, by rw [split, List.append_assoc], by rw [split', List.append_assoc]⟩

/-! ### A literal that is not closed on its line -/

theorem maskIn_quoted_ne (rules : Rules) {quote b : UInt8} (letter : b = byte 'x' ∨ b = byte 'y') (other : b ≠ quote) :
    maskIn rules (.quoted quote) [b] ≠ mask rules [b] := by
  have code : step rules .code [b] = ⟨1, true, .code⟩ := by rcases letter with rfl | rfl <;> simp +decide [step, enter]
  have inside : step rules (.quoted quote) [b] = ⟨1, false, .quoted quote⟩ := by
    rcases letter with rfl | rfl <;> simp +decide [step, other]
  rw [mask_eq_maskIn, maskIn_keep code, maskIn_blank inside, maskIn_nil, maskIn_nil]
  rcases letter with rfl | rfl <;> decide

/-- Whatever the quote, some text is masked in one way in a literal and in another in code. -/
theorem exists_maskIn_quoted_ne (rules : Rules) (quote : UInt8) :
    ∃ text, maskIn rules (.quoted quote) text ≠ mask rules text := by
  by_cases other : byte 'x' ≠ quote
  · exact ⟨_, maskIn_quoted_ne rules (.inl rfl) other⟩
  · have other : byte 'y' ≠ quote := by rw [← not_not.mp other]; decide
    exact ⟨_, maskIn_quoted_ne rules (.inr rfl) other⟩

theorem Reaches.wholeLines (reached : Reaches rules state text last rest) (ending : rest ≠ []) (whole : WholeLines rest) :
    WholeLines text := by
  obtain ⟨front, rfl⟩ := reached.suffix
  intro nonempty
  rw [List.getLast_append_of_ne_nil _ ending]
  exact whole ending

theorem Reaches.mask_append (reached : Reaches rules .code text last []) (whole : WholeLines text) (more : Text) :
    mask rules (text ++ more) = mask rules text ++ maskIn rules last more := by
  obtain ⟨done, alone, followed⟩ := reached.maskIn_append whole more
  rw [maskIn_nil, List.append_nil] at alone
  rw [mask_eq_maskIn, mask_eq_maskIn, followed, alone, List.nil_append]

/-- A literal on one line that is still open at the line break is left there, and the lines after it are masked by
themselves. It is not left at a line break after a backslash: the lines after that one are masked as its inside. -/
theorem mask_after_open_literal (rules : Rules) (lines rest : Text) (quote : UInt8)
    (inside : Reaches rules .code lines (.quoted quote) rest) :
    (rest = [byte '\n'] →
      Reaches rules .code lines .code [] ∧ ∀ more, mask rules (lines ++ more) = mask rules lines ++ mask rules more) ∧
    (rest = [backslash, byte '\n'] →
      Reaches rules .code lines (.quoted quote) [] ∧
        (∀ more, mask rules (lines ++ more) = mask rules lines ++ maskIn rules (.quoted quote) more) ∧
        ∃ more, mask rules (lines ++ more) ≠ mask rules lines ++ mask rules more) := by
  constructor
  · rintro rfl
    have stepped : step rules (.quoted quote) [byte '\n'] = ⟨1, true, .code⟩ := by simp +decide [step]
    have left : Reaches rules (.quoted quote) [byte '\n'] .code [] := .of_step (by simp) stepped
    have whole := inside.wholeLines (by simp) fun _ => rfl
    exact ⟨inside.trans left, (inside.trans left).mask_append whole⟩
  · rintro rfl
    have stepped : step rules (.quoted quote) [backslash, byte '\n'] = ⟨2, false, .quoted quote⟩ := by simp [step]
    have stays : Reaches rules (.quoted quote) [backslash, byte '\n'] (.quoted quote) [] := .of_step (by simp) stepped
    have whole := inside.wholeLines (by simp) fun _ => rfl
    have masked := (inside.trans stays).mask_append whole
    obtain ⟨more, different⟩ := exists_maskIn_quoted_ne rules quote
    refine ⟨inside.trans stays, masked, more, fun same => different ?_⟩
    rw [masked] at same
    exact List.append_cancel_left same

/-- A line break after two backslashes, of which the first takes the second along. -/
theorem mask_after_escaped_backslash :
    let rules := Language.go.maskRules
    let lines : Text := "\"\\\\\n"
    Reaches rules .code lines (.quoted doubleQuote) [byte '\n'] ∧
      Reaches rules .code lines .code [] ∧ ∀ more, mask rules (lines ++ more) = mask rules lines ++ mask rules more := by
  intro rules lines
  have inside : Reaches rules .code lines (.quoted doubleQuote) [byte '\n'] :=
    .next (by decide) (.next (by decide) (.here _ _))
  exact ⟨inside, (mask_after_open_literal rules lines _ doubleQuote inside).1 rfl⟩

/-- A backslash at the end of a line keeps a literal open, and the code on the next line is blanked. -/
theorem backslash_continues_literal :
    let lines : Text := "\"a\\\n"
    Reaches Language.csharp.maskRules .code lines (.quoted doubleQuote) [backslash, byte '\n'] ∧
      Reaches Language.csharp.maskRules .code lines (.quoted doubleQuote) [] ∧
      Language.csharp.mask (lines ++ "b;") = "\"  \n  " ∧
      Language.csharp.mask lines ++ Language.csharp.mask "b;" = "\"  \nb;" :=
  ⟨.next (by decide) (.next (by decide) (.here _ _)), .next (by decide) (.next (by decide) (.next (by decide) (.here _ _))),
    by decide, by decide⟩

/-! ### What follows whole lines -/

theorem exists_reaches (rules : Rules) (state : State) (text : Text) : ∃ last, Reaches rules state text last [] := by
  -- Induction on the length: a step leaves a shorter text.
  generalize bound : text.length = size
  induction size using Nat.strongRecOn generalizing state text with
  | ind size ih =>
    by_cases nonempty : text = []
    · subst nonempty
      exact ⟨state, .here state []⟩
    · obtain ⟨positive, within⟩ := fits_step rules state nonempty
      have shorter : (text.drop (step rules state text).width).length < size := by
        rw [List.length_drop]
        omega
      obtain ⟨last, onward⟩ := ih _ shorter (step rules state text).next _ rfl
      exact ⟨last, .next nonempty onward⟩

theorem Reaches.last_unique {last' : State} (reached : Reaches rules state text last [])
    (reached' : Reaches rules state text last' []) : last = last' := by
  generalize ended : ([] : Text) = rest at reached
  induction reached with
  | here =>
    subst ended
    cases reached' with
    | here => rfl
    | next nonempty => exact absurd rfl nonempty
  | next nonempty _ ih =>
    cases reached' with
    | here => exact absurd rfl nonempty
    | next _ onward => exact ih onward ended

/-- Whole lines leave masking in one state, and all that follows them has to do with them only through it: they are
masked as they are alone, what follows is masked from that state, and by itself if the state is that of code. -/
theorem mask_causal (rules : Rules) (lines : Text) (whole : WholeLines lines) :
    ∃ last, (∀ state, Reaches rules .code lines state [] ↔ state = last) ∧
      ∀ more, (mask rules (lines ++ more)).take lines.length = mask rules lines ∧
        mask rules (lines ++ more) = mask rules lines ++ maskIn rules last more ∧
        (last = .code → mask rules (lines ++ more) = mask rules lines ++ mask rules more) := by
  obtain ⟨last, reached⟩ := exists_reaches rules .code lines
  refine ⟨last, fun state => ⟨fun other => other.last_unique reached, fun same => same ▸ reached⟩, fun more => ?_⟩
  have masked := reached.mask_append whole more
  have length : (mask rules lines).length = lines.length := (covers_mask rules lines).length_eq.symm
  refine ⟨?_, masked, ?_⟩
  · rw [masked, ← length, List.take_left]
  · rintro rfl
    exact masked

/-- A line that ends inside a block comment, and what follows it. -/
theorem mask_causal_open_comment :
    let rules := Language.java.maskRules
    let lines : Text := "a; /*\n"
    WholeLines lines ∧ mask rules (lines ++ "b*/c") = "a;   \n   c" ∧
      ∃ last, (∀ state, Reaches rules .code lines state [] ↔ state = last) ∧
        ∀ more, (mask rules (lines ++ more)).take lines.length = mask rules lines ∧
          mask rules (lines ++ more) = mask rules lines ++ maskIn rules last more ∧
          (last = .code → mask rules (lines ++ more) = mask rules lines ++ mask rules more) := by
  intro rules lines
  have whole : WholeLines lines := fun _ => rfl
  exact ⟨whole, by decide, mask_causal rules lines whole⟩

end QualityGate.Masking
