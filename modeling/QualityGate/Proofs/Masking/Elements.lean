import Mathlib.Data.List.Chain
import QualityGate.Language.Basic
import QualityGate.Proofs.Masking.Steps

/-!
The lexical elements of a language, and what masking makes of each: code stays, a comment becomes spaces, and a
literal keeps its delimiters and loses what is between them. `mask_elements` says that masking a sequence of elements
masks them one by one.
-/

namespace QualityGate.Masking

open Text (byte doubleQuote singleQuote backquote backslash)

inductive Form where
  | doubleQuoted
  | singleQuoted
  | verbatim
  | textBlock
  | rawQuoted (quotes : Nat)
  | backquoted
  deriving DecidableEq, Repr

namespace Form

def opening : Form → Text
  | doubleQuoted => [doubleQuote]
  | singleQuoted => [singleQuote]
  | verbatim => [byte '@', doubleQuote]
  | textBlock => List.replicate 3 doubleQuote
  | rawQuoted quotes => List.replicate quotes doubleQuote
  | backquoted => [backquote]

def closing : Form → Text
  | verbatim => [doubleQuote]
  | form => form.opening

end Form

/-- What may stand in a literal on one line: a backslash takes the next byte along, and neither is a line break. -/
inductive QuotedBody (quote : UInt8) : Text → Prop where
  | nil : QuotedBody quote []
  | plain {b : UInt8} {rest : Text} (notQuote : b ≠ quote) (notBackslash : b ≠ backslash) (notBreak : b ≠ byte '\n')
      (tail : QuotedBody quote rest) : QuotedBody quote (b :: rest)
  | escape {b : UInt8} {rest : Text} (notBreak : b ≠ byte '\n') (tail : QuotedBody quote rest) :
      QuotedBody quote (backslash :: b :: rest)

/-- What may stand in a verbatim literal: quotes come in pairs. -/
inductive VerbatimBody : Text → Prop where
  | nil : VerbatimBody []
  | plain {b : UInt8} {rest : Text} (notQuote : b ≠ doubleQuote) (tail : VerbatimBody rest) : VerbatimBody (b :: rest)
  | pair {rest : Text} (tail : VerbatimBody rest) : VerbatimBody (doubleQuote :: doubleQuote :: rest)

/-- What may stand in a text block: a backslash takes the next byte along, three quotes that are not escaped do not
follow one another, and a quote that is not escaped is not the last byte. -/
inductive TextBlockBody : Text → Prop where
  | nil : TextBlockBody []
  | plain {b : UInt8} {rest : Text} (notQuote : b ≠ doubleQuote) (notBackslash : b ≠ backslash)
      (tail : TextBlockBody rest) : TextBlockBody (b :: rest)
  | escape {b : UInt8} {rest : Text} (tail : TextBlockBody rest) : TextBlockBody (backslash :: b :: rest)
  | quote {rest : Text} (notThree : ¬ List.replicate 3 doubleQuote <+: doubleQuote :: rest) (notLast : rest ≠ [])
      (tail : TextBlockBody rest) : TextBlockBody (doubleQuote :: rest)

/-- What may stand in a raw literal between so many quotes: fewer quotes in a row, and none at either end. -/
structure RawBody (quotes : Nat) (body : Text) : Prop where
  starts : body.head? ≠ some doubleQuote
  ends : body.getLast? ≠ some doubleQuote
  short : ¬ List.replicate quotes doubleQuote <:+: body

/-- What may stand in a literal. There is something in a raw one, because the quotes of an empty one would all belong
to the opening. -/
def Form.Body : Form → Text → Prop
  | doubleQuoted => QuotedBody doubleQuote
  | singleQuoted => QuotedBody singleQuote
  | verbatim => VerbatimBody
  | textBlock => TextBlockBody
  | rawQuoted quotes => fun body => 3 ≤ quotes ∧ body ≠ [] ∧ RawBody quotes body
  | backquoted => fun body => backquote ∉ body

def Form.IsOf (language : Language) : Form → Prop
  | doubleQuoted | singleQuoted => True
  | verbatim | rawQuoted _ => language = .csharp
  | textBlock => language = .java
  | backquoted => language = .go

inductive Element where
  | code (b : UInt8)
  | lineComment (body : Text)
  | blockComment (body : Text)
  | literal (form : Form) (body : Text)
  deriving DecidableEq, Repr

namespace Element

def source : Element → Text
  | code b => [b]
  | lineComment body => [byte '/', byte '/'] ++ body
  | blockComment body => [byte '/', byte '*'] ++ body ++ [byte '*', byte '/']
  | literal form body => form.opening ++ body ++ form.closing

def masked : Element → Text
  | code b => [b]
  | literal form body => form.opening ++ body.map blank ++ form.closing
  | comment => comment.source.map blank

def IsOf (language : Language) : Element → Prop
  | code b => b ≠ doubleQuote ∧ b ≠ singleQuote ∧ (language = .go → b ≠ backquote)
  | lineComment body => byte '\n' ∉ body
  | blockComment body => ¬ [byte '*', byte '/'] <:+: body
  | literal form body => form.IsOf language ∧ form.Body body

def IsLiteral : Element → Prop
  | literal _ _ => True
  | _ => False

/-- Whether one element may stand directly before another. A comment to the end of the line ends there, two literals
do not touch, and a byte of code does not make the opening of a comment or of a verbatim literal with what follows. -/
def MayPrecede (language : Language) : Element → Element → Prop
  | code b, next =>
    (b = byte '/' → next.source.head? ≠ some (byte '/') ∧ next.source.head? ≠ some (byte '*')) ∧
      (language = .csharp → b = byte '@' → next.source.head? ≠ some doubleQuote)
  | lineComment _, next => next = code (byte '\n')
  | blockComment _, _ => True
  | literal _ _, next => ¬ next.IsLiteral

end Element

/-! ### The insides of literals and comments -/

variable {rules : Rules} {body rest : Text}

theorem maskIn_quotedBody {quote : UInt8} (notBackslash : quote ≠ backslash) (inside : QuotedBody quote body) :
    maskIn rules (.quoted quote) (body ++ quote :: rest) = body.map blank ++ quote :: maskIn rules .code rest := by
  induction inside with
  | nil => exact maskIn_keep (by simp [step, notBackslash])
  | @plain b tail notQuote plainByte notBreak _ ih =>
    have stepped : step rules (.quoted quote) (b :: (tail ++ quote :: rest)) = ⟨1, false, .quoted quote⟩ := by
      simp [step, plainByte, notQuote, notBreak]
    rw [List.cons_append, maskIn_blank stepped, ih, List.map_cons, List.cons_append]
  | @escape b tail _ _ ih =>
    have stepped : step rules (.quoted quote) (backslash :: b :: (tail ++ quote :: rest)) =
        ⟨2, false, .quoted quote⟩ := by simp [step]
    rw [List.cons_append, List.cons_append, maskIn_pair stepped, ih]
    rfl

theorem maskIn_verbatimBody (inside : VerbatimBody body) (other : rest.head? ≠ some doubleQuote) :
    maskIn rules .verbatim (body ++ doubleQuote :: rest) =
      body.map blank ++ doubleQuote :: maskIn rules .code rest := by
  induction inside with
  | nil => exact maskIn_keep (by simp [step, other])
  | @plain b tail notQuote _ ih =>
    have stepped : step rules .verbatim (b :: (tail ++ doubleQuote :: rest)) = ⟨1, false, .verbatim⟩ := by
      simp [step, notQuote]
    rw [List.cons_append, maskIn_blank stepped, ih, List.map_cons, List.cons_append]
  | @pair tail _ ih =>
    have stepped : step rules .verbatim (doubleQuote :: doubleQuote :: (tail ++ doubleQuote :: rest)) =
        ⟨2, false, .verbatim⟩ := by simp [step]
    rw [List.cons_append, List.cons_append, maskIn_pair stepped, ih]
    rfl

theorem maskIn_backquotedBody (inside : backquote ∉ body) :
    maskIn rules .backquoted (body ++ backquote :: rest) =
      body.map blank ++ backquote :: maskIn rules .code rest := by
  induction body with
  | nil => exact maskIn_keep (by simp [step])
  | cons b body ih =>
    rw [List.mem_cons, not_or] at inside
    have stepped : step rules .backquoted (b :: (body ++ backquote :: rest)) = ⟨1, false, .backquoted⟩ := by
      simp [step, Ne.symm inside.1]
    rw [List.cons_append, maskIn_blank stepped, ih inside.2, List.map_cons, List.cons_append]

/-- A quote in a text block's body does not close it, whatever follows the body. -/
theorem quoteRun_lt_of_textBlockBody (inside : TextBlockBody (doubleQuote :: body)) (text : Text) :
    quoteRun (doubleQuote :: (body ++ text)) < 3 := by
  cases inside with
  | plain notQuote => exact absurd rfl notQuote
  | quote notThree notLast tail =>
    match body, notThree, notLast, tail with
    | [b], _, _, tail =>
      have other : b ≠ doubleQuote := by
        rintro rfl
        cases tail with
        | plain notQuote => exact notQuote rfl
        | quote _ notLast => exact notLast rfl
      rw [quoteRun_quote, quoteRun_eq_zero (by simpa using other)]
      decide
    | b :: c :: body, notThree, _, _ =>
      by_cases first : b = doubleQuote
      · have second : c ≠ doubleQuote := by
          rintro rfl
          exact notThree ⟨body, by rw [first]; rfl⟩
        rw [first, List.cons_append, quoteRun_quote, quoteRun_quote, quoteRun_eq_zero (by simpa using second)]
        decide
      · rw [quoteRun_quote, quoteRun_eq_zero (by simpa using first)]
        decide

theorem maskIn_textBlockBody (inside : TextBlockBody body) :
    maskIn rules .textBlock (body ++ (List.replicate 3 doubleQuote ++ rest)) =
      body.map blank ++ (List.replicate 3 doubleQuote ++ maskIn rules .code rest) := by
  -- Fewer than three quotes at the front leave the block open.
  have stays : ∀ {b : UInt8} {text : Text}, quoteRun (b :: text) < 3 → b ≠ backslash →
      step rules .textBlock (b :: text) = ⟨1, false, .textBlock⟩ := by
    intro b text few notBackslash
    have unclosed : ¬ startsTextBlock (b :: text) = true := by rw [startsTextBlock_iff]; omega
    simp [step, unclosed, notBackslash]
  induction inside with
  | nil =>
    have stepped : step rules .textBlock (doubleQuote :: ([doubleQuote, doubleQuote] ++ rest)) =
        ⟨3, true, .code⟩ := by
      simp [step, startsTextBlock, Text.startsWith]
    exact maskIn_step [doubleQuote, doubleQuote] stepped
  | plain notQuote notBackslash _ ih =>
    rw [List.cons_append, maskIn_blank (stays _ notBackslash), ih, List.map_cons, List.cons_append]
    rw [quoteRun_eq_zero (by simpa using notQuote)]
    decide
  | @escape b tail _ ih =>
    have unclosed :
        ¬ startsTextBlock (backslash :: b :: (tail ++ (List.replicate 3 doubleQuote ++ rest))) = true := by
      rw [startsTextBlock_iff, quoteRun_eq_zero (by simp; decide)]
      decide
    have stepped : step rules .textBlock (backslash :: b :: (tail ++ (List.replicate 3 doubleQuote ++ rest))) =
        ⟨2, false, .textBlock⟩ := by simp only [step, unclosed]; simp
    rw [List.cons_append, List.cons_append, maskIn_pair stepped, ih]
    rfl
  | quote notThree notLast tail ih =>
    have few := quoteRun_lt_of_textBlockBody (.quote notThree notLast tail)
    rw [List.cons_append, maskIn_blank (stays (few _) (by decide)), ih, List.map_cons, List.cons_append]

theorem exists_quoteRun (text : Text) :
    ∃ (count : Nat) (after : Text), text = List.replicate count doubleQuote ++ after ∧
      after.head? ≠ some doubleQuote := by
  induction text with
  | nil => exact ⟨0, [], rfl, by simp⟩
  | cons b rest ih =>
    by_cases quote : b = doubleQuote
    · obtain ⟨count, after, rfl, other⟩ := ih
      exact ⟨count + 1, after, by rw [quote, List.replicate_succ, List.cons_append], other⟩
    · exact ⟨0, b :: rest, rfl, by simpa using quote⟩

/-- A raw literal's body is taken run by run: a run of quotes inside it is shorter than the closing one, because the
body does not end with a quote. -/
theorem maskIn_rawBody {quotes : Nat} (positive : 0 < quotes) (ends : body.getLast? ≠ some doubleQuote)
    (short : ¬ List.replicate quotes doubleQuote <:+: body) (other : rest.head? ≠ some doubleQuote) :
    maskIn rules (.rawQuoted quotes) (body ++ (List.replicate quotes doubleQuote ++ rest)) =
      body.map blank ++ (List.replicate quotes doubleQuote ++ maskIn rules .code rest) := by
  induction size : body.length using Nat.strongRecOn generalizing body with
  | ind size ih =>
    obtain ⟨count, after, rfl, stop⟩ := exists_quoteRun body
    match count, after, stop with
    | 0, [], _ =>
      obtain ⟨more, rfl⟩ : ∃ more, quotes = more + 1 := ⟨quotes - 1, by omega⟩
      have run : quoteRun (doubleQuote :: (List.replicate more doubleQuote ++ rest)) = more + 1 :=
        quoteRun_replicate (more + 1) other
      have stepped : step rules (.rawQuoted (more + 1)) (doubleQuote :: (List.replicate more doubleQuote ++ rest)) =
          ⟨(List.replicate more doubleQuote).length + 1, true, .code⟩ := by
        simp only [step, run, List.head?_cons, if_true, Nat.le_refl, List.length_replicate]
      have masked := maskIn_step _ stepped
      rwa [map_write_true] at masked
    | 0, b :: tail, stop =>
      have notQuote : b ≠ doubleQuote := by simpa using stop
      have stepped : step rules (.rawQuoted quotes) (b :: (tail ++ (List.replicate quotes doubleQuote ++ rest))) =
          ⟨1, false, .rawQuoted quotes⟩ := by simp [step, notQuote]
      have tailEnds : tail.getLast? ≠ some doubleQuote := by
        cases tail with
        | nil => simp
        | cons c tail => simpa using ends
      have tailShort : ¬ List.replicate quotes doubleQuote <:+: tail := fun inside =>
        short (inside.trans (List.suffix_cons b tail).isInfix)
      have masked := ih tail.length (by simp [← size]) tailEnds tailShort rfl
      simp only [List.replicate_zero, List.nil_append, List.cons_append, maskIn_blank stepped, masked, List.map_cons]
    | more + 1, after, stop =>
      have nonempty : after ≠ [] := by
        rintro rfl
        simp [List.getLast?_replicate] at ends
      have run : quoteRun (doubleQuote :: (List.replicate more doubleQuote ++
          (after ++ (List.replicate quotes doubleQuote ++ rest)))) = more + 1 := by
        refine quoteRun_replicate (more + 1) ?_
        obtain ⟨c, tail, rfl⟩ := List.exists_cons_of_ne_nil nonempty
        exact stop
      have fewer : ¬ quotes ≤ more + 1 := by
        intro enough
        refine short ⟨[], List.replicate (more + 1 - quotes) doubleQuote ++ after, ?_⟩
        rw [List.nil_append, ← List.append_assoc, List.replicate_append_replicate]
        congr 2
        omega
      have stepped : step rules (.rawQuoted quotes) (doubleQuote :: (List.replicate more doubleQuote ++
          (after ++ (List.replicate quotes doubleQuote ++ rest)))) =
          ⟨(List.replicate more doubleQuote).length + 1, false, .rawQuoted quotes⟩ := by
        simp only [step, run, List.head?_cons, if_true, fewer, if_false, List.length_replicate]
      have afterEnds : after.getLast? ≠ some doubleQuote := by
        rwa [List.getLast?_append, List.getLast?_eq_some_getLast nonempty, Option.some_or,
          ← List.getLast?_eq_some_getLast nonempty] at ends
      have afterShort : ¬ List.replicate quotes doubleQuote <:+: after := fun inside =>
        short (inside.trans (List.suffix_append _ after).isInfix)
      have masked := ih after.length (by simp [← size]) afterEnds afterShort rfl
      have first := maskIn_step _ stepped
      rw [masked, map_write_false] at first
      simp only [List.replicate_succ, List.cons_append, List.append_assoc, List.map_append, List.map_cons] at first ⊢
      exact first

theorem maskIn_lineBody (inside : byte '\n' ∉ body) :
    maskIn rules .lineComment (body ++ rest) = body.map blank ++ maskIn rules .lineComment rest := by
  induction body with
  | nil => rfl
  | cons b body ih =>
    rw [List.mem_cons, not_or] at inside
    have stepped : step rules .lineComment (b :: (body ++ rest)) = ⟨1, false, .lineComment⟩ := by
      simp [step, Ne.symm inside.1]
    rw [List.cons_append, maskIn_blank stepped, ih inside.2, List.map_cons, List.cons_append]

theorem maskIn_blockBody (inside : ¬ [byte '*', byte '/'] <:+: body) :
    maskIn rules .blockComment (body ++ ([byte '*', byte '/'] ++ rest)) =
      (body ++ [byte '*', byte '/']).map blank ++ maskIn rules .code rest := by
  induction body with
  | nil =>
    have stepped : step rules .blockComment (byte '*' :: byte '/' :: rest) = ⟨2, false, .code⟩ := by simp [step]
    exact maskIn_pair stepped
  | cons b body ih =>
    -- The byte after `b` is the next one of the body, or the star of the closing.
    have unclosed : ¬ (b = byte '*' ∧ (body ++ ([byte '*', byte '/'] ++ rest)).head? = some (byte '/')) := by
      rintro ⟨rfl, second⟩
      cases body with
      | nil => exact absurd second (by simp; decide)
      | cons c body =>
        have slash : c = byte '/' := by simpa using second
        exact inside ⟨[], body, by rw [slash]; rfl⟩
    have stepped : step rules .blockComment (b :: (body ++ ([byte '*', byte '/'] ++ rest))) =
        ⟨1, false, .blockComment⟩ := by
      simp only [step, List.head?_cons, List.tail_cons, Option.some.injEq, unclosed, if_false]
    have tailInside : ¬ [byte '*', byte '/'] <:+: body := fun found =>
      inside (found.trans (List.suffix_cons b body).isInfix)
    rw [List.cons_append, maskIn_blank stepped, ih tailInside]
    rfl

/-! ### Whole elements -/

def Form.state : Form → State
  | doubleQuoted => .quoted doubleQuote
  | singleQuoted => .quoted singleQuote
  | verbatim => .verbatim
  | textBlock => .textBlock
  | rawQuoted quotes => .rawQuoted quotes
  | backquoted => .backquoted

variable {language : Language} {form : Form}

theorem maskIn_form (inside : form.Body body) (other : rest.head? ≠ some doubleQuote) :
    maskIn rules form.state (body ++ (form.closing ++ rest)) =
      body.map blank ++ (form.closing ++ maskIn rules .code rest) := by
  cases form with
  | doubleQuoted => exact maskIn_quotedBody (by decide) inside
  | singleQuoted => exact maskIn_quotedBody (by decide) inside
  | verbatim => exact maskIn_verbatimBody inside other
  | textBlock => exact maskIn_textBlockBody inside
  | rawQuoted quotes =>
    obtain ⟨many, _, raw⟩ := inside
    exact maskIn_rawBody (by omega) raw.ends raw.short other
  | backquoted => exact maskIn_backquotedBody inside

theorem quoteRun_lt_of_quotedBody (inside : QuotedBody doubleQuote body) (other : rest.head? ≠ some doubleQuote) :
    quoteRun (doubleQuote :: (body ++ doubleQuote :: rest)) < 3 := by
  cases inside with
  | nil =>
    rw [quoteRun_quote, List.nil_append, quoteRun_quote, quoteRun_eq_zero other]
    decide
  | plain notQuote =>
    rw [quoteRun_quote, quoteRun_eq_zero (by simpa using notQuote)]
    decide
  | escape =>
    rw [quoteRun_quote, quoteRun_eq_zero (by simp; decide)]
    decide

theorem maskIn_rawOpening {quotes : Nat} (many : 3 ≤ quotes) (other : rest.head? ≠ some doubleQuote) :
    maskIn Language.csharp.maskRules .code (List.replicate quotes doubleQuote ++ rest) =
      List.replicate quotes doubleQuote ++ maskIn Language.csharp.maskRules (.rawQuoted quotes) rest := by
  obtain ⟨more, rfl⟩ : ∃ more, quotes = more + 1 := ⟨quotes - 1, by omega⟩
  have run : quoteRun (doubleQuote :: (List.replicate more doubleQuote ++ rest)) = more + 1 :=
    quoteRun_replicate (more + 1) other
  have stepped : step Language.csharp.maskRules .code (doubleQuote :: (List.replicate more doubleQuote ++ rest)) =
      ⟨(List.replicate more doubleQuote).length + 1, true, .rawQuoted (more + 1)⟩ := by
    simp +decide [step, enter, run, many]
  have masked := maskIn_step _ stepped
  rwa [map_write_true] at masked

/-- In code, the opening of a literal is taken whole: what follows it does not make it the opening of another form. -/
theorem maskIn_opening (isOf : form.IsOf language) (inside : form.Body body) (other : rest.head? ≠ some doubleQuote) :
    maskIn language.maskRules .code (form.opening ++ (body ++ (form.closing ++ rest))) =
      form.opening ++ maskIn language.maskRules form.state (body ++ (form.closing ++ rest)) := by
  cases form with
  | doubleQuoted =>
    have few : ¬ 3 ≤ quoteRun (doubleQuote :: (body ++ doubleQuote :: rest)) :=
      Nat.not_le.mpr (quoteRun_lt_of_quotedBody inside other)
    have noBlock := mt (startsTextBlock_iff _).mp few
    have stepped : step language.maskRules .code (doubleQuote :: (body ++ doubleQuote :: rest)) =
        ⟨1, true, .quoted doubleQuote⟩ := by
      simp +decide [step, enter, few, noBlock]
    exact maskIn_keep stepped
  | singleQuoted =>
    have few : ¬ 3 ≤ quoteRun (singleQuote :: (body ++ singleQuote :: rest)) := by
      rw [quoteRun_eq_zero (by simp; decide)]
      decide
    have noBlock := mt (startsTextBlock_iff _).mp few
    have stepped : step language.maskRules .code (singleQuote :: (body ++ singleQuote :: rest)) =
        ⟨1, true, .quoted singleQuote⟩ := by
      simp +decide [step, enter, few, noBlock]
    exact maskIn_keep stepped
  | verbatim =>
    obtain rfl : language = .csharp := isOf
    have few : ¬ 3 ≤ quoteRun (byte '@' :: doubleQuote :: (body ++ doubleQuote :: rest)) := by
      rw [quoteRun_eq_zero (by simp; decide)]
      decide
    have stepped : step Language.csharp.maskRules .code (byte '@' :: doubleQuote :: (body ++ doubleQuote :: rest)) =
        ⟨2, true, .verbatim⟩ := by
      simp +decide [step, enter, few]
    exact maskIn_pair stepped
  | textBlock =>
    obtain rfl : language = .java := isOf
    have stepped : step Language.java.maskRules .code (doubleQuote :: ([doubleQuote, doubleQuote] ++
        (body ++ (List.replicate 3 doubleQuote ++ rest)))) = ⟨3, true, .textBlock⟩ := by
      simp +decide [step, enter, startsTextBlock, Text.startsWith]
    exact maskIn_step [doubleQuote, doubleQuote] stepped
  | rawQuoted quotes =>
    obtain rfl : language = .csharp := isOf
    obtain ⟨many, nonempty, raw⟩ := inside
    obtain ⟨b, tail, rfl⟩ := List.exists_cons_of_ne_nil nonempty
    exact maskIn_rawOpening many raw.starts
  | backquoted =>
    obtain rfl : language = .go := isOf
    have stepped : step Language.go.maskRules .code (backquote :: (body ++ backquote :: rest)) =
        ⟨1, true, .backquoted⟩ := by
      simp +decide [step, enter]
    exact maskIn_keep stepped

namespace Element

variable {element next : Element}

/-- Whether a text may follow an element. -/
def EndsBefore (language : Language) (rest : Text) : Element → Prop
  | code b =>
    (b = byte '/' → rest.head? ≠ some (byte '/') ∧ rest.head? ≠ some (byte '*')) ∧
      (language = .csharp → b = byte '@' → rest.head? ≠ some doubleQuote)
  | lineComment _ => rest = [] ∨ rest.head? = some (byte '\n')
  | blockComment _ => True
  | literal _ _ => rest.head? ≠ some doubleQuote

theorem maskIn_code {b : UInt8} (isOf : (code b).IsOf language) (ends : (code b).EndsBefore language rest) :
    maskIn language.maskRules .code (b :: rest) = b :: maskIn language.maskRules .code rest := by
  obtain ⟨notDouble, notSingle, notBack⟩ := isOf
  obtain ⟨slash, verbatim⟩ := ends
  have none : quoteRun (b :: rest) = 0 := quoteRun_eq_zero (by simpa using notDouble)
  have noBlock : ¬ startsTextBlock (b :: rest) = true := by
    rw [startsTextBlock_iff, none]
    decide
  have noLine : ¬ (b = byte '/' ∧ rest.head? = some (byte '/')) := fun ⟨first, second⟩ => (slash first).1 second
  have noComment : ¬ (b = byte '/' ∧ rest.head? = some (byte '*')) := fun ⟨first, second⟩ => (slash first).2 second
  have stepped : step language.maskRules .code (b :: rest) = ⟨1, true, .code⟩ := by
    cases language with
    | csharp =>
      have noVerbatim : ¬ (b = byte '@' ∧ rest.head? = some doubleQuote) := fun ⟨first, second⟩ =>
        verbatim rfl first second
      simp [step, enter, Language.maskRules, none, noLine, noComment, noVerbatim, notDouble, notSingle]
    | java => simp [step, enter, Language.maskRules, noBlock, noLine, noComment, notDouble, notSingle]
    | go => simp [step, enter, Language.maskRules, noLine, noComment, notDouble, notSingle, notBack rfl]
  exact maskIn_keep stepped

theorem maskIn_lineComment {body : Text} (isOf : (lineComment body).IsOf language)
    (ends : (lineComment body).EndsBefore language rest) :
    maskIn language.maskRules .code ((lineComment body).source ++ rest) =
      (lineComment body).masked ++ maskIn language.maskRules .code rest := by
  have opened : step language.maskRules .code (byte '/' :: byte '/' :: (body ++ rest)) =
      ⟨2, false, .lineComment⟩ := by
    cases language <;> simp [step, enter, Language.maskRules]
  -- The line break that ends the comment is kept, and code goes on after it.
  have closed : maskIn language.maskRules .lineComment rest = maskIn language.maskRules .code rest := by
    rcases ends with rfl | broken
    · rfl
    · obtain ⟨tail, rfl⟩ := List.head?_eq_some_iff.mp broken
      have stepped : step language.maskRules .lineComment (byte '\n' :: tail) = ⟨1, false, .code⟩ := by simp [step]
      have code : maskIn language.maskRules .code (byte '\n' :: tail) = _ :=
        maskIn_code ⟨by decide, by decide, fun _ => by decide⟩
          ⟨fun slash => absurd slash (by decide), fun _ sign => absurd sign (by decide)⟩
      rw [maskIn_blank stepped, code]
      rfl
  have masked := maskIn_pair opened
  rw [maskIn_lineBody isOf, closed] at masked
  exact masked

theorem maskIn_blockComment {body : Text} (isOf : (blockComment body).IsOf language) :
    maskIn language.maskRules .code ((blockComment body).source ++ rest) =
      (blockComment body).masked ++ maskIn language.maskRules .code rest := by
  have opened : step language.maskRules .code (byte '/' :: byte '*' :: (body ++ ([byte '*', byte '/'] ++ rest))) =
      ⟨2, false, .blockComment⟩ := by
    cases language <;> simp +decide [step, enter]
  have masked := maskIn_pair opened
  rw [maskIn_blockBody isOf] at masked
  simpa [source, Element.masked, write] using masked

theorem maskIn_element (isOf : element.IsOf language) (ends : element.EndsBefore language rest) :
    maskIn language.maskRules .code (element.source ++ rest) =
      element.masked ++ maskIn language.maskRules .code rest := by
  cases element with
  | code b => exact maskIn_code isOf ends
  | lineComment body => exact maskIn_lineComment isOf ends
  | blockComment body => exact maskIn_blockComment isOf
  | literal form body =>
    simp only [source, masked, List.append_assoc, maskIn_opening isOf.1 isOf.2 ends, maskIn_form isOf.2 ends]

/-! ### Sequences of elements -/

theorem source_ne_nil (isOf : element.IsOf language) : element.source ≠ [] := by
  cases element with
  | literal form body =>
    cases form with
    | rawQuoted quotes =>
      have many : 3 ≤ quotes := isOf.2.1
      simp [source, Form.opening]
      omega
    | _ => simp [source, Form.opening]
  | _ => simp [source]

theorem head?_source_append (isOf : next.IsOf language) (rest : Text) :
    (next.source ++ rest).head? = next.source.head? := by
  obtain ⟨b, tail, split⟩ := List.exists_cons_of_ne_nil (source_ne_nil isOf)
  rw [split, List.cons_append, List.head?_cons, List.head?_cons]

theorem head?_source_ne_quote (isOf : next.IsOf language) (plain : ¬ next.IsLiteral) :
    next.source.head? ≠ some doubleQuote := by
  cases next with
  | code b => simpa [source] using isOf.1
  | lineComment | blockComment => simp [source]; decide
  | literal => exact absurd trivial plain

theorem EndsBefore.of_mayPrecede (allowed : element.MayPrecede language next) (isOf : next.IsOf language)
    (rest : Text) : element.EndsBefore language (next.source ++ rest) := by
  have front := head?_source_append isOf rest
  cases element with
  | code b =>
    rw [EndsBefore, front]
    exact allowed
  | lineComment body =>
    obtain rfl : next = code (byte '\n') := allowed
    exact .inr rfl
  | blockComment body => trivial
  | literal form body =>
    rw [EndsBefore, front]
    exact head?_source_ne_quote isOf allowed

theorem EndsBefore.nil (element : Element) : element.EndsBefore language [] := by
  cases element <;> simp [EndsBefore]

end Element

/-- Masking a text that is a sequence of elements of a language masks the elements one by one. -/
theorem mask_elements (language : Language) (elements : List Element)
    (isOf : ∀ element ∈ elements, element.IsOf language)
    (bounded : elements.IsChain (Element.MayPrecede language)) :
    language.mask (elements.flatMap Element.source) = elements.flatMap Element.masked := by
  rw [Language.mask, mask_eq_maskIn]
  induction elements with
  | nil => exact maskIn_nil _ _
  | cons element others ih =>
    have ends : element.EndsBefore language (others.flatMap Element.source) := by
      cases others with
      | nil => exact .nil element
      | cons next others =>
        exact .of_mayPrecede (List.isChain_cons_cons.mp bounded).1 (isOf next (by simp)) _
    rw [List.flatMap_cons, Element.maskIn_element (isOf element List.mem_cons_self) ends,
      ih (fun other member => isOf other (List.mem_cons_of_mem _ member)) bounded.tail, List.flatMap_cons]

/-- Four forms of literals and two kinds of comments in one text. -/
theorem mask_mixed_elements :
    let elements : List Element :=
      [.code (byte 'a'), .literal .doubleQuoted [byte 'x', backslash, doubleQuote], .code (byte '@'),
        .blockComment [byte '*', byte '\n', doubleQuote], .literal .verbatim [backslash, doubleQuote, doubleQuote],
        .code (byte '+'), .literal (.rawQuoted 3) [byte 'b', doubleQuote, doubleQuote, byte 'c'],
        .lineComment [singleQuote, byte '/'], .code (byte '\n'), .literal .singleQuoted [doubleQuote]]
    (∀ element ∈ elements, element.IsOf .csharp) ∧ elements.IsChain (Element.MayPrecede .csharp) ∧
      Language.csharp.mask (elements.flatMap Element.source) = elements.flatMap Element.masked := by
  intro elements
  have quoted : QuotedBody doubleQuote [byte 'x', backslash, doubleQuote] :=
    .plain (by decide) (by decide) (by decide) (.escape (by decide) .nil)
  have verbatim : VerbatimBody [backslash, doubleQuote, doubleQuote] := .plain (by decide) (.pair .nil)
  have raw : RawBody 3 [byte 'b', doubleQuote, doubleQuote, byte 'c'] := ⟨by decide, by decide, by decide⟩
  have single : QuotedBody singleQuote [doubleQuote] := .plain (by decide) (by decide) (by decide) .nil
  have isOf : ∀ element ∈ elements, element.IsOf .csharp := by
    simp only [elements, List.forall_mem_cons, Element.IsOf, Form.IsOf, Form.Body]
    exact ⟨by decide, ⟨trivial, quoted⟩, by decide, by decide, ⟨trivial, verbatim⟩, by decide,
      ⟨trivial, by decide, by decide, raw⟩, by decide, by decide, ⟨trivial, single⟩, List.forall_mem_nil _⟩
  have bounded : elements.IsChain (Element.MayPrecede .csharp) := by
    simp +decide [elements, Element.MayPrecede, Element.IsLiteral]
  exact ⟨isOf, bounded, mask_elements .csharp elements isOf bounded⟩

/-- The quotes of an empty raw literal all open it, and what follows is taken for its inside. -/
theorem mask_empty_raw_literal :
    let elements : List Element := [.literal (.rawQuoted 3) [], .code (byte ';')]
    RawBody 3 [] ∧ (Element.code (byte ';')).IsOf .csharp ∧ elements.IsChain (Element.MayPrecede .csharp) ∧
      Language.csharp.mask (elements.flatMap Element.source) ≠ elements.flatMap Element.masked :=
  ⟨⟨by decide, by decide, by decide⟩, by simp +decide [Element.IsOf],
    by simp +decide [Element.MayPrecede, Element.IsLiteral], by decide⟩

end QualityGate.Masking
