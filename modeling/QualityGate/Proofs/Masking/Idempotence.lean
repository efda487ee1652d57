import QualityGate.Language.Basic
import QualityGate.Proofs.Masking.Geometry

/-!
Masking twice is masking once. A second pass comes through the same literals as the first one, because a step that
keeps its bytes sees the same again (`step_eq_of_faces`): masking writes spaces over what follows, and no step looks
for a space. Where the first pass has blanked, the second one finds only white space, which means nothing in code and
inside a literal (`maskIn_blanks`). A line break means something inside a literal on one line, so a backslash must not
stand before it.
-/

namespace QualityGate.Masking

open Text (byte doubleQuote backslash)

variable {rules : Rules} {state : State} {text text' : Text}

/-! ### Steps that keep their bytes -/

theorem head?_of_covers (covers : List.Forall₂ Covers text text') {c : UInt8} (visible : c ≠ byte ' ')
    (first : text'.head? = some c) : text.head? = some c := by
  cases covers with
  | nil => exact first
  | cons covered _ =>
    rcases covered with rfl | ⟨rfl, -⟩
    · exact first
    · exact absurd (by simpa using first.symm) visible

theorem quoteRun_le_of_covers (covers : List.Forall₂ Covers text text') : quoteRun text' ≤ quoteRun text := by
  induction covers with
  | nil => exact Nat.le_refl _
  | @cons a b rest rest' covered _ ih =>
    by_cases quote : b = doubleQuote
    · have first : a = doubleQuote := by
        rcases covered with rfl | ⟨rfl, -⟩
        · exact quote
        · exact absurd quote (by decide)
      rw [quote, first, quoteRun_quote, quoteRun_quote]
      omega
    · rw [quoteRun_eq_zero (by simpa using quote)]
      exact Nat.zero_le _

/-- A text that looks like another one to a step of some width: nothing has come to be seen in it, and what the step
takes is still there. -/
structure Faces (width : Nat) (text text' : Text) : Prop where
  first : text'.head? = text.head?
  second : ∀ c, c ≠ byte ' ' → text'.tail.head? = some c → text.tail.head? = some c
  pair : 2 ≤ width → text'.tail.head? = text.tail.head?
  run : quoteRun text' ≤ quoteRun text
  quotes : ∀ count, count ≤ width → count ≤ quoteRun text → count ≤ quoteRun text'

theorem faces_of_covers {kept rest rest' : Text} (covers : List.Forall₂ Covers rest rest') (nonempty : kept ≠ []) :
    Faces kept.length (kept ++ rest) (kept ++ rest') := by
  have whole : List.Forall₂ Covers (kept ++ rest) (kept ++ rest') :=
    List.rel_append (List.forall₂_same.mpr fun b _ => .inl rfl) covers
  match kept, nonempty with
  | b :: kept, _ =>
    refine ⟨rfl, fun c visible => ?_, fun wide => ?_, quoteRun_le_of_covers whole, fun count small long => ?_⟩
    · cases whole with
      | cons _ tails => exact head?_of_covers tails visible
    · cases kept with
      | nil => simp at wide
      | cons => rfl
    · rw [← replicate_prefix_iff] at long ⊢
      have inside := List.prefix_of_prefix_length_le long (List.prefix_append (b :: kept) rest) (by simpa using small)
      exact inside.trans (List.prefix_append _ _)

theorem enter_eq_of_faces (keeps : (enter rules text).keeps = true) (faces : Faces (enter rules text).width text text') :
    enter rules text' = enter rules text := by
  obtain ⟨first, second, pair, run, quotes⟩ := faces
  have blocks := startsTextBlock_iff text
  have blocks' := startsTextBlock_iff text'
  -- What opens a comment or a literal in the second text opens it in the first.
  have line : rules.lineComments ∧ text.head? = some (byte '/') ∧ text'.tail.head? = some (byte '/') →
      rules.lineComments ∧ text.head? = some (byte '/') ∧ text.tail.head? = some (byte '/') :=
    fun ⟨rule, slash, next⟩ => ⟨rule, slash, second _ (by decide) next⟩
  have block : rules.blockComments ∧ text.head? = some (byte '/') ∧ text'.tail.head? = some (byte '*') →
      rules.blockComments ∧ text.head? = some (byte '/') ∧ text.tail.head? = some (byte '*') :=
    fun ⟨rule, slash, next⟩ => ⟨rule, slash, second _ (by decide) next⟩
  have raw : rules.rawQuotedStrings ∧ 3 ≤ quoteRun text' → rules.rawQuotedStrings ∧ 3 ≤ quoteRun text :=
    fun ⟨rule, long⟩ => ⟨rule, Nat.le_trans long run⟩
  have textBlock : rules.textBlocks ∧ startsTextBlock text' → rules.textBlocks ∧ startsTextBlock text :=
    fun ⟨rule, long⟩ => ⟨rule, blocks.mpr (Nat.le_trans (blocks'.mp long) run)⟩
  have verbatim : rules.verbatimStrings ∧ text.head? = some (byte '@') ∧ text'.tail.head? = some doubleQuote →
      rules.verbatimStrings ∧ text.head? = some (byte '@') ∧ text.tail.head? = some doubleQuote :=
    fun ⟨rule, sign, next⟩ => ⟨rule, sign, second _ (by decide) next⟩
  generalize stepped : enter rules text = taken at keeps pair quotes ⊢
  unfold enter at stepped ⊢
  dsimp only at stepped ⊢
  rw [first]
  split at stepped
  · subst stepped
    cases keeps
  next notLine =>
  rw [if_neg (mt line notLine)]
  split at stepped
  · subst stepped
    cases keeps
  next notBlock =>
  rw [if_neg (mt block notBlock)]
  split at stepped
  next opens =>
    subst stepped
    have same : quoteRun text' = quoteRun text := Nat.le_antisymm run (quotes _ (Nat.le_refl _) (Nat.le_refl _))
    rw [same, if_pos opens]
  next notRaw =>
  rw [if_neg (mt raw notRaw)]
  split at stepped
  next opens =>
    subst stepped
    rw [if_pos ⟨opens.1, blocks'.mpr (quotes 3 (Nat.le_refl 3) (blocks.mp opens.2))⟩]
  next notTextBlock =>
  rw [if_neg (mt textBlock notTextBlock)]
  split at stepped
  next opens =>
    subst stepped
    rw [pair (Nat.le_refl 2), if_pos opens]
  next notVerbatim =>
  rw [if_neg (mt verbatim notVerbatim)]
  exact stepped

/-- A step that keeps its bytes is taken again where they are kept and what follows them is masked. -/
theorem step_eq_of_faces (proper : state.Proper) (keeps : (step rules state text).keeps = true)
    (faces : Faces (step rules state text).width text text') : step rules state text' = step rules state text := by
  cases state with
  | code => exact enter_eq_of_faces keeps faces
  | lineComment => cases keeps
  | blockComment =>
    simp only [step] at keeps
    split at keeps <;> cases keeps
  | quoted quote =>
    have apart : quote ≠ backslash := by
      rcases proper with rfl | rfl <;> decide
    have opens := faces.first
    simp only [step] at keeps ⊢
    split at keeps
    · cases keeps
    next notEscape =>
    split at keeps
    next closes =>
      have plain : text.head? ≠ some backslash := by
        rcases closes with closes | closes
        · rw [closes]; simpa using apart
        · rw [closes]; decide
      simp [opens, plain, closes]
    · cases keeps
  | verbatim =>
    obtain ⟨first, second, -, -, -⟩ := faces
    simp only [step] at keeps ⊢
    split at keeps
    · cases keeps
    next notPair =>
    split at keeps
    next closes =>
      have notPair' : ¬ (text.head? = some doubleQuote ∧ text'.tail.head? = some doubleQuote) :=
        fun both => notPair ⟨both.1, second _ (by decide) both.2⟩
      rw [first, if_neg notPair, if_neg notPair']
    · cases keeps
  | textBlock =>
    have quotes := faces.quotes
    simp only [step] at keeps quotes ⊢
    split at keeps
    next closes =>
      rw [if_pos closes] at quotes ⊢
      rw [if_pos ((startsTextBlock_iff _).mpr (quotes 3 (Nat.le_refl 3) ((startsTextBlock_iff _).mp closes)))]
    split at keeps <;> cases keeps
  | rawQuoted count =>
    obtain ⟨first, -, -, run, quotes⟩ := faces
    simp only [step] at keeps quotes ⊢
    split at keeps
    next quote =>
      split at keeps
      next closes =>
        rw [if_pos quote, if_pos closes] at quotes ⊢
        have same : quoteRun text' = quoteRun text := Nat.le_antisymm run (quotes _ (Nat.le_refl _) (Nat.le_refl _))
        rw [first, if_pos quote, same, if_pos closes]
      · cases keeps
    · cases keeps
  | backquoted =>
    have first := faces.first
    simp only [step, first]

/-- Kept bytes are kept again, and what follows them is masked from the state after them. -/
theorem maskIn_kept (proper : state.Proper) (nonempty : text ≠ []) (keeps : (step rules state text).keeps = true)
    {rest' : Text} (covers : List.Forall₂ Covers (text.drop (step rules state text).width) rest') :
    maskIn rules state (text.take (step rules state text).width ++ rest') =
      text.take (step rules state text).width ++ maskIn rules (step rules state text).next rest' := by
  obtain ⟨positive, within⟩ := fits_step rules state nonempty
  have width : (text.take (step rules state text).width).length = (step rules state text).width := by
    rw [List.length_take]
    omega
  have kept : text.take (step rules state text).width ≠ [] := List.ne_nil_of_length_pos (by omega)
  have faces := faces_of_covers covers kept
  rw [width, List.take_append_drop] at faces
  have stepped := step_eq_of_faces proper keeps faces
  rw [maskIn_split rules state (List.append_ne_nil_of_left_ne_nil kept _), stepped, keeps, map_write_true,
    List.take_left' width, List.drop_left' width]

/-! ### Steps that blank their bytes -/

/-- The state in which a second pass meets what the first one has written in a state: of a comment only white space is
left, which is code. -/
def State.again : State → State
  | .lineComment | .blockComment => .code
  | state => state

/-- A step that keeps its bytes leads from one state of a second pass to another, and one that blanks them does not
lead anywhere. -/
def Step.Repeats (state : State) (taken : Step) : Prop :=
  if taken.keeps then state.again = state ∧ taken.next.again = taken.next else taken.next.again = state.again

theorem repeats_step (rules : Rules) (state : State) (text : Text) : (step rules state text).Repeats state := by
  cases state with
  | code =>
    simp only [step, enter]
    repeat' split
    all_goals simp [Step.Repeats, State.again]
  | lineComment =>
    simp only [step]
    split
    all_goals simp [Step.Repeats, State.again]
  | _ =>
    simp only [step]
    repeat' split
    all_goals simp [Step.Repeats, State.again]

theorem proper_again (proper : state.Proper) : state.again.Proper := by
  cases state with
  | quoted quote => exact proper
  | _ => trivial

theorem again_cases (state : State) :
    state.again ≠ .lineComment ∧ ∀ quote, state.again = .quoted quote → state = .quoted quote := by
  cases state <;> simp [State.again]

@[simp] theorem blank_blank (b : UInt8) : blank (blank b) = blank b := by
  unfold blank
  split
  · rfl
  · decide

theorem blank_cases (b : UInt8) : blank b = byte ' ' ∨ blank b = byte '\n' ∧ b = byte '\n' ∨ blank b = byte '\r' := by
  unfold blank
  split
  next breaks =>
    rcases breaks with rfl | rfl
    · exact .inr (.inl ⟨rfl, rfl⟩)
    · exact .inr (.inr rfl)
  · exact .inl rfl

/-- White space is passed over without a change, unless it ends a literal. -/
theorem maskIn_blanks (proper : state.Proper) (blanked : Text)
    (inside : byte '\n' ∈ blanked → ∀ quote, state ≠ .quoted quote) (rest : Text) :
    maskIn rules state.again (blanked.map blank ++ rest) = blanked.map blank ++ maskIn rules state.again rest := by
  induction blanked with
  | nil => rfl
  | cons b blanked ih =>
    have later := ih fun member => inside (List.mem_cons_of_mem b member)
    have plain : blank b ∉ marks := by
      rcases blank_cases b with same | ⟨same, -⟩ | same <;> rw [same] <;> decide
    have within : blank b = byte '\n' → state.again ≠ .lineComment ∧ ∀ quote, state.again ≠ .quoted quote := by
      intro newline
      refine ⟨(again_cases state).1, fun quote same => ?_⟩
      have first : b = byte '\n' := by
        rcases blank_cases b with same | ⟨-, same⟩ | same
        · exact absurd (same.symm.trans newline) (by decide)
        · exact same
        · exact absurd (same.symm.trans newline) (by decide)
      exact inside (first ▸ List.mem_cons_self) quote ((again_cases state).2 quote same)
    have onward : maskIn rules state.again (blank b :: (blanked.map blank ++ rest)) =
        write (state.again = .code) (blank b) :: maskIn rules state.again (blanked.map blank ++ rest) :=
      maskIn_step [] (step_plain (proper_again proper) plain within _)
    have same : write (state.again = .code) (blank b) = blank b := by
      unfold write
      split
      · rfl
      · exact blank_blank b
    rw [List.map_cons, List.cons_append, onward, later, same, List.cons_append]

/-- In a literal on one line no line break is blanked, if none stands after a backslash. -/
theorem not_newline_of_blanks {quote : UInt8} (unbroken : ¬ [backslash, byte '\n'] <:+: text)
    (blanks : (step rules (.quoted quote) text).keeps = false) :
    byte '\n' ∉ text.take (step rules (.quoted quote) text).width := by
  intro member
  simp only [step] at blanks member
  split at blanks
  next escape =>
    rw [if_pos escape] at member
    rcases text with _ | ⟨first, _ | ⟨second, rest⟩⟩
    · simp at escape
    · simp at escape
    · obtain rfl : first = backslash := by simpa using escape.1
      have broken : second = byte '\n' := by
        rcases List.mem_pair.mp member with same | same
        · exact absurd same (by decide)
        · exact same.symm
      exact unbroken ⟨[], rest, by rw [broken]; rfl⟩
  next notEscape =>
    split at blanks
    · cases blanks
    next notEnd =>
      rw [if_neg notEscape, if_neg notEnd] at member
      cases text with
      | nil => cases member
      | cons first rest =>
        obtain same : byte '\n' = first := by simpa using member
        exact notEnd (.inr (by rw [same]; rfl))

/-! ### Both passes -/

theorem maskIn_maskIn (proper : state.Proper) (unbroken : ¬ [backslash, byte '\n'] <:+: text) :
    maskIn rules state.again (maskIn rules state text) = maskIn rules state text := by
  -- Induction on the length: a step leaves a shorter text.
  generalize bound : text.length = size
  induction size using Nat.strongRecOn generalizing state text with
  | ind size ih =>
    by_cases empty : text = []
    · subst empty
      rfl
    have split := maskIn_split rules state empty
    have repeats := repeats_step rules state text
    have proper' := proper_step rules proper text
    obtain ⟨positive, within⟩ := fits_step rules state empty
    have later := ih (text.drop (step rules state text).width).length (by rw [List.length_drop]; omega) proper'
      (fun broken => unbroken (broken.trans (List.drop_suffix _ _).isInfix)) rfl
    rw [split]
    cases keeps : (step rules state text).keeps with
    | false =>
      rw [Step.Repeats, keeps, if_neg (by simp)] at repeats
      have inside : byte '\n' ∈ text.take (step rules state text).width → ∀ quote, state ≠ .quoted quote := by
        rintro newline quote rfl
        exact not_newline_of_blanks unbroken keeps newline
      rw [map_write_false, maskIn_blanks proper _ inside, ← repeats, later]
    | true =>
      rw [Step.Repeats, keeps, if_pos rfl] at repeats
      obtain ⟨same, same'⟩ := repeats
      rw [same'] at later
      have covers : List.Forall₂ Covers (text.drop (step rules state text).width)
          (maskIn rules (step rules state text).next (text.drop (step rules state text).width)) :=
        covers_maskFrom rules _ 0 true _
      rw [map_write_true, same, maskIn_kept proper empty keeps covers, later]

/-- Masking what is masked already changes nothing, if no backslash stands before a line break. -/
theorem mask_mask (language : Language) (text : Text) (unbroken : ¬ [backslash, byte '\n'] <:+: text) :
    language.mask (language.mask text) = language.mask text := by
  have start : State.code.Proper := trivial
  exact maskIn_maskIn start unbroken

/-- A raw literal whose inside has quotes, a doubled quote in a verbatim one, and a literal that is not closed. -/
theorem mask_mask_literals :
    let text : Text := "@\"a\"\"\"; \"\"\"b\"\"c\"\"\"; \"d\\"
    ¬ [backslash, byte '\n'] <:+: text ∧ Language.csharp.mask text ≠ text ∧
      Language.csharp.mask (Language.csharp.mask text) = Language.csharp.mask text := by
  intro text
  have unbroken : ¬ [backslash, byte '\n'] <:+: text := by decide
  exact ⟨unbroken, by decide, mask_mask .csharp text unbroken⟩

end QualityGate.Masking
