import QualityGate.Proofs.GoSource.Cursor
import QualityGate.Proofs.Masking.Elements

/-!
What comments look like when they are read without a fault: masking makes white space of all of it, and the reader has
noted where the first line break in it is.
-/

namespace QualityGate.GoSource

open Cursor
open Masking (Element blank)
open Text (byte)

variable {c e : Cursor} {taken body : Text}

theorem keepsFaults_readBlockComment (fuel : Nat) (lineBreak : Option Nat) (c : Cursor) :
    KeepsFaults c (readBlockComment fuel lineBreak c).2.2 := by
  induction fuel generalizing lineBreak c with
  | zero => exact .refl c
  | succ fuel ih =>
    unfold readBlockComment
    split
    · exact .refl c
    dsimp only
    split
    · exact (keepsFaults_step c).trans (keepsFaults_step c.step)
    · exact (keepsFaults_step c).trans (ih _ c.step)

theorem unclosed_append (plain : ∀ b ∈ taken, b ≠ byte '*') (unclosed : ¬ [byte '*', byte '/'] <:+: body) :
    ¬ [byte '*', byte '/'] <:+: taken ++ body := by
  induction taken with
  | nil => exact unclosed
  | cons b taken ih =>
    rw [List.cons_append, List.infix_cons_iff, List.cons_prefix_cons]
    rintro (⟨same, -⟩ | later)
    · exact plain b List.mem_cons_self same.symm
    · exact ih (fun d member => plain d (List.mem_cons_of_mem b member)) later

/-- A comment that is closed ends at its first closing mark, and its first line break has been noted. -/
theorem readBlockComment_passes {fuel : Nat} {lineBreak found : Option Nat} (clean : c.Clean)
    (enough : c.rest.length < fuel) (read : readBlockComment fuel lineBreak c = (true, found, e))
    (faultless : e.faults = []) :
    ∃ body, ¬ [byte '*', byte '/'] <:+: body ∧ Passes c (body ++ [byte '*', byte '/']) e ∧
      found = lineBreak.or ((body.findIdx? (· = byte '\n')).map (c.offset + ·)) := by
  induction fuel generalizing lineBreak c with
  | zero => omega
  | succ fuel ih =>
    unfold readBlockComment at read
    split at read
    · cases read
    next ch seen =>
    dsimp only at read
    split at read
    next closing =>
      cases read
      obtain ⟨rfl, slash⟩ := closing
      have first := passes_step_seen (by decide) seen ((keepsFaults_step c.step).faults_eq_nil faultless)
      have second := passes_step_seen (by decide) (at?_iff.mp slash) faultless
      exact ⟨[], by decide, first.trans second, by simp⟩
    next going =>
      have kept := keepsFaults_readBlockComment fuel
        (if ch = '\n' ∧ lineBreak.isNone then some c.offset else lineBreak) c.step
      rw [read] at kept
      obtain ⟨taken, moved, spelling⟩ := passes_step seen (kept.faults_eq_nil faultless)
      have shorter := moved.length_lt spelling.ne_nil
      obtain ⟨body, unclosed, onward, noted⟩ := ih moved.clean (by omega) read
      refine ⟨taken ++ body, ?_, by rw [List.append_assoc]; exact moved.trans onward, ?_⟩
      · by_cases star : ch = '*'
        · rw [star] at spelling going
          rw [spelling.eq_singleton (by decide), List.singleton_append, List.infix_cons_iff, List.cons_prefix_cons]
          rintro (⟨-, others, rfl⟩ | later)
          · exact going ⟨rfl, at?_iff.mpr ((peek_eq_some_iff (by decide)).mpr ⟨_, onward.rest⟩)⟩
          · exact unclosed later
        · exact unclosed_append (spelling.ne_byte (by decide) star) unclosed
      · rw [noted, moved.offset, List.findIdx?_append]
        by_cases newline : ch = '\n'
        · rw [newline] at spelling ⊢
          rw [spelling.eq_singleton (by decide)]
          cases lineBreak <;> simp
        · have none : taken.findIdx? (· = byte '\n') = none := by
            simpa using spelling.ne_byte (by decide) newline
          simp [none, newline, Nat.add_assoc, Nat.add_comm taken.length, Function.comp_def]

theorem keepsFaults_readCommentBody (c : Cursor) : KeepsFaults c (readCommentBody c).2.2 := by
  have opened := (keepsFaults_step c).trans (keepsFaults_step c.step)
  unfold readCommentBody
  split
  · exact opened.trans (keepsFaults_skipWhile _ _ _)
  · exact opened.trans (keepsFaults_readBlockComment _ _ _)

theorem startsComment_iff : startsComment c = true ↔
    ∃ mark rest, (mark = '/' ∨ mark = '*') ∧ c.rest = byte '/' :: byte mark :: rest := by
  have line : Text.ofString "//" = [byte '/', byte '/'] := rfl
  have block : Text.ofString "/*" = [byte '/', byte '*'] := rfl
  rw [startsComment, Bool.or_eq_true, Text.startsWith, Text.startsWith, line, block, List.isPrefixOf_iff_prefix,
    List.isPrefixOf_iff_prefix]
  constructor
  · rintro (⟨rest, here⟩ | ⟨rest, here⟩)
    · exact ⟨'/', rest, .inl rfl, here.symm⟩
    · exact ⟨'*', rest, .inr rfl, here.symm⟩
  · rintro ⟨mark, rest, rfl | rfl, here⟩
    · exact .inl ⟨rest, here.symm⟩
    · exact .inr ⟨rest, here.symm⟩

/-- A comment that is closed is blanked whole, and its first line break has been noted. -/
theorem readCommentBody_passes {lineBreak : Option Nat} (starts : startsComment c = true)
    (enough : c.rest.length < c.bound) (read : readCommentBody c = (true, lineBreak, e)) (faultless : e.faults = []) :
    ∃ taken, Passes c taken e ∧ taken ≠ [] ∧
      Language.go.mask c.rest = taken.map blank ++ Language.go.mask e.rest ∧
      lineBreak = (taken.findIdx? (· = byte '\n')).map (c.offset + ·) := by
  obtain ⟨mark, rest, marked, here⟩ := startsComment_iff.mp starts
  have ahead : c.step.rest = byte mark :: rest := by rw [rest_step, here, Text.front_of_ascii (by decide)]; rfl
  have low : (byte mark).toNat < 0x80 := by rcases marked with rfl | rfl <;> decide
  have opened (faultless : c.step.step.faults = []) : Passes c [byte '/', byte mark] c.step.step :=
    (passes_step_ascii here (by decide) ((keepsFaults_step c.step).faults_eq_nil faultless)).trans
      (passes_step_ascii ahead low faultless)
  unfold readCommentBody at read
  split at read
  next line =>
    cases read
    obtain rfl : mark = '/' := by
      obtain ⟨tail, same⟩ := (peek_eq_some_iff (by decide)).mp (at?_iff.mp line)
      rw [ahead] at same
      rcases marked with rfl | rfl
      · rfl
      · exact absurd (List.cons.inj same).1 (by decide)
    have start := opened ((keepsFaults_skipWhile _ _ _).faults_eq_nil faultless)
    have holds : ∀ ch taken, decide (ch ≠ '\n') = true → IsSpelling ch taken → ∀ b ∈ taken, b ≠ byte '\n' := by
      intro ch taken other spelling
      exact spelling.ne_byte (by decide) (by simpa using other)
    have shorter := start.length_le
    obtain ⟨body, moved, unbroken, stopped⟩ :=
      skipWhile_passes start.clean (by rw [start.bound]; omega) holds faultless
    have ends : (Element.lineComment body).EndsBefore .go (c.step.step.skip (· ≠ '\n')).rest := by
      match seen : (c.step.step.skip (· ≠ '\n')).peek with
      | none => exact .inl (peek_eq_none_iff.mp seen)
      | some ch =>
        obtain rfl : ch = '\n' := by simpa using test_of_sees_eq_false stopped seen
        obtain ⟨tail, same⟩ := (peek_eq_some_iff (by decide)).mp seen
        exact .inr (by rw [same, List.head?_cons])
    have whole := start.trans moved
    refine ⟨_, whole, by simp, ?_, ?_⟩
    · have masked := Element.maskIn_lineComment (fun member => unbroken _ member rfl) ends
      rw [whole.rest]
      exact masked
    · have none : body.findIdx? (· = byte '\n') = none := by simpa using unbroken
      simp +decide [List.findIdx?_cons, none]
  next block =>
    obtain rfl : mark = '*' := by
      rcases marked with rfl | rfl
      · exact absurd (at?_iff.mpr ((peek_eq_some_iff (by decide)).mpr ⟨rest, ahead⟩)) block
      · rfl
    have kept := keepsFaults_readBlockComment c.bound none c.step.step
    rw [read] at kept
    have start := opened (kept.faults_eq_nil faultless)
    have shorter := start.length_le
    obtain ⟨body, unclosed, moved, noted⟩ := readBlockComment_passes start.clean (by omega) read faultless
    have whole := start.trans moved
    refine ⟨_, whole, by simp, ?_, ?_⟩
    · have masked : Language.go.mask ((Element.blockComment body).source ++ e.rest) = _ :=
        Element.maskIn_blockComment unclosed
      rw [whole.rest]
      exact masked
    · rw [noted, start.offset]
      simp +decide [List.findIdx?_append, List.findIdx?_cons, Nat.add_assoc, Nat.add_comm 2, Function.comp_def]

theorem readDirective_cases (size effect offset : Nat) (t : Text) (c : Cursor) :
    (∃ directives, readDirective size effect offset t c = { c with directives }) ∨
      ∃ position, readDirective size effect offset t c = c.fault position := by
  unfold readDirective
  dsimp only
  repeat' split
  all_goals first | exact .inl ⟨_, rfl⟩ | exact .inr ⟨_, rfl⟩

theorem readComment_cases (size : Nat) (c : Cursor) :
    (readComment size c).1 = (readCommentBody c).2.1 ∧
      ((readCommentBody c).1 = true ∧
          (∃ directives, (readComment size c).2 = { (readCommentBody c).2.2 with directives }) ∨
      ∃ position, (readComment size c).2 = (readCommentBody c).2.2.fault position) := by
  rcases body : readCommentBody c with ⟨closed, lineBreak, d⟩
  -- A directive is enacted or is a fault; whether the comment is one, and where it takes effect, does not matter.
  have enacted (condition : Prop) [Decidable condition] (effect offset : Nat) (t : Text) (result : Option Nat × Cursor)
      (same : result = if condition then (lineBreak, readDirective size effect offset t d) else (lineBreak, d)) :
      result.1 = lineBreak ∧
        ((∃ directives, result.2 = { d with directives }) ∨ ∃ position, result.2 = d.fault position) := by
    split at same
    · subst same
      exact ⟨rfl, readDirective_cases size effect offset t d⟩
    · subst same
      exact ⟨rfl, .inl ⟨d.directives, rfl⟩⟩
  generalize read : readComment size c = result
  cases closed with
  | false =>
    simp only [readComment, body] at read
    subst read
    exact ⟨rfl, .inr ⟨_, rfl⟩⟩
  | true =>
    simp only [readComment, body, not_true_eq_false, if_false] at read
    obtain ⟨noted, ends⟩ := enacted _ _ _ _ result read.symm
    exact ⟨noted, ends.imp_left fun enacted => ⟨rfl, enacted⟩⟩

theorem keepsFaults_readComment (size : Nat) (c : Cursor) : KeepsFaults c (readComment size c).2 := by
  have body := keepsFaults_readCommentBody c
  rcases (readComment_cases size c).2 with ⟨-, directives, same⟩ | ⟨position, same⟩
  · rw [same]
    exact body
  · rw [same]
    exact body.trans (keepsFaults_fault _ position)

/-- A comment read without a fault is blanked whole, and its first line break has been noted. -/
theorem readComment_passes {size : Nat} {lineBreak : Option Nat} (starts : startsComment c = true)
    (enough : c.rest.length < c.bound) (read : readComment size c = (lineBreak, e)) (faultless : e.faults = []) :
    ∃ taken, Passes c taken e ∧ taken ≠ [] ∧
      Language.go.mask c.rest = taken.map blank ++ Language.go.mask e.rest ∧
      lineBreak = (taken.findIdx? (· = byte '\n')).map (c.offset + ·) := by
  obtain ⟨noted, ends⟩ := readComment_cases size c
  rcases body : readCommentBody c with ⟨closed, lineBreak', d⟩
  rw [read, body] at noted ends
  rcases ends with ⟨closed, directives, same⟩ | ⟨position, same⟩
  · dsimp only at noted closed same
    subst noted closed same
    obtain ⟨taken, passes, nonempty, masked, noted⟩ := readCommentBody_passes starts enough body faultless
    have clean : Clean _ := ⟨faultless, passes.clean.readable⟩
    exact ⟨taken, ⟨passes.rest, passes.offset, passes.bound, clean⟩, nonempty, masked, noted⟩
  · dsimp only at same
    subst same
    cases faultless

end QualityGate.GoSource
