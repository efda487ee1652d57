import QualityGate.Detection.Detector
import QualityGate.Proofs.Detection.Body

/-!
The regions of braces form a laminar family: of two, one ends before the other begins, or lies inside it. Two scans that
start at different braces count the same bytes, so their depths differ by what lies between the two starts, and this is
positive as long as the outer brace is open (`Matched.closed_of_inside`). What lies inside spans no more lines.
-/

namespace QualityGate

namespace Delimiter

variable {opener closer : UInt8} {text : Text} {start start' : Nat} {found found' : Match}

/-- From a delimiter inside a closed match on, more delimiters close than open up to the end of that match. -/
theorem Matched.climb_neg (outer : Matched opener closer text start found) (closed : found.closed = true)
    (after : start < start') (before : start' < found.stop) :
    climb opener closer (text.slice start' found.stop) < 0 := by
  have level : climb opener closer (text.slice start found.stop) = 0 := by
    rcases outer.ends with ⟨-, level⟩ | ⟨unclosed, -⟩
    · exact level
    · rw [closed] at unclosed
      cases unclosed
  have between := outer.inner start' after before
  rw [← Text.slice_append_slice text (Nat.le_of_lt after) (Nat.le_of_lt before), climb_append] at level
  omega

/-- A match that begins inside a closed one is closed before it. -/
theorem Matched.closed_of_inside (outer : Matched opener closer text start found)
    (inner : Matched opener closer text start' found') (closed : found.closed = true) (after : start < start')
    (before : start' < found.stop) : found'.closed = true ∧ found'.stop < found.stop := by
  have falls := outer.climb_neg closed after before
  -- The inner depth is negative where the outer match stops, so the inner match has stopped before.
  have earlier : found'.stop < found.stop := by
    apply Nat.lt_of_not_le
    intro late
    have above : 0 ≤ climb opener closer (text.slice start' found.stop) := by
      rcases Nat.eq_or_lt_of_le late with same | later
      · rw [same]
        rcases inner.ends with ⟨-, level⟩ | ⟨-, -, rises⟩
        · omega
        · omega
      · have rises := inner.inner found.stop before later
        omega
    omega
  refine ⟨?_, earlier⟩
  rcases inner.ends with ⟨shut, -⟩ | ⟨-, ended, -⟩
  · exact shut
  · have bound := outer.within
    omega

theorem matched_matchBrace (opens : text[start]? = some (Text.byte '{')) :
    Matched (Text.byte '{') (Text.byte '}') text start (matchBrace text start) :=
  matched_matchAt (Text.byte '}') opens

end Delimiter

/-- A piece of a text inside another piece has no more line breaks. -/
theorem Text.newlines_slice_le (text : Text) {start start' stop' stop : Nat} (opens : start ≤ start')
    (within : start' ≤ stop') (closes : stop' ≤ stop) :
    (text.slice start' stop').newlines ≤ (text.slice start stop).newlines := by
  have front := Text.slice_append_slice text opens within
  have whole := Text.slice_append_slice text (Nat.le_trans opens within) closes
  rw [← whole, ← front, newlines, newlines, List.count_append, List.count_append]
  omega

namespace MethodDeclaration

variable {text : Text} {outer inner : MethodDeclaration} {body body' : MethodBody}

theorem braces_of_body? (found : outer.body? text = some body) : Delimiter.Braces text body.start body.stop := by
  obtain ⟨-, ⟨⟨-, opens⟩, -⟩, -, same⟩ := body?_eq_some found
  have stop : body.stop = (Delimiter.matchBrace text body.start).stop := congrArg Delimiter.Match.stop same
  rw [stop]
  exact Delimiter.braces_matchBrace opens

theorem lineCount_of_body? (found : outer.body? text = some body) :
    body.lineCount = (text.slice body.start body.stop).newlines + 1 := by
  obtain ⟨-, -, piece, -⟩ := body?_eq_some found
  rw [MethodBody.lineCount, Text.lineCount, piece]

theorem body?_inside (found : outer.body? text = some body) (found' : inner.body? text = some body')
    (after : body.start ≤ body'.start) (before : body'.start < body.stop) :
    body'.stop ≤ body.stop ∧ body'.lineCount ≤ body.lineCount := by
  have braces' := braces_of_body? found'
  have within := (braces_of_body? found).stop_le braces' after before
  refine ⟨within, ?_⟩
  rw [lineCount_of_body? found, lineCount_of_body? found']
  have fewer := Text.newlines_slice_le text after (Nat.le_of_lt braces'.nonempty) within
  omega

end MethodDeclaration

/-- Two regions of braces are apart or nested, and a region that begins inside a closed one is closed strictly before
it. So a method body that begins inside another one lies inside it, has no more lines, and is too long only if the other
one is. -/
theorem braces_laminar (text : Text) :
    (∀ p q : Nat, p < q → text[p]? = some (Text.byte '{') → text[q]? = some (Text.byte '{') →
      ((Delimiter.matchBrace text p).stop ≤ q ∨
        (Delimiter.matchBrace text q).stop ≤ (Delimiter.matchBrace text p).stop) ∧
      ((Delimiter.matchBrace text p).closed = true → q < (Delimiter.matchBrace text p).stop →
        (Delimiter.matchBrace text q).closed = true ∧
          (Delimiter.matchBrace text q).stop < (Delimiter.matchBrace text p).stop)) ∧
    ∀ (outer inner : MethodDeclaration) (body body' : MethodBody),
      outer.body? text = some body → inner.body? text = some body' →
      body.start ≤ body'.start → body'.start < body.stop →
        body'.stop ≤ body.stop ∧ body'.lineCount ≤ body.lineCount ∧
          ∀ detector : Detector, detector.exceeds body' = true → detector.exceeds body = true := by
  constructor
  · intro p q less opens opens'
    constructor
    · rcases Nat.lt_or_ge q (Delimiter.matchBrace text p).stop with inside | apart
      · have outer := Delimiter.braces_matchBrace opens
        exact .inr (outer.stop_le (Delimiter.braces_matchBrace opens') (Nat.le_of_lt less) inside)
      · exact .inl apart
    · intro closed inside
      have outer := Delimiter.matched_matchBrace opens
      exact outer.closed_of_inside (Delimiter.matched_matchBrace opens') closed less inside
  · intro outer inner body body' found found' after before
    obtain ⟨within, fewer⟩ := MethodDeclaration.body?_inside found found' after before
    refine ⟨within, fewer, ?_⟩
    intro detector long
    rw [Detector.exceeds, decide_eq_true_eq] at long ⊢
    omega

/-- A closed body inside one that the text leaves open, and a closed pair inside the closed body. -/
theorem braces_laminar_unclosed :
    let text : Text := "F()\x7b\n G()\x7b\x7b\n\x7d\n\x7d\n"
    let outer : MethodDeclaration := { name := "F", offset := 0 }
    let inner : MethodDeclaration := { name := "G", offset := 6 }
    (Delimiter.matchBrace text 9 = ⟨15, true⟩ ∧ Delimiter.matchBrace text 10 = ⟨13, true⟩) ∧
      (∃ body, outer.body? text = some body ∧ body.start = 3 ∧ body.stop = 16 ∧ body.closed = false ∧
        ∃ body', inner.body? text = some body' ∧ body'.start = 9 ∧ body'.stop = 15 ∧ body'.closed = true ∧
          body'.lineCount = 3 ∧ body.lineCount = 5 ∧
          ∀ detector : Detector, detector.exceeds body' = true → detector.exceeds body = true) ∧
      (Delimiter.matchBrace text 10).closed = true ∧
        (Delimiter.matchBrace text 10).stop < (Delimiter.matchBrace text 9).stop := by
  intro text outer inner
  obtain ⟨nested, bodies⟩ := braces_laminar text
  have found : outer.body? text = some ⟨"\x7b\n G()\x7b\x7b\n\x7d\n\x7d\n", 3, 16, false⟩ := by decide
  have found' : inner.body? text = some ⟨"\x7b\x7b\n\x7d\n\x7d", 9, 15, true⟩ := by decide
  refine ⟨by decide, ⟨_, found, rfl, rfl, rfl, _, found', rfl, rfl, rfl, by decide, by decide, ?_⟩, ?_⟩
  · exact (bodies outer inner _ _ found found' (by decide) (by decide)).2.2
  · exact (nested 9 10 (by decide) (by decide) (by decide)).2 (by decide) (by decide)

end QualityGate
