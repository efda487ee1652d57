import QualityGate.Proofs.Reporting.JsonReading
import QualityGate.Proofs.Text.Splitting
import QualityGate.Reporting.SummaryLine

/-!
Reading the line that sums up a scan. A reader that takes away terminal codes and cuts the rest at spaces finds the name
of the check and the three counts, with and without colours (`Summary.read?_line`).
-/

namespace QualityGate

/-- What can be read off a printed result: how many violations and errors stand there, and the totals it states. -/
structure Reading where
  violations : Nat
  errors : Nat
  totals : List Int
  deriving DecidableEq, Repr

/-! ### Integers -/

namespace Text

open Json (isDigit numeral)

def toNat? (t : Text) : Option Nat := if t ≠ [] ∧ t.all isDigit then some (numeral 10 t) else none

def toInt? : Text → Option Int
  | [] => none
  | b :: rest => if b = byte '-' then (toNat? rest).map fun n => -n else (toNat? (b :: rest)).map Int.ofNat

theorem toNat?_ofNat (n : Nat) : toNat? (ofNat n) = some n := by
  rw [toNat?, if_pos ⟨Json.ofNat_ne_nil n, List.all_eq_true.mpr Json.isDigit_of_mem_ofNat⟩, Json.numeral_ofNat]

theorem toInt?_ofInt (n : Int) : toInt? (ofInt n) = some n := by
  cases n with
  | ofNat n =>
    have read := toNat?_ofNat n
    obtain ⟨b, rest, digits⟩ := List.exists_cons_of_ne_nil (Json.ofNat_ne_nil n)
    have digit := Json.isDigit_of_mem_ofNat (n := n) b (by rw [digits]; exact List.mem_cons_self)
    have unsigned : b ≠ byte '-' := by
      rintro rfl
      exact absurd digit (by decide)
    rw [ofInt, digits, toInt?, if_neg unsigned, ← digits, read]
    rfl
  | negSucc n =>
    rw [ofInt, toInt?, if_pos rfl, toNat?_ofNat]
    rfl

theorem ofInt_ne_nil (n : Int) : ofInt n ≠ [] := by
  obtain ⟨b, tail, form, _⟩ := Json.exists_ofInt n
  rw [form]
  exact List.cons_ne_nil b tail

/-- The digits and the minus sign lie between the space and the colon. -/
theorem bounds_of_mem_ofInt {n : Int} {b : UInt8} (member : b ∈ ofInt n) : 0x20 < b ∧ b < 0x3A := by
  have digits : ∀ {n : Nat} {b : UInt8}, b ∈ ofNat n → 0x20 < b ∧ b < 0x3A := by
    intro n b member
    have digit := Json.isDigit_of_mem_ofNat b member
    rw [isDigit, Bool.and_eq_true, decide_eq_true_eq, decide_eq_true_eq] at digit
    exact ⟨UInt8.lt_of_lt_of_le (by decide) digit.1, UInt8.lt_of_le_of_lt digit.2 (by decide)⟩
  cases n with
  | ofNat n => exact digits member
  | negSucc n =>
    rcases List.mem_cons.mp member with rfl | later
    · decide
    · exact digits later

theorem not_mem_ofInt {b : UInt8} (outside : b ≤ 0x20 ∨ 0x3A ≤ b) (n : Int) : b ∉ ofInt n := by
  intro member
  obtain ⟨low, high⟩ := bounds_of_mem_ofInt member
  rcases outside with below | above
  · exact UInt8.not_le.mpr low below
  · exact UInt8.not_le.mpr high above

/-! ### Terminal codes -/

def IsPrintable (t : Text) : Prop := ∀ b ∈ t, 0x20 ≤ b ∧ b < 0x7F

instance (t : Text) : Decidable t.IsPrintable := List.decidableBAll _ t

theorem IsPrintable.append {s t : Text} (left : s.IsPrintable) (right : t.IsPrintable) : (s ++ t).IsPrintable := by
  intro b member
  exact (List.mem_append.mp member).elim (left b) (right b)

theorem isPrintable_ofInt (n : Int) : (ofInt n).IsPrintable := by
  intro b member
  obtain ⟨low, high⟩ := bounds_of_mem_ofInt member
  exact ⟨UInt8.le_of_lt low, UInt8.lt_trans high (by decide)⟩

theorem IsPrintable.not_mem {t : Text} (printable : t.IsPrintable) {b : UInt8} (control : b < 0x20) : b ∉ t :=
  fun member => absurd (printable b member).1 (UInt8.not_le.mpr control)

/-- What is left of a text without terminal codes, inside one or not: a code goes from an escape to the letter `m`. -/
def unstyledFrom : Bool → Text → Text
  | _, [] => []
  | true, b :: rest => unstyledFrom (b ≠ byte 'm') rest
  | false, b :: rest => if b = 0x1B then unstyledFrom true rest else b :: unstyledFrom false rest

def unstyled (t : Text) : Text := unstyledFrom false t

theorem IsPrintable.unstyled_append {t : Text} (printable : t.IsPrintable) (rest : Text) :
    unstyled (t ++ rest) = t ++ unstyled rest := by
  have codeless : (0x1B : UInt8) ∉ t := printable.not_mem (by decide)
  clear printable
  induction t with
  | nil => rfl
  | cons b t ih =>
    rw [List.mem_cons, not_or] at codeless
    have inner := ih codeless.2
    unfold unstyled at inner ⊢
    rw [List.cons_append, unstyledFrom, if_neg (Ne.symm codeless.1), inner]
    rfl

end Text

namespace Look

theorem plainBreaks_of_isPrintable {t : Text} (printable : t.IsPrintable) : plainBreaks t = t := by
  induction t with
  | nil => rfl
  | cons b t ih =>
    have tab : Text.byte '\t' ∉ b :: t := printable.not_mem (by decide)
    have turn : Text.byte '\r' ∉ b :: t := printable.not_mem (by decide)
    rw [List.mem_cons, not_or] at tab turn
    rw [plainBreaks, if_neg (Ne.symm tab.1), if_neg fun both => turn.1 both.1.symm,
      ih fun b member => printable b (.tail _ member)]

/-- A printable text is one line. -/
theorem apply_of_isPrintable (look : Look) {t : Text} (printable : t.IsPrintable) : look.apply t = look.line t := by
  have whole : Text.byte '\n' ∉ t := printable.not_mem (by decide)
  simp [apply, plainBreaks_of_isPrintable printable, Text.splitAtByte_of_not_mem whole, Text.join, Text.spaces]

theorem unstyled_line (look : Look) {t : Text} (printable : t.IsPrintable) (rest : Text) :
    Text.unstyled (look.line t ++ rest) = t ++ Text.unstyled rest := by
  have opened : ∀ rest : Text, Text.unstyled ("\x1b[" ++ look.code ++ "m" ++ rest) = Text.unstyled rest := by
    intro rest
    cases look <;> rfl
  have closed : ∀ rest : Text, Text.unstyled ("\x1b[0m" ++ rest) = Text.unstyled rest := fun _ => rfl
  rw [line, List.append_assoc, List.append_assoc, opened, printable.unstyled_append, closed]

end Look

/-! ### The summary -/

namespace Summary

open Text (byte)

/-- Reads the name of a check and its counts off a line. -/
def read? (line : Text) : Option (Text × Summary) :=
  match Text.splitAtByte (byte ' ') (Text.unstyled line) with
  | [check, files, filesLabel, violations, violationsLabel, errors, errorsLabel] =>
    if check.getLast? = some (byte ':') ∧ filesLabel = "files," ∧ violationsLabel = "violations," ∧
        errorsLabel = "errors\n" then do
      return (check.dropLast, ⟨← files.toInt?, ← violations.toInt?, ← errors.toInt?⟩)
    else none
  | _ => none

theorem unstyled_styled {t : Text} (printable : t.IsPrintable) (colored : Bool) (look : Look) (rest : Text) :
    Text.unstyled ((if colored = true then look.apply t else t) ++ rest) = t ++ Text.unstyled rest := by
  cases colored with
  | false => exact printable.unstyled_append rest
  | true =>
    rw [if_pos rfl, look.apply_of_isPrintable printable]
    exact look.unstyled_line printable rest

/-- Without its codes the line is the same for every look. -/
theorem unstyled_summary_line (summary : Summary) {check : Text} (printable : check.IsPrintable) (colored : Bool) :
    Text.unstyled (summary.line check colored) =
      Text.join [byte ' '] [check ++ ":", Text.ofInt summary.files, "files,", Text.ofInt summary.violations,
        "violations,", Text.ofInt summary.errors, "errors\n"] := by
  have counted : ∀ (n : Int) (label : Text), label.IsPrintable → (Text.ofInt n ++ label).IsPrintable :=
    fun n label plain => (Text.isPrintable_ofInt n).append plain
  have colon : Text.IsPrintable ": " := by decide
  have comma : Text.IsPrintable ", " := by decide
  unfold line
  simp only [List.append_assoc]
  rw [unstyled_styled printable, colon.unstyled_append, unstyled_styled (counted _ _ (by decide)),
    comma.unstyled_append, unstyled_styled (counted _ _ (by decide)), comma.unstyled_append,
    unstyled_styled (counted _ _ (by decide))]
  simp only [Text.join, List.append_assoc]
  rfl

/-- The name of the check and the three counts stand on the line, in any look. -/
theorem read?_line (summary : Summary) {check : Text} (printable : check.IsPrintable) (word : byte ' ' ∉ check)
    (colored : Bool) : read? (summary.line check colored) = some (check, summary) := by
  have apart : ∀ piece ∈ [check ++ ":", Text.ofInt summary.files, "files,", Text.ofInt summary.violations,
      "violations,", Text.ofInt summary.errors, "errors\n"], byte ' ' ∉ piece := by
    have number : ∀ n, byte ' ' ∉ Text.ofInt n := Text.not_mem_ofInt (by decide)
    have name : byte ' ' ∉ check ++ ":" := by
      rw [List.mem_append, not_or]
      exact ⟨word, by decide⟩
    simp only [List.forall_mem_cons]
    exact ⟨name, number _, by decide, number _, by decide, number _, by decide, List.forall_mem_nil _⟩
  have last : (check ++ ":").getLast? = some (byte ':') := List.getLast?_concat
  have front : (check ++ ":").dropLast = check := List.dropLast_concat
  rw [read?, unstyled_summary_line summary printable, Text.splitAtByte_join (List.cons_ne_nil _ _) apart]
  simp only [last, front, Text.toInt?_ofInt, and_self, if_true]
  rfl

end Summary

end QualityGate
