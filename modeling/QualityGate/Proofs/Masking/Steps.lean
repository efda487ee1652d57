import QualityGate.Masking.Basic

/-!
Masking goes step by step: a step takes some bytes from the front, writes them kept or blanked, and the rest is masked
in the state after it. `maskIn_step` is this rule; what each state does is then a matter of its first step.
-/

namespace QualityGate.Masking

open Text (byte doubleQuote singleQuote backquote backslash)

def maskIn (rules : Rules) (state : State) (text : Text) : Text := maskFrom rules state 0 true text

theorem mask_eq_maskIn (rules : Rules) (text : Text) : mask rules text = maskIn rules .code text := rfl

@[simp] theorem maskIn_nil (rules : Rules) (state : State) : maskIn rules state [] = [] := rfl

@[simp] theorem map_write_true (text : Text) : text.map (write true) = text := by
  have same : write true = id := funext fun _ => rfl
  rw [same, List.map_id]

@[simp] theorem map_write_false (text : Text) : text.map (write false) = text.map blank := rfl

theorem maskFrom_zero (rules : Rules) (state : State) (keeps : Bool) (text : Text) :
    maskFrom rules state 0 keeps text = maskIn rules state text := by
  cases text <;> rfl

theorem maskFrom_pending (rules : Rules) (state : State) (keeps : Bool) (taken rest : Text) :
    maskFrom rules state taken.length keeps (taken ++ rest) = taken.map (write keeps) ++ maskIn rules state rest := by
  induction taken with
  | nil => exact maskFrom_zero rules state keeps rest
  | cons b taken ih => simp only [List.length_cons, List.cons_append, maskFrom, ih, List.map_cons]

theorem maskIn_step {rules : Rules} {state next : State} {keeps : Bool} {b : UInt8} (taken : Text)
    {rest : Text} (stepped : step rules state (b :: (taken ++ rest)) = ⟨taken.length + 1, keeps, next⟩) :
    maskIn rules state (b :: (taken ++ rest)) = (b :: taken).map (write keeps) ++ maskIn rules next rest := by
  simp only [maskIn, maskFrom, stepped, Nat.add_sub_cancel, maskFrom_pending, List.map_cons, List.cons_append]

theorem maskIn_keep {rules : Rules} {state next : State} {b : UInt8} {rest : Text}
    (stepped : step rules state (b :: rest) = ⟨1, true, next⟩) :
    maskIn rules state (b :: rest) = b :: maskIn rules next rest :=
  maskIn_step [] stepped

theorem maskIn_blank {rules : Rules} {state next : State} {b : UInt8} {rest : Text}
    (stepped : step rules state (b :: rest) = ⟨1, false, next⟩) :
    maskIn rules state (b :: rest) = blank b :: maskIn rules next rest :=
  maskIn_step [] stepped

theorem maskIn_pair {rules : Rules} {state next : State} {keeps : Bool} {a b : UInt8} {rest : Text}
    (stepped : step rules state (a :: b :: rest) = ⟨2, keeps, next⟩) :
    maskIn rules state (a :: b :: rest) = write keeps a :: write keeps b :: maskIn rules next rest :=
  maskIn_step [b] stepped

/-! ### Runs of quotes -/

theorem quoteRun_quote (text : Text) : quoteRun (doubleQuote :: text) = quoteRun text + 1 := by
  simp [quoteRun]

theorem quoteRun_eq_zero {text : Text} (other : text.head? ≠ some doubleQuote) : quoteRun text = 0 := by
  cases text with
  | nil => rfl
  | cons b rest =>
    have different : b ≠ doubleQuote := fun same => other (by rw [same, List.head?_cons])
    simp [quoteRun, different]

theorem quoteRun_replicate (count : Nat) {rest : Text} (other : rest.head? ≠ some doubleQuote) :
    quoteRun (List.replicate count doubleQuote ++ rest) = count := by
  induction count with
  | zero => exact quoteRun_eq_zero other
  | succ count ih => rw [List.replicate_succ, List.cons_append, quoteRun_quote, ih]

theorem replicate_prefix_iff (count : Nat) (text : Text) :
    List.replicate count doubleQuote <+: text ↔ count ≤ quoteRun text := by
  induction count generalizing text with
  | zero => simp
  | succ count ih =>
    cases text with
    | nil => simp [quoteRun]
    | cons b rest =>
      rw [List.replicate_succ, List.cons_prefix_cons, ih]
      by_cases quote : b = doubleQuote
      · rw [quote, quoteRun_quote, Nat.add_le_add_iff_right, and_iff_right rfl]
      · have none : quoteRun (b :: rest) = 0 := quoteRun_eq_zero (by simpa using quote)
        simp [none, Ne.symm quote]

theorem startsTextBlock_iff (text : Text) : startsTextBlock text = true ↔ 3 ≤ quoteRun text := by
  rw [startsTextBlock, Text.startsWith, List.isPrefixOf_iff_prefix, replicate_prefix_iff]

/-! ### Bytes without a meaning -/

/-- Whether a state is one that masking comes to: a literal on one line is between double or single quotes. -/
def State.Proper : State → Prop
  | .quoted quote => quote = doubleQuote ∨ quote = singleQuote
  | _ => True

theorem proper_step (rules : Rules) {state : State} (proper : state.Proper) (text : Text) :
    (step rules state text).next.Proper := by
  cases state with
  | code =>
    simp only [step, enter]
    repeat' split
    all_goals simp [State.Proper]
  | quoted quote =>
    simp only [step]
    split
    · exact proper
    split
    · trivial
    · exact proper
  | _ =>
    simp only [step]
    repeat' split
    all_goals trivial

/-- The bytes that masking looks for, the line break apart. -/
def marks : List UInt8 := [byte '/', byte '*', byte '@', doubleQuote, singleQuote, backquote, backslash]

theorem ascii_of_mem_marks {b : UInt8} (mark : b ∈ marks) : 0 < b.toNat ∧ b.toNat < 0x80 := by
  simp only [marks, List.mem_cons, List.not_mem_nil, or_false] at mark
  rcases mark with rfl | rfl | rfl | rfl | rfl | rfl | rfl <;> decide

/-- Any other byte stands for itself: it is kept in code and blanked elsewhere. So does a line break, unless it ends a
comment or a literal. -/
theorem step_plain {rules : Rules} {state : State} (proper : state.Proper) {b : UInt8} (plain : b ∉ marks)
    (inside : b = byte '\n' → state ≠ .lineComment ∧ ∀ quote, state ≠ .quoted quote) (rest : Text) :
    step rules state (b :: rest) = ⟨1, state = .code, state⟩ := by
  simp only [marks, List.mem_cons, List.not_mem_nil, or_false, not_or] at plain
  obtain ⟨slash, star, sign, quote, single, back, escape⟩ := plain
  have run : quoteRun (b :: rest) = 0 := quoteRun_eq_zero (by simpa using quote)
  have block : startsTextBlock (b :: rest) = false := by
    rw [← Bool.not_eq_true, startsTextBlock_iff, run]
    decide
  cases state with
  | code => simp [step, enter, slash, run, block, sign, quote, single, back]
  | lineComment =>
    have newline : b ≠ byte '\n' := fun same => (inside same).1 rfl
    simp [step, newline]
  | blockComment => simp [step, star]
  | quoted delimiter =>
    have newline : b ≠ byte '\n' := fun same => (inside same).2 delimiter rfl
    have apart : b ≠ delimiter := by
      rcases proper with rfl | rfl
      · exact quote
      · exact single
    simp [step, escape, apart, newline]
  | verbatim => simp [step, quote]
  | textBlock => simp [step, block, escape]
  | rawQuoted quotes => simp [step, quote]
  | backquoted => simp [step, back]

end QualityGate.Masking
