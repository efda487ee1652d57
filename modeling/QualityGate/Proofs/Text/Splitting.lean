import QualityGate.Text.Basic

/-!
Splitting undoes joining: a text that is put together from pieces falls into the same pieces again, as long as none of
them holds the byte that it is split at. Lines and words are read off texts in this way.
-/

namespace QualityGate.Text

theorem splitAtByte_ne_nil (b : UInt8) (t : Text) : splitAtByte b t ≠ [] := by
  cases t with
  | nil => exact nofun
  | cons c rest =>
    rw [splitAtByte]
    split
    · exact nofun
    · split <;> exact nofun

theorem splitAtByte_append (b : UInt8) (s t : Text) :
    splitAtByte b (s ++ b :: t) = splitAtByte b s ++ splitAtByte b t := by
  induction s with
  | nil => simp [splitAtByte]
  | cons c rest ih =>
    rw [List.cons_append, splitAtByte, splitAtByte, ih]
    split
    · rfl
    · cases pieces : splitAtByte b rest with
      | nil => exact absurd pieces (splitAtByte_ne_nil b rest)
      | cons piece more => rfl

theorem splitAtByte_of_not_mem {b : UInt8} {t : Text} (absent : b ∉ t) : splitAtByte b t = [t] := by
  induction t with
  | nil => rfl
  | cons c rest ih =>
    rw [List.mem_cons, not_or] at absent
    rw [splitAtByte, if_neg (Ne.symm absent.1), ih absent.2]

theorem join_concat (separator : Text) {pieces : List Text} (nonempty : pieces ≠ []) (last : Text) :
    join separator (pieces ++ [last]) = join separator pieces ++ separator ++ last := by
  induction pieces with
  | nil => exact absurd rfl nonempty
  | cons first rest ih =>
    cases rest with
    | nil => simp [join]
    | cons second rest =>
      have inner := ih (List.cons_ne_nil _ _)
      simp only [List.cons_append, join, List.append_assoc] at inner ⊢
      rw [inner]

theorem mem_join {b : UInt8} {separator : Text} {pieces : List Text} (member : b ∈ join separator pieces) :
    b ∈ separator ∨ ∃ piece ∈ pieces, b ∈ piece := by
  induction pieces with
  | nil => cases member
  | cons first rest ih =>
    cases rest with
    | nil => exact .inr ⟨first, List.mem_cons_self, member⟩
    | cons second rest =>
      simp only [join, List.mem_append] at member
      rcases member with (inFirst | between) | inRest
      · exact .inr ⟨first, List.mem_cons_self, inFirst⟩
      · exact .inl between
      · rcases ih inRest with between | ⟨piece, later, inPiece⟩
        · exact .inl between
        · exact .inr ⟨piece, List.mem_cons_of_mem _ later, inPiece⟩

theorem join_append (separator : Text) {pieces other : List Text} (some : pieces ≠ []) (some' : other ≠ []) :
    join separator (pieces ++ other) = join separator pieces ++ separator ++ join separator other := by
  induction pieces with
  | nil => exact absurd rfl some
  | cons piece rest ih =>
    obtain ⟨first, other, rfl⟩ := List.exists_cons_of_ne_nil some'
    cases rest with
    | nil => simp [join]
    | cons next rest =>
      have inner := ih (List.cons_ne_nil _ _)
      simp only [List.cons_append, join, List.append_assoc] at inner ⊢
      rw [inner]

theorem not_mem_of_mem_splitAtByte {b : UInt8} {t piece : Text} (member : piece ∈ splitAtByte b t) : b ∉ piece := by
  induction t generalizing piece with
  | nil =>
    obtain rfl := List.mem_singleton.mp member
    exact List.not_mem_nil
  | cons c rest ih =>
    rw [splitAtByte] at member
    split at member
    next =>
      rcases List.mem_cons.mp member with rfl | member
      · exact List.not_mem_nil
      · exact ih member
    next different =>
      have first : ∀ piece : Text, b ∉ piece → b ∉ c :: piece := fun piece absent there =>
        (List.mem_cons.mp there).elim (fun same => different same.symm) absent
      split at member
      next =>
        obtain rfl := List.mem_singleton.mp member
        exact first [] List.not_mem_nil
      next piece pieces split =>
        rw [split] at ih
        rcases List.mem_cons.mp member with rfl | member
        · exact first piece (ih List.mem_cons_self)
        · exact ih (.tail _ member)

theorem splitAtByte_join {b : UInt8} {pieces : List Text} (some : pieces ≠ []) (apart : ∀ piece ∈ pieces, b ∉ piece) :
    splitAtByte b (join [b] pieces) = pieces := by
  induction pieces with
  | nil => exact absurd rfl some
  | cons piece rest ih =>
    rw [List.forall_mem_cons] at apart
    cases rest with
    | nil => exact splitAtByte_of_not_mem apart.1
    | cons next rest =>
      have joined : join [b] (piece :: next :: rest) = piece ++ b :: join [b] (next :: rest) := by
        simp only [join, List.append_assoc, List.singleton_append]
      rw [joined, splitAtByte_append, splitAtByte_of_not_mem apart.1, ih (List.cons_ne_nil _ _) apart.2]
      rfl

/-! ### Lines -/

def terminated (lines : List Text) : Text := lines.flatMap (· ++ [byte '\n'])

@[simp] theorem terminated_nil : terminated [] = [] := rfl

@[simp] theorem terminated_cons (line : Text) (lines : List Text) :
    terminated (line :: lines) = line ++ byte '\n' :: terminated lines := by
  simp [terminated]

@[simp] theorem terminated_append (lines more : List Text) :
    terminated (lines ++ more) = terminated lines ++ terminated more := List.flatMap_append

theorem terminated_flatMap {α : Type} (lines : α → List Text) (items : List α) :
    terminated (items.flatMap lines) = items.flatMap fun item => terminated (lines item) := List.flatMap_assoc

theorem splitAtByte_terminated {lines : List Text} (whole : ∀ line ∈ lines, byte '\n' ∉ line) :
    splitAtByte (byte '\n') (terminated lines) = lines ++ [[]] := by
  induction lines with
  | nil => rfl
  | cons line rest ih =>
    rw [List.forall_mem_cons] at whole
    rw [terminated_cons, splitAtByte_append, splitAtByte_of_not_mem whole.1, ih whole.2]
    rfl

/-! ### Words -/

def words (t : Text) : List Text := (splitAtByte (byte ' ') t).filter (!·.isEmpty)

theorem words_append (s t : Text) : words (s ++ byte ' ' :: t) = words s ++ words t := by
  rw [words, splitAtByte_append, List.filter_append]
  rfl

theorem words_space (t : Text) : words (byte ' ' :: t) = words t := words_append [] t

theorem words_of_not_mem {t : Text} (some : t ≠ []) (one : byte ' ' ∉ t) : words t = [t] := by
  rw [words, splitAtByte_of_not_mem one]
  simp [some]

theorem words_spaces_append (n : Nat) (t : Text) : words (spaces n ++ t) = words t := by
  induction n with
  | zero => rfl
  | succ n ih =>
    rw [spaces, List.replicate_succ, List.cons_append, words_space]
    exact ih

theorem words_append_spaces (t : Text) (n : Nat) : words (t ++ spaces n) = words t := by
  cases n with
  | zero => exact congrArg words (List.append_nil t)
  | succ n =>
    have blank := words_spaces_append n []
    rw [List.append_nil] at blank
    rw [spaces, List.replicate_succ, words_append]
    exact (congrArg (words t ++ ·) blank).trans (List.append_nil _)

theorem words_flatten {pieces : List Text} (spaced : ∀ piece ∈ pieces, ∃ t, piece = byte ' ' :: t) :
    words pieces.flatten = pieces.flatMap words := by
  induction pieces with
  | nil => rfl
  | cons piece rest ih =>
    rw [List.forall_mem_cons] at spaced
    rw [List.flatten_cons, List.flatMap_cons, ← ih spaced.2]
    cases rest with
    | nil => exact (congrArg words (List.append_nil piece)).trans (List.append_nil _).symm
    | cons next rest =>
      obtain ⟨t, rfl⟩ := spaced.2 next List.mem_cons_self
      rw [List.flatten_cons, List.cons_append, words_append, words_space]

end QualityGate.Text
