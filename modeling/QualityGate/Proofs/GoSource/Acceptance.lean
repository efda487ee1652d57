import QualityGate.GoSource.File
import QualityGate.Proofs.GoSource.Lexemes

/-!
Masking hides no declaration of a source that has no fault. A reading that counts no fault does not depend on the account
of the faults, and the lexemes are those of the masked source; that one may have faults in its character literals, but none
of them stands where it would end the reading, up to the end of the package clause.
-/

namespace QualityGate.GoSource

/-! ### Readings without a fault -/

/-- A reading comes to its end without a fault, over so many lexemes at a time. -/
inductive Quietly (nodes : List Node) (s : State) : Progress → List Nat → Prop where
  | finished : Quietly nodes s (.finished nodes s) []
  | paused {resume : Unit → Progress} {counts : List Nat} (onward : Quietly nodes s (resume ()) counts) :
      Quietly nodes s (.paused resume) counts
  | taking {count : Nat} {resume : Unit → Progress} {counts : List Nat} (onward : Quietly nodes s (resume ()) counts) :
      Quietly nodes s (.taking count resume) (count :: counts)

variable {lines : LineTable} {a b : Account} {s t : State} {nodes : List Node} {counts : List Nat}

/-- Where there is a last fault, one has been counted. -/
def Account.Consistent (a : Account) : Prop := a.faults = 0 → a.lastFault = none

theorem Account.consistent_count (a : Account) (offset : Nat) : (a.count offset).Consistent := fun none =>
  absurd none (Nat.succ_ne_zero a.faults)

theorem Account.foldl_count (offsets : List Nat) (a : Account) :
    (offsets.foldl count a).faults = a.faults + offsets.length ∧ (offsets.foldl count a).ahead = a.ahead ∧
      (a.Consistent → (offsets.foldl count a).Consistent) := by
  induction offsets generalizing a with
  | nil => exact ⟨rfl, rfl, id⟩
  | cons offset offsets ih =>
    obtain ⟨faults, ahead, consistent⟩ := ih (a.count offset)
    rw [List.foldl_cons]
    refine ⟨?_, ahead, fun _ => consistent (consistent_count a offset)⟩
    have counted : (a.count offset).faults = a.faults + 1 := rfl
    rw [faults, List.length_cons]
    omega

theorem Account.take_mono (count : Nat) (a : Account) :
    a.faults ≤ (a.take count).faults ∧ (a.Consistent → (a.take count).Consistent) := by
  induction count generalizing a with
  | zero => exact ⟨Nat.le_refl _, id⟩
  | succ count ih =>
    unfold take
    split
    · exact ⟨Nat.le_refl _, id⟩
    next offsets ahead _ =>
      obtain ⟨faults, -, consistent⟩ := foldl_count offsets { a with ahead }
      obtain ⟨more, onward⟩ := ih (offsets.foldl Account.count { a with ahead })
      dsimp only at faults
      exact ⟨by omega, fun start => onward (consistent start)⟩

theorem Progress.faults_le_of_run {p : Progress} (run : p.run lines a = some (nodes, s, b)) : a.faults ≤ b.faults := by
  induction p generalizing a with
  | finished =>
    cases run
    exact Nat.le_refl _
  | abandoned => cases run
  | paused resume ih => exact ih () run
  | taking count resume ih => exact (a.take_mono count).1.trans (ih () run)
  | faulty position resume ih =>
    unfold Progress.run at run
    split at run
    · exact ih () run
    split at run
    · cases run
    · exact (Nat.le_succ _).trans (ih () run)

/-- A run that has counted nothing has met no fault. -/
theorem exists_quietly {p : Progress} (consistent : a.Consistent) (run : p.run lines a = some (nodes, s, b))
    (none : b.faults = 0) : (∃ counts, Quietly nodes s p counts) ∧ b.Consistent := by
  induction p generalizing a with
  | finished =>
    cases run
    exact ⟨⟨[], .finished⟩, consistent⟩
  | abandoned => cases run
  | paused resume ih =>
    obtain ⟨⟨counts, onward⟩, after⟩ := ih () consistent run
    exact ⟨⟨counts, .paused onward⟩, after⟩
  | taking count resume ih =>
    obtain ⟨⟨counts, onward⟩, after⟩ := ih () ((a.take_mono count).2 consistent) run
    exact ⟨⟨count :: counts, .taking onward⟩, after⟩
  | faulty position resume ih =>
    unfold Progress.run at run
    split at run
    next repeated =>
      have untouched : a.faults = 0 := Nat.le_zero.mp (none ▸ Progress.faults_le_of_run run)
      rw [consistent untouched] at repeated
      cases repeated
    split at run
    · cases run
    · have counted := Progress.faults_le_of_run run
      rw [none] at counted
      exact absurd counted (Nat.not_succ_le_zero _)

/-- What a reading without a fault comes to does not depend on the account. -/
theorem Quietly.run {p : Progress} (quietly : Quietly nodes s p counts) (lines : LineTable) (a : Account) :
    p.run lines a = some (nodes, s, counts.foldl (fun a count => a.take count) a) := by
  induction quietly generalizing a with
  | finished => rfl
  | paused _ ih => exact ih a
  | taking _ ih => exact ih (a.take _)

/-! ### The package clause -/

theorem Quietly.of_expect {wanted : Token} {after : Nat → State → Progress}
    (quietly : Quietly nodes t (expect wanted s after) counts) :
    s.token = wanted ∧ ∃ onward, counts = 1 :: onward ∧ Quietly nodes t (after s.position s.next) onward := by
  have unfolded : expect wanted s after = (if s.token ≠ wanted then do fault s.position; next; return s.position
    else do next; return s.position : Reading Nat) s after := rfl
  rw [unfolded] at quietly
  split at quietly
  · cases quietly
  next same =>
    cases quietly with
    | taking onward => exact ⟨not_not.mp same, _, rfl, onward⟩

theorem Quietly.of_readName {after : Node → State → Progress} (quietly : Quietly nodes t (readName s after) counts) :
    s.token = .identifier ∧ ∃ name onward, counts = 1 :: onward ∧ Quietly nodes t (after name s.next) onward := by
  have unfolded : readName s after = (if s.token = .identifier then do
      next
      return .mk (.identifier s.current.spelling) s.position s.current.stop []
    else do
      let _ ← expect .identifier
      return .mk (.identifier "_") s.position (s.position + 1) [] : Reading Node) s after := rfl
  rw [unfolded] at quietly
  split at quietly
  next identifier =>
    cases quietly with
    | taking onward => exact ⟨identifier, _, _, rfl, onward⟩
  next other => exact absurd quietly.of_expect.1 other

theorem Quietly.of_expectSemicolon {after : Unit → State → Progress}
    (quietly : Quietly nodes t (expectSemicolon s after) counts) :
    (∃ onward, s.token = .semicolon ∧ counts = 1 :: onward ∧ Quietly nodes t (after () s.next) onward) ∨
      (s.token = .rightParen ∨ s.token = .rightBrace) ∧ Quietly nodes t (after () s) counts := by
  obtain ⟨⟨token, _, _, _, _⟩, _⟩ := s
  cases token with
  | rightParen => exact .inr ⟨.inl rfl, quietly⟩
  | rightBrace => exact .inr ⟨.inr rfl, quietly⟩
  | semicolon =>
    cases quietly with
    | taking onward => exact .inl ⟨_, rfl, rfl, onward⟩
  | _ => cases quietly

/-- A package clause without a fault: the word, a name and the end, which is left out before a closing bracket. -/
theorem Quietly.of_readPackageClause (quietly : Quietly nodes t (readPackageClause s .finished) counts) :
    s.token = .keyword .kwPackage ∧ s.next.token = .identifier ∧
      (s.next.next.token = .semicolon ∧ t = s.next.next.next ∧ counts = [1, 1, 1] ∨
        (s.next.next.token = .rightParen ∨ s.next.next.token = .rightBrace) ∧ t = s.next.next ∧ counts = [1, 1]) := by
  obtain ⟨word, counts₁, rfl, named⟩ := Quietly.of_expect quietly
  obtain ⟨identifier, name, counts₂, rfl, ended⟩ := Quietly.of_readName named
  refine ⟨word, identifier, ?_⟩
  rcases ended.of_expectSemicolon with ⟨counts₃, semicolon, rfl, ends⟩ | ⟨bracket, ends⟩
  · cases ends
    exact .inl ⟨semicolon, rfl, rfl⟩
  · cases ends
    exact .inr ⟨bracket, rfl, rfl⟩

/-! ### What follows the package clause -/

theorem many_of_not {α : Type} {test : State → Bool} {item : Reading α} (unmet : test s = false)
    (after : List α → State → Progress) : many test item s after = after [] s := by
  have unfolded :
    many test item s after = whileReading test item s.loopBound [] s fun found => after found.reverse := rfl
  rw [unfolded]
  cases s.loopBound with
  | zero => rfl
  | succ fuel =>
    have unfolded : whileReading test item (fuel + 1) [] s = (if test s then do
        let found ← item
        (whileReading test item fuel [found]).later
      else return [] : Reading (List α)) s := rfl
    rw [unfolded, if_neg (by rw [unmet]; decide)]
    rfl

/-- No declaration begins with a character literal. -/
theorem Quietly.ne_character {self : Self} {after : List Node → State → Progress}
    (quietly : Quietly nodes t (readBody self s after) counts) : s.token ≠ .character := by
  intro character
  have unfolded : readBody self s after = many (·.token = .keyword .kwImport) (readGroup .kwImport readImport) s
    fun imports s => readLaterDeclarations self s.loopBound true [] s fun later => after (imports ++ later.reverse) := rfl
  rw [unfolded, many_of_not (by rw [character]; decide)] at quietly
  obtain ⟨fuel, bound⟩ : ∃ fuel, s.loopBound = fuel + 1 := ⟨16 * (s.size + 4) - 1, by unfold State.loopBound; omega⟩
  rw [bound] at quietly
  -- With the token known, the reading comes to its fault by computation.
  obtain ⟨⟨token, _, _, _, _⟩, _⟩ := s
  obtain rfl : token = .character := character
  cases quietly

/-! ### The account of the masked source -/

/-- The lexical faults that an account has ahead are in character literals. -/
def Aligned (s : State) (a : Account) : Prop :=
  List.Forall₂ (fun lexeme offsets => offsets ≠ [] → lexeme.token = .character) s.rest a.ahead

theorem Aligned.next (aligned : Aligned s a) (other : s.next.token ≠ .character) :
    Aligned s.next (a.take 1) ∧ (a.take 1).faults = a.faults := by
  unfold Aligned State.next Account.take at *
  match ahead : s.rest, ahead' : a.ahead, aligned with
  | [], [], _ =>
    refine ⟨?_, rfl⟩
    dsimp only
    rw [ahead, ahead']
    exact .nil
  | lexeme :: rest, offsets :: more, .cons first others =>
    rw [ahead] at other
    have clean : offsets = [] := not_not.mp (mt first other)
    subst clean
    exact ⟨others, rfl⟩

theorem aligned_initialState {lexemes masked : List Lexeme} (resembles : List.Forall₂ Resembles lexemes masked)
    (other : (initialState (lexemes.map Lexeme.faultless)).token ≠ .character) :
    Aligned (initialState (lexemes.map Lexeme.faultless)) (Account.ofLexemes masked) ∧
      (Account.ofLexemes masked).faults = 0 := by
  cases resembles with
  | nil => exact ⟨.nil, rfl⟩
  | @cons first first' others others' same rest =>
    have clean : first'.faults = [] := not_not.mp (mt same.faulty other)
    have account : Account.ofLexemes (first' :: others') = { ahead := others'.map (·.faults) } := by
      unfold Account.ofLexemes Account.take
      rw [List.map_cons]
      dsimp only
      rw [clean]
      rfl
    rw [account]
    refine ⟨?_, rfl⟩
    have faulty : List.Forall₂ (fun lexeme offsets => offsets ≠ [] → lexeme.token = .character)
        (others.map Lexeme.faultless) (others'.map (·.faults)) :=
      List.forall₂_map_left_iff.mpr (List.forall₂_map_right_iff.mpr (rest.imp fun _ _ same => same.faulty))
    exact faulty

theorem map_faultless_eq {lexemes masked : List Lexeme} (resembles : List.Forall₂ Resembles lexemes masked) :
    masked.map Lexeme.faultless = lexemes.map Lexeme.faultless := by
  induction resembles with
  | nil => rfl
  | cons first _ ih => rw [List.map_cons, List.map_cons, first.same, ih]

/-! ### Whole files -/

theorem readDeclarations_eq_some_iff {lexemes : List Lexeme} {faults : Nat} :
    readDeclarations lines lexemes = some (nodes, faults) ↔
      (Account.ofLexemes lexemes).faults = 0 ∧ ∃ found s after t last,
        (readPackageClause (initialState (lexemes.map Lexeme.faultless)) .finished).run lines
            (Account.ofLexemes lexemes) = some (found, s, after) ∧ after.faults = 0 ∧
        (readBody (readings (depthBound lexemes.length)) s .finished).run lines after = some (nodes, t, last) ∧
        last.faults = faults := by
  have passed : ∀ {condition : Prop} [Decidable condition], (guard condition : Option Unit) = some () ↔ condition := by
    intro condition _
    unfold guard
    split <;> simp_all
  constructor
  · intro read
    obtain ⟨⟨⟩, start, read⟩ := Option.bind_eq_some_iff.mp read
    obtain ⟨⟨found, s, after⟩, clause, read⟩ := Option.bind_eq_some_iff.mp read
    obtain ⟨⟨⟩, unfaulted, read⟩ := Option.bind_eq_some_iff.mp read
    obtain ⟨⟨declarations, t, last⟩, body, read⟩ := Option.bind_eq_some_iff.mp read
    cases read
    exact ⟨passed.mp start, found, s, after, t, last, clause, passed.mp unfaulted, body, rfl⟩
  · rintro ⟨start, found, s, after, t, last, clause, unfaulted, body, rfl⟩
    refine Option.bind_eq_some_iff.mpr ⟨(), passed.mpr start, ?_⟩
    refine Option.bind_eq_some_iff.mpr ⟨_, clause, ?_⟩
    refine Option.bind_eq_some_iff.mpr ⟨(), passed.mpr unfaulted, ?_⟩
    exact Option.bind_eq_some_iff.mpr ⟨_, body, rfl⟩

theorem exists_quietly_of_readDeclarations {lexemes : List Lexeme}
    (read : readDeclarations lines lexemes = some (nodes, 0)) :
    ∃ s, (∃ found counts,
        Quietly found s (readPackageClause (initialState (lexemes.map Lexeme.faultless)) .finished) counts) ∧
      ∃ t counts, Quietly nodes t (readBody (readings (depthBound lexemes.length)) s .finished) counts := by
  have consistent : (Account.ofLexemes lexemes).Consistent := (Account.take_mono 1 _).2 fun _ => rfl
  obtain ⟨-, found, s, after, t, last, clause, unfaulted, body, counted⟩ := readDeclarations_eq_some_iff.mp read
  obtain ⟨⟨counts, quietly⟩, consistent'⟩ := exists_quietly consistent clause unfaulted
  obtain ⟨⟨counts', quietly'⟩, -⟩ := exists_quietly consistent' body counted
  exact ⟨s, ⟨found, counts, quietly⟩, t, counts', quietly'⟩

/-- A file that is read without counting a fault is read alike from lexemes that resemble its own. -/
theorem readDeclarations_of_resembles {lexemes masked : List Lexeme} (resembles : List.Forall₂ Resembles lexemes masked)
    (read : readDeclarations lines lexemes = some (nodes, 0)) (lines' : LineTable) :
    ∃ faults, readDeclarations lines' masked = some (nodes, faults) := by
  obtain ⟨s, ⟨found, counts, clause⟩, t, counts', body⟩ := exists_quietly_of_readDeclarations read
  obtain ⟨word, name, ends⟩ := clause.of_readPackageClause
  obtain ⟨first, start⟩ := aligned_initialState resembles (by rw [word]; decide)
  obtain ⟨second, counted⟩ := first.next (by rw [name]; decide)
  have unfaulted : (counts.foldl (fun a count => a.take count) (Account.ofLexemes masked)).faults = 0 := by
    rcases ends with ⟨semicolon, rfl, rfl⟩ | ⟨bracket, rfl, rfl⟩
    · obtain ⟨third, counted'⟩ := second.next (by rw [semicolon]; decide)
      obtain ⟨-, counted''⟩ := third.next body.ne_character
      exact counted''.trans (counted'.trans (counted.trans start))
    · obtain ⟨-, counted'⟩ := second.next body.ne_character
      exact counted'.trans (counted.trans start)
  have clause' := clause.run lines' (Account.ofLexemes masked)
  have body' := body.run lines' (counts.foldl (fun a count => a.take count) (Account.ofLexemes masked))
  rw [← map_faultless_eq resembles] at clause'
  rw [resembles.length_eq] at body'
  exact ⟨_, readDeclarations_eq_some_iff.mpr ⟨start, found, s, _, t, _, clause', unfaulted, body', rfl⟩⟩

/-- Whether a source has no fault, neither in a lexeme nor of syntax. -/
def isAccepted (text : Text) : Bool :=
  let (lexemes, lines) := lexemes text
  lexemes.all (·.faults.isEmpty) && (readDeclarations lines lexemes).any (·.2 = 0)

theorem isAccepted_iff {text : Text} : isAccepted text = true ↔
    (∀ lexeme ∈ (lexemes text).1, lexeme.faults = []) ∧
      ∃ nodes, readDeclarations (lexemes text).2 (lexemes text).1 = some (nodes, 0) := by
  simp [isAccepted, Option.any_eq_true]

theorem parse_mask {text : Text} (accepted : isAccepted text = true) : parse (Language.go.mask text) = parse text := by
  obtain ⟨faultless, nodes, read⟩ := isAccepted_iff.mp accepted
  obtain ⟨faults, masked⟩ := readDeclarations_of_resembles (forall₂_lexemes_mask faultless) read
    (lexemes (Language.go.mask text)).2
  unfold parse
  dsimp only
  rw [read, masked]
  rfl

/-- Masking hides no declaration of a source without a fault, and moves none: types and methods are found with the same
names, in the same places. -/
theorem declarations_mask {text : Text} (accepted : isAccepted text = true) :
    Language.go.declarations (Language.go.mask text) = Language.go.declarations text := by
  show declarations (Language.go.mask text) = declarations text
  rw [declarations, declarations, parse_mask accepted]

/-- A source with two comments and an escaped character, which is no longer without a fault after masking. -/
theorem declarations_mask_escape :
    let text : Text :=
      "package p // c\ntype T struct\x7b\x7d\n/* two\nlines */ func (t T) m() rune \x7b return '\\n' \x7d"
    isAccepted text = true ∧ isAccepted (Language.go.mask text) = false ∧
      Language.go.declarations (Language.go.mask text) = Language.go.declarations text ∧
      Language.go.declarations text = ⟨[⟨"struct", "T", 20⟩], [⟨"method", "m", 47, 67, "T", false⟩]⟩ := by
  intro text
  have accepted : isAccepted text = true := by decide +kernel
  exact ⟨accepted, by decide +kernel, declarations_mask accepted, by decide +kernel⟩

end QualityGate.GoSource
