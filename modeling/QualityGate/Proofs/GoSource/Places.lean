import QualityGate.Proofs.GoSource.Acceptance
import QualityGate.Proofs.GoSource.Placement.Statements

/-!
Every declaration found in a source lies in it. A cursor never loses sight of the end of the text (`Cursor.ending`), so
a lexeme starts in the text, and the trees are placed within the lexemes they were read from (`within_parse`). Types
and methods thus start in the text, and the receiver of a method is the name that its receiver type is built on
(`mem_types`, `mem_methods`).
-/

namespace QualityGate.GoSource

/-! ### Cursors -/

namespace Cursor

/-- Where the text ends, seen from a cursor. -/
def ending (c : Cursor) : Nat := c.offset + c.rest.length

theorem offset_le_ending (c : Cursor) : c.offset ≤ c.ending := Nat.le_add_right _ _

@[simp] theorem ending_fault (c : Cursor) (offset : Nat) : (c.fault offset).ending = c.ending := rfl

@[simp] theorem ending_faultless (c : Cursor) : c.faultless.ending = c.ending := rfl

@[simp] theorem ending_step (c : Cursor) : c.step.ending = c.ending := by
  have inside := Text.length_take_front c.rest
  rw [List.length_take] at inside
  unfold ending
  rw [offset_step, rest_step, List.length_drop]
  omega

@[simp] theorem ending_ite (condition : Prop) [Decidable condition] (c d : Cursor) :
    (if condition then c else d).ending = if condition then c.ending else d.ending := apply_ite ending condition c d

@[simp] theorem ending_skipWhile (test : Char → Bool) (fuel : Nat) (c : Cursor) :
    (skipWhile test fuel c).ending = c.ending := by
  induction fuel generalizing c with
  | zero => rfl
  | succ fuel ih => simp [skipWhile, ih]

@[simp] theorem ending_skip (c : Cursor) (test : Char → Bool) : (c.skip test).ending = c.ending :=
  ending_skipWhile test c.bound c

theorem ending_ofText (text : Text) : (ofText text).pastMark.ending = text.length := by
  have start : (ofText text).ending = text.length := by simp [ofText, ending]
  simp [pastMark, start]

end Cursor

/-! ### Tokens -/

@[simp] theorem ending_readDigits (base fuel : Nat) (digits : Digits) (c : Cursor) :
    (readDigits base fuel digits c).2.ending = c.ending := by
  induction fuel generalizing digits c with
  | zero => rfl
  | succ fuel ih =>
    unfold readDigits
    repeat' split
    all_goals simp [ih]

@[simp] theorem ending_readRadix (c : Cursor) : (readRadix c).2.ending = c.ending := by
  unfold readRadix
  dsimp only
  repeat' split
  all_goals simp

theorem ending_readExponent {start : Nat} {radix : Radix} {c : Cursor} {digits : Digits} {after : Cursor}
    (found : readExponent start radix c = some (digits, after)) : after.ending = c.ending := by
  unfold readExponent at found
  dsimp only at found
  split at found
  · cases found
    simp
  · cases found

@[simp] theorem ending_readMantissa (radix : Radix) (fromPoint : Bool) (c : Cursor) :
    (readMantissa radix fromPoint c).2.ending = c.ending := by
  unfold readMantissa
  dsimp only
  repeat' split
  all_goals simp

@[simp] theorem ending_readScale (start : Nat) (radix : Radix) (digits : Digits) (isFraction : Bool) (c : Cursor) :
    (readScale start radix digits isFraction c).2.ending = c.ending := by
  unfold readScale
  split
  next exponent after found => exact ending_readExponent found
  · simp

@[simp] theorem ending_readImaginary (token : Token) (c : Cursor) : (readImaginary token c).2.ending = c.ending := by
  unfold readImaginary
  split
  · exact Cursor.ending_step c
  · rfl

@[simp] theorem ending_checkNumber (start : Nat) (radix : Radix) (tooLarge : Option Nat) (underscore : Bool)
    (token : Token) (spelling : Text) (c : Cursor) :
    (checkNumber start radix tooLarge underscore token spelling c).ending = c.ending := by
  unfold checkNumber
  dsimp only
  cases tooLarge <;> simp

@[simp] theorem ending_readNumber (c : Cursor) : (readNumber c).2.ending = c.ending := by
  cases point : c.at? '.' <;> simp [readNumber, point]

@[simp] theorem ending_readEscapeDigits (base count value : Nat) (c : Cursor) :
    (readEscapeDigits base count value c).2.ending = c.ending := by
  induction count generalizing value c with
  | zero => rfl
  | succ count ih =>
    unfold readEscapeDigits
    dsimp only
    split
    · rfl
    · simp [ih]

@[simp] theorem ending_readNumericEscape (start count base limit : Nat) (c : Cursor) :
    (readNumericEscape start count base limit c).2.ending = c.ending := by
  have digits := ending_readEscapeDigits base count 0 c
  unfold readNumericEscape
  split
  next after read => rwa [read] at digits
  next value after read =>
    rw [read] at digits
    split <;> exact digits

@[simp] theorem ending_readEscape (quote : Char) (c : Cursor) : (readEscape quote c).2.ending = c.ending := by
  unfold readEscape
  repeat' split
  all_goals simp

@[simp] theorem ending_readCharacter (start fuel : Nat) (valid : Bool) (count : Nat) (c : Cursor) :
    (readCharacter start fuel valid count c).ending = c.ending := by
  induction fuel generalizing valid count c with
  | zero => rfl
  | succ fuel ih =>
    unfold readCharacter
    dsimp only
    repeat' split
    all_goals simp [ih]

@[simp] theorem ending_readString (start fuel : Nat) (c : Cursor) : (readString start fuel c).ending = c.ending := by
  induction fuel generalizing c with
  | zero => rfl
  | succ fuel ih =>
    unfold readString
    repeat' split
    all_goals simp [ih]

@[simp] theorem ending_readRawString (start : Nat) (c : Cursor) : (readRawString start c).ending = c.ending := by
  unfold readRawString
  dsimp only
  split <;> simp

@[simp] theorem ending_read (operator : Operator) (c : Cursor) : (operator.read c).2.ending = c.ending := by
  induction operator generalizing c with
  | just token => rfl
  | ifNext next longer shorter longerKept shorterKept =>
    unfold Operator.read
    split
    · simp [longerKept]
    · exact shorterKept c

theorem ending_readOperator? {ch : Char} {c : Cursor} {found : Token × Cursor}
    (read : readOperator? ch c = some found) : found.2.ending = c.ending := by
  unfold readOperator? at read
  split at read
  · cases read
    unfold readPeriods
    split <;> simp
  · obtain ⟨operator, -, rfl⟩ := Option.map_eq_some_iff.mp read
    exact ending_read operator c

@[simp] theorem ending_readToken (c : Cursor) (ch : Char) : (readToken c ch).2.ending = c.ending := by
  unfold readToken
  split
  · dsimp only
    split <;> simp
  split
  · simp
  split
  · simp
  split
  · simp
  split
  · simp
  split
  next found read => exact (ending_readOperator? read).trans (Cursor.ending_step c)
  · simp

/-! ### Comments -/

theorem ending_readBlockComment (fuel : Nat) (lineBreak : Option Nat) (c : Cursor) :
    (readBlockComment fuel lineBreak c).2.2.ending = c.ending ∧
      ((∀ place ∈ lineBreak, place ≤ c.ending) →
        ∀ place ∈ (readBlockComment fuel lineBreak c).2.1, place ≤ c.ending) := by
  induction fuel generalizing lineBreak c with
  | zero => exact ⟨rfl, id⟩
  | succ fuel ih =>
    unfold readBlockComment
    split
    · exact ⟨rfl, id⟩
    next ch seen =>
      have breaks : (∀ place ∈ lineBreak, place ≤ c.ending) →
          ∀ place ∈ (if ch = '\n' ∧ lineBreak.isNone then some c.offset else lineBreak), place ≤ c.ending := by
        intro earlier place found
        split at found
        · cases found
          exact c.offset_le_ending
        · exact earlier place found
      dsimp only
      split
      · exact ⟨by simp, breaks⟩
      · obtain ⟨kept, inside⟩ := ih (if ch = '\n' ∧ lineBreak.isNone then some c.offset else lineBreak) c.step
        rw [Cursor.ending_step] at kept inside
        exact ⟨kept, fun earlier => inside (breaks earlier)⟩

theorem ending_readCommentBody (c : Cursor) :
    (readCommentBody c).2.2.ending = c.ending ∧ ∀ place ∈ (readCommentBody c).2.1, place ≤ c.ending := by
  unfold readCommentBody
  split
  · exact ⟨by simp, by simp⟩
  · obtain ⟨kept, inside⟩ := ending_readBlockComment c.bound none c.step.step
    rw [Cursor.ending_step, Cursor.ending_step] at kept inside
    exact ⟨kept, inside (by simp)⟩

@[simp] theorem ending_readDirective (size effect offset : Nat) (t : Text) (c : Cursor) :
    (readDirective size effect offset t c).ending = c.ending := by
  rcases readDirective_cases size effect offset t c with ⟨directives, same⟩ | ⟨position, same⟩ <;> rw [same] <;> rfl

theorem ending_readComment (size : Nat) (c : Cursor) :
    (readComment size c).2.ending = c.ending ∧ ∀ place ∈ (readComment size c).1, place ≤ c.ending := by
  obtain ⟨kept, inside⟩ := ending_readCommentBody c
  unfold readComment
  dsimp only
  repeat' split
  all_goals exact ⟨by simp [kept], inside⟩

/-! ### Lexemes -/

theorem ending_readLexeme (size fuel : Nat) (armed : Bool) (c : Cursor) :
    (readLexeme size fuel armed c).2.2.ending = c.ending ∧ (readLexeme size fuel armed c).1.start ≤ c.ending := by
  induction fuel generalizing armed c with
  | zero => exact ⟨rfl, c.offset_le_ending⟩
  | succ fuel ih =>
    have gap : (c.skip (isGap armed)).ending = c.ending := Cursor.ending_skip c _
    have here := (c.skip (isGap armed)).offset_le_ending
    rw [gap] at here
    unfold readLexeme
    dsimp only
    generalize c.skip (isGap armed) = start at gap here
    split
    · split <;> exact ⟨gap, here⟩
    split
    · exact ⟨by simp [gap], here⟩
    split
    · obtain ⟨kept, inside⟩ := ending_readComment size start
      split
      next lineBreak after read =>
        rw [read] at kept inside
        split
        · exact ⟨kept.trans gap, gap ▸ inside lineBreak rfl⟩
        · rw [← gap, ← kept]
          exact ih armed after
      next after read =>
        rw [read] at kept
        rw [← gap, ← kept]
        exact ih armed after
    · exact ⟨by simp [gap], here⟩

theorem start_le_of_mem_readLexemes (size fuel : Nat) (armed : Bool) {found : List Lexeme} {c : Cursor} {bound : Nat}
    (ending : c.ending = bound) (placed : ∀ lexeme ∈ found, lexeme.start ≤ bound) :
    ∀ lexeme ∈ (readLexemes size fuel armed found c).1, lexeme.start ≤ bound := by
  induction fuel generalizing armed found c with
  | zero => exact placed
  | succ fuel ih =>
    obtain ⟨kept, start⟩ := ending_readLexeme size c.bound armed c
    have more := List.forall_mem_cons.mpr ⟨ending ▸ start, placed⟩
    unfold readLexemes
    dsimp only
    split
    · exact more
    · exact ih _ (kept.trans ending) more

theorem start_le_of_mem_lexemes (text : Text) : ∀ lexeme ∈ (lexemes text).1, lexeme.start ≤ text.length := by
  intro lexeme member
  have found : lexeme ∈ (readLexemes text.length (2 * text.length + 3) false [] (Cursor.ofText text).pastMark).1 :=
    List.mem_reverse.mp member
  exact start_le_of_mem_readLexemes _ _ _ (Cursor.ending_ofText text) (List.forall_mem_nil _) lexeme found

/-! ### Trees -/

open Placed (Within)

theorem within_initialState {bound : Nat} {lexemes : List Lexeme} (placed : ∀ lexeme ∈ lexemes, lexeme.start ≤ bound) :
    Within bound (initialState (lexemes.map Lexeme.faultless)) := by
  cases lexemes with
  | nil => exact ⟨Nat.zero_le bound, List.forall_mem_nil _⟩
  | cons first rest =>
    rw [List.forall_mem_cons] at placed
    exact ⟨placed.1, List.forall_mem_map.mpr placed.2⟩

/-- The trees of a file are placed in its text. -/
theorem within_parse (text : Text) : Within text.length (parse text) := by
  unfold parse
  dsimp only
  cases read : readDeclarations (lexemes text).2 (lexemes text).1 with
  | none => exact within_nil
  | some found =>
    obtain ⟨nodes, faults⟩ := found
    obtain ⟨-, _, s, _, _, _, clause, -, body, -⟩ := readDeclarations_eq_some_iff.mp read
    have start := within_initialState (start_le_of_mem_lexemes text)
    have opened := Gives.readPackageClause _ .finished start fun _ _ placed placed' => ⟨placed, placed'⟩
    have after := (opened.of_run clause).2
    have placed := isPlaced_readings text.length (depthBound (lexemes text).1.length)
    have ended := Gives.readBody placed s .finished after fun _ _ placed placed' => ⟨placed, placed'⟩
    exact (ended.of_run body).1

theorem within_preorder {bound : Nat} {found pending : List Node} (placed : Within bound found)
    (inner : Within bound pending) : Within bound (preorder found pending) := by
  fun_induction preorder found pending with
  | case1 found => exact within_reverse.mpr placed
  | case2 found kind start stop parts rest ih =>
    obtain ⟨node, later⟩ := within_cons.mp inner
    exact ih (within_cons.mpr ⟨node, placed⟩) (within_append.mpr ⟨within_parts node, later⟩)

/-- The nodes of a source, a node before its parts. -/
def nodes (text : Text) : List Node := preorder [] (parse text)

theorem within_nodes (text : Text) : Within text.length (nodes text) := within_preorder within_nil (within_parse text)

/-! ### Base names -/

/-- A type is built on a name if the name is left when stars, parentheses and type arguments are taken away. -/
inductive Node.BuiltOn (name : Text) : Node → Prop where
  | identifier {start stop : Nat} {parts : List Node} : BuiltOn name (.mk (.identifier name) start stop parts)
  | star {start stop : Nat} {inner : Node} (built : inner.BuiltOn name) : BuiltOn name (.mk .star start stop [inner])
  | paren {start stop : Nat} {inner : Node} (built : inner.BuiltOn name) : BuiltOn name (.mk .paren start stop [inner])
  | index {start stop : Nat} {inner : Node} {arguments : List Node} (built : inner.BuiltOn name) :
    BuiltOn name (.mk .index start stop (inner :: arguments))

theorem Node.BuiltOn.baseName_eq {name : Text} {node : Node} (built : node.BuiltOn name) : node.baseName = name := by
  induction built with
  | identifier => rfl
  | star _ ih => simpa only [baseName] using ih
  | paren _ ih => simpa only [baseName] using ih
  | index _ ih => simpa only [baseName] using ih

/-- The base name of a type is the name it is built on, if it is built on one. -/
theorem Node.builtOn_baseName (node : Node) :
    node.BuiltOn node.baseName ∨ node.baseName = [] ∧ ∀ name, ¬ node.BuiltOn name := by
  fun_induction baseName node with
  | case1 name => exact .inl .identifier
  | case2 start stop inner ih =>
    refine ih.imp .star (And.imp_right fun never name built => ?_)
    cases built with
    | star built => exact never name built
  | case3 start stop inner ih =>
    refine ih.imp .paren (And.imp_right fun never name built => ?_)
    cases built with
    | paren built => exact never name built
  | case4 start stop inner arguments ih =>
    refine ih.imp .index (And.imp_right fun never name built => ?_)
    cases built with
    | index built => exact never name built
  | case5 node other starred wrapped indexed =>
    refine .inr ⟨rfl, fun name built => ?_⟩
    cases built with
    | identifier => exact other _ _ _ _ rfl
    | star => exact starred _ _ _ rfl
    | paren => exact wrapped _ _ _ rfl
    | index => exact indexed _ _ _ _ rfl

/-- The name of the receiver of a function with these parts: the one that the receiver's type is built on, empty if it
is built on none or there is no receiver. -/
def IsReceiver (parts : List Node) (receiver : Text) : Prop :=
  (∃ type ∈ receiverType? parts, ∀ name, type.BuiltOn name ↔ name = receiver) ∨
    receiver = [] ∧ ∀ type ∈ receiverType? parts, ∀ name, ¬ type.BuiltOn name

theorem isReceiver_baseName (parts : List Node) :
    IsReceiver parts (((receiverType? parts).map Node.baseName).getD []) := by
  unfold IsReceiver
  cases receiverType? parts with
  | none => exact .inr ⟨rfl, by simp⟩
  | some type =>
    rcases type.builtOn_baseName with built | ⟨empty, never⟩
    · refine .inl ⟨type, rfl, fun name => ⟨fun other => other.baseName_eq.symm, ?_⟩⟩
      rintro rfl
      exact built
    · refine .inr ⟨empty, ?_⟩
      rintro _ ⟨⟩
      exact never

/-! ### Declarations -/

theorem mem_types {text : Text} {type : TypeDeclaration} (member : type ∈ (declarations text).types) :
    0 ≤ type.offset ∧ type.offset ≤ text.length := by
  obtain ⟨⟨kind, start, stop, parts⟩, inside, found⟩ := List.mem_filterMap.mp member
  obtain ⟨admitted, -⟩ := within_mk.mp (within_nodes text _ inside)
  cases kind with
  | typeDeclaration name shape =>
    cases shape with
    | none => cases found
    | some shape =>
      obtain rfl := Option.some.inj found
      exact ⟨Int.natCast_nonneg start, Int.ofNat_le.mpr admitted⟩
  | _ => cases found

/-- A method is declared inside the text, by a function that has its receiver; it is free exactly if that is empty. -/
theorem mem_methods {text : Text} {method : MethodDeclaration} (member : method ∈ (declarations text).methods) :
    (0 ≤ method.offset ∧ method.offset ≤ text.length) ∧ method.free = method.receiver.isEmpty ∧
      ∃ node ∈ nodes text, node.methodDeclaration? = some method ∧ IsReceiver node.parts method.receiver := by
  obtain ⟨⟨kind, start, stop, parts⟩, inside, found⟩ := List.mem_filterMap.mp member
  obtain ⟨admitted, -⟩ := within_mk.mp (within_nodes text _ inside)
  cases kind with
  | function name receiver body =>
    cases body with
    | none => cases found
    | some bodyStart =>
      obtain ⟨near, named⟩ := admitted
      refine ⟨?_, ?_, _, inside, found, ?_⟩
      all_goals obtain rfl := Option.some.inj found
      · exact ⟨Int.natCast_nonneg start, Int.ofNat_le.mpr near⟩
      · rfl
      · show IsReceiver parts (receiver.getD [])
        rw [named]
        exact isReceiver_baseName parts
  | _ => cases found

end QualityGate.GoSource
