import QualityGate.Proofs.Locating.Vocabulary

/-!
What the pattern languages take for a declaration. A method that is located has a head of the language's vocabulary: a
keyword, characters of a type, a name, and an opening parenthesis; a type has a keyword, white space and a whole name
(`builtin_declarations_sound`).
-/

namespace QualityGate

open Pattern (Core Subject Match Place Program Takes Piece Reads Captures)
open Text (encode ofChars isBlank)

/-! ### Words between white space -/

theorem Text.ofChars_append (cs ds : List Char) : ofChars (cs ++ ds) = ofChars cs ++ ofChars ds := List.flatMap_append

theorem Text.fieldsFrom_word (word : Text) (cs : List Char) (unblank : ∀ c ∈ cs, isBlank c = false)
    (some : word ≠ [] ∨ cs ≠ []) :
    fieldsFrom word (cs.map fun c => (Option.some c, encode c)) = [word.reverse ++ ofChars cs] := by
  induction cs generalizing word with
  | nil =>
    have some : word.isEmpty = false := by simpa using some
    simp [fieldsFrom, some, ofChars]
  | cons c cs ih =>
    have unit : isBlankUnit (Option.some c, encode c) = false := unblank c List.mem_cons_self
    obtain ⟨b, tail, bytes⟩ := exists_encode c
    rw [List.map_cons, fieldsFrom, unit, if_neg (by decide),
      ih _ (fun d member => unblank d (.tail _ member)) (by simp [bytes])]
    simp [ofChars]

theorem Text.fields_blanks_word (lead word : List Char) (blank : ∀ c ∈ lead, isBlank c = true)
    (unblank : ∀ c ∈ word, isBlank c = false) (some : word ≠ []) :
    fields (ofChars lead ++ ofChars word) = [ofChars word] := by
  rw [fields, ← ofChars_append, pieces_ofChars, List.map_append]
  induction lead with
  | nil => exact fieldsFrom_word [] word unblank (.inr some)
  | cons c lead ih =>
    have unit : isBlankUnit (Option.some c, encode c) = true := blank c List.mem_cons_self
    rw [List.map_cons, List.cons_append, fieldsFrom, unit, if_pos rfl]
    exact ih fun d member => blank d (.tail _ member)

theorem isBlank_of_isSeparator {c : Char} (separator : isSeparator c = true) : isBlank c = true := by
  rw [isSeparator_iff, within_spaceSeparator_iff] at separator
  simp only [isBlank, Bool.or_eq_true, Bool.and_eq_true, decide_eq_true_eq]
  omega

theorem isBlank_of_isIdentifier {c : Char} (identifier : isIdentifier c = true) : isBlank c = false := by
  have blanks : ∀ n ∈ [0x09, 0x0A, 0x0B, 0x0C, 0x0D, 0x20, 0x85, 0xA0, 0x1680] ++ List.range' 0x2000 11 ++
      [0x2028, 0x2029, 0x202F, 0x205F, 0x3000], Pattern.CharSet.contains identifierSet n = false := by decide +kernel
  rw [← contains_identifierSet] at identifier
  refine Bool.eq_false_iff.mpr fun blank => ?_
  have member : c.toNat ∈ [0x09, 0x0A, 0x0B, 0x0C, 0x0D, 0x20, 0x85, 0xA0, 0x1680] ++ List.range' 0x2000 11 ++
      [0x2028, 0x2029, 0x202F, 0x205F, 0x3000] := by
    simp only [isBlank, Bool.or_eq_true, Bool.and_eq_true, decide_eq_true_eq] at blank
    simp only [List.mem_append, List.mem_cons, List.mem_range'_1, List.not_mem_nil, or_false]
    omega
  exact absurd (identifier.symm.trans (blanks _ member)) (by decide)

/-! ### Groups of a match -/

variable {text : Text} {vocabulary : Vocabulary} {patterns : DeclarationPatterns} {access : Core}

/-- A group of a match that took part, with what it holds. -/
def GroupIs (text : Text) (one : Match) (group : Nat) (piece : Text) : Prop :=
  ∃ start stop, one.groups[group]? = some (some (start, stop)) ∧ Piece text start stop piece

theorem GroupIs.slice_eq {one : Match} {group : Nat} {piece : Text} {bounds : Nat × Nat}
    (holds : GroupIs text one group piece) (present : one.groups[group]? = some (some bounds)) :
    text.slice bounds.1 bounds.2 = piece := by
  obtain ⟨start, stop, there, reads⟩ := holds
  cases present.symm.trans there
  exact reads.slice_eq

theorem GroupIs.of_captures {here there last : Place} {group groups start : Nat} {piece : Text}
    (captures : Captures text (group + 1) here there piece) (room : 2 * (group + 1) + 1 < here.slots.size)
    (agrees : there.Agrees last (group + 1)) (inGroups : group < groups) :
    GroupIs text ((last.job 0).toMatch groups start) group piece :=
  ⟨_, _, Pattern.Job.getElem?_groups_iff.mpr ⟨inGroups, agrees.bounds (captures.bounds room)⟩, captures.toPiece⟩

theorem join_groups_of_blank {program : Program} {last : Place} {group groups start : Nat}
    (agrees : (program.blank start).Agrees last (group + 1)) :
    (((last.job 0).toMatch groups start).groups[group]?).join = none := by
  cases present : (((last.job 0).toMatch groups start).groups[group]?).join with
  | none => rfl
  | some bounds =>
    have bounds := (Pattern.Job.getElem?_groups_iff.mp (Option.join_eq_some_iff.mp present)).2
    have blank := bounds.1.symm.trans agrees.1
    simp only [Program.blank, Array.getElem?_replicate] at blank
    split at blank <;> cases blank

/-! ### Methods -/

/-- The head of a method: a keyword, what stands between it and the name, the name, and the gap before the opening
parenthesis. -/
structure MethodHead where
  keyword : Text
  middle : List Char
  name : List Char
  gap : List Char

def MethodHead.written (head : MethodHead) : Text :=
  head.keyword ++ ofChars head.middle ++ ofChars head.name ++ ofChars head.gap ++ "("

/-- What follows the keyword begins with white space, a whole word, and white space again. -/
def MethodHead.Continues (head : MethodHead) (word : List Char) : Prop :=
  ∃ lead rest, head.middle = lead ++ word ++ rest ∧ lead ≠ [] ∧ (∀ c ∈ lead, isSeparator c = true) ∧
    word ≠ [] ∧ (∀ c ∈ word, isIdentifier c = true) ∧ ∃ c, rest.head? = some c ∧ isSeparator c = true

/-- A declaration with a head of a vocabulary. -/
structure MethodHead.Declares (vocabulary : Vocabulary) (head : MethodHead) (declaration : MethodDeclaration) : Prop where
  keyword : head.keyword ∈ vocabulary.access
  middle : ∀ c ∈ head.middle, vocabulary.inType c = true ∧ c ∉ ['{', '}', ';', '(', '=']
  spaced : ∃ c, head.middle.getLast? = some c ∧ isSeparator c = true
  name : declaration.name = ofChars head.name ∧ head.name ≠ [] ∧ ∀ c ∈ head.name, isIdentifier c = true
  gap : ∀ c ∈ head.gap, isSeparator c = true
  allowed : ∀ word ∈ vocabulary.excluded, Text.occursIn word (Text.lower head.written) = false
  qualifiers : declaration.qualifiers = head.keyword ∨
    ∃ word, head.Continues word ∧ declaration.qualifiers = head.keyword ++ " " ++ ofChars word

theorem separatorSet_wellFormed : separatorSet.contains Text.replacement.toNat = false := by decide +kernel

theorem identifierSet_wellFormed : identifierSet.contains Text.replacement.toNat = false := by decide +kernel

section Parts

variable {origin : Nat} {here there : Place} {greedy : Pattern.Greedy}

theorem reads_separators (takes : Takes (.ofText text) origin (.plus greedy (.char separatorSet)) here there) :
    ∃ cs : List Char, cs ≠ [] ∧ (∀ c ∈ cs, isSeparator c = true) ∧ Reads text here there (ofChars cs) := by
  obtain ⟨cs, some, members, reads⟩ := takes.reads_plus separatorSet_wellFormed
  exact ⟨cs, some, fun c member => contains_separatorSet c ▸ members c member, reads⟩

theorem reads_identifier (takes : Takes (.ofText text) origin (.plus greedy (.char identifierSet)) here there) :
    ∃ cs : List Char, cs ≠ [] ∧ (∀ c ∈ cs, isIdentifier c = true) ∧ Reads text here there (ofChars cs) := by
  obtain ⟨cs, some, members, reads⟩ := takes.reads_plus identifierSet_wellFormed
  exact ⟨cs, some, fun c member => contains_identifierSet c ▸ members c member, reads⟩

/-- The optional modifier: nothing, or white space and a word in the second group. -/
structure Modifies (text : Text) (here there : Place) (cs : List Char) : Prop where
  piece : Piece text here.position there.position (ofChars cs)
  inType : ∀ c ∈ cs, isSeparator c = true ∨ isIdentifier c = true
  agrees : ∀ group, 2 ≠ group → here.Agrees there group
  group : here.Agrees there 2 ∨ ∃ lead word : List Char, cs = lead ++ word ∧ lead ≠ [] ∧
    (∀ c ∈ lead, isSeparator c = true) ∧ word ≠ [] ∧ (∀ c ∈ word, isIdentifier c = true) ∧
    Captures text 2 here there (ofChars lead ++ ofChars word)

theorem takes_modifier
    (takes : Takes (.ofText text) origin
      (.opt true (.capture 2 (.sequence [.plus true (.char separatorSet), .plus true (.char identifierSet)]))) here there) :
    ∃ cs, Modifies text here there cs := by
  cases takes with
  | optNone => exact ⟨[], .refl _ _, by simp, fun _ _ => .refl _ _, .inl (.refl _ _)⟩
  | optSome takes =>
    cases takes with
    | capture inner =>
      have parts := inner.of_sequence
      simp only [Pattern.takesAll_cons_iff, Pattern.takesAll_nil_iff] at parts
      obtain ⟨between, blanks, _, letters, rfl⟩ := parts
      obtain ⟨lead, someLead, separators, first⟩ := reads_separators blanks
      obtain ⟨word, someWord, identifiers, second⟩ := reads_identifier letters
      have captures := Captures.of_reads (first.trans second)
      refine ⟨lead ++ word, ?_, fun c member => ?_, fun _ => captures.agrees,
        .inr ⟨lead, word, rfl, someLead, separators, someWord, identifiers, captures⟩⟩
      · rw [Text.ofChars_append]
        exact captures.toPiece
      · exact (List.mem_append.mp member).imp (separators c) (identifiers c)

/-- What stands between a keyword, with or without a modifier, and a name. -/
structure Vocabulary.Separates (vocabulary : Vocabulary) (cs : List Char) : Prop where
  inType : ∀ c ∈ cs, vocabulary.inType c = true
  starts : ∃ c, cs.head? = some c ∧ isSeparator c = true
  ends : ∃ c, cs.getLast? = some c ∧ isSeparator c = true

theorem takes_middle (wellFormed : vocabulary.inType Text.replacement = false) {between between' : Place}
    (blanks : Takes (.ofText text) origin (.plus true (.char separatorSet)) here between)
    (type : Takes (.ofText text) origin (.plus true (.char vocabulary.typeSet)) between between')
    (blanks' : Takes (.ofText text) origin (.plus true (.char separatorSet)) between' there) :
    ∃ cs, vocabulary.Separates cs ∧ Reads text here there (ofChars cs) := by
  obtain ⟨lead, someLead, separators, first⟩ := reads_separators blanks
  obtain ⟨inner, -, inType, second⟩ := type.reads_plus (vocabulary.contains_typeSet _ ▸ wellFormed)
  obtain ⟨trail, someTrail, separators', third⟩ := reads_separators blanks'
  refine ⟨lead ++ inner ++ trail, ⟨fun c member => ?_, ⟨lead.head someLead, ?_, ?_⟩,
    ⟨trail.getLast someTrail, ?_, ?_⟩⟩, ?_⟩
  · simp only [List.mem_append] at member
    rcases member with (member | member) | member
    · simp [Vocabulary.inType, separators c member]
    · exact vocabulary.contains_typeSet c ▸ inType c member
    · simp [Vocabulary.inType, separators' c member]
  · rw [List.append_assoc, List.head?_append_of_ne_nil _ someLead, List.head?_eq_some_head]
  · exact separators _ (List.head_mem _)
  · rw [List.getLast?_append_of_ne_nil _ someTrail, List.getLast?_eq_some_getLast]
  · exact separators' _ (List.getLast_mem _)
  · rw [Text.ofChars_append, Text.ofChars_append]
    exact (first.trans second).trans third

theorem Vocabulary.Realized.takes_head (realized : vocabulary.Realized patterns access)
    (takes : Takes (.ofText text) origin (vocabulary.methodsCore access) here there) :
    ∃ (p₁ p₂ p₃ p₄ : Place) (keyword : Text) (modifier middle name gap : List Char),
      (keyword ∈ vocabulary.access ∧ Captures text 1 here p₁ keyword) ∧ Modifies text p₁ p₂ modifier ∧
      (vocabulary.Separates middle ∧ Reads text p₂ p₃ (ofChars middle)) ∧
      (name ≠ [] ∧ (∀ c ∈ name, isIdentifier c = true) ∧ Captures text 3 p₃ p₄ (ofChars name)) ∧
      (∀ c ∈ gap, isSeparator c = true) ∧ Reads text p₄ there (ofChars gap ++ "(") := by
  have parts := takes.of_sequence
  simp only [Pattern.takesAll_cons_iff, Pattern.takesAll_nil_iff] at parts
  obtain ⟨p₁, first, p₂, modifier, _, blanks, _, type, p₃, blanks', p₄, last, _, trail, _, paren, rfl⟩ := parts
  obtain ⟨word, modifies⟩ := takes_modifier modifier
  obtain ⟨middle, separates, between⟩ := takes_middle realized.wellFormed blanks type blanks'
  obtain ⟨gap, separators, behind⟩ := trail.reads_star separatorSet_wellFormed
  obtain ⟨_, same, closing⟩ := paren.reads_spelling (show (literal "(").spellings? = some [("(" : Text)] by decide +kernel)
  obtain rfl := List.mem_singleton.mp same
  cases first with
  | capture spelled =>
    obtain ⟨keyword, known, opening⟩ := spelled.reads_spelling realized.access.1
    cases last with
    | capture letters =>
      obtain ⟨name, some, identifiers, naming⟩ := reads_identifier letters
      exact ⟨_, p₂, p₃, _, keyword, word, middle, name, gap, ⟨known, .of_reads opening⟩, modifies,
        ⟨separates, between⟩, ⟨some, identifiers, .of_reads naming⟩,
        fun c member => contains_separatorSet c ▸ separators c member, behind.trans closing⟩

end Parts

/-- A match of the method pattern that is written as a head is, with the groups that hold its parts. -/
structure MethodHead.Matches (vocabulary : Vocabulary) (text : Text) (one : Match) (head : MethodHead) : Prop where
  piece : Piece text one.start one.stop head.written
  keyword : head.keyword ∈ vocabulary.access
  middle : ∀ c ∈ head.middle, vocabulary.inType c = true
  spaced : ∃ c, head.middle.getLast? = some c ∧ isSeparator c = true
  name : head.name ≠ [] ∧ ∀ c ∈ head.name, isIdentifier c = true
  gap : ∀ c ∈ head.gap, isSeparator c = true
  accessGroup : GroupIs text one 0 head.keyword
  nameGroup : GroupIs text one 2 (ofChars head.name)
  modifierGroup : (one.groups[1]?).join = none ∨ ∃ lead word : List Char, (∀ c ∈ lead, isSeparator c = true) ∧
    head.Continues word ∧ GroupIs text one 1 (ofChars lead ++ ofChars word)

theorem Vocabulary.Realized.exists_head (realized : vocabulary.Realized patterns access) {one : Match}
    (member : one ∈ (vocabulary.locator access).methods.matchesIn (.ofText text)) :
    ∃ head : MethodHead, head.Matches vocabulary text one := by
  obtain ⟨origin, n, last, path, whole⟩ :=
    (Pattern.enumerates_matchesIn (vocabulary.methodsCore access) methodGroups text).path member
  obtain ⟨there, takes, rfl⟩ := path.takes_start (Core.program_spec _ _)
  have size : (((vocabulary.methodsCore access).program methodGroups.length).blank one.start).slots.size = 8 := by
    rw [Program.blank, Array.size_replicate]
    rfl
  obtain ⟨p₁, p₂, p₃, p₄, keyword, modifier, middle, name, gap, ⟨known, opening⟩, modifies, ⟨separates, between⟩,
    ⟨some, identifiers, naming⟩, separators, behind⟩ := realized.takes_head takes
  -- Only the name is captured from the middle on.
  have agrees : ∀ group, 3 ≠ group → p₂.Agrees there group := fun group different =>
    (between.agrees group).trans ((naming.agrees different).trans (behind.agrees group))
  refine ⟨⟨keyword, modifier ++ middle, name, gap⟩, ?_, known, ?_, ?_, ⟨some, identifiers⟩, separators, ?_, ?_, ?_⟩
  · have start : (((vocabulary.methodsCore access).program methodGroups.length).blank one.start).position = one.start := rfl
    have stop : one.stop = there.position := by
      rw [whole]
      rfl
    have piece := (((opening.toPiece.trans modifies.piece).trans between.toPiece).trans naming.toPiece).trans behind.toPiece
    rw [start, ← stop] at piece
    simpa only [MethodHead.written, Text.ofChars_append, List.append_assoc] using piece
  · intro c member
    rcases List.mem_append.mp member with member | member
    · rcases modifies.inType c member with separator | identifier
      · simp [Vocabulary.inType, separator]
      · simp [Vocabulary.inType, identifier]
    · exact separates.inType c member
  · obtain ⟨c, last, separator⟩ := separates.ends
    exact ⟨c, by rw [List.getLast?_append, last, Option.some_or], separator⟩
  · rw [whole]
    exact .of_captures opening (by omega) ((modifies.agrees 1 (by decide)).trans (agrees 1 (by decide)))
      (show 0 < 3 by decide)
  · have room : p₃.slots.size = 8 := by
      rw [← naming.size_slots, ← behind.slots, takes.size_slots, size]
    rw [whole]
    exact .of_captures naming (by omega) (behind.agrees 3) (show 2 < 3 by decide)
  · rcases modifies.group with kept | ⟨lead, word, rfl, someLead, lead', someWord, word', captures⟩
    · rw [whole]
      exact .inl (join_groups_of_blank ((opening.agrees (by decide)).trans (kept.trans (agrees 2 (by decide)))))
    · refine .inr ⟨lead, word, lead', ⟨lead, middle, rfl, someLead, lead', someWord, word', separates.starts⟩, ?_⟩
      rw [whole]
      exact .of_captures captures (by rw [opening.size_slots]; omega) (agrees 2 (by decide)) (show 1 < 3 by decide)

theorem MethodHead.Matches.qualifiers {one : Match} {head : MethodHead} (written : head.Matches vocabulary text one)
    (realized : vocabulary.Realized patterns access) {bounds : Nat × Nat} :
    ((vocabulary.locator access).methodAt text one bounds).qualifiers = head.keyword ∨
      ∃ word, head.Continues word ∧
        ((vocabulary.locator access).methodAt text one bounds).qualifiers = head.keyword ++ " " ++ ofChars word := by
  obtain ⟨a, b, there, keyword⟩ := written.accessGroup
  have unbroken := realized.access.2 head.keyword written.keyword
  simp only [PatternLocator.methodAt, PatternLocator.qualifierBounds, Vocabulary.locator, List.filterMap_cons,
    List.filterMap_nil, there, Option.join_some]
  rcases written.modifierGroup with none | ⟨lead, word, separators, continues, c, d, there', modifier⟩
  · refine .inl ?_
    simp only [none, List.map_cons, List.map_nil, keyword.slice_eq, List.flatMap_cons, List.flatMap_nil, unbroken]
    rfl
  · refine .inr ⟨word, continues, ?_⟩
    obtain ⟨-, -, -, -, -, some, identifiers, -⟩ := continues
    have fields := Text.fields_blanks_word lead word (fun c member => isBlank_of_isSeparator (separators c member))
      (fun c member => isBlank_of_isIdentifier (identifiers c member)) some
    simp only [there', Option.join_some, List.map_cons, List.map_nil, keyword.slice_eq, modifier.slice_eq,
      List.flatMap_cons, List.flatMap_nil, unbroken, fields]
    rfl

theorem MethodHead.Matches.declares {one : Match} {head : MethodHead} (written : head.Matches vocabulary text one)
    (realized : vocabulary.Realized patterns access) {bounds : Nat × Nat}
    (kept : (vocabulary.locator access).excludes (text.slice one.start one.stop) = false)
    (named : one.groups[2]? = some (some bounds)) :
    head.Declares vocabulary ((vocabulary.locator access).methodAt text one bounds) where
  keyword := written.keyword
  middle c member := by
    refine ⟨written.middle c member, fun closing => ?_⟩
    exact List.any_eq_false.mp realized.closed c closing (written.middle c member)
  spaced := written.spaced
  name := ⟨written.nameGroup.slice_eq named, written.name⟩
  gap := written.gap
  allowed word member := by
    rw [PatternLocator.excludes, written.piece.slice_eq] at kept
    exact Bool.eq_false_iff.mpr fun occurs => List.any_eq_false.mp kept word member occurs
  qualifiers := written.qualifiers realized

/-! ### Types -/

structure TypeHead where
  kind : Text
  gap : List Char
  name : List Char

def TypeHead.written (head : TypeHead) : Text := head.kind ++ ofChars head.gap ++ ofChars head.name

/-- A declaration with a head of a vocabulary, before some further text. -/
structure TypeHead.Declares (vocabulary : Vocabulary) (head : TypeHead) (further : Text) (declaration : TypeDeclaration) :
    Prop where
  kind : declaration.kind = head.kind ∧ head.kind ∈ vocabulary.kinds
  gap : head.gap ≠ [] ∧ ∀ c ∈ head.gap, isSeparator c = true
  name : declaration.name = ofChars head.name ∧ head.name ≠ [] ∧ ∀ c ∈ head.name, isIdentifier c = true
  maximal : ∀ c rest, further = encode c ++ rest → isIdentifier c = false

theorem isIdentifier_of_stops {position : Nat} (stops : Pattern.Stops text identifierSet position) {c : Char} {rest : Text}
    (follows : text.drop position = encode c ++ rest) : isIdentifier c = false := by
  obtain ⟨b, tail, bytes⟩ := Text.exists_encode c
  have unit : (Subject.ofText text).units[position]? = some (c.toNat, (encode c).length) := by
    have front := Text.front_encode c rest
    rw [Subject.units_ofText, follows]
    rw [bytes, List.cons_append] at front ⊢
    rw [Pattern.unitOf, front]
    rfl
  rw [← contains_identifierSet]
  exact stops _ _ unit

theorem Vocabulary.Realized.takes_kind (realized : vocabulary.Realized patterns access) {origin : Nat}
    {here there : Place} (takes : Takes (.ofText text) origin vocabulary.typesCore here there) :
    ∃ (i : Nat) (kind : Text) (between : Place) (gap name : List Char), vocabulary.kinds[i]? = some kind ∧
      (gap ≠ [] ∧ (∀ c ∈ gap, isSeparator c = true) ∧ Reads text here between (kind ++ ofChars gap)) ∧
      name ≠ [] ∧ (∀ c ∈ name, isIdentifier c = true) ∧ Captures text (i + 1) between there (ofChars name) := by
  obtain ⟨e, chosen, takes⟩ := takes.of_choice (by simpa using realized.kinds.1)
  obtain ⟨i, inKinds, rfl⟩ := List.mem_mapIdx.mp chosen
  have parts := takes.of_sequence
  simp only [Pattern.takesAll_cons_iff, Pattern.takesAll_nil_iff] at parts
  obtain ⟨_, keyword, between, blanks, _, last, rfl⟩ := parts
  obtain ⟨_, same, first⟩ := keyword.reads_spelling (realized.kinds.2 _ (List.getElem_mem inKinds)).2
  obtain rfl := List.mem_singleton.mp same
  obtain ⟨gap, someGap, separators, second⟩ := reads_separators blanks
  cases last with
  | capture letters =>
    obtain ⟨name, someName, identifiers, reads⟩ := reads_identifier letters
    exact ⟨i, _, between, gap, name, List.getElem?_eq_getElem inKinds, ⟨someGap, separators, first.trans second⟩, someName,
      identifiers, .of_reads reads⟩

theorem Vocabulary.Realized.exists_typeHead (realized : vocabulary.Realized patterns access) {one : Match}
    (member : one ∈ (vocabulary.locator access).types.matchesIn (.ofText text)) {kind : Text} {bounds : Nat × Nat}
    (found : PatternLocator.kindOf? vocabulary.kinds one.groups = some (kind, bounds)) :
    ∃ head : TypeHead, Piece text one.start one.stop head.written ∧
      head.Declares vocabulary (text.drop one.stop) ⟨kind, text.slice bounds.1 bounds.2, one.start⟩ := by
  have runs := vocabulary.typesCore.program_spec vocabulary.kinds.length
  obtain ⟨origin, n, last, path, whole⟩ :=
    (Pattern.enumerates_matchesIn vocabulary.typesCore vocabulary.kinds text).path member
  obtain ⟨there, m, -, takes, done, stops⟩ := path.takes_all runs.codes realized.runs (fun _ _ => .here runs.accepts)
  obtain rfl := done.eq_done runs.accepts
  have stop : one.stop = there.position := by
    rw [whole]
    rfl
  obtain ⟨i, keyword, between, gap, name, atKind, ⟨someGap, separators, front⟩, someName, identifiers, naming⟩ :=
    realized.takes_kind takes
  have inKinds : i < vocabulary.kinds.length := (List.getElem?_eq_some_iff.mp atKind).1
  have holds : GroupIs text one i (ofChars name) := by
    have room : 2 * (i + 1) + 1 < between.slots.size := by
      rw [front.slots, Program.blank, Array.size_replicate]
      change _ < 2 * vocabulary.kinds.length + 2
      omega
    rw [whole]
    exact .of_captures naming room (.refl _ _) inKinds
  -- All other groups are as blank as at the start of the match.
  obtain ⟨j, atName, present⟩ := PatternLocator.exists_of_kindOf? found
  obtain rfl : j = i := by
    refine Decidable.byContradiction fun different => ?_
    have blank : (one.groups[j]?).join = none := by
      rw [whole]
      exact join_groups_of_blank ((front.agrees (j + 1)).trans (naming.agrees (by omega)))
    rw [present] at blank
    cases blank
  obtain rfl : kind = keyword := Option.some.inj (atName.symm.trans atKind)
  refine ⟨⟨kind, gap, name⟩, ?_, ⟨⟨rfl, List.mem_of_getElem? atKind⟩, ⟨someGap, separators⟩,
    ⟨holds.slice_eq present, someName, identifiers⟩, fun c rest follows => ?_⟩⟩
  · rw [stop]
    exact front.toPiece.trans naming.toPiece
  · exact isIdentifier_of_stops stops (stop ▸ follows)

/-! ### Declarations of the pattern languages -/

/-- Every declaration that is found with the patterns of a language stands in the text as the head of one, in the words
of the language, and no search breaks off. -/
theorem builtin_declarations_sound {language : Language} {vocabulary : Vocabulary}
    (spoken : language.vocabulary? = some vocabulary) :
    ∃ locator, language.locator? = some locator ∧ ∀ text,
      language.declarations text = locator.declarations text ∧
      (locator.typesIn (.ofText text)).brokenOff = false ∧ (locator.methodsIn (.ofText text)).brokenOff = false ∧
      (∀ declaration ∈ (locator.methodsIn (.ofText text)).items, ∃ one ∈ locator.methods.allMatches text,
        ∃ head : MethodHead, declaration.offset = one.start ∧ Piece text one.start one.stop head.written ∧
          head.Declares vocabulary declaration) ∧
      ∀ declaration ∈ (locator.typesIn (.ofText text)).items, ∃ one ∈ locator.types.allMatches text,
        ∃ head : TypeHead, declaration.offset = one.start ∧ Piece text one.start one.stop head.written ∧
          head.Declares vocabulary (text.drop one.stop) declaration := by
  obtain ⟨patterns, access, realized, located⟩ := exists_realized spoken
  have made := PatternLocator.made_of_compile realized.compile
  refine ⟨_, located, fun text => ?_⟩
  obtain ⟨_, methods⟩ := PatternLocator.exists_enumerated made.methods text
  obtain ⟨_, types⟩ := PatternLocator.exists_enumerated made.types text
  refine ⟨?_, PatternLocator.brokenOff_typesIn made text, ?_, fun declaration member => ?_, fun declaration member => ?_⟩
  · cases language with
    | go => cases spoken
    | csharp | java =>
      rw [Language.locator?] at located
      rw [Language.declarations, Language.declarationsBy, located]
      rfl
  · rw [← Bool.not_eq_true, PatternLocator.brokenOff_methodsIn_iff made]
    rintro ⟨one, member, -, unnamed⟩
    obtain ⟨head, written⟩ := realized.exists_head member
    obtain ⟨start, stop, there, -⟩ := written.nameGroup
    change (one.groups[2]?).join = none at unnamed
    rw [there] at unnamed
    cases unnamed
  · obtain ⟨one, within, given⟩ := PatternLocator.mem_items_readAll member
    obtain ⟨kept, bounds, named, rfl⟩ :=
      PatternLocator.exists_bounds_of_methodOf (PatternLocator.sliceable_of_mem methods within) given
    obtain ⟨head, written⟩ := realized.exists_head within
    exact ⟨one, within, head, rfl, written.piece, written.declares realized kept named⟩
  · obtain ⟨one, within, given⟩ := PatternLocator.mem_items_readAll member
    rw [PatternLocator.typeOf_sliceable (PatternLocator.sliceable_of_mem types within), Except.ok.injEq] at given
    obtain ⟨⟨kind, bounds⟩, found, rfl⟩ := Option.map_eq_some_iff.mp given
    obtain ⟨head, piece, declares⟩ := realized.exists_typeHead within found
    exact ⟨one, within, head, rfl, piece, declares⟩

theorem static_method_declared :
    (Language.csharp.declarations "public static int F (").methods =
        [{ qualifiers := "public static", name := "F", offset := 0 }] ∧
      ∃ head : MethodHead,
        head.Declares csharpVocabulary { qualifiers := "public static", name := "F", offset := 0 } := by
  have found : (Language.csharp.declarations "public static int F (").methods =
      [{ qualifiers := "public static", name := "F", offset := 0 }] := by decide +kernel
  obtain ⟨locator, -, sound⟩ :=
    builtin_declarations_sound (show Language.csharp.vocabulary? = some csharpVocabulary from rfl)
  obtain ⟨same, -, -, methods, -⟩ := sound "public static int F ("
  rw [same] at found
  obtain ⟨one, -, head, -, -, declares⟩ := methods _ (found ▸ List.mem_singleton.mpr rfl)
  exact ⟨same ▸ found, head, declares⟩

end QualityGate
