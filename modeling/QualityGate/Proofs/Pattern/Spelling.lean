import QualityGate.Proofs.Pattern.Compilation

/-!
The text that an expression takes. A run of characters from a set is a run of well-formed characters, as long as the set
leaves out the character that stands for ill-formed bytes (`Takes.reads_star`, `Takes.reads_plus`); an expression with
finitely many spellings takes one of them (`Takes.reads_spelling`). Where an expression ends in a run that prefers more,
no further character of the run follows (`Prefers.takes_all`).
-/

namespace QualityGate.Pattern

open Text (encode ofChars)

/-! ### Pieces of text -/

/-- What stands in a text between two positions. -/
structure Piece (text : Text) (start stop : Nat) (piece : Text) : Prop where
  split : text.drop start = piece ++ text.drop stop
  stop_eq : stop = start + piece.length

namespace Piece

variable {text piece : Text} {start between stop : Nat}

theorem refl (text : Text) (start : Nat) : Piece text start start [] := ⟨rfl, rfl⟩

theorem trans {other : Text} (first : Piece text start between piece) (second : Piece text between stop other) :
    Piece text start stop (piece ++ other) where
  split := by rw [first.split, second.split, List.append_assoc]
  stop_eq := by
    rw [second.stop_eq, first.stop_eq, List.length_append]
    omega

theorem slice_eq (reads : Piece text start stop piece) : text.slice start stop = piece := by
  rw [Text.slice, reads.split, reads.stop_eq, Nat.add_sub_cancel_left, List.take_left]

end Piece

/-- Between two places there is a piece of text, and no bounds are recorded on the way. -/
structure Reads (text : Text) (here there : Place) (piece : Text) : Prop extends
    Piece text here.position there.position piece where
  slots : there.slots = here.slots

theorem Reads.refl (text : Text) (here : Place) : Reads text here here [] := ⟨.refl _ _, rfl⟩

theorem Reads.trans {text piece other : Text} {here between there : Place} (first : Reads text here between piece)
    (second : Reads text between there other) : Reads text here there (piece ++ other) :=
  ⟨first.toPiece.trans second.toPiece, second.slots.trans first.slots⟩

/-- Between two places there is a piece of text whose bounds are recorded for a group. -/
structure Captures (text : Text) (group : Nat) (here there : Place) (piece : Text) : Prop extends
    Piece text here.position there.position piece where
  slots : there.slots = (here.slots.setIfInBounds (2 * group) (some here.position)).setIfInBounds (2 * group + 1)
    (some there.position)

theorem Captures.of_reads {text piece : Text} {group : Nat} {here between : Place}
    (reads : Reads text (here.mark (2 * group)) between piece) :
    Captures text group here (between.mark (2 * group + 1)) piece where
  toPiece := reads.toPiece
  slots := by
    rw [Place.mark, reads.slots]
    rfl

/-- Two places with the same bounds of a group. -/
def Place.Agrees (here there : Place) (group : Nat) : Prop :=
  there.slots[2 * group]? = here.slots[2 * group]? ∧ there.slots[2 * group + 1]? = here.slots[2 * group + 1]?

theorem Place.Agrees.refl (here : Place) (group : Nat) : here.Agrees here group := ⟨rfl, rfl⟩

theorem Reads.agrees {text piece : Text} {here there : Place} (reads : Reads text here there piece) (group : Nat) :
    here.Agrees there group := by
  rw [Place.Agrees, reads.slots]
  exact ⟨rfl, rfl⟩

theorem Captures.agrees {text piece : Text} {group other : Nat} {here there : Place}
    (captures : Captures text group here there piece) (different : group ≠ other) : here.Agrees there other := by
  rw [Place.Agrees, captures.slots]
  constructor
  · rw [Array.getElem?_setIfInBounds_ne (by omega), Array.getElem?_setIfInBounds_ne (by omega)]
  · rw [Array.getElem?_setIfInBounds_ne (by omega), Array.getElem?_setIfInBounds_ne (by omega)]

theorem Captures.bounds {text piece : Text} {group : Nat} {here there : Place}
    (captures : Captures text group here there piece) (room : 2 * group + 1 < here.slots.size) :
    Takes.Bounds there.slots group here.position there.position := by
  rw [Takes.Bounds, captures.slots]
  constructor
  · rw [Array.getElem?_setIfInBounds_ne (by omega), Array.getElem?_setIfInBounds_self_of_lt (by omega)]
  · rw [Array.getElem?_setIfInBounds_self_of_lt (by rw [Array.size_setIfInBounds]; omega)]

theorem Captures.size_slots {text piece : Text} {group : Nat} {here there : Place}
    (captures : Captures text group here there piece) : there.slots.size = here.slots.size := by
  rw [captures.slots, Array.size_setIfInBounds, Array.size_setIfInBounds]

theorem Place.Agrees.bounds {here there : Place} {group start stop : Nat} (agrees : here.Agrees there group)
    (bounds : Takes.Bounds here.slots group start stop) : Takes.Bounds there.slots group start stop :=
  ⟨agrees.1.trans bounds.1, agrees.2.trans bounds.2⟩

theorem Place.Agrees.trans {here between there : Place} {group : Nat} (first : here.Agrees between group)
    (second : between.Agrees there group) : here.Agrees there group :=
  ⟨second.1.trans first.1, second.2.trans first.2⟩

/-! ### Sets of characters -/

namespace CharSet

theorem contains_unitePairs (done sets : List CharSet) (c : Nat) :
    (unitePairs done sets).any (·.contains c) = (done.any (·.contains c) || sets.any (·.contains c)) := by
  fun_induction unitePairs done sets with
  | case1 done a b rest ih =>
    rw [ih]
    simp only [List.any_cons, CharSet.contains]
    ac_rfl
  | case2 done a => simp [Bool.or_comm]
  | case3 done => simp

theorem contains_unions (sets : List CharSet) (c : Nat) :
    (unions sets).contains c = sets.any (·.contains c) := by
  have fold : ∀ (rest : List CharSet) (a : CharSet),
      (rest.foldl CharSet.union a).contains c = (a.contains c || rest.any (·.contains c)) := by
    intro rest
    induction rest with
    | nil => simp
    | cons b rest ih =>
      intro a
      rw [List.foldl_cons, ih, CharSet.contains, List.any_cons, Bool.or_assoc]
  unfold unions
  generalize sets.length = rounds
  induction rounds generalizing sets with
  | zero =>
    match sets with
    | [] => rfl
    | [a] => simp [unionsIn]
    | a :: b :: rest =>
      rw [List.any_cons]
      exact fold (b :: rest) a
  | succ rounds ih =>
    match sets with
    | [] => rfl
    | [a] => simp [unionsIn]
    | a :: b :: rest =>
      have united := ih (unitePairs [] (a :: b :: rest))
      rwa [contains_unitePairs, List.any_nil, Bool.false_or] at united

theorem contains_single (c d : Char) : (CharSet.single c.toNat).contains d.toNat = decide (d = c) := by
  rw [CharSet.single, CharSet.contains, Bool.eq_iff_iff]
  simp only [Bool.and_eq_true, decide_eq_true_eq]
  constructor
  · rintro ⟨below, above⟩
    exact Char.toNat_inj.mp (Nat.le_antisymm above below)
  · rintro rfl
    exact ⟨Nat.le_refl _, Nat.le_refl _⟩

end CharSet

/-! ### Runs of characters -/

/-- A character that is not the replacement character stands in the text as it is written. -/
theorem Subject.encode_of_unit {text : Text} {i c width : Nat} (read : (ofText text).units[i]? = some (c, width))
    (wellFormed : c ≠ Text.replacement.toNat) :
    ∃ char, char.toNat = c ∧ width = (encode char).length ∧ text.drop i = encode char ++ text.drop (i + width) := by
  rw [units_ofText] at read
  cases split : text.drop i with
  | nil =>
    rw [split] at read
    cases read
  | cons b rest =>
    rw [split, unitOf, Option.some.injEq, Prod.mk.injEq] at read
    rcases Text.front_cons b rest with ⟨none, -⟩ | ⟨char, after, encoded⟩
    · rw [none] at read
      exact absurd read.1.symm wellFormed
    · rw [encoded, Text.front_encode] at read
      obtain ⟨rfl, rfl⟩ := read
      refine ⟨char, rfl, rfl, ?_⟩
      rw [← List.drop_drop, split, encoded, List.drop_left]

namespace Takes

variable {text : Text} {origin : Nat} {here there : Place} {set : CharSet} {greedy : Greedy}

theorem reads_char (takes : Takes (.ofText text) origin (.char set) here there)
    (wellFormed : set.contains Text.replacement.toNat = false) :
    ∃ char, set.contains char.toNat = true ∧ Reads text here there (encode char) := by
  cases takes with
  | char read member =>
    obtain ⟨char, rfl, rfl, split⟩ := Subject.encode_of_unit read (by
      rintro rfl
      exact absurd (member.symm.trans wellFormed) (by decide))
    exact ⟨char, member, ⟨split, rfl⟩, rfl⟩

theorem reads_star (wellFormed : set.contains Text.replacement.toNat = false)
    (takes : Takes (.ofText text) origin (.star greedy (.char set)) here there) :
    ∃ cs : List Char, (∀ c ∈ cs, set.contains c.toNat = true) ∧ Reads text here there (ofChars cs) := by
  generalize star : Core.star greedy (.char set) = e at takes
  induction takes with
  | starDone => exact ⟨[], by simp, .refl _ _⟩
  | starMore round _ _ ih =>
    cases star
    obtain ⟨c, member, first⟩ := round.reads_char wellFormed
    obtain ⟨cs, members, rest⟩ := ih rfl
    exact ⟨c :: cs, List.forall_mem_cons.mpr ⟨member, members⟩, first.trans rest⟩
  | _ => cases star

theorem reads_plus (wellFormed : set.contains Text.replacement.toNat = false)
    (takes : Takes (.ofText text) origin (.plus greedy (.char set)) here there) :
    ∃ cs : List Char, cs ≠ [] ∧ (∀ c ∈ cs, set.contains c.toNat = true) ∧ Reads text here there (ofChars cs) := by
  cases takes with
  | plus round more =>
    obtain ⟨c, member, first⟩ := round.reads_char wellFormed
    obtain ⟨cs, members, rest⟩ := more.reads_star wellFormed
    exact ⟨c :: cs, List.cons_ne_nil _ _, List.forall_mem_cons.mpr ⟨member, members⟩, first.trans rest⟩

end Takes

/-! ### Spellings -/

/-- All texts that an expression can take, for one that is put together from ASCII characters. -/
def Core.spellings? : Core → Option (List Text)
  | .empty => some [[]]
  | .char (.range lo hi) => if lo = hi ∧ lo < 0x80 then some [[UInt8.ofNat lo]] else none
  | .seq a b =>
    match a.spellings?, b.spellings? with
    | some before, some after => some (before.flatMap fun one => after.map (one ++ ·))
    | _, _ => none
  | .alt a b =>
    match a.spellings?, b.spellings? with
    | some one, some other => some (one ++ other)
    | _, _ => none
  | _ => none

theorem Takes.reads_spelling {text : Text} {origin : Nat} {e : Core} {here there : Place}
    (takes : Takes (.ofText text) origin e here there) {words : List Text} (spelled : e.spellings? = some words) :
    ∃ word ∈ words, Reads text here there word := by
  induction takes generalizing words with
  | empty =>
    cases spelled
    exact ⟨[], List.mem_singleton.mpr rfl, .refl _ _⟩
  | @char here set c width read member =>
    cases set with
    | range lo hi =>
      rw [Core.spellings?] at spelled
      split at spelled
      next ascii =>
        obtain ⟨rfl, ascii⟩ := ascii
        cases spelled
        obtain rfl : c = lo := by
          simp only [CharSet.contains, Bool.and_eq_true, decide_eq_true_eq] at member
          omega
        obtain ⟨char, same, rfl, split⟩ := Subject.encode_of_unit read (by
          have : Text.replacement.toNat = 0xFFFD := rfl
          omega)
        have bytes : encode char = [UInt8.ofNat c] := same ▸ Text.encode_of_ascii (same ▸ ascii)
        exact ⟨_, List.mem_singleton.mpr rfl, ⟨bytes ▸ split, congrArg (_ + List.length ·) bytes⟩, rfl⟩
      next => cases spelled
    | _ => cases spelled
  | @seq _ _ _ a b _ _ ih ih' =>
    rw [Core.spellings?] at spelled
    split at spelled
    next before after first second =>
      cases spelled
      obtain ⟨one, member, reads⟩ := ih first
      obtain ⟨other, member', reads'⟩ := ih' second
      exact ⟨one ++ other, List.mem_flatMap.mpr ⟨one, member, List.mem_map.mpr ⟨other, member', rfl⟩⟩, reads.trans reads'⟩
    next => cases spelled
  | altFirst _ ih =>
    rw [Core.spellings?] at spelled
    split at spelled
    next one other first second =>
      cases spelled
      obtain ⟨word, member, reads⟩ := ih first
      exact ⟨word, List.mem_append_left _ member, reads⟩
    next => cases spelled
  | altSecond _ ih =>
    rw [Core.spellings?] at spelled
    split at spelled
    next one other first second =>
      cases spelled
      obtain ⟨word, member, reads⟩ := ih second
      exact ⟨word, List.mem_append_right _ member, reads⟩
    next => cases spelled
  | _ => cases spelled

/-! ### Several parts -/

/-- Parts that take the text one after the other. -/
inductive TakesAll (subject : Subject) (origin : Nat) : List Core → Place → Place → Prop where
  | nil {here : Place} : TakesAll subject origin [] here here
  | cons {here between there : Place} {e : Core} {parts : List Core} (first : Takes subject origin e here between)
      (rest : TakesAll subject origin parts between there) : TakesAll subject origin (e :: parts) here there

@[simp] theorem takesAll_nil_iff {subject : Subject} {origin : Nat} {here there : Place} :
    TakesAll subject origin [] here there ↔ here = there := by
  constructor
  · intro takes
    cases takes
    rfl
  · rintro rfl
    exact .nil

@[simp] theorem takesAll_cons_iff {subject : Subject} {origin : Nat} {here there : Place} {e : Core} {parts : List Core} :
    TakesAll subject origin (e :: parts) here there ↔
      ∃ between, Takes subject origin e here between ∧ TakesAll subject origin parts between there := by
  constructor
  · intro takes
    cases takes with
    | cons first rest => exact ⟨_, first, rest⟩
  · rintro ⟨between, first, rest⟩
    exact .cons first rest

theorem Core.joinPairs_ne_nil {join : Core → Core → Core} {done parts : List Core} (some : parts ≠ []) :
    joinPairs join done parts ≠ [] := by
  have length : ∀ done parts : List Core, done.length ≤ (joinPairs join done parts).length := by
    intro done parts
    fun_induction joinPairs join done parts with
    | case1 _ _ _ _ ih => exact Nat.le_trans (Nat.le_succ _) ih
    | case2 => simp
    | case3 => simp
  match parts with
  | [] => exact absurd rfl some
  | [a] => simp [joinPairs]
  | a :: b :: rest =>
    rw [joinPairs]
    exact List.ne_nil_of_length_pos (Nat.lt_of_lt_of_le (Nat.succ_pos _) (length (join a b :: done) rest))

/-- Parts can be joined two by two in any order of rounds: what holds of the whole and survives taking a joint apart holds of
the parts. -/
theorem Core.of_joinIn {join : Core → Core → Core} {P : List Core → Prop}
    (apart : ∀ front a b rest, P (front ++ join a b :: rest) → P (front ++ a :: b :: rest)) (rounds : Nat)
    {parts : List Core} (some : parts ≠ []) (whole : P [joinIn join rounds parts]) : P parts := by
  have pairs : ∀ done parts, P (joinPairs join done parts) → P (done.reverse ++ parts) := by
    intro done parts
    fun_induction joinPairs join done parts with
    | case1 done a b rest ih =>
      intro joined
      have joined := ih joined
      rw [List.reverse_cons, List.append_assoc] at joined
      exact apart _ _ _ _ joined
    | case2 done a =>
      intro joined
      rwa [List.reverse_cons] at joined
    | case3 done =>
      intro joined
      rwa [List.append_nil]
  induction rounds generalizing parts with
  | zero =>
    have fold : ∀ (rest : List Core) (a : Core), P [rest.foldl join a] → P (a :: rest) := by
      intro rest
      induction rest with
      | nil => exact fun _ => id
      | cons b rest ih => exact fun a whole => apart [] a b rest (ih (join a b) whole)
    match parts with
    | [] => exact absurd rfl some
    | [a] => exact whole
    | a :: b :: rest => exact fold (b :: rest) a whole
  | succ rounds ih =>
    match parts with
    | [] => exact absurd rfl some
    | [a] => exact whole
    | a :: b :: rest =>
      exact pairs [] _ (ih (joinPairs_ne_nil (List.cons_ne_nil _ _)) whole)

theorem Takes.of_sequence {subject : Subject} {origin : Nat} {parts : List Core} {here there : Place}
    (takes : Takes subject origin (.sequence parts) here there) : TakesAll subject origin parts here there := by
  by_cases some : parts = []
  · subst some
    cases takes
    exact .nil
  · refine Core.of_joinIn (P := fun parts => TakesAll subject origin parts here there) ?_ parts.length some
      (.cons takes .nil)
    clear takes
    intro front a b rest
    induction front generalizing here with
    | nil =>
      intro joined
      cases joined with
      | cons first rest =>
        cases first with
        | seq before behind => exact .cons before (.cons behind rest)
    | cons e front ih =>
      intro joined
      cases joined with
      | cons first rest => exact .cons first (ih rest)

theorem Takes.of_choice {subject : Subject} {origin : Nat} {parts : List Core} {here there : Place} (some : parts ≠ [])
    (takes : Takes subject origin (.choice parts) here there) : ∃ e ∈ parts, Takes subject origin e here there := by
  refine Core.of_joinIn (P := fun parts => ∃ e ∈ parts, Takes subject origin e here there) ?_ parts.length some
    ⟨_, List.mem_singleton.mpr rfl, takes⟩
  rintro front a b rest ⟨e, member, chosen⟩
  simp only [List.mem_append, List.mem_cons] at member ⊢
  rcases member with member | rfl | member
  · exact ⟨e, .inl member, chosen⟩
  · cases chosen with
    | altFirst chosen => exact ⟨a, .inr (.inl rfl), chosen⟩
    | altSecond chosen => exact ⟨b, .inr (.inr (.inl rfl)), chosen⟩
  · exact ⟨e, .inr (.inr (.inr member)), chosen⟩

/-! ### Runs that prefer more -/

/-- Whether an expression ends in a run of characters from a set that prefers more. -/
def Core.endsInRun (set : CharSet) : Core → Bool
  | .plus true (.char run) => run = set
  | .capture _ e => e.endsInRun set
  | .seq _ b => b.endsInRun set
  | .alt a b => a.endsInRun set && b.endsInRun set
  | _ => false

section Runs

variable {program : Program} {text : Text} {origin : Nat} {last : Job} {set : CharSet} {body back next : Nat}

/-- No character of a set stands at a position. -/
def Stops (text : Text) (set : CharSet) (position : Nat) : Prop :=
  ∀ c width : Nat, (Subject.ofText text).units[position]? = some (c, width) → set.contains c = false

/-- A run that is left where acceptance follows has come to its end: one more round would have been preferred. -/
theorem Prefers.run_to_end (returns : program.code[back]? = some (.split body next))
    (reads : program.code[body]? = some (.char set back))
    (accepts : ∀ (seen : Nat → Nat → Prop) (place : Place), Accepts program (.ofText text) origin seen (place.job next))
    (n : Nat) (here : Place) (prefers : Prefers program (.ofText text) origin n (here.job back) last) :
    ∃ there m, m ≤ n ∧ Takes (.ofText text) origin (.star true (.char set)) here there ∧
      Prefers program (.ofText text) origin m (there.job next) last ∧ Stops text set there.position := by
  induction n using Nat.strongRecOn generalizing here with
  | ind n ih =>
    obtain ⟨m, shorter, round | ⟨refused, leave⟩⟩ := prefers.split_cases returns
    · obtain ⟨c, width, k, le, read, member, rest⟩ := round.char_cases reads
      obtain ⟨there, l, le', more, left, stops⟩ := ih k (by omega) _ rest
      exact ⟨there, l, by omega, .starMore (.char read member) more, left, stops⟩
    · refine ⟨here, m, by omega, .starDone, leave, fun c width read => Bool.eq_false_iff.mpr fun member => ?_⟩
      have wide := (Subject.unit_fits read).1
      have unsplit : ¬ program.splitsAt body = true := by
        rw [Program.splitsAt_iff]
        rintro ⟨a, b, there⟩
        cases reads.symm.trans there
      have again : Accepts program (.ofText text) origin (fun _ position => position ≤ here.position)
          ((here.ahead width).job back) :=
        .step (fun _ before => absurd before (by simp only [Place.job, Place.ahead]; omega)) (.second returns)
          (accepts _ (here.ahead width))
      exact refused (.step (fun splits => absurd splits unsplit) (.char reads read member) again)

theorem Prefers.takes_all {e : Core} {start : Nat} (codes : Codes program.code e start next)
    (run : e.endsInRun set = true)
    (accepts : ∀ (seen : Nat → Nat → Prop) (place : Place), Accepts program (.ofText text) origin seen (place.job next))
    (n : Nat) (here : Place) (prefers : Prefers program (.ofText text) origin n (here.job start) last) :
    ∃ there m, m ≤ n ∧ Takes (.ofText text) origin e here there ∧
      Prefers program (.ofText text) origin m (there.job next) last ∧ Stops text set there.position := by
  induction codes generalizing n here with
  | @plus greedy e body back next returns inner =>
    cases greedy with
    | false => cases run
    | true =>
      cases inner with
      | char reads =>
        rw [Core.endsInRun, decide_eq_true_iff] at run
        subst run
        obtain ⟨c, width, m, le, read, member, rest⟩ := prefers.char_cases reads
        obtain ⟨there, l, le', more, left, stops⟩ := rest.run_to_end returns reads accepts
        exact ⟨there, l, by omega, .plus (.char read member) more, left, stops⟩
      | _ => cases run
  | @capture group start body stop next e opens _ closes ih =>
    obtain ⟨m, le, more⟩ := prefers.save_cases opens
    have unsplit : ¬ program.splitsAt stop = true := by
      rw [Program.splitsAt_iff]
      rintro ⟨a, b, there⟩
      cases closes.symm.trans there
    have accepts' : ∀ (seen : Nat → Nat → Prop) (place : Place),
        Accepts program (.ofText text) origin seen (place.job stop) := fun seen place =>
      .step (fun splits => absurd splits unsplit) (.save closes) (accepts seen (place.mark (2 * group + 1)))
    obtain ⟨there, k, le', inner, more, stops⟩ := ih run accepts' m _ more
    obtain ⟨l, le'', more⟩ := more.save_cases closes
    exact ⟨_, l, by omega, .capture inner, more, stops⟩
  | seq before _ _ second =>
    obtain ⟨between, m, le, first, more⟩ := Prefers.takes before n here prefers
    obtain ⟨there, k, le', behind, more, stops⟩ := second run accepts m between more
    exact ⟨there, k, by omega, .seq first behind, more, stops⟩
  | alt splits _ _ left right =>
    rw [Core.endsInRun, Bool.and_eq_true] at run
    obtain ⟨m, shorter, more | ⟨-, more⟩⟩ := prefers.split_cases splits
    · obtain ⟨there, k, le, chosen, more, stops⟩ := left run.1 accepts m here more
      exact ⟨there, k, by omega, .altFirst chosen, more, stops⟩
    · obtain ⟨there, k, le, chosen, more, stops⟩ := right run.2 accepts m here more
      exact ⟨there, k, by omega, .altSecond chosen, more, stops⟩
  | _ => cases run

end Runs

end QualityGate.Pattern
