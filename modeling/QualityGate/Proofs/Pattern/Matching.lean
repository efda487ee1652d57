import QualityGate.Pattern.Search
import QualityGate.Proofs.Text.Decoding

/-!
What an expression takes from a text. `Takes` is the meaning of an expression without any order of preference: from one
place in the text to another, with the bounds of the groups on the way. A match moves forward and stays in the text
(`Takes.position_le`, `Takes.position_le_size`), and the groups that take part lie in it (`Takes.slots`).
-/

namespace QualityGate.Pattern

/-! ### Prepared texts -/

/-- The code point and the width at the front of a text. -/
def unitOf : Text → Option (Nat × Nat)
  | [] => none
  | b :: rest => some (((Text.front (b :: rest)).1.getD Text.replacement).toNat, (Text.front (b :: rest)).2)

theorem getElem?_unitsAfter_of_lt (done : Array (Nat × Nat)) (t : Text) {i : Nat} (before : i < done.size) :
    (unitsAfter done t)[i]? = done[i]? := by
  induction t generalizing done with
  | nil => rfl
  | cons b rest ih =>
    rw [unitsAfter, ih _ (by rw [Array.size_push]; omega), Array.getElem?_push_lt before]
    exact (Array.getElem?_eq_getElem before).symm

theorem getElem?_unitsAfter (done : Array (Nat × Nat)) (t : Text) (i : Nat) :
    (unitsAfter done t)[done.size + i]? = unitOf (t.drop i) := by
  induction t generalizing done i with
  | nil => simp [unitsAfter, unitOf]
  | cons b rest ih =>
    rw [unitsAfter]
    cases i with
    | zero =>
      rw [getElem?_unitsAfter_of_lt _ _ (by rw [Array.size_push]; omega)]
      simp [unitOf]
    | succ i =>
      have next := ih (done.push (((Text.front (b :: rest)).1.getD Text.replacement).toNat, (Text.front (b :: rest)).2)) i
      rw [Array.size_push, Nat.add_assoc, Nat.add_comm 1 i] at next
      exact next

namespace Subject

theorem units_ofText (text : Text) (i : Nat) : (ofText text).units[i]? = unitOf (text.drop i) := by
  have units := getElem?_unitsAfter #[] text i
  rwa [Array.size_empty, Nat.zero_add] at units

@[simp] theorem size_ofText (text : Text) : (ofText text).size = text.length := by simp [size, ofText]

theorem slice_ofText (text : Text) (start stop : Nat) : (ofText text).slice start stop = text.slice start stop := by
  simp [slice, ofText, Text.slice]

/-- Every unit has a width and ends in the text. -/
theorem unit_fits {text : Text} {i c width : Nat} (read : (ofText text).units[i]? = some (c, width)) :
    0 < width ∧ i + width ≤ text.length := by
  rw [units_ofText] at read
  cases split : text.drop i with
  | nil =>
    rw [split] at read
    cases read
  | cons b rest =>
    rw [split, unitOf, Option.some.injEq, Prod.mk.injEq] at read
    have length : rest.length + 1 = text.length - i := by rw [← List.length_drop, split, List.length_cons]
    have there : i < text.length := by omega
    rcases Text.front_cons b rest with ⟨none, -⟩ | ⟨c, after, encoded⟩
    · rw [none] at read
      omega
    · obtain ⟨first, tail, bytes⟩ := Text.exists_encode c
      have total := congrArg List.length encoded
      rw [encoded, Text.front_encode] at read
      rw [List.length_append, List.length_cons] at total
      rw [bytes] at read total
      simp only [List.length_cons] at read total
      omega

end Subject

/-! ### What an expression takes -/

/-- A place that a match has come to: the position in the text and the bounds recorded so far. -/
structure Place where
  position : Nat
  slots : Slots

namespace Place

/-- A place with its position recorded in a slot. -/
def mark (place : Place) (slot : Nat) : Place :=
  { place with slots := place.slots.setIfInBounds slot (some place.position) }

def ahead (place : Place) (width : Nat) : Place := { place with position := place.position + width }

def job (place : Place) (address : Nat) : Job := ⟨address, place.position, place.slots⟩

@[simp] theorem position_mark (place : Place) (slot : Nat) : (place.mark slot).position = place.position := rfl

@[simp] theorem size_slots_mark (place : Place) (slot : Nat) : (place.mark slot).slots.size = place.slots.size := by
  simp [mark]

theorem getElem?_mark_self (place : Place) {slot : Nat} (inBounds : slot < place.slots.size) :
    (place.mark slot).slots[slot]? = some (some place.position) := by
  simp [mark, inBounds]

theorem getElem?_mark_of_ne (place : Place) {slot other : Nat} (different : slot ≠ other) :
    (place.mark slot).slots[other]? = place.slots[other]? := by
  simp [mark, different]

end Place

/-- An expression can lead from one place to another in a text that is searched from `origin` on. -/
inductive Takes (subject : Subject) (origin : Nat) : Core → Place → Place → Prop where
  | empty {here : Place} : Takes subject origin .empty here here
  | char {here : Place} {set : CharSet} {c width : Nat} (read : subject.units[here.position]? = some (c, width))
      (member : set.contains c = true) : Takes subject origin (.char set) here (here.ahead width)
  | assert {here : Place} {condition : Assertion} (holds : subject.satisfies origin here.position condition = true) :
      Takes subject origin (.assert condition) here here
  | capture {here there : Place} {group : Nat} {e : Core} (inner : Takes subject origin e (here.mark (2 * group)) there) :
      Takes subject origin (.capture group e) here (there.mark (2 * group + 1))
  | seq {here between there : Place} {a b : Core} (first : Takes subject origin a here between)
      (second : Takes subject origin b between there) : Takes subject origin (.seq a b) here there
  | altFirst {here there : Place} {a b : Core} (chosen : Takes subject origin a here there) :
      Takes subject origin (.alt a b) here there
  | altSecond {here there : Place} {a b : Core} (chosen : Takes subject origin b here there) :
      Takes subject origin (.alt a b) here there
  | starDone {here : Place} {greedy : Greedy} {e : Core} : Takes subject origin (.star greedy e) here here
  | starMore {here between there : Place} {greedy : Greedy} {e : Core} (round : Takes subject origin e here between)
      (more : Takes subject origin (.star greedy e) between there) : Takes subject origin (.star greedy e) here there
  | plus {here between there : Place} {greedy : Greedy} {e : Core} (round : Takes subject origin e here between)
      (more : Takes subject origin (.star greedy e) between there) : Takes subject origin (.plus greedy e) here there
  | optNone {here : Place} {greedy : Greedy} {e : Core} : Takes subject origin (.opt greedy e) here here
  | optSome {here there : Place} {greedy : Greedy} {e : Core} (round : Takes subject origin e here there) :
      Takes subject origin (.opt greedy e) here there

namespace Takes

variable {subject : Subject} {origin : Nat} {e : Core} {here there : Place}

theorem position_le (takes : Takes subject origin e here there) : here.position ≤ there.position := by
  induction takes with
  | char => exact Nat.le_add_right _ _
  | capture _ ih => exact ih
  | seq _ _ first second => exact Nat.le_trans first second
  | altFirst _ ih | altSecond _ ih | optSome _ ih => exact ih
  | starMore _ _ round more | plus _ _ round more => exact Nat.le_trans round more
  | _ => exact Nat.le_refl _

theorem position_le_size {text : Text} (takes : Takes (.ofText text) origin e here there)
    (inside : here.position ≤ text.length) : there.position ≤ text.length := by
  induction takes with
  | char read => exact (Subject.unit_fits read).2
  | capture _ ih => exact ih inside
  | seq _ _ first second => exact second (first inside)
  | altFirst _ ih | altSecond _ ih | optSome _ ih => exact ih inside
  | starMore _ _ round more | plus _ _ round more => exact more (round inside)
  | _ => exact inside

theorem size_slots (takes : Takes subject origin e here there) : there.slots.size = here.slots.size := by
  induction takes with
  | capture _ ih => simpa using ih
  | seq _ _ first second => exact second.trans first
  | altFirst _ ih | altSecond _ ih | optSome _ ih => exact ih
  | starMore _ _ round more | plus _ _ round more => exact more.trans round
  | _ => rfl

def Bounds (slots : Slots) (group start stop : Nat) : Prop :=
  slots[2 * group]? = some (some start) ∧ slots[2 * group + 1]? = some (some stop)

/-- A group has the bounds that it had before, or new ones in what was taken. -/
def Keeps (here there : Place) (group : Nat) : Prop :=
  (there.slots[2 * group]? = here.slots[2 * group]? ∧ there.slots[2 * group + 1]? = here.slots[2 * group + 1]?) ∨
    ∃ start stop, Bounds there.slots group start stop ∧ here.position ≤ start ∧ start ≤ stop ∧ stop ≤ there.position

theorem Keeps.trans {between : Place} {group : Nat} (first : Keeps here between group) (second : Keeps between there group)
    (start : here.position ≤ between.position) (stop : between.position ≤ there.position) : Keeps here there group := by
  rcases second with ⟨opening, closing⟩ | ⟨a, b, bounds, after, ordered, before⟩
  · rcases first with ⟨opening', closing'⟩ | ⟨a, b, ⟨left, right⟩, after, ordered, before⟩
    · exact .inl ⟨opening.trans opening', closing.trans closing'⟩
    · exact .inr ⟨a, b, ⟨opening.trans left, closing.trans right⟩, after, ordered, Nat.le_trans before stop⟩
  · exact .inr ⟨a, b, bounds, Nat.le_trans start after, ordered, before⟩

/-- Capturing records the group that captures and leaves the others to what is captured. -/
theorem Keeps.capture {group other count : Nat} (even : here.slots.size = 2 * count)
    (inner : Keeps (here.mark (2 * group)) there other) (size : there.slots.size = here.slots.size)
    (forward : here.position ≤ there.position) : Keeps here (there.mark (2 * group + 1)) other := by
  by_cases same : group = other
  · subst same
    by_cases inBounds : group < count
    · refine .inr ?_
      have last := there.getElem?_mark_self (show 2 * group + 1 < there.slots.size by omega)
      have kept := there.getElem?_mark_of_ne (show 2 * group + 1 ≠ 2 * group by omega)
      rcases inner with ⟨opening, -⟩ | ⟨a, b, ⟨left, -⟩, after, ordered, before⟩
      · rw [here.getElem?_mark_self (by omega)] at opening
        exact ⟨_, _, ⟨kept.trans opening, last⟩, Nat.le_refl _, forward, Nat.le_refl _⟩
      · exact ⟨_, _, ⟨kept.trans left, last⟩, after, Nat.le_trans ordered before, Nat.le_refl _⟩
    · -- Without slots for the group there is nothing to record.
      refine .inl ?_
      have beyond : ∀ slots : Slots, slots.size = 2 * count → slots[2 * group]? = none ∧ slots[2 * group + 1]? = none := by
        intro slots size
        exact ⟨Array.getElem?_eq_none (by omega), Array.getElem?_eq_none (by omega)⟩
      have here' := beyond here.slots even
      have there' := beyond (there.mark (2 * group + 1)).slots (by simpa using size.trans even)
      exact ⟨there'.1.trans here'.1.symm, there'.2.trans here'.2.symm⟩
  · have marked : ∀ (place : Place) (slot : Nat), slot ≠ 2 * other → slot ≠ 2 * other + 1 →
        (place.mark slot).slots[2 * other]? = place.slots[2 * other]? ∧
          (place.mark slot).slots[2 * other + 1]? = place.slots[2 * other + 1]? := fun place _ first second =>
      ⟨place.getElem?_mark_of_ne first, place.getElem?_mark_of_ne second⟩
    have before := marked here (2 * group) (by omega) (by omega)
    have after := marked there (2 * group + 1) (by omega) (by omega)
    rcases inner with ⟨opening, closing⟩ | ⟨a, b, ⟨left, right⟩, within⟩
    · exact .inl ⟨after.1.trans (opening.trans before.1), after.2.trans (closing.trans before.2)⟩
    · exact .inr ⟨a, b, ⟨after.1.trans left, after.2.trans right⟩, within⟩

/-- The groups that take part in a match lie in it. -/
theorem slots (takes : Takes subject origin e here there) {count : Nat} (even : here.slots.size = 2 * count)
    (group : Nat) : Keeps here there group := by
  induction takes with
  | char | empty | assert | starDone | optNone => exact .inl ⟨rfl, rfl⟩
  | capture inner ih =>
    have size := inner.size_slots.trans (Place.size_slots_mark _ _)
    exact (ih ((Place.size_slots_mark _ _).trans even)).capture even size inner.position_le
  | seq first second ih ih' =>
    exact (ih even).trans (ih' (first.size_slots.trans even)) first.position_le second.position_le
  | altFirst _ ih | altSecond _ ih | optSome _ ih => exact ih even
  | starMore round more ih ih' | plus round more ih ih' =>
    exact (ih even).trans (ih' (round.size_slots.trans even)) round.position_le more.position_le

end Takes

/-! ### Expressions without conditions -/

/-- Whether an expression has no condition on the place between two characters. -/
def Core.unconditional : Core → Bool
  | .assert _ => false
  | .empty | .char _ => true
  | .capture _ e | .star _ e | .plus _ e | .opt _ e => e.unconditional
  | .seq a b | .alt a b => a.unconditional && b.unconditional

/-- Without conditions it does not matter where the search began. -/
theorem Takes.of_unconditional {subject : Subject} {origin : Nat} {e : Core} {here there : Place}
    (takes : Takes subject origin e here there) (free : e.unconditional = true) (other : Nat) :
    Takes subject other e here there := by
  induction takes with
  | empty => exact .empty
  | char read member => exact .char read member
  | assert => cases free
  | capture _ ih => exact .capture (ih free)
  | seq _ _ first second =>
    rw [Core.unconditional, Bool.and_eq_true] at free
    exact .seq (first free.1) (second free.2)
  | altFirst _ ih =>
    rw [Core.unconditional, Bool.and_eq_true] at free
    exact .altFirst (ih free.1)
  | altSecond _ ih =>
    rw [Core.unconditional, Bool.and_eq_true] at free
    exact .altSecond (ih free.2)
  | starDone => exact .starDone
  | starMore _ _ round more => exact .starMore (round free) (more free)
  | plus _ _ round more => exact .plus (round free) (more free)
  | optNone => exact .optNone
  | optSome _ ih => exact .optSome (ih free)

/-! ### Groups that always take part -/

/-- Whether nothing can be taken without a group. -/
def Core.requires (group : Nat) : Core → Bool
  | .capture number e => number = group || e.requires group
  | .seq a b => a.requires group || b.requires group
  | .alt a b => a.requires group && b.requires group
  | .plus _ e => e.requires group
  | .empty | .char _ | .assert _ | .star _ _ | .opt _ _ => false

/-- A group that has bounds keeps them or gets new ones. -/
theorem Takes.Keeps.bounds {here there : Place} {group start stop : Nat} (keeps : Keeps here there group)
    (bounds : Bounds here.slots group start stop) : ∃ start stop, Bounds there.slots group start stop := by
  rcases keeps with ⟨opening, closing⟩ | ⟨a, b, bounds, -⟩
  · exact ⟨start, stop, opening.trans bounds.1, closing.trans bounds.2⟩
  · exact ⟨a, b, bounds⟩

theorem Takes.bounds_of_requires {subject : Subject} {origin group count : Nat} {e : Core} {here there : Place}
    (takes : Takes subject origin e here there) (required : e.requires group = true)
    (even : here.slots.size = 2 * count) (room : group < count) :
    ∃ start stop, Bounds there.slots group start stop := by
  induction takes with
  | empty | char | assert | starDone | starMore | optNone | optSome => cases required
  | @capture here there number e inner ih =>
    have size := inner.size_slots.trans (Place.size_slots_mark _ _)
    by_cases same : number = group
    · subst same
      have opened := here.getElem?_mark_self (show 2 * number < here.slots.size by omega)
      rcases inner.slots ((Place.size_slots_mark _ _).trans even) number with ⟨kept, -⟩ | ⟨a, b, bounds, -⟩
      · exact ⟨_, _, (there.getElem?_mark_of_ne (by omega)).trans (kept.trans opened), there.getElem?_mark_self (by omega)⟩
      · exact ⟨_, _, (there.getElem?_mark_of_ne (by omega)).trans bounds.1, there.getElem?_mark_self (by omega)⟩
    · rw [Core.requires, Bool.or_eq_true, decide_eq_true_iff] at required
      obtain ⟨a, b, bounds⟩ := ih (required.resolve_left same) ((Place.size_slots_mark _ _).trans even)
      exact ⟨a, b, (there.getElem?_mark_of_ne (by omega)).trans bounds.1,
        (there.getElem?_mark_of_ne (by omega)).trans bounds.2⟩
  | seq first second ih ih' =>
    have even' := first.size_slots.trans even
    rw [Core.requires, Bool.or_eq_true] at required
    rcases required with required | required
    · obtain ⟨a, b, bounds⟩ := ih required even
      exact (second.slots even' group).bounds bounds
    · exact ih' required even'
  | altFirst _ ih =>
    rw [Core.requires, Bool.and_eq_true] at required
    exact ih required.1 even
  | altSecond _ ih =>
    rw [Core.requires, Bool.and_eq_true] at required
    exact ih required.2 even
  | plus round more ih =>
    obtain ⟨a, b, bounds⟩ := ih required even
    exact (more.slots (round.size_slots.trans even) group).bounds bounds

end QualityGate.Pattern
