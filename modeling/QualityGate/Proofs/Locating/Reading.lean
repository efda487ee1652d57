import QualityGate.Locating.Patterns
import QualityGate.Proofs.Pattern.Enumeration

/-!
Declarations read from matches. The matches of a pattern are in order, apart and complete, and so are the declarations read
from them (`enumeration_ordered_and_complete`). Reading types slices the text only within its bounds; reading methods
breaks off exactly at a match that takes no part in the group `name`, which the check of the patterns does not rule out
(`breaksOff_iff_unnamed`).
-/

namespace QualityGate.PatternLocator

open Pattern (Subject Match)

/-! ### Slices -/

variable {text : Text} {locator : PatternLocator} {one : Match}

theorem slice_of_le {start stop : Nat} (ordered : start ≤ stop) (inside : stop ≤ text.length) :
    slice (.ofText text) (some (start, stop)) = .ok (text.slice start stop) := by
  rw [slice, if_pos ⟨ordered, by rwa [Subject.size_ofText]⟩, Subject.slice_ofText]

/-- All groups that take part in a match, and the match itself, can be sliced from the text. -/
structure Sliceable (text : Text) (one : Match) : Prop where
  whole : one.start ≤ one.stop ∧ one.stop ≤ text.length
  groups : ∀ a b, some (a, b) ∈ one.groups → a ≤ b ∧ b ≤ text.length

theorem sliceable_of_valid {e : Pattern.Core} {origin : Nat} (valid : one.Valid e text origin) : Sliceable text one := by
  refine ⟨⟨valid.start_le, valid.stop_le⟩, fun a b member => ?_⟩
  have within := valid.groups a b member
  exact ⟨within.2.1, Nat.le_trans within.2.2 valid.stop_le⟩

theorem Sliceable.slice_group (sliceable : Sliceable text one) {bounds : Nat × Nat} (member : some bounds ∈ one.groups) :
    slice (.ofText text) (some bounds) = .ok (text.slice bounds.1 bounds.2) := by
  have within := sliceable.groups bounds.1 bounds.2 member
  exact slice_of_le within.1 within.2

theorem exists_of_kindOf? {names : List Text} {groups : List (Option (Nat × Nat))} {kind : Text} {bounds : Nat × Nat}
    (found : kindOf? names groups = some (kind, bounds)) :
    ∃ i : Nat, names[i]? = some kind ∧ groups[i]? = some (some bounds) := by
  fun_induction kindOf? names groups with
  | case1 _ _ _ _ _ ih =>
    obtain ⟨i, name, group⟩ := ih found
    exact ⟨i + 1, name, group⟩
  | case2 =>
    cases found
    exact ⟨0, rfl, rfl⟩
  | case3 _ _ _ ih =>
    obtain ⟨i, name, group⟩ := ih found
    exact ⟨i + 1, name, group⟩
  | case4 => cases found

theorem typeOf_sliceable (sliceable : Sliceable text one) :
    locator.typeOf (.ofText text) one = .ok ((kindOf? locator.types.groupNames one.groups).map fun found =>
      ⟨found.1, text.slice found.2.1 found.2.2, one.start⟩) := by
  rw [typeOf]
  split
  next none => rw [none, Option.map_none]
  next kind bounds some =>
    obtain ⟨i, -, group⟩ := exists_of_kindOf? some
    rw [some, sliceable.slice_group (List.mem_of_getElem? group)]
    rfl

theorem mapM_ok {α β : Type} {read : α → Except SliceFault β} {give : α → β} (items : List α)
    (reads : ∀ item ∈ items, read item = .ok (give item)) : items.mapM read = .ok (items.map give) := by
  induction items with
  | nil => rfl
  | cons item items ih =>
    rw [List.mapM_cons, reads item (.head _), ih fun other member => reads other (.tail _ member)]
    rfl

/-- The bounds of the qualifier groups that take part in a match. -/
def qualifierBounds (locator : PatternLocator) (one : Match) : List (Nat × Nat) :=
  locator.qualifierGroups.filterMap fun group => (one.groups[group]?).join

theorem qualifiers_sliceable (sliceable : Sliceable text one) :
    locator.qualifiers (.ofText text) one =
      .ok (Text.join " " (((locator.qualifierBounds one).map fun bounds => text.slice bounds.1 bounds.2).flatMap
        Text.fields)) := by
  have parts := mapM_ok (locator.qualifierBounds one) fun bounds member => by
    obtain ⟨group, -, present⟩ := List.mem_filterMap.mp member
    have member : some bounds ∈ one.groups := List.mem_of_getElem? (Option.join_eq_some_iff.mp present)
    exact sliceable.slice_group member
  rw [qualifiers]
  change ((locator.qualifierBounds one).mapM _ >>= _) = _
  rw [parts]
  rfl

/-- The declaration that a method match with a name between some bounds gives. -/
def methodAt (locator : PatternLocator) (text : Text) (one : Match) (bounds : Nat × Nat) : MethodDeclaration where
  qualifiers := Text.join " " (((locator.qualifierBounds one).map fun bounds => text.slice bounds.1 bounds.2).flatMap
    Text.fields)
  name := text.slice bounds.1 bounds.2
  offset := one.start

theorem methodOf_of_excludes (sliceable : Sliceable text one)
    (excluded : locator.excludes (text.slice one.start one.stop) = true) :
    locator.methodOf (.ofText text) one = .ok none := by
  rw [methodOf, slice_of_le sliceable.whole.1 sliceable.whole.2]
  simp [bind, Except.bind, excluded, pure, Except.pure]

theorem methodOf_of_not_excludes (sliceable : Sliceable text one)
    (kept : locator.excludes (text.slice one.start one.stop) = false) :
    locator.methodOf (.ofText text) one = match (one.groups[locator.nameGroup]?).join with
      | none => .error {}
      | some bounds => .ok (some (locator.methodAt text one bounds)) := by
  rw [methodOf, slice_of_le sliceable.whole.1 sliceable.whole.2, qualifiers_sliceable sliceable]
  simp only [bind, Except.bind, kept, pure, Except.pure, Bool.false_eq_true, if_false]
  cases name : (one.groups[locator.nameGroup]?).join with
  | none => rfl
  | some bounds =>
    have member : some bounds ∈ one.groups := List.mem_of_getElem? (Option.join_eq_some_iff.mp name)
    rw [sliceable.slice_group member]
    rfl

/-! ### Reading one after the other -/

theorem sublist_readAll {α : Type} {read : Match → Except SliceFault (Option α)} {offset : α → Int} (found : List Match)
    (gives : ∀ one ∈ found, ∀ item, read one = .ok (some item) → offset item = one.start) :
    ((readAll read found).items.map offset).Sublist (found.map fun one => (one.start : Int)) := by
  induction found with
  | nil => exact .slnil
  | cons one rest ih =>
    have ih := ih fun other member => gives other (.tail _ member)
    rw [readAll]
    split
    next => exact List.nil_sublist _
    next => exact .cons _ ih
    next item given =>
      rw [List.map_cons, List.map_cons, gives one (.head _) item given]
      exact .cons_cons _ ih

theorem brokenOff_readAll_iff {α : Type} (read : Match → Except SliceFault (Option α)) (found : List Match) :
    (readAll read found).brokenOff = true ↔ ∃ one ∈ found, read one = .error {} := by
  induction found with
  | nil => simp [readAll]
  | cons one rest ih =>
    rw [readAll]
    cases given : read one with
    | error fault => simp [given]
    | ok item => cases item <;> simp [given, ih]

theorem mem_items_readAll {α : Type} {read : Match → Except SliceFault (Option α)} {found : List Match} {item : α}
    (member : item ∈ (readAll read found).items) : ∃ one ∈ found, read one = .ok (some item) := by
  induction found with
  | nil => cases member
  | cons one rest ih =>
    rw [readAll] at member
    split at member
    next => cases member
    next =>
      obtain ⟨other, within, given⟩ := ih member
      exact ⟨other, .tail _ within, given⟩
    next first given =>
      rcases List.mem_cons.mp member with rfl | member
      · exact ⟨one, .head _, given⟩
      · obtain ⟨other, within, given⟩ := ih member
        exact ⟨other, .tail _ within, given⟩

theorem offsets_readAll {α : Type} {read : Match → Except SliceFault (Option α)} (offset : α → Int) {e : Pattern.Core}
    {found : List Match} (enumerated : Pattern.Enumerated e text 0 found)
    (gives : ∀ one ∈ found, ∀ item, read one = .ok (some item) → offset item = one.start) :
    (readAll read found).items.Pairwise fun one other => offset one < offset other := by
  have starts : (found.map fun one => (one.start : Int)).Pairwise (· < ·) :=
    List.pairwise_map.mpr (enumerated.ordered.imp fun before => Int.ofNat_lt.mpr before.1)
  exact List.pairwise_map.mp (starts.sublist (sublist_readAll found gives))

/-! ### Compiled patterns -/

theorem ok_of_mapError {ε ε' α : Type} {f : ε → ε'} {result : Except ε α} {value : α}
    (ok : result.mapError f = .ok value) : result = .ok value := by
  cases result with
  | error => cases ok
  | ok given =>
    cases ok
    rfl

structure Made (patterns : DeclarationPatterns) (locator : PatternLocator) : Prop where
  types : Pattern.compile patterns.types = .ok locator.types
  methods : Pattern.compile patterns.methods = .ok locator.methods
  name : locator.methods.groupNamed? "name" = some locator.nameGroup
  qualifiers : locator.qualifierGroups =
    [locator.methods.groupNamed? "access", locator.methods.groupNamed? "modifier"].filterMap id
  excluded : locator.excludedWords = patterns.excludedWords.map Text.lower

theorem made_of_compile {patterns : DeclarationPatterns} (compiled : compile patterns = .ok locator) :
    Made patterns locator := by
  rw [compile] at compiled
  cases types : (Pattern.compile patterns.types).mapError PatternRefusal.typePattern with
  | error =>
    rw [types] at compiled
    cases compiled
  | ok typePattern =>
    cases methods : (Pattern.compile patterns.methods).mapError PatternRefusal.methodPattern with
    | error =>
      rw [types, methods] at compiled
      cases compiled
    | ok methodPattern =>
      rw [types, methods] at compiled
      simp only [bind, Except.bind, pure, Except.pure] at compiled
      split at compiled
      next => cases compiled
      next =>
        split at compiled
        next => cases compiled
        next nameGroup name =>
          cases compiled
          exact ⟨ok_of_mapError types, ok_of_mapError methods, name, rfl, rfl⟩

theorem exists_enumerated {source : Text} {pattern : Pattern} (compiled : Pattern.compile source = .ok pattern)
    (text : Text) : ∃ e, Pattern.Enumerated e text 0 (pattern.matchesIn (.ofText text)) := by
  obtain ⟨e, names, -, rfl⟩ := Pattern.compile_eq_ok_iff.mp compiled
  exact ⟨e, Pattern.enumerated_matchesIn e names text⟩

theorem sliceable_of_mem {e : Pattern.Core} {found : List Match} (enumerated : Pattern.Enumerated e text 0 found)
    (member : one ∈ found) : Sliceable text one := by
  obtain ⟨before, after, split⟩ := List.append_of_mem member
  exact sliceable_of_valid (enumerated.valid before one after split).2

/-! ### Order and completeness -/

theorem offset_of_typeOf (sliceable : Sliceable text one) {item : TypeDeclaration}
    (given : locator.typeOf (.ofText text) one = .ok (some item)) : item.offset = one.start := by
  rw [typeOf_sliceable sliceable, Except.ok.injEq] at given
  obtain ⟨found, -, rfl⟩ := Option.map_eq_some_iff.mp given
  rfl

theorem exists_bounds_of_methodOf (sliceable : Sliceable text one) {item : MethodDeclaration}
    (given : locator.methodOf (.ofText text) one = .ok (some item)) :
    locator.excludes (text.slice one.start one.stop) = false ∧
      ∃ bounds, one.groups[locator.nameGroup]? = some (some bounds) ∧ item = locator.methodAt text one bounds := by
  cases excluded : locator.excludes (text.slice one.start one.stop) with
  | true =>
    rw [methodOf_of_excludes sliceable excluded] at given
    cases given
  | false =>
    rw [methodOf_of_not_excludes sliceable excluded] at given
    split at given
    next => cases given
    next bounds named =>
      cases given
      exact ⟨rfl, bounds, Option.join_eq_some_iff.mp named, rfl⟩

/-- The matches of a pattern come from left to right and none is passed over: between one match and the next, no match
starts that looks at nothing outside itself. So the declarations of both kinds are found in order of their offsets. -/
theorem enumeration_ordered_and_complete (text : Text) :
    (∀ source e names, Pattern.expressionOf? source = some (e, names) →
      ∃ pattern, Pattern.compile source = .ok pattern ∧ Pattern.Enumerated e text 0 (pattern.allMatches text) ∧
        (e.unconditional = true → ∀ before after, pattern.allMatches text = before ++ after →
          ∀ i, (Subject.ofText text).Boundary (Pattern.resumeAfter 0 before) i → i ≤ text.length →
            (∀ one ∈ after.head?, i < one.start) → ∀ origin, ¬ e.Starts text origin i)) ∧
    ∀ patterns locator, compile patterns = .ok locator →
      (locator.typesIn (.ofText text)).items.Pairwise (fun one other => one.offset < other.offset) ∧
        (locator.methodsIn (.ofText text)).items.Pairwise (fun one other => one.offset < other.offset) := by
  constructor
  · intro source e names parsed
    have enumerated := Pattern.enumerated_matchesIn e names text
    refine ⟨_, Pattern.compile_eq_ok_iff.mpr ⟨e, names, parsed, rfl⟩, enumerated, ?_⟩
    intro free before after split i boundary inside ahead origin starts
    exact enumerated.complete before after split i boundary inside ahead (starts.of_unconditional free _)
  · intro patterns locator compiled
    have made := made_of_compile compiled
    obtain ⟨e, types⟩ := exists_enumerated made.types text
    obtain ⟨e', methods⟩ := exists_enumerated made.methods text
    constructor
    · refine offsets_readAll TypeDeclaration.offset types fun one member item given => ?_
      exact offset_of_typeOf (sliceable_of_mem types member) given
    · refine offsets_readAll MethodDeclaration.offset methods fun one member item given => ?_
      obtain ⟨-, bounds, -, rfl⟩ := exists_bounds_of_methodOf (sliceable_of_mem methods member) given
      rfl

theorem enumeration_of_runs :
    (∃ pattern, Pattern.compile "a+" = .ok pattern ∧ pattern.allMatches "baab" = [⟨1, 3, []⟩] ∧
      Pattern.Enumerated (.plus true (.char (.range 97 97))) "baab" 0 (pattern.allMatches "baab") ∧
      ¬ Pattern.Core.Starts (.plus true (.char (.range 97 97))) "baab" 0 3) ∧
    ∃ locator, compile ⟨"(?P<class>c)", "(?P<name>a)", []⟩ = .ok locator ∧
      (locator.methodsIn (.ofText "aba")).items.map (·.offset) = [0, 2] ∧
      (locator.methodsIn (.ofText "aba")).items.Pairwise (fun one other => one.offset < other.offset) := by
  constructor
  · obtain ⟨pattern, compiled, enumerated, complete⟩ :=
      (enumeration_ordered_and_complete "baab").1 "a+" (.plus true (.char (.range 97 97))) [] (by decide +kernel)
    have found : (Pattern.compile "a+").toOption.map (·.allMatches "baab") = some [⟨1, 3, []⟩] := by decide +kernel
    rw [compiled] at found
    have found := Option.some.inj found
    refine ⟨pattern, compiled, found, enumerated, ?_⟩
    exact complete rfl [⟨1, 3, []⟩] [] found 3 .here (by decide) (by simp) 0
  · have read : (compile ⟨"(?P<class>c)", "(?P<name>a)", []⟩).toOption.map (fun locator =>
        (locator.methodsIn (.ofText "aba")).items.map (·.offset)) = some [0, 2] := by decide +kernel
    cases compiled : compile ⟨"(?P<class>c)", "(?P<name>a)", []⟩ with
    | error =>
      rw [compiled] at read
      cases read
    | ok locator =>
      rw [compiled] at read
      exact ⟨locator, rfl, Option.some.inj read, ((enumeration_ordered_and_complete "aba").2 _ locator compiled).2⟩

/-! ### Reading without a fault -/

theorem methodOf_eq_error_iff (sliceable : Sliceable text one) :
    locator.methodOf (.ofText text) one = .error {} ↔
      locator.excludes (text.slice one.start one.stop) = false ∧ (one.groups[locator.nameGroup]?).join = none := by
  cases excluded : locator.excludes (text.slice one.start one.stop) with
  | true => simp [methodOf_of_excludes sliceable excluded]
  | false =>
    rw [methodOf_of_not_excludes sliceable excluded]
    cases (one.groups[locator.nameGroup]?).join <;> simp

theorem brokenOff_typesIn {patterns : DeclarationPatterns} (made : Made patterns locator) (text : Text) :
    (locator.typesIn (.ofText text)).brokenOff = false := by
  obtain ⟨e, types⟩ := exists_enumerated made.types text
  rw [← Bool.not_eq_true, typesIn, brokenOff_readAll_iff]
  rintro ⟨one, member, fault⟩
  rw [typeOf_sliceable (sliceable_of_mem types member)] at fault
  cases fault

theorem brokenOff_methodsIn_iff {patterns : DeclarationPatterns} (made : Made patterns locator) (text : Text) :
    (locator.methodsIn (.ofText text)).brokenOff = true ↔ ∃ one ∈ locator.methods.allMatches text,
      locator.excludes (text.slice one.start one.stop) = false ∧ (one.groups[locator.nameGroup]?).join = none := by
  obtain ⟨e, methods⟩ := exists_enumerated made.methods text
  rw [methodsIn, brokenOff_readAll_iff]
  refine exists_congr fun one => and_congr_right fun member => ?_
  exact methodOf_eq_error_iff (sliceable_of_mem methods member)

/-- A group without which nothing can be taken takes part in every match. -/
theorem named_of_requires {e : Pattern.Core} {names : List Text} {group : Nat} (required : e.requires (group + 1) = true)
    (room : group < names.length)
    (member : one ∈ Pattern.matchesIn ⟨e.program names.length, names⟩ (.ofText text)) :
    ∃ bounds, one.groups[group]? = some (some bounds) := by
  obtain ⟨origin, n, last, path, whole⟩ := (Pattern.enumerates_matchesIn e names text).path member
  obtain ⟨there, takes, rfl⟩ := path.takes_start (e.program_spec names.length)
  have even : ((e.program names.length).blank one.start).slots.size = 2 * (names.length + 1) := by
    rw [Pattern.Program.blank, Array.size_replicate]
    rfl
  obtain ⟨a, b, bounds⟩ := takes.bounds_of_requires required even (by omega)
  rw [whole]
  exact ⟨(a, b), Pattern.Job.getElem?_groups_iff.mpr ⟨room, bounds⟩⟩

/-- The search for methods breaks off exactly if a match that is not excluded has no name, and never if the pattern
requires one; the search for types never does. -/
theorem breaksOff_iff_unnamed {patterns : DeclarationPatterns} (compiled : compile patterns = .ok locator) (text : Text) :
    (locator.typesIn (.ofText text)).brokenOff = false ∧
      ((locator.methodsIn (.ofText text)).brokenOff = true ↔ ∃ one ∈ locator.methods.allMatches text,
        locator.excludes (text.slice one.start one.stop) = false ∧ (one.groups[locator.nameGroup]?).join = none) ∧
      (∀ one ∈ locator.methods.allMatches text, ∀ start stop, some (start, stop) ∈ one.groups →
        start ≤ stop ∧ stop ≤ text.length) ∧
      ∀ e names, Pattern.expressionOf? patterns.methods = some (e, names) → e.requires (locator.nameGroup + 1) = true →
        (locator.methodsIn (.ofText text)).brokenOff = false := by
  have made := made_of_compile compiled
  have breaks := brokenOff_methodsIn_iff made text
  obtain ⟨e, methods⟩ := exists_enumerated made.methods text
  refine ⟨brokenOff_typesIn made text, breaks, fun one member => (sliceable_of_mem methods member).groups, ?_⟩
  intro e names expression required
  rw [← Bool.not_eq_true, breaks]
  rintro ⟨one, member, -, unnamed⟩
  obtain ⟨e', names', expression', same⟩ := Pattern.compile_eq_ok_iff.mp made.methods
  cases expression.symm.trans expression'
  have room : locator.nameGroup < names.length := by
    have inside := (List.findIdx?_eq_some_iff_findIdx_eq.mp made.name).1
    rwa [same] at inside
  rw [Pattern.allMatches, same] at member
  obtain ⟨bounds, named⟩ := named_of_requires required room member
  rw [named] at unnamed
  cases unnamed

/-- Patterns that pass the check, although a method can be matched without a name. -/
def perhapsNamed : DeclarationPatterns := ⟨"(?P<class>c)", "(?P<name>a)|b", []⟩

theorem unnamed_method_breaks_off :
    ∃ locator, compile perhapsNamed = .ok locator ∧ (locator.methodsIn (.ofText "b")).brokenOff = true := by
  have broken : (compile perhapsNamed).toOption.map (fun locator => (locator.methodsIn (.ofText "b")).brokenOff) =
      some true := by decide +kernel
  cases compiled : compile perhapsNamed with
  | error =>
    rw [compiled] at broken
    cases broken
  | ok locator =>
    rw [compiled] at broken
    exact ⟨locator, rfl, Option.some.inj broken⟩

theorem named_methods_are_read :
    ∃ locator, compile ⟨"(?P<class>c)", "b?(?P<name>a)", []⟩ = .ok locator ∧
      (locator.methodsIn (.ofText "baa")).items.length = 2 ∧
      (locator.typesIn (.ofText "baa")).brokenOff = false ∧ (locator.methodsIn (.ofText "baa")).brokenOff = false := by
  have read : (compile ⟨"(?P<class>c)", "b?(?P<name>a)", []⟩).toOption.map (fun locator =>
      ((locator.methodsIn (.ofText "baa")).items.length, locator.nameGroup)) = some (2, 0) := by decide +kernel
  cases compiled : compile ⟨"(?P<class>c)", "b?(?P<name>a)", []⟩ with
  | error =>
    rw [compiled] at read
    cases read
  | ok locator =>
    rw [compiled] at read
    obtain ⟨length, nameGroup⟩ := Prod.mk.inj (Option.some.inj read)
    obtain ⟨types, -, -, methods⟩ := breaksOff_iff_unnamed compiled "baa"
    have expression : Pattern.expressionOf? "b?(?P<name>a)" =
        some (Pattern.Core.seq (.opt true (.char (.range 98 98))) (.capture 1 (.char (.range 97 97))),
          (["name"] : List Text)) := by decide +kernel
    refine ⟨locator, rfl, length, types, methods _ _ expression ?_⟩
    rw [nameGroup]
    rfl

end QualityGate.PatternLocator
