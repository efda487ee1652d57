import QualityGate.Proofs.Detection.Attribution

/-!
Attribution by nesting finds the innermost type. It takes the type that opens last among those around an offset; as
braces are nested or apart, that one lies inside all the others.
-/

namespace QualityGate

/-- The body of a type: the braces that open first at or after its declaration. -/
structure TypeDeclaration.HasBody (text : Text) (type : TypeDeclaration) (scope : TypeScope) : Prop where
  name : scope.name = type.name
  after : type.offset ≤ scope.start
  first : ∀ earlier : Nat, type.offset ≤ earlier → earlier < scope.start → text[earlier]? ≠ some (Text.byte '{')
  braces : Delimiter.Braces text scope.start scope.stop

theorem braceFrom?_eq_some_iff {text inside : Text} {start opening : Nat} :
    braceFrom? text start = some (opening, inside) ↔
      start ≤ opening ∧ (∀ earlier, start ≤ earlier → earlier < opening → text[earlier]? ≠ some (Text.byte '{')) ∧
        text[opening]? = some (Text.byte '{') ∧ inside = text.drop opening := by
  simp only [braceFrom?, Option.map_eq_some_iff, Prod.mk.injEq, List.findIdx?_eq_some_iff_getElem,
    decide_eq_true_eq, List.getElem_drop, List.length_drop, List.drop_drop]
  constructor
  · rintro ⟨gap, ⟨bound, brace, before⟩, rfl, rfl⟩
    refine ⟨Nat.le_add_right _ _, fun earlier after less same => ?_, ?_, rfl⟩
    · obtain ⟨nearer, rfl⟩ := Nat.exists_eq_add_of_le after
      obtain ⟨_, same⟩ := List.getElem?_eq_some_iff.mp same
      exact before nearer (by omega) same
    · exact List.getElem?_eq_some_iff.mpr ⟨by omega, brace⟩
  · rintro ⟨after, before, brace, rfl⟩
    obtain ⟨gap, rfl⟩ := Nat.exists_eq_add_of_le after
    obtain ⟨bound, brace⟩ := List.getElem?_eq_some_iff.mp brace
    refine ⟨gap, ⟨by omega, brace, fun nearer less same => ?_⟩, rfl, rfl⟩
    exact before (start + nearer) (by omega) (by omega) (List.getElem?_eq_some_iff.mpr ⟨by omega, same⟩)

theorem TypeDeclaration.scope?_eq_some_iff {text : Text} {type : TypeDeclaration} {scope : TypeScope} :
    type.scope? text = some scope ↔ type.HasBody text scope := by
  unfold scope?
  rw [Option.map_eq_some_iff]
  constructor
  · rintro ⟨⟨opening, inside⟩, found, rfl⟩
    obtain ⟨after, before, brace, -⟩ := braceFrom?_eq_some_iff.mp found
    exact ⟨rfl, by dsimp only; omega, fun earlier late => before earlier (by omega), Delimiter.braces_matchBrace brace⟩
  · rintro ⟨named, after, first, braces⟩
    refine ⟨(scope.start, text.drop scope.start), braceFrom?_eq_some_iff.mpr ⟨by omega, ?_, braces.opens, rfl⟩, ?_⟩
    · intro earlier late
      exact first earlier (by omega)
    · dsimp only
      rw [← named, (Delimiter.braces_matchBrace braces.opens).stop_unique braces]

theorem TypeDeclaration.exists_hasBody {text : Text} {type : TypeDeclaration} {brace : Nat}
    (after : type.offset ≤ brace) (opens : text[brace]? = some (Text.byte '{')) : ∃ scope, type.HasBody text scope := by
  have there : Text.byte '{' ∈ text.drop type.offset.toNat := by
    refine List.mem_of_getElem? (i := brace - type.offset.toNat) ?_
    rw [List.getElem?_drop, Nat.add_sub_of_le (by omega), opens]
  cases found : type.scope? text with
  | none =>
    simp only [scope?, braceFrom?, Option.map_eq_none_iff, List.findIdx?_eq_none_iff, decide_eq_false_iff_not] at found
    exact absurd rfl (found _ there)
  | some scope => exact ⟨scope, scope?_eq_some_iff.mp found⟩

theorem mem_typeScopes_iff {text : Text} {types : List TypeDeclaration} {scope : TypeScope} :
    scope ∈ typeScopes text types ↔ ∃ type ∈ types, type.HasBody text scope := by
  simp only [typeScopes_eq, List.mem_filterMap, TypeDeclaration.scope?_eq_some_iff]

theorem TypeScope.encloses_iff {scope : TypeScope} {offset : Int} :
    scope.encloses offset = true ↔ (scope.start : Int) ≤ offset ∧ offset < scope.stop := by
  simp only [encloses, Bool.and_eq_true, decide_eq_true_eq]

theorem innermost?_eq_some {scopes : List TypeScope} {offset : Int} {scope : TypeScope}
    (chosen : innermost? scopes offset = some scope) :
    scope ∈ scopes ∧ scope.encloses offset = true ∧
      ∀ other ∈ scopes, other.encloses offset = true → other.start ≤ scope.start := by
  rw [innermost?_eq_argmax] at chosen
  obtain ⟨listed, around⟩ := List.mem_filter.mp (List.argmax_mem chosen)
  refine ⟨listed, around, fun other member around' => ?_⟩
  exact List.le_of_mem_argmax (List.mem_filter.mpr ⟨member, around'⟩) chosen

theorem innermost?_eq_none_iff {scopes : List TypeScope} {offset : Int} :
    innermost? scopes offset = none ↔ ∀ scope ∈ scopes, ¬ scope.encloses offset = true := by
  rw [innermost?_eq_argmax, List.argmax_eq_none, List.filter_eq_nil_iff]

/-- If the body of some type is around an offset, the owner by nesting is a type whose body is around it and inside
every other such body; otherwise there is no owner. Each type with a brace at or after it has a body, which runs to
the end of the text when its braces are not closed. -/
theorem nestingOwner_innermost (text : Text) (types : List TypeDeclaration) (offset : Int) :
    ((∃ type ∈ types, ∃ scope, type.HasBody text scope ∧ (scope.start : Int) ≤ offset ∧ offset < scope.stop) →
      ∃ type ∈ types, ∃ scope, type.HasBody text scope ∧ (scope.start : Int) ≤ offset ∧ offset < scope.stop ∧
        nestingOwner (typeScopes text types) offset = type.name ∧
        ∀ other ∈ types, ∀ around, other.HasBody text around → (around.start : Int) ≤ offset → offset < around.stop →
          around.start ≤ scope.start ∧ scope.stop ≤ around.stop) ∧
    ((∀ type ∈ types, ∀ scope, type.HasBody text scope → ¬ ((scope.start : Int) ≤ offset ∧ offset < scope.stop)) →
      nestingOwner (typeScopes text types) offset = noEnclosingType) ∧
    ∀ type ∈ types, (∃ brace : Nat, type.offset ≤ brace ∧ text[brace]? = some (Text.byte '{')) →
      ∃ scope, type.HasBody text scope ∧
        (0 < Delimiter.openBraces (text.slice scope.start scope.stop) → scope.stop = text.length) := by
  refine ⟨?_, ?_, ?_⟩
  · rintro ⟨type, member, scope, body, opened, unclosed⟩
    cases chosen : innermost? (typeScopes text types) offset with
    | none =>
      have outside := innermost?_eq_none_iff.mp chosen scope (mem_typeScopes_iff.mpr ⟨type, member, body⟩)
      exact absurd (TypeScope.encloses_iff.mpr ⟨opened, unclosed⟩) outside
    | some found =>
      obtain ⟨listed, enclosing, latest⟩ := innermost?_eq_some chosen
      obtain ⟨owner, declared, own⟩ := mem_typeScopes_iff.mp listed
      obtain ⟨opened, unclosed⟩ := TypeScope.encloses_iff.mp enclosing
      refine ⟨owner, declared, found, own, opened, unclosed, ?_, ?_⟩
      · rw [nestingOwner, chosen, ← own.name]
        rfl
      · intro other present around body' opened' unclosed'
        have later : around.start ≤ found.start :=
          latest around (mem_typeScopes_iff.mpr ⟨other, present, body'⟩)
            (TypeScope.encloses_iff.mpr ⟨opened', unclosed'⟩)
        exact ⟨later, body'.braces.stop_le own.braces later (by omega)⟩
  · intro outside
    have none : innermost? (typeScopes text types) offset = none := by
      refine innermost?_eq_none_iff.mpr fun scope listed around => ?_
      obtain ⟨type, member, body⟩ := mem_typeScopes_iff.mp listed
      exact outside type member scope body (TypeScope.encloses_iff.mp around)
    rw [nestingOwner, none]
    rfl
  · rintro type - ⟨brace, after, opens⟩
    obtain ⟨scope, body⟩ := type.exists_hasBody after opens
    exact ⟨scope, body, fun unclosed => body.braces.ends.resolve_left (by omega)⟩

/-- Two types that are not closed, the inner one listed first, and a third one beside the method. -/
theorem nestingOwner_unclosed :
    let text : Text := "class A\x7b class C\x7b\x7d class B\x7b void F()\x7b"
    let types : List TypeDeclaration := [⟨"class", "B", 19⟩, ⟨"class", "A", 0⟩, ⟨"class", "C", 9⟩]
    (∃ type ∈ types, ∃ scope, type.HasBody text scope ∧ (scope.start : Int) ≤ 28 ∧ 28 < (scope.stop : Int)) ∧
      ∃ type ∈ types, ∃ scope, type.HasBody text scope ∧ (scope.start : Int) ≤ 28 ∧ 28 < (scope.stop : Int) ∧
        nestingOwner (typeScopes text types) 28 = type.name ∧
        ∀ other ∈ types, ∀ around, other.HasBody text around → (around.start : Int) ≤ 28 → 28 < (around.stop : Int) →
          around.start ≤ scope.start ∧ scope.stop ≤ around.stop := by
  intro text types
  have outer : ∃ type ∈ types, ∃ scope, type.HasBody text scope ∧ (scope.start : Int) ≤ 28 ∧ 28 < (scope.stop : Int) :=
    ⟨⟨"class", "A", 0⟩, by simp [types], ⟨"A", 7, 37⟩, TypeDeclaration.scope?_eq_some_iff.mp (by decide), by decide,
      by decide⟩
  exact ⟨outer, (nestingOwner_innermost text types 28).1 outer⟩

end QualityGate
