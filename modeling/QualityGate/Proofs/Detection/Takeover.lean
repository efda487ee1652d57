import QualityGate.Language.Basic
import QualityGate.Proofs.Detection.Nesting

/-!
Which type owns a body that several declarations lead to. A declaration without a body of its own, such as one that ends
in a semicolon, is taken to have the body of the next type. Of the types with one body nesting attribution chooses the
first (`offset_le_of_owningType?`), so the body of a type is taken over unless an opening brace stands between the two
declarations.
-/

namespace QualityGate

/-- The type that nesting attribution chooses, and its body. The types are looked at in their order, and one replaces
another only if its body opens later. -/
def owningType? (text : Text) (types : List TypeDeclaration) (offset : Int) : Option (TypeDeclaration × TypeScope) :=
  types.foldl (fun found type =>
    match type.scope? text with
    | none => found
    | some scope =>
      if scope.encloses offset && found.all (·.2.start < scope.start) then some (type, scope) else found) none

variable {text : Text} {types : List TypeDeclaration} {offset : Int} {type other : TypeDeclaration} {scope : TypeScope}

theorem owningType?_concat (text : Text) (types : List TypeDeclaration) (offset : Int) (type : TypeDeclaration) :
    owningType? text (types ++ [type]) offset =
      match type.scope? text with
      | none => owningType? text types offset
      | some scope =>
        if scope.encloses offset && (owningType? text types offset).all (·.2.start < scope.start) then
          some (type, scope)
        else owningType? text types offset :=
  List.foldl_concat ..

theorem innermost?_eq_owningType? (text : Text) (types : List TypeDeclaration) (offset : Int) :
    innermost? (typeScopes text types) offset = (owningType? text types offset).map (·.2) := by
  rw [typeScopes_eq]
  induction types using List.reverseRecOn with
  | nil => rfl
  | append_singleton types type ih =>
    rw [List.filterMap_append, innermost?, List.foldl_append, ← innermost?, ih, owningType?_concat]
    cases body : type.scope? text with
    | none => simp [body]
    | some scope =>
      simp only [List.filterMap_cons, body, List.filterMap_nil, List.foldl_cons, List.foldl_nil, Option.all_map]
      split <;> rfl

theorem nestingOwner_eq_owningType? (text : Text) (types : List TypeDeclaration) (offset : Int) :
    nestingOwner (typeScopes text types) offset =
      ((owningType? text types offset).map (·.2.name)).getD noEnclosingType := by
  rw [nestingOwner, innermost?_eq_owningType?, Option.map_map]
  rfl

/-- The chosen type is the first with its body: the bodies around the offset that belong to types before it open
earlier. -/
theorem exists_before_of_owningType? (chosen : owningType? text types offset = some (type, scope)) :
    ∃ before after, types = before ++ type :: after ∧ type.HasBody text scope ∧
      ∀ other ∈ before, ∀ body, other.HasBody text body → body.encloses offset = true → body.start < scope.start := by
  induction types using List.reverseRecOn with
  | nil => cases chosen
  | append_singleton types last ih =>
    have kept : owningType? text types offset = some (type, scope) →
        ∃ before after, types ++ [last] = before ++ type :: after ∧ type.HasBody text scope ∧
          ∀ other ∈ before, ∀ body, other.HasBody text body → body.encloses offset = true →
            body.start < scope.start := by
      intro chosen
      obtain ⟨before, after, rfl, body, earlier⟩ := ih chosen
      exact ⟨before, after ++ [last], by simp, body, earlier⟩
    rw [owningType?_concat] at chosen
    cases body : last.scope? text with
    | none => exact kept (by simpa only [body] using chosen)
    | some new =>
      simp only [body] at chosen
      split at chosen
      next later =>
        -- The last type replaces the one chosen before, whose body opened no earlier than any other.
        cases chosen
        refine ⟨types, [], rfl, TypeDeclaration.scope?_eq_some_iff.mp body, fun other listed around own encloses => ?_⟩
        have member := mem_typeScopes_iff.mpr ⟨other, listed, own⟩
        have latest := innermost?_eq_owningType? text types offset
        cases found : owningType? text types offset with
        | none =>
          rw [found] at latest
          exact absurd encloses (innermost?_eq_none_iff.mp latest around member)
        | some choice =>
          rw [found] at latest
          have bound := (innermost?_eq_some latest).2.2 around member encloses
          simp only [found, Option.all_some, Bool.and_eq_true, decide_eq_true_eq] at later
          exact Nat.lt_of_le_of_lt bound later.2
      · exact kept chosen

theorem owningType?_eq_some (chosen : owningType? text types offset = some (type, scope)) :
    type ∈ types ∧ type.HasBody text scope ∧ scope.encloses offset = true ∧
      ∀ other ∈ types, ∀ body, other.HasBody text body → body.encloses offset = true → body.start ≤ scope.start := by
  obtain ⟨before, after, listed, body, -⟩ := exists_before_of_owningType? chosen
  have innermost := innermost?_eq_owningType? text types offset
  rw [chosen] at innermost
  obtain ⟨-, encloses, latest⟩ := innermost?_eq_some innermost
  refine ⟨by simp [listed], body, encloses, fun other member around own => ?_⟩
  exact latest around (mem_typeScopes_iff.mpr ⟨other, member, own⟩)

/-- Some type is chosen at the brace that opens a body, with a body that opens there. -/
theorem exists_owningType?_at_brace (listed : type ∈ types) (body : type.HasBody text scope) :
    ∃ owner own, owningType? text types scope.start = some (owner, own) ∧ own.start = scope.start := by
  have around : scope.encloses scope.start = true :=
    TypeScope.encloses_iff.mpr ⟨Int.le_refl _, by exact_mod_cast body.braces.nonempty⟩
  cases chosen : owningType? text types scope.start with
  | none =>
    have nothing := innermost?_eq_owningType? text types scope.start
    rw [chosen] at nothing
    exact absurd around (innermost?_eq_none_iff.mp nothing scope (mem_typeScopes_iff.mpr ⟨type, listed, body⟩))
  | some choice =>
    obtain ⟨owner, own⟩ := choice
    obtain ⟨-, -, encloses, latest⟩ := owningType?_eq_some chosen
    have early := (TypeScope.encloses_iff.mp encloses).1
    have late := latest type listed scope body around
    exact ⟨owner, own, rfl, by omega⟩

/-! ### Types with one body -/

namespace TypeDeclaration

theorem HasBody.stop_eq {body : TypeScope} (own : type.HasBody text scope) (other : other.HasBody text body)
    (same : body.start = scope.start) : body.stop = scope.stop := by
  have braces := other.braces
  rw [same] at braces
  exact braces.stop_unique own.braces

/-- A type that is declared between another one and its body has the same body. -/
theorem HasBody.of_later (body : type.HasBody text scope) (after : type.offset ≤ other.offset)
    (before : other.offset ≤ scope.start) : other.HasBody text { scope with name := other.name } :=
  ⟨rfl, before, fun earlier late => body.first earlier (Int.le_trans after late), body.braces⟩

/-- A type that no brace separates from a later one has the body of the later one. -/
theorem HasBody.of_earlier (body : other.HasBody text scope) (before : type.offset ≤ other.offset)
    (unbraced : ∀ brace : Nat, type.offset ≤ brace → (brace : Int) < other.offset →
      text[brace]? ≠ some (Text.byte '{')) : type.HasBody text { scope with name := type.name } := by
  refine ⟨rfl, Int.le_trans before body.after, fun earlier late inside => ?_, body.braces⟩
  rcases Int.lt_or_le earlier other.offset with between | beyond
  · exact unbraced earlier late between
  · exact body.first earlier beyond inside

/-- A declaration that ends in a semicolon before another one begins, both of them in front of a brace. -/
def EndedBefore (text : Text) (type other : TypeDeclaration) (brace : Nat) : Prop :=
  ∃ semicolon : Nat, text[semicolon]? = some (Text.byte ';') ∧ type.offset ≤ semicolon ∧
    (semicolon : Int) < other.offset ∧ other.offset ≤ brace

end TypeDeclaration

/-- Of the types with the body that is chosen, the one that is declared first is the owner. -/
theorem offset_le_of_owningType? (increasing : types.Pairwise (·.offset < ·.offset))
    (chosen : owningType? text types offset = some (type, scope)) {body : TypeScope} (listed : other ∈ types)
    (own : other.HasBody text body) (same : body.start = scope.start) : type.offset ≤ other.offset := by
  obtain ⟨before, after, rfl, owned, earlier⟩ := exists_before_of_owningType? chosen
  have encloses := (owningType?_eq_some chosen).2.2.1
  rcases List.mem_append.mp listed with front | back
  · -- A type in front would have a body around the offset that opens at the same brace.
    have around : body.encloses offset = true := by
      rw [TypeScope.encloses_iff, same, owned.stop_eq own same]
      exact TypeScope.encloses_iff.mp encloses
    exact absurd (earlier other front body own around) (by omega)
  · rcases List.mem_cons.mp back with rfl | back
    · exact Int.le_refl _
    · have ordered := (List.pairwise_cons.mp (List.pairwise_append.mp increasing).2.1).1
      exact Int.le_of_lt (ordered other back)

/-- The owner by nesting is the first declared of all types with the innermost body. So a type that ended in a
semicolon owns nothing of a later type exactly if a brace opens between any two types of which the first so ended. -/
theorem nestingOwner_first_declared (text : Text) (types : List TypeDeclaration)
    (increasing : types.Pairwise (·.offset < ·.offset)) :
    (∀ offset type scope, owningType? text types offset = some (type, scope) →
      type ∈ types ∧ type.HasBody text scope ∧ nestingOwner (typeScopes text types) offset = type.name ∧
        ∀ other ∈ types, ∀ body, other.HasBody text body → body.start = scope.start → type.offset ≤ other.offset) ∧
    ((∀ offset type scope, owningType? text types offset = some (type, scope) →
        ∀ other ∈ types, ¬ type.EndedBefore text other scope.start) ↔
      ∀ type ∈ types, ∀ other ∈ types, ∀ scope, other.HasBody text scope → type.EndedBefore text other scope.start →
        ∃ brace : Nat, type.offset ≤ brace ∧ (brace : Int) < other.offset ∧ text[brace]? = some (Text.byte '{')) := by
  refine ⟨fun offset type scope chosen => ?_, ?_, ?_⟩
  · obtain ⟨listed, body, -⟩ := owningType?_eq_some chosen
    refine ⟨listed, body, ?_, fun other member around own same => ?_⟩
    · rw [nestingOwner_eq_owningType?, chosen, ← body.name]
      rfl
    · exact offset_le_of_owningType? increasing chosen member own same
  · intro kept type listed other member scope body ended
    refine Classical.byContradiction fun unbraced => ?_
    obtain ⟨semicolon, found, after, before, inside⟩ := ended
    -- Both types have one body, and whoever owns its brace was declared no later than the first of them.
    have shared := body.of_earlier (Int.le_of_lt (Int.lt_of_le_of_lt after before))
      fun brace late early opens => unbraced ⟨brace, late, early, opens⟩
    obtain ⟨owner, own, chosen, same⟩ := exists_owningType?_at_brace member body
    have first := offset_le_of_owningType? increasing chosen listed shared same.symm
    exact kept scope.start owner own chosen other member
      ⟨semicolon, found, Int.le_trans first after, before, same ▸ inside⟩
  · intro separated offset type scope chosen other member ended
    obtain ⟨listed, body, -⟩ := owningType?_eq_some chosen
    obtain ⟨semicolon, found, after, before, inside⟩ := ended
    have shared := body.of_later (Int.le_of_lt (Int.lt_of_le_of_lt after before)) inside
    obtain ⟨brace, late, early, opens⟩ :=
      separated type listed other member _ shared ⟨semicolon, found, after, before, inside⟩
    exact body.first brace late (by omega) opens

/-- A type that ended in a semicolon inside another one, before a type with a body. -/
theorem nestingOwner_first_of_two :
    let text : Text := "class O\x7b record A(); class B\x7b void F()\x7b\x7d \x7d \x7d"
    let types : List TypeDeclaration := [⟨"class", "O", 0⟩, ⟨"record", "A", 9⟩, ⟨"class", "B", 21⟩]
    types.Pairwise (·.offset < ·.offset) ∧
      owningType? text types 30 = some (⟨"record", "A", 9⟩, ⟨"A", 28, 42⟩) ∧
      nestingOwner (typeScopes text types) 30 = "A" ∧
      ∀ other ∈ types, ∀ body, other.HasBody text body → body.start = 28 → 9 ≤ other.offset := by
  intro text types
  have increasing : types.Pairwise (·.offset < ·.offset) := by decide
  have chosen : owningType? text types 30 = some (⟨"record", "A", 9⟩, ⟨"A", 28, 42⟩) := by decide
  obtain ⟨-, -, named, first⟩ := (nestingOwner_first_declared text types increasing).1 _ _ _ chosen
  exact ⟨increasing, chosen, named, first⟩

/-- A record without a body owns what is in the class after it. -/
theorem record_owns_class_body :
    let text : Text := "record A(); class B\x7b void F()\x7b\x7d\x7d"
    let types : List TypeDeclaration := [⟨"record", "A", 0⟩, ⟨"class", "B", 12⟩]
    (Language.csharp.declarations text).types = types ∧ types.Pairwise (·.offset < ·.offset) ∧
      ∃ type scope, owningType? text types 21 = some (type, scope) ∧
        (∃ other ∈ types, other ≠ type ∧ type.EndedBefore text other scope.start) ∧
        nestingOwner (typeScopes text types) 21 = "A" :=
  ⟨by decide +kernel, by decide, ⟨"record", "A", 0⟩, ⟨"A", 19, 32⟩, by decide,
    ⟨⟨"class", "B", 12⟩, by decide, by decide, 10, by decide⟩, by decide⟩

end QualityGate
