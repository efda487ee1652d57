/-!
Looking a key up in a list of pairs finds a pair of the list, and the one pair with that key where keys are distinct.
-/

namespace QualityGate

variable {α β : Type} [BEq α] [LawfulBEq α] {items : List (α × β)} {key : α} {value : β}

theorem mem_of_lookup (found : items.lookup key = some value) : (key, value) ∈ items := by
  obtain ⟨front, back, rfl, -⟩ := List.lookup_eq_some_iff.mp found
  simp

theorem exists_lookup_of_mem (member : (key, value) ∈ items) : ∃ other, items.lookup key = some other := by
  rw [← Option.isSome_iff_exists, List.lookup_isSome_iff]
  exact ⟨(key, value), member, beq_self_eq_true key⟩

theorem lookup_of_mem (distinct : (items.map (·.1)).Nodup) (member : (key, value) ∈ items) :
    items.lookup key = some value := by
  obtain ⟨front, back, rfl⟩ := List.append_of_mem member
  refine List.lookup_eq_some_iff.mpr ⟨front, back, rfl, fun other earlier => ?_⟩
  rw [List.map_append, List.nodup_append] at distinct
  exact bne_iff_ne.mpr (distinct.2.2 other.1 (List.mem_map_of_mem earlier) key (by simp)).symm

theorem lookup_eq_none_of_not_mem (absent : key ∉ items.map (·.1)) : items.lookup key = none := by
  refine List.lookup_eq_none_iff.mpr fun item member => ?_
  exact bne_iff_ne.mpr fun same => absent (same ▸ List.mem_map_of_mem member)

end QualityGate
