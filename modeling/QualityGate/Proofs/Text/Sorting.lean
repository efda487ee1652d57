import QualityGate.Text.Basic

/-!
Byte order is the lexicographic order of lists, and named items with distinct names are put in strictly increasing
order of their names.
-/

namespace QualityGate.Text

theorem before_iff_lt (s t : Text) : before s t = true ↔ s < t := by
  induction s generalizing t with
  | nil => cases t <;> simp [before]
  | cons a s ih =>
    cases t with
    | nil => simp [before]
    | cons b t =>
      rw [before, List.cons_lt_cons_iff]
      by_cases less : a < b
      · simp [less]
      · by_cases greater : b < a
        · have distinct : a ≠ b := fun same => less (same ▸ greater)
          simp [less, greater, distinct]
        · have same : a = b := UInt8.le_antisymm (UInt8.not_lt.mp greater) (UInt8.not_lt.mp less)
          simp [same, ih]

theorem lt_of_not_before {s t : Text} (late : ¬ before s t = true) (distinct : s ≠ t) : t < s := by
  rw [before_iff_lt] at late
  refine Classical.byContradiction fun early => distinct ?_
  exact List.le_antisymm (List.not_lt.mp early) (List.not_lt.mp late)

variable {α : Type}

theorem insertByName_perm (item : Text × α) (items : List (Text × α)) :
    (insertByName item items).Perm (item :: items) := by
  induction items with
  | nil => exact .refl _
  | cons first rest ih =>
    rw [insertByName]
    split
    · exact (ih.cons first).trans (.swap item first rest)
    · exact .refl _

theorem sortedByName_perm (items : List (Text × α)) : (sortedByName items).Perm items := by
  induction items with
  | nil => exact .refl _
  | cons item rest ih => exact (insertByName_perm item _).trans (ih.cons item)

theorem insertByName_increasing (item : Text × α) {items : List (Text × α)}
    (increasing : items.Pairwise (·.1 < ·.1)) (new : ∀ other ∈ items, other.1 ≠ item.1) :
    (insertByName item items).Pairwise (·.1 < ·.1) := by
  induction items with
  | nil => exact List.pairwise_singleton _ _
  | cons first rest ih =>
    have ⟨least, increasing'⟩ := List.pairwise_cons.mp increasing
    rw [insertByName]
    split
    case isTrue earlier =>
      refine List.pairwise_cons.mpr ⟨fun other member => ?_, ih increasing' fun other member =>
        new other (List.mem_cons_of_mem _ member)⟩
      rcases List.mem_cons.mp ((insertByName_perm item rest).mem_iff.mp member) with rfl | old
      · exact (before_iff_lt _ _).mp earlier
      · exact least other old
    case isFalse later =>
      have smaller : item.1 < first.1 := lt_of_not_before later (new first List.mem_cons_self)
      refine List.pairwise_cons.mpr ⟨fun other member => ?_, increasing⟩
      rcases List.mem_cons.mp member with rfl | old
      · exact smaller
      · exact List.lt_trans smaller (least other old)

theorem sortedByName_increasing {items : List (Text × α)} (distinct : (items.map (·.1)).Nodup) :
    (sortedByName items).Pairwise (·.1 < ·.1) := by
  induction items with
  | nil => exact .nil
  | cons item rest ih =>
    rw [List.map_cons, List.nodup_cons] at distinct
    refine insertByName_increasing item (ih distinct.2) fun other member same => distinct.1 ?_
    exact same ▸ List.mem_map_of_mem ((sortedByName_perm rest).mem_iff.mp member)

end QualityGate.Text
