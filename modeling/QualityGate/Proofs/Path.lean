import Mathlib.Data.List.TakeWhile
import QualityGate.Path
import QualityGate.Proofs.FileTree.Resolution

/-!
The last element of a path: what stands after its last separator. The extension is taken from it alone, and a path keeps
it when it is cleaned or made absolute, if it is a name (`lastElement_absolute`).
-/

namespace QualityGate.Path

def lastElement (path : Text) : Text := (path.reverse.takeWhile (· ≠ separator)).reverse

/-- A path whose last element is no name: nothing, `.` or `..`. -/
def Unnamed (path : Text) : Prop :=
  lastElement path = [] ∨ lastElement path = "." ∨ lastElement path = ".."

instance (path : Text) : Decidable (Unnamed path) := inferInstanceAs (Decidable (_ ∨ _ ∨ _))

theorem separator_not_mem_lastElement (path : Text) : separator ∉ lastElement path := by
  intro member
  have taken := List.all_eq_true.mp (List.all_takeWhile (p := (· ≠ separator))) _ (List.mem_reverse.mp member)
  simp at taken

theorem lastElement_of_not_mem {path : Text} (absent : separator ∉ path) : lastElement path = path := by
  have all : ∀ byte ∈ path.reverse, decide (byte ≠ separator) = true := by
    intro byte member
    have there := List.mem_reverse.mp member
    exact decide_eq_true fun same => absent (same ▸ there)
  rw [lastElement, List.takeWhile_eq_self_iff.mpr all, List.reverse_reverse]

theorem lastElement_append (front rest : Text) : lastElement (front ++ separator :: rest) = lastElement rest := by
  rw [lastElement, List.reverse_append, List.reverse_cons, List.append_assoc, List.takeWhile_append]
  split
  next whole =>
    rw [lastElement, (List.takeWhile_prefix _).eq_of_length whole]
    simp
  · rfl

/-- The last of the elements between the separators is the last element. -/
theorem splitAtByte_eq_concat (path : Text) :
    ∃ above, Text.splitAtByte separator path = above ++ [lastElement path] := by
  by_cases there : separator ∈ path
  · obtain ⟨front, rest, spelled⟩ := List.append_of_mem there
    have shorter : rest.length < path.length := by
      rw [spelled, List.length_append, List.length_cons]
      omega
    obtain ⟨above, split⟩ := splitAtByte_eq_concat rest
    refine ⟨Text.splitAtByte separator front ++ above, ?_⟩
    rw [spelled, Text.splitAtByte_append, split, lastElement_append, List.append_assoc]
  · exact ⟨[], by rw [Text.splitAtByte_of_not_mem there, lastElement_of_not_mem there]; rfl⟩
termination_by path.length

theorem extension_eq_of_lastElement_eq {path other : Text} (same : lastElement path = lastElement other) :
    extension path = extension other := by
  rw [lastElement, lastElement] at same
  rw [extension, extension, same]

theorem cleanStep_of_named {path : Text} (named : ¬ Unnamed path) (rooted : Bool) (kept : List Text) :
    cleanStep rooted kept (lastElement path) = lastElement path :: kept := by
  simp only [Unnamed, not_or] at named
  obtain ⟨written, notHere, notAbove⟩ := named
  simp [cleanStep, written, notHere, notAbove]

/-- Cleaning keeps a name at the end of a path. -/
theorem lastElement_clean {path : Text} (named : ¬ Unnamed path) : lastElement (clean path) = lastElement path := by
  obtain ⟨above, split⟩ := splitAtByte_eq_concat path
  have absent := separator_not_mem_lastElement path
  have written : lastElement path ≠ [] := fun empty => named (.inl empty)
  have elements : ∃ kept : List Text,
      ((Text.splitAtByte separator path).foldl (cleanStep (isAbsolute path)) []).reverse =
        kept ++ [lastElement path] := by
    rw [split, List.foldl_append, List.foldl_cons, List.foldl_nil, cleanStep_of_named named, List.reverse_cons]
    exact ⟨_, rfl⟩
  obtain ⟨kept, elements⟩ := elements
  have joined : ∃ front : Text, Text.join [separator] (kept ++ [lastElement path]) = front ++ lastElement path ∧
      (front = [] ∨ ∃ first, front = first ++ [separator]) := by
    by_cases alone : kept = []
    · exact ⟨[], by rw [alone]; rfl, .inl rfl⟩
    · exact ⟨_, Text.join_concat _ alone _, .inr ⟨_, rfl⟩⟩
  obtain ⟨front, joined, ending⟩ := joined
  have last : lastElement (front ++ lastElement path) = lastElement path := by
    rcases ending with rfl | ⟨first, rfl⟩
    · rw [List.nil_append, lastElement_of_not_mem absent]
    · rw [List.append_assoc, List.singleton_append, lastElement_append, lastElement_of_not_mem absent]
  -- A rooted path has one more separator in front, and any other is not empty.
  rw [clean, elements, joined]
  split
  · rw [← List.nil_append (separator :: _), lastElement_append, last]
  · rw [if_neg (by simp [written]), last]

/-- The absolute form of a path keeps a name at its end. -/
theorem lastElement_absolute {path : Text} (named : ¬ Unnamed path) (workingDirectory : Text) :
    lastElement (absolute workingDirectory path) = lastElement path := by
  have written : ¬ path.isEmpty = true := by
    rw [List.isEmpty_iff]
    rintro rfl
    exact named (.inl rfl)
  rw [absolute]
  split
  · exact lastElement_clean named
  rw [join, if_neg written, if_neg written]
  split
  · exact lastElement_clean named
  · have same := lastElement_append workingDirectory path
    have named' : ¬ Unnamed (workingDirectory ++ separator :: path) := by
      rw [Unnamed, same]
      exact named
    rw [lastElement_clean named', same]

/-- Without a name there is no extension but perhaps a dot. -/
theorem extension_of_unnamed {path : Text} (unnamed : Unnamed path) : extension path = [] ∨ extension path = "." := by
  rw [extension, show (path.reverse.takeWhile (· ≠ separator)).reverse = lastElement path from rfl]
  rcases unnamed with empty | here | above
  · rw [empty]
    exact .inl rfl
  · rw [here]
    exact .inr (by decide)
  · rw [above]
    exact .inr (by decide)

end QualityGate.Path
