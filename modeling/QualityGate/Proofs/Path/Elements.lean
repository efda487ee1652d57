import QualityGate.Proofs.FileTree.Resolution

/-!
The elements that cleaning keeps of a path from the root. They are names, they determine the cleaned path, separators
at its end do not change them, and names behind it are only put behind them. Absolute and relative paths, and the path
of an entry of a directory, are read off from them.
-/

namespace QualityGate.Path

/-! ### The elements of a path -/

/-- A name that can stand behind a separator: it is no step to the same place or upwards. -/
structure IsName (name : Text) : Prop where
  nonempty : name ≠ []
  notHere : name ≠ "."
  notAbove : name ≠ ".."
  noSeparator : separator ∉ name

theorem isName_of_isEntryName {name : Text} (valid : IsEntryName name) : IsName name :=
  ⟨valid.nonempty, valid.notHere, valid.notAbove, valid.noSeparator⟩

/-- The elements that cleaning keeps of a path from the root, the last one first. -/
def elements (path : Text) : List Text := (Text.splitAtByte separator path).foldl (cleanStep true) []

theorem cleanStep_of_isName {name : Text} (valid : IsName name) (rooted : Bool) (kept : List Text) :
    cleanStep rooted kept name = name :: kept := by
  simp [cleanStep, valid.nonempty, valid.notHere, valid.notAbove]

theorem isName_cleanStep {kept : List Text} {element : Text} (valid : ∀ name ∈ kept, IsName name)
    (noSeparator : separator ∉ element) : ∀ name ∈ cleanStep true kept element, IsName name := by
  unfold cleanStep
  split
  next => exact valid
  next written =>
    rw [not_or] at written
    split
    next =>
      split
      next => exact fun _ member => absurd member List.not_mem_nil
      next last rest =>
        rw [if_neg (valid last List.mem_cons_self).notAbove]
        exact fun name member => valid name (.tail _ member)
    next notAbove =>
      exact List.forall_mem_cons.mpr ⟨⟨by simpa using written.1, written.2, notAbove, noSeparator⟩, valid⟩

theorem isName_foldl_cleanStep {parts : List Text} (separate : ∀ part ∈ parts, separator ∉ part) {kept : List Text}
    (valid : ∀ name ∈ kept, IsName name) : ∀ name ∈ parts.foldl (cleanStep true) kept, IsName name := by
  induction parts generalizing kept with
  | nil => exact valid
  | cons part parts ih =>
    rw [List.forall_mem_cons] at separate
    exact ih separate.2 (isName_cleanStep valid separate.1)

theorem isName_elements (path : Text) : ∀ name ∈ elements path, IsName name :=
  isName_foldl_cleanStep (fun _ member => Text.not_mem_of_mem_splitAtByte member) (List.forall_mem_nil _)

/-- A path from the root is cleaned to the elements that are kept. -/
theorem clean_of_isAbsolute {path : Text} (rooted : isAbsolute path = true) :
    clean path = separator :: Text.join [separator] (elements path).reverse := by
  rw [clean, rooted]
  rfl

theorem elements_append (path rest : Text) :
    elements (path ++ separator :: rest) =
      (Text.splitAtByte separator rest).foldl (cleanStep true) (elements path) := by
  rw [elements, Text.splitAtByte_append, List.foldl_append]
  rfl

theorem elements_append_separators (path : Text) (count : Nat) :
    elements (path ++ List.replicate count separator) = elements path := by
  induction count with
  | zero => rw [List.replicate_zero, List.append_nil]
  | succ count ih =>
    rw [List.replicate_succ', ← List.append_assoc, elements_append, ih]
    rfl

theorem foldl_cleanStep_of_isName {names : List Text} (valid : ∀ name ∈ names, IsName name) (kept : List Text) :
    names.foldl (cleanStep true) kept = names.reverse ++ kept := by
  induction names generalizing kept with
  | nil => rfl
  | cons name names ih =>
    rw [List.forall_mem_cons] at valid
    rw [List.foldl_cons, cleanStep_of_isName valid.1, ih valid.2, List.reverse_cons, List.append_assoc]
    rfl

theorem elements_append_join (path : Text) {names : List Text} (some : names ≠ [])
    (valid : ∀ name ∈ names, IsName name) :
    elements (path ++ separator :: Text.join [separator] names) = names.reverse ++ elements path := by
  rw [elements_append, Text.splitAtByte_join some fun name member => (valid name member).noSeparator,
    foldl_cleanStep_of_isName valid]

theorem elements_join {names : List Text} (valid : ∀ name ∈ names, IsName name) :
    elements (separator :: Text.join [separator] names) = names.reverse := by
  by_cases some : names = []
  · rw [some]
    rfl
  · have elements := elements_append_join [] some valid
    rwa [List.nil_append, show Path.elements [] = [] from rfl, List.append_nil] at elements

/-! ### Absolute paths -/

/-- A path and what stands in front of it, seen from a working directory. -/
def full (workingDirectory path : Text) : Text :=
  if isAbsolute path then path else workingDirectory ++ separator :: path

theorem absolute_eq_join {workingDirectory path : Text} (rooted : isAbsolute workingDirectory = true)
    (some : path ≠ []) :
    absolute workingDirectory path =
      separator :: Text.join [separator] (elements (full workingDirectory path)).reverse := by
  unfold absolute full
  split
  next top => exact clean_of_isAbsolute top
  next =>
    have written : workingDirectory ≠ [] := by
      rintro rfl
      cases rooted
    have rooted' : isAbsolute (workingDirectory ++ separator :: path) = true := by
      obtain ⟨first, rest, rfl⟩ := List.exists_cons_of_ne_nil written
      exact rooted
    rw [join, if_neg (by simpa using written), if_neg (by simpa using some), clean_of_isAbsolute rooted']

def below (path name : Text) : Text := if path = [separator] then path ++ name else path ++ separator :: name

def under (root : Text) (names : List Text) : Text := names.foldl below root

theorem join_ne_here {names : List Text} (some : names ≠ []) (valid : ∀ name ∈ names, IsName name) :
    Text.join [separator] names ≠ "." := by
  intro here
  have split := Text.splitAtByte_join some fun name member => (valid name member).noSeparator
  rw [here] at split
  obtain rfl : [("." : Text)] = names := split
  exact (valid "." List.mem_cons_self).notHere rfl

theorem join_ne_nil {names : List Text} (some : names ≠ []) (valid : ∀ name ∈ names, IsName name) :
    Text.join [separator] names ≠ [] := by
  intro empty
  have split := Text.splitAtByte_join some fun name member => (valid name member).noSeparator
  rw [empty] at split
  obtain rfl : [([] : Text)] = names := split
  exact (valid [] List.mem_cons_self).nonempty rfl

theorem under_join {kept names : List Text} (valid : ∀ name ∈ kept, IsName name)
    (valid' : ∀ name ∈ names, IsName name) :
    under (separator :: Text.join [separator] kept) names = separator :: Text.join [separator] (kept ++ names) := by
  induction names generalizing kept with
  | nil => rw [List.append_nil]; rfl
  | cons name names ih =>
    rw [List.forall_mem_cons] at valid'
    have next : below (separator :: Text.join [separator] kept) name =
        separator :: Text.join [separator] (kept ++ [name]) := by
      by_cases some : kept = []
      · rw [some]
        rfl
      · rw [below, if_neg fun top => join_ne_nil some valid (List.cons.inj top).2, Text.join_concat _ some]
        simp
    have valid : ∀ other ∈ kept ++ [name], IsName other := by
      simp only [List.mem_append, List.mem_singleton]
      rintro other (member | rfl)
      · exact valid other member
      · exact valid'.1
    have rest := ih valid valid'.2
    rw [List.append_assoc, List.singleton_append] at rest
    rw [under, List.foldl_cons, next]
    exact rest

/-! ### Relative paths -/

/-- The steps from one location to another: upwards to where they part, and down from there. -/
def stepsBetween : List Text → List Text → List Text
  | a :: base, b :: path =>
    if a = b then stepsBetween base path else List.replicate (base.length + 1) (".." : Text) ++ b :: path
  | base, path => List.replicate base.length (".." : Text) ++ path

/-- The path from one path from the root to another. -/
def relative (base path : Text) : Text :=
  let steps := stepsBetween (elements base).reverse (elements path).reverse
  if steps.isEmpty then "." else Text.join [separator] steps

theorem stepsBetween_append (base rest : List Text) : stepsBetween base (base ++ rest) = rest := by
  induction base with
  | nil =>
    unfold stepsBetween
    rfl
  | cons a base ih => rw [List.cons_append, stepsBetween, if_pos rfl, ih]

theorem relative_under {kept names : List Text} (valid : ∀ name ∈ kept, IsName name)
    (valid' : ∀ name ∈ names, IsName name) :
    relative (separator :: Text.join [separator] kept) (under (separator :: Text.join [separator] kept) names) =
      if names.isEmpty then ("." : Text) else Text.join [separator] names := by
  have both : ∀ name ∈ kept ++ names, IsName name := by
    intro name member
    rcases List.mem_append.mp member with member | member
    · exact valid name member
    · exact valid' name member
  rw [relative, under_join valid valid', elements_join valid, elements_join both, List.reverse_reverse,
    List.reverse_reverse, stepsBetween_append]

end QualityGate.Path
