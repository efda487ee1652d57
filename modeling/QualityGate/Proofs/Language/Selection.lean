import Mathlib.Data.List.Induction
import Mathlib.Logic.Function.Basic
import QualityGate.Checking.Checker
import QualityGate.Proofs.Text.Sorting

/-!
Registries that selections lead to. A selection that is refused changes nothing, and any other one leaves the named
languages in the order of their first mention (`selectFrom_ok`, `selectFrom_error`). Identifiers and extensions belong
to one language each, so whatever was selected, a registry answers as the full one does where the answer is among its
languages, and so do the tables by identifier, by extension and of detectors that can be drawn up from it.
-/

namespace QualityGate

/-! ### Tables -/

/-- A table that is written entry by entry: a later entry takes the place of an earlier one with its key. -/
def written {α : Type} (entries : List (Text × α)) : Text → Option α :=
  entries.foldl (fun table entry => Function.update table entry.1 (some entry.2)) fun _ => none

theorem written_concat {α : Type} (entries : List (Text × α)) (entry : Text × α) (key : Text) :
    written (entries ++ [entry]) key = if key = entry.1 then some entry.2 else written entries key := by
  unfold written
  rw [List.foldl_append, List.foldl_cons, List.foldl_nil, Function.update_apply]

/-- Where no key is written with two values, the order of the entries does not matter. -/
theorem written_eq_some_iff {α : Type} {entries : List (Text × α)} {key : Text} {value : α}
    (unique : ∀ a ∈ entries, ∀ b ∈ entries, a.1 = b.1 → a.2 = b.2) :
    written entries key = some value ↔ (key, value) ∈ entries := by
  induction entries using List.reverseRecOn with
  | nil => simp [written]
  | append_singleton entries last ih =>
    have unique' : ∀ a ∈ entries, ∀ b ∈ entries, a.1 = b.1 → a.2 = b.2 := by
      intro a first b second
      exact unique a (List.mem_append_left _ first) b (List.mem_append_left _ second)
    rw [written_concat, List.mem_append, List.mem_singleton, ← ih unique']
    split
    · rename_i same
      subst same
      constructor
      · intro here
        exact .inr (by rw [← Option.some.inj here])
      · intro found
        rcases found with earlier | here
        · rw [ih unique'] at earlier
          exact congrArg some (unique (last.1, value) (List.mem_append_left _ earlier) last (by simp) rfl).symm
        · rw [← here]
    · rename_i other
      constructor
      · exact .inl
      · intro found
        rcases found with earlier | rfl
        · exact earlier
        · exact absurd rfl other

/-! ### Identifiers and extensions -/

namespace Language

theorem mem_all (language : Language) : language ∈ all := by
  cases language <;> decide

theorem id_injective {a b : Language} (same : a.id = b.id) : a = b := by
  have decided : ∀ a ∈ all, ∀ b ∈ all, a.id = b.id → a = b := by decide
  exact decided a a.mem_all b b.mem_all same

theorem lower_id (language : Language) : Text.lower language.id = language.id := by
  cases language <;> decide +kernel

theorem lower_extension {language : Language} {extension : Text} (listed : extension ∈ language.extensions) :
    Text.lower extension = extension := by
  have decided : ∀ a ∈ all, ∀ extension ∈ a.extensions, Text.lower extension = extension := by decide +kernel
  exact decided language language.mem_all extension listed

theorem eq_of_mem_extensions {a b : Language} {extension : Text} (listed : extension ∈ a.extensions)
    (listed' : extension ∈ b.extensions) : a = b := by
  have decided : ∀ a ∈ all, ∀ b ∈ all, ∀ extension ∈ a.extensions, extension ∈ b.extensions → a = b := by decide
  exact decided a a.mem_all b b.mem_all extension listed listed'

end Language

namespace Registry

variable {registry : Registry}

theorem find?_eq_some_iff {languages : List Language} {test : Language → Bool} {language : Language}
    (unique : ∀ a b, test a = true → test b = true → a = b) :
    languages.find? test = some language ↔ language ∈ languages ∧ test language = true := by
  constructor
  · intro found
    exact ⟨List.mem_of_find?_eq_some found, List.find?_some found⟩
  · rintro ⟨member, passes⟩
    obtain ⟨first, found⟩ := Option.isSome_iff_exists.mp (List.find?_isSome.mpr ⟨language, member, passes⟩)
    rw [found, unique first language (List.find?_some found) passes]

theorem lookup?_eq_some_iff {id : Text} {language : Language} :
    registry.lookup? id = some language ↔
      language ∈ registry.languages ∧ language.id = Text.lower (Text.trim id) := by
  unfold lookup?
  rw [find?_eq_some_iff, decide_eq_true_eq]
  intro a b first second
  exact Language.id_injective ((of_decide_eq_true first).trans (of_decide_eq_true second).symm)

theorem languageFor?_eq_some_iff {path : Text} {language : Language} :
    registry.languageFor? path = some language ↔
      language ∈ registry.languages ∧ Text.lower (Path.extension path) ∈ language.extensions := by
  unfold languageFor?
  rw [find?_eq_some_iff, List.contains_iff_mem]
  intro a b first second
  exact Language.eq_of_mem_extensions (List.contains_iff_mem.mp first) (List.contains_iff_mem.mp second)

/-! ### Selecting -/

def Knows (registry : Registry) (name : Text) : Prop :=
  ∃ language ∈ registry.languages, language.id = Text.lower (Text.trim name)

theorem knows_iff {name : Text} : registry.Knows name ↔ ∃ language, registry.lookup? name = some language := by
  unfold Knows
  simp only [lookup?_eq_some_iff]

theorem selectFrom_ok {names : List Text} (known : ∀ name ∈ names, registry.Knows name) (selected : List Language) :
    ∃ chosen, registry.selectFrom selected names = .ok chosen ∧
      chosen.languages.map (·.id) = selected.map (·.id) ++
        ((names.map fun name => Text.lower (Text.trim name)).filter (!(selected.map (·.id)).contains ·)).eraseDups := by
  induction names generalizing selected with
  | nil => exact ⟨⟨selected⟩, rfl, by simp⟩
  | cons name rest ih =>
    obtain ⟨language, found⟩ := knows_iff.mp (known name List.mem_cons_self)
    obtain ⟨-, named⟩ := lookup?_eq_some_iff.mp found
    have known' : ∀ name ∈ rest, registry.Knows name := fun name member => known name (List.mem_cons_of_mem _ member)
    have mentioned : (selected.map (·.id)).contains language.id = selected.contains language := by
      rw [Bool.eq_iff_iff, List.contains_iff_mem, List.contains_iff_mem, List.mem_map]
      constructor
      · rintro ⟨other, member, same⟩
        rwa [← Language.id_injective same]
      · intro member
        exact ⟨language, member, rfl⟩
    rw [selectFrom, found, List.map_cons, ← named, List.filter_cons, mentioned]
    dsimp only
    by_cases again : selected.contains language = true
    · rw [if_pos again, again]
      exact ih known' selected
    · rw [if_neg again, eq_false_of_ne_true again]
      obtain ⟨chosen, ok, languages⟩ := ih known' (selected ++ [language])
      refine ⟨chosen, ok, ?_⟩
      have unmentioned : ∀ key, (!((selected ++ [language]).map (·.id)).contains key) =
          (!key == language.id && !(selected.map (·.id)).contains key) := by
        intro key
        rw [List.map_append, Bool.eq_iff_iff]
        simp
        grind
      rw [languages, funext unmentioned, List.map_append, List.append_assoc, Bool.not_false, if_pos rfl,
        List.eraseDups_cons, List.filter_filter]
      rfl

theorem selectFrom_error {known : List Text} {name : Text} (finds : ∀ other ∈ known, registry.Knows other)
    (unknown : ¬ registry.Knows name) (selected : List Language) (rest : List Text) :
    registry.selectFrom selected (known ++ name :: rest) = .error ⟨name⟩ := by
  induction known generalizing selected with
  | nil =>
    have missing : registry.lookup? name = none := by
      rw [Option.eq_none_iff_forall_ne_some]
      intro language found
      exact unknown (knows_iff.mpr ⟨language, found⟩)
    rw [List.nil_append, selectFrom, missing]
  | cons first known ih =>
    obtain ⟨language, found⟩ := knows_iff.mp (finds first List.mem_cons_self)
    have finds' : ∀ other ∈ known, registry.Knows other := by
      intro other member
      exact finds other (List.mem_cons_of_mem _ member)
    rw [List.cons_append, selectFrom, found]
    dsimp only
    split
    · exact ih finds' selected
    · exact ih finds' (selected ++ [language])

/-- Either all names are found, or there is a first one that is not. -/
theorem knows_cases (registry : Registry) (names : List Text) :
    (∀ name ∈ names, registry.Knows name) ∨
      ∃ known name rest, names = known ++ name :: rest ∧ (∀ other ∈ known, registry.Knows other) ∧
        ¬ registry.Knows name := by
  induction names with
  | nil => exact .inl (by simp)
  | cons first rest ih =>
    by_cases found : registry.Knows first
    · rcases ih with all | ⟨known, name, later, rfl, finds, unknown⟩
      · exact .inl (by simpa [found] using all)
      · exact .inr ⟨first :: known, name, later, rfl, by simpa [found] using finds, unknown⟩
    · exact .inr ⟨[], first, rest, rfl, by simp, found⟩

theorem select_cases (registry : Registry) (names : List Text) :
    ((∀ name ∈ names, registry.Knows name) ∧ ∃ chosen, registry.select names = .ok chosen ∧
      chosen.languages.map (·.id) = (names.map fun name => Text.lower (Text.trim name)).eraseDups) ∨
    ∃ known name rest, names = known ++ name :: rest ∧ (∀ other ∈ known, registry.Knows other) ∧
      ¬ registry.Knows name ∧ registry.select names = .error ⟨name⟩ := by
  rcases registry.knows_cases names with all | ⟨known, name, rest, rfl, finds, unknown⟩
  · obtain ⟨chosen, ok, languages⟩ := selectFrom_ok all []
    refine .inl ⟨all, chosen, ok, ?_⟩
    rw [languages, List.map_nil, List.nil_append, List.filter_eq_self.mpr (by simp)]
  · exact .inr ⟨known, name, rest, rfl, finds, unknown, selectFrom_error finds unknown [] rest⟩

/-! ### After selections -/

/-- The registry after a selection: a refused one leaves it as it is. -/
def narrow (registry : Registry) (names : List Text) : Registry :=
  match registry.select names with
  | .ok chosen => chosen
  | .error _ => registry

/-- The registry after selections one after the other, from the full one on. -/
def afterSelections (calls : List (List Text)) : Registry := calls.foldl narrow full

theorem afterSelections_concat (calls : List (List Text)) (names : List Text) :
    afterSelections (calls ++ [names]) = (afterSelections calls).narrow names := by
  unfold afterSelections
  rw [List.foldl_append, List.foldl_cons, List.foldl_nil]

theorem nodup_selectFrom {selected : List Language} (distinct : selected.Nodup) {names : List Text} {chosen : Registry}
    (ok : registry.selectFrom selected names = .ok chosen) : chosen.languages.Nodup := by
  induction names generalizing selected with
  | nil =>
    cases ok
    exact distinct
  | cons name rest ih =>
    unfold selectFrom at ok
    split at ok
    · cases ok
    · split at ok
      · exact ih distinct ok
      next language _ new =>
        apply ih _ ok
        rw [List.contains_iff_mem] at new
        exact List.nodup_append.mpr ⟨distinct, by simp, by grind⟩

theorem nodup_narrow (distinct : registry.languages.Nodup) (names : List Text) :
    (registry.narrow names).languages.Nodup := by
  unfold narrow
  split
  next chosen ok => exact nodup_selectFrom List.nodup_nil ok
  · exact distinct

theorem nodup_afterSelections (calls : List (List Text)) : (afterSelections calls).languages.Nodup := by
  induction calls using List.reverseRecOn with
  | nil => decide
  | append_singleton calls names ih =>
    rw [afterSelections_concat]
    exact nodup_narrow ih names

/-! ### Three views -/

def idEntries (registry : Registry) : List (Text × Language) :=
  registry.languages.map fun language => (Text.lower language.id, language)

def extensionEntries (registry : Registry) : List (Text × Language) :=
  registry.languages.flatMap fun language => language.extensions.map fun extension => (Text.lower extension, language)

theorem mem_idEntries {key : Text} {language : Language} :
    (key, language) ∈ registry.idEntries ↔ language ∈ registry.languages ∧ language.id = key := by
  unfold idEntries
  simp only [List.mem_map, Prod.mk.injEq, Language.lower_id]
  constructor
  · rintro ⟨_, member, rfl, rfl⟩
    exact ⟨member, rfl⟩
  · rintro ⟨member, rfl⟩
    exact ⟨language, member, rfl, rfl⟩

theorem mem_extensionEntries {key : Text} {language : Language} :
    (key, language) ∈ registry.extensionEntries ↔ language ∈ registry.languages ∧ key ∈ language.extensions := by
  unfold extensionEntries
  simp only [List.mem_flatMap, List.mem_map, Prod.mk.injEq]
  constructor
  · rintro ⟨_, member, extension, listed, rfl, rfl⟩
    exact ⟨member, (Language.lower_extension listed).symm ▸ listed⟩
  · rintro ⟨member, listed⟩
    exact ⟨language, member, key, listed, Language.lower_extension listed, rfl⟩

theorem lookup?_eq_written (registry : Registry) (id : Text) :
    registry.lookup? id = written registry.idEntries (Text.lower (Text.trim id)) := by
  apply Option.ext
  intro language
  rw [lookup?_eq_some_iff, written_eq_some_iff, mem_idEntries]
  rintro ⟨key, a⟩ first ⟨key', b⟩ second same
  obtain ⟨-, rfl⟩ := mem_idEntries.mp first
  obtain ⟨-, rfl⟩ := mem_idEntries.mp second
  exact Language.id_injective same

theorem languageFor?_eq_written (registry : Registry) (path : Text) :
    registry.languageFor? path = written registry.extensionEntries (Text.lower (Path.extension path)) := by
  apply Option.ext
  intro language
  rw [languageFor?_eq_some_iff, written_eq_some_iff, mem_extensionEntries]
  rintro ⟨key, a⟩ first ⟨key', b⟩ second same
  obtain ⟨-, listed⟩ := mem_extensionEntries.mp first
  obtain ⟨-, listed'⟩ := mem_extensionEntries.mp second
  obtain rfl : key = key' := same
  exact Language.eq_of_mem_extensions listed listed'

theorem lookup?_eq_filter (registry : Registry) (id : Text) :
    registry.lookup? id = (full.lookup? id).filter (· ∈ registry.languages) := by
  apply Option.ext
  intro language
  simp only [Option.filter_eq_some_iff, lookup?_eq_some_iff, decide_eq_true_eq]
  have registered : language ∈ full.languages := language.mem_all
  tauto

theorem languageFor?_eq_filter (registry : Registry) (path : Text) :
    registry.languageFor? path = (full.languageFor? path).filter (· ∈ registry.languages) := by
  apply Option.ext
  intro language
  simp only [Option.filter_eq_some_iff, languageFor?_eq_some_iff, decide_eq_true_eq]
  have registered : language ∈ full.languages := language.mem_all
  tauto

theorem listing_perm (registry : Registry) : registry.listing.Perm registry.languages := List.mergeSort_perm _ _

theorem listing_increasing (distinct : registry.languages.Nodup) : registry.listing.Pairwise (·.id < ·.id) := by
  have sorted : registry.listing.Pairwise fun a b => (!Text.before b.id a.id) = true := by
    apply List.pairwise_mergeSort
    · intro a b c first second
      simp only [Bool.not_eq_true', Bool.eq_false_iff, ne_eq, Text.before_iff_lt] at first second ⊢
      exact List.not_lt.mpr (List.le_trans (List.not_lt.mp first) (List.not_lt.mp second))
    · intro a b
      simp only [Bool.or_eq_true, Bool.not_eq_true', Bool.eq_false_iff, ne_eq, Text.before_iff_lt]
      exact (List.le_total a.id b.id).imp List.not_lt.mpr List.not_lt.mpr
  have different : registry.listing.Pairwise (· ≠ ·) := (registry.listing_perm.nodup_iff).mpr distinct
  refine (sorted.and different).imp ?_
  rintro a b ⟨late, other⟩
  rw [Bool.not_eq_true', ← Bool.not_eq_true] at late
  exact Text.lt_of_not_before late fun same => other (Language.id_injective same).symm

end Registry

/-! ### Detectors -/

/-- How the declarations of a language are found, and when a method is too long. -/
structure LanguageDetector where
  declarations : Text → Declarations
  detector : Detector

namespace MethodCheck

/-- What is written into the table of detectors: for each listed language, the one with its identifier. There is no
table if one of them is not found again. -/
def detectorEntries? (check : MethodCheck) : Option (List (Text × LanguageDetector)) :=
  check.registry.listing.mapM fun listed =>
    (check.registry.lookup? listed.id).map fun language => (language.id, ⟨language.declarations, check.detector⟩)

/-- Checks one file by a table of detectors; there is no answer if the detector of its language is missing. -/
def runWith (check : MethodCheck) (detectors : Text → Option LanguageDetector) (path : Text) (source : Source) :
    Option (Except CheckError FileReport) :=
  match check.registry.languageFor? path with
  | none => some (.error (.unsupportedExtension (Path.extension path)))
  | some language =>
    match source.decode with
    | .error error => some (.error error)
    | .ok content =>
      let text := if check.masksLiterals then language.mask content else content
      (detectors language.id).map fun found =>
        .ok { path, methods := found.detector.violations path text (found.declarations text) }

theorem detectorEntries?_eq (check : MethodCheck) :
    check.detectorEntries? =
      some (check.registry.listing.map fun language => (language.id, ⟨language.declarations, check.detector⟩)) := by
  have again : ∀ language ∈ check.registry.listing, check.registry.lookup? language.id = some language := by
    intro language listed
    refine Registry.lookup?_eq_some_iff.mpr ⟨check.registry.listing_perm.mem_iff.mp listed, ?_⟩
    cases language <;> decide +kernel
  unfold detectorEntries?
  generalize check.registry.listing = listing at again ⊢
  induction listing with
  | nil => rfl
  | cons language rest ih =>
    have rest' := ih fun other member => again other (List.mem_cons_of_mem _ member)
    rw [List.mapM_cons, again language List.mem_cons_self, rest']
    rfl

/-- Every language of the registry has its own detector in the table. -/
theorem written_detectors (check : MethodCheck) {language : Language}
    (registered : language ∈ check.registry.languages) :
    written (check.registry.listing.map fun language =>
        (language.id, (⟨language.declarations, check.detector⟩ : LanguageDetector))) language.id =
      some ⟨language.declarations, check.detector⟩ := by
  rw [written_eq_some_iff]
  · exact List.mem_map.mpr ⟨language, check.registry.listing_perm.mem_iff.mpr registered, rfl⟩
  · intro a first b second same
    obtain ⟨x, -, rfl⟩ := List.mem_map.mp first
    obtain ⟨y, -, rfl⟩ := List.mem_map.mp second
    rw [Language.id_injective same]

theorem runWith_eq_run (check : MethodCheck) {detectors : Text → Option LanguageDetector}
    (equipped : ∀ language ∈ check.registry.languages,
      detectors language.id = some ⟨language.declarations, check.detector⟩) (path : Text) (source : Source) :
    check.runWith detectors path source = some (check.run path source) := by
  unfold runWith run
  cases recognised : check.registry.languageFor? path with
  | none => rfl
  | some language =>
    have registered := (Registry.languageFor?_eq_some_iff.mp recognised).1
    cases source.decode with
    | error error => rfl
    | ok content =>
      dsimp only
      rw [equipped language registered]
      rfl

end MethodCheck

namespace Registry

variable {registry : Registry}

/-- A registry whose views agree: it answers as the full one where the answer is among its languages, the tables by
identifier and by extension give its answers, its languages are listed in the order of their identifiers, and a check
that is made from it has a detector for each language that a file can be in. -/
structure Coherent (registry : Registry) : Prop where
  lookup : ∀ id, registry.lookup? id = (full.lookup? id).filter (· ∈ registry.languages)
  languageFor : ∀ path, registry.languageFor? path = (full.languageFor? path).filter (· ∈ registry.languages)
  byId : ∀ id, registry.lookup? id = written registry.idEntries (Text.lower (Text.trim id))
  byExtension : ∀ path,
    registry.languageFor? path = written registry.extensionEntries (Text.lower (Path.extension path))
  distinct : registry.languages.Nodup
  listed : registry.listing.Perm registry.languages
  increasing : registry.listing.Pairwise (·.id < ·.id)
  equipped : ∀ check : MethodCheck, check.registry = registry → ∃ entries, check.detectorEntries? = some entries ∧
    (∀ path language, registry.languageFor? path = some language → ∃ found, written entries language.id = some found) ∧
    ∀ path source, check.runWith (written entries) path source = some (check.run path source)

theorem coherent_of_nodup (distinct : registry.languages.Nodup) : registry.Coherent where
  lookup := registry.lookup?_eq_filter
  languageFor := registry.languageFor?_eq_filter
  byId := registry.lookup?_eq_written
  byExtension := registry.languageFor?_eq_written
  distinct := distinct
  listed := registry.listing_perm
  increasing := listing_increasing distinct
  equipped := by
    rintro check rfl
    refine ⟨_, check.detectorEntries?_eq, ?_, ?_⟩
    · intro path language recognised
      exact ⟨_, check.written_detectors (languageFor?_eq_some_iff.mp recognised).1⟩
    · intro path source
      exact check.runWith_eq_run (fun language => check.written_detectors) path source

/-- After any selections: the next one is refused exactly if it names something unknown, the first such name is reported
as it was given, and the registry stays; otherwise the new registry holds the named languages once each, in the order of
their first mention. Every registry that is reached is coherent. -/
theorem selections_coherent (calls : List (List Text)) :
    (∀ names,
      ((∃ error, (afterSelections calls).select names = .error error) ↔
        ∃ name ∈ names, ¬ (afterSelections calls).Knows name) ∧
      (∀ error, (afterSelections calls).select names = .error error →
        afterSelections (calls ++ [names]) = afterSelections calls ∧
          (∃ known rest, names = known ++ error.name :: rest ∧
            (∀ name ∈ known, (afterSelections calls).Knows name) ∧ ¬ (afterSelections calls).Knows error.name) ∧
          error.message =
            "unsupported language " ++ error.name.quoted ++ ", run \"codegate language\" for the list") ∧
      ∀ chosen, (afterSelections calls).select names = .ok chosen →
        afterSelections (calls ++ [names]) = chosen ∧
          chosen.languages.map (·.id) = (names.map fun name => Text.lower (Text.trim name)).eraseDups) ∧
    (afterSelections calls).Coherent := by
  refine ⟨?_, coherent_of_nodup (nodup_afterSelections calls)⟩
  intro names
  rw [afterSelections_concat]
  unfold narrow
  rcases (afterSelections calls).select_cases names with
    ⟨all, chosen, ok, languages⟩ | ⟨known, name, rest, split, finds, unknown, refused⟩
  · refine ⟨⟨?_, ?_⟩, ?_, ?_⟩
    · rintro ⟨error, refused⟩
      rw [ok] at refused
      cases refused
    · rintro ⟨name, member, unknown⟩
      exact absurd (all name member) unknown
    · intro error refused
      rw [ok] at refused
      cases refused
    · rintro _ same
      rw [ok] at same
      cases same
      rw [ok]
      exact ⟨rfl, languages⟩
  · refine ⟨⟨?_, ?_⟩, ?_, ?_⟩
    · intro
      exact ⟨name, by rw [split]; simp, unknown⟩
    · intro
      exact ⟨_, refused⟩
    · intro error same
      rw [refused] at same
      cases same
      rw [refused]
      exact ⟨rfl, ⟨known, rest, split, finds, unknown⟩, rfl⟩
    · intro chosen ok
      rw [refused] at ok
      cases ok

/-- Two languages are selected under odd spellings, one of them twice; a third one is then refused, and the two stay. -/
theorem selections_coherent_refused :
    let calls : List (List Text) := [[" GO", "java\n", "go"], ["Java", "csharp"]]
    afterSelections calls = ⟨[.go, .java]⟩ ∧ (afterSelections calls).select ["Java", "csharp"] = .error ⟨"csharp"⟩ ∧
      afterSelections (calls ++ [(["Java", "csharp"] : List Text)]) = afterSelections calls ∧
      (afterSelections calls).select ["JAVA ", "go", "java"] = .ok ⟨[.java, .go]⟩ ∧
      afterSelections (calls ++ [(["JAVA ", "go", "java"] : List Text)]) = ⟨[.java, .go]⟩ ∧
      (afterSelections calls).languageFor? "a.GO" = some .go ∧ (afterSelections calls).languageFor? "a.cs" = none := by
  intro calls
  have reached : afterSelections calls = ⟨[.go, .java]⟩ := by decide +kernel
  have refused : (afterSelections calls).select ["Java", "csharp"] = .error ⟨"csharp"⟩ := by
    rw [reached]
    decide +kernel
  have chosen : (afterSelections calls).select ["JAVA ", "go", "java"] = .ok ⟨[.java, .go]⟩ := by
    rw [reached]
    decide +kernel
  obtain ⟨next, coherent⟩ := selections_coherent calls
  refine ⟨reached, refused, ((next _).2.1 _ refused).1, chosen, ((next _).2.2 _ chosen).1, ?_, ?_⟩
  · rw [coherent.languageFor, reached]
    decide +kernel
  · rw [coherent.languageFor, reached]
    decide +kernel

end Registry

end QualityGate
