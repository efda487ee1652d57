import QualityGate.Language.Basic
import QualityGate.Proofs.Locating.Reading
import QualityGate.Proofs.Pattern.Spelling

/-!
The words that the pattern languages know. A vocabulary says which keywords introduce a type or a method, which characters a
type may hold and which words no method may hold. The patterns of a language are those of its vocabulary
(`Vocabulary.Realized`), and so the locator is known in full (`Vocabulary.Realized.compile`).
-/

namespace QualityGate

open Pattern (Core CharSet)

/-! ### Characters -/

def isIdentifier (c : Char) : Bool :=
  CodePoint.within CodePoint.letter c.toNat || CodePoint.within CodePoint.number c.toNat || c = '_'

/-- Tab, newline, form feed, carriage return, and the separators that are spaces. -/
def isSeparator (c : Char) : Bool :=
  ['\t', '\n', '\x0C', '\r'].contains c || CodePoint.within CodePoint.spaceSeparator c.toNat

structure Vocabulary where
  kinds : List Text
  access : List Text
  punctuation : List Char
  excluded : List Text

/-- The characters that may stand between the keyword of a method and its name. -/
def Vocabulary.inType (vocabulary : Vocabulary) (c : Char) : Bool :=
  isIdentifier c || isSeparator c || vocabulary.punctuation.contains c

def csharpVocabulary : Vocabulary where
  kinds := ["class", "record", "struct"]
  access := ["public", "protected", "private", "internal", "static"]
  punctuation := ['<', '>', ',']
  excluded := ["class", "struct", "record"]

def javaVocabulary : Vocabulary where
  kinds := ["class", "record", "interface", "enum"]
  access := ["public", "protected", "private", "static", "final", "abstract", "synchronized"]
  punctuation := ['<', '>', '[', ']', ',', '.', '?']
  excluded := ["class", "record", "interface"]

def Language.vocabulary? : Language → Option Vocabulary
  | csharp => some csharpVocabulary
  | java => some javaVocabulary
  | go => none

/-! ### Sets of characters -/

def identifierSet : CharSet :=
  .unions [.table CodePoint.letter, .table CodePoint.number, .single '_'.toNat]

def separatorSet : CharSet := .unions [.whiteSpace, .table CodePoint.spaceSeparator]

def Vocabulary.typeSet (vocabulary : Vocabulary) : CharSet :=
  .unions ([.table CodePoint.letter, .table CodePoint.number, .single '_'.toNat] ++
    vocabulary.punctuation.map (fun c => .single c.toNat) ++ [.whiteSpace, .table CodePoint.spaceSeparator])

theorem contains_identifierSet (c : Char) : identifierSet.contains c.toNat = isIdentifier c := by
  rw [identifierSet, CharSet.contains_unions, isIdentifier]
  simp only [List.any_cons, List.any_nil, CharSet.contains_single, CharSet.contains, Bool.or_false, Bool.or_assoc]

theorem within_cons_iff {lo hi c : Nat} {rest : List Nat} :
    CodePoint.within (lo :: hi :: rest) c = true ↔ lo ≤ c ∧ (c ≤ hi ∨ CodePoint.within rest c = true) := by
  rw [CodePoint.within]
  by_cases low : c < lo
  · simp only [low, if_true, Bool.false_eq_true, false_iff]
    omega
  · by_cases high : c ≤ hi
    · simp only [low, high, if_true, if_false, true_or, and_true, true_iff]
      omega
    · simp only [low, high, if_false, false_or, iff_and_self]
      omega

theorem within_spaceSeparator_iff {n : Nat} :
    CodePoint.within CodePoint.spaceSeparator n = true ↔
      n = 0x20 ∨ n = 0xA0 ∨ n = 0x1680 ∨ (0x2000 ≤ n ∧ n ≤ 0x200A) ∨ n = 0x202F ∨ n = 0x205F ∨ n = 0x3000 := by
  simp only [CodePoint.spaceSeparator, within_cons_iff, show CodePoint.within [] n = false from rfl,
    Bool.false_eq_true, or_false]
  omega

theorem contains_whiteSpace_iff {n : Nat} :
    CharSet.whiteSpace.contains n = true ↔ n = 0x09 ∨ n = 0x0A ∨ n = 0x0C ∨ n = 0x0D ∨ n = 0x20 := by
  simp only [CharSet.whiteSpace, CharSet.contains, within_cons_iff, show CodePoint.within [] n = false from rfl,
    Bool.false_eq_true, or_false]
  omega

theorem isSeparator_iff {c : Char} :
    isSeparator c = true ↔ c.toNat = 0x09 ∨ c.toNat = 0x0A ∨ c.toNat = 0x0C ∨ c.toNat = 0x0D ∨
      CodePoint.within CodePoint.spaceSeparator c.toNat = true := by
  have toNat : ∀ d : Char, c = d ↔ c.toNat = d.toNat := fun d => Char.toNat_inj.symm
  rw [isSeparator, Bool.or_eq_true]
  simp only [List.contains_eq_mem, List.mem_cons, List.not_mem_nil, or_false, decide_eq_true_eq, toNat, or_assoc]
  rfl

theorem contains_separatorSet (c : Char) : separatorSet.contains c.toNat = isSeparator c := by
  rw [separatorSet, CharSet.contains_unions, Bool.eq_iff_iff, isSeparator_iff]
  simp only [List.any_cons, List.any_nil, Bool.or_false, Bool.or_eq_true, contains_whiteSpace_iff, CharSet.contains,
    within_spaceSeparator_iff]
  omega

theorem Vocabulary.contains_typeSet (vocabulary : Vocabulary) (c : Char) :
    vocabulary.typeSet.contains c.toNat = vocabulary.inType c := by
  have separator : isSeparator c =
      (CharSet.whiteSpace.contains c.toNat || CodePoint.within CodePoint.spaceSeparator c.toNat) := by
    rw [← contains_separatorSet, separatorSet, CharSet.contains_unions]
    simp [CharSet.contains]
  have punctuation : (vocabulary.punctuation.map fun c => CharSet.single c.toNat).any (·.contains c.toNat) =
      vocabulary.punctuation.contains c := by
    rw [List.any_map, Bool.eq_iff_iff]
    simp [CharSet.contains_single]
  rw [typeSet, CharSet.contains_unions, inType, isIdentifier, separator, List.any_append, List.any_append, punctuation]
  simp only [List.any_cons, List.any_nil, CharSet.contains_single, CharSet.contains, Bool.or_false]
  ac_rfl

/-! ### Expressions -/

def literal (t : Text) : Core := .sequence (t.map fun b => .char (.single b.toNat))

/-- A keyword, white space and a name. -/
def kindCore (group : Nat) (kind : Text) : Core :=
  .sequence [literal kind, .plus true (.char separatorSet), .capture group (.plus true (.char identifierSet))]

/-- The expression of the type pattern: one alternative and one group for each kind. -/
def Vocabulary.typesCore (vocabulary : Vocabulary) : Core :=
  .choice (vocabulary.kinds.mapIdx fun i kind => kindCore (i + 1) kind)

/-- The expression of the method pattern, with one for the keywords. -/
def Vocabulary.methodsCore (vocabulary : Vocabulary) (access : Core) : Core :=
  .sequence [.capture 1 access,
    .opt true (.capture 2 (.sequence [.plus true (.char separatorSet), .plus true (.char identifierSet)])),
    .plus true (.char separatorSet), .plus true (.char vocabulary.typeSet), .plus true (.char separatorSet),
    .capture 3 (.plus true (.char identifierSet)), .star true (.char separatorSet), literal "("]

def methodGroups : List Text := ["access", "modifier", "name"]

def Vocabulary.locator (vocabulary : Vocabulary) (access : Core) : PatternLocator where
  types := ⟨vocabulary.typesCore.program vocabulary.kinds.length, vocabulary.kinds⟩
  methods := ⟨(vocabulary.methodsCore access).program methodGroups.length, methodGroups⟩
  nameGroup := 2
  qualifierGroups := [0, 1]
  excludedWords := vocabulary.excluded

/-- Patterns that say what a vocabulary says. -/
structure Vocabulary.Realized (vocabulary : Vocabulary) (patterns : DeclarationPatterns) (access : Core) : Prop where
  types : Pattern.expressionOf? patterns.types = some (vocabulary.typesCore, vocabulary.kinds)
  methods : Pattern.expressionOf? patterns.methods = some (vocabulary.methodsCore access, methodGroups)
  excluded : patterns.excludedWords.map Text.lower = vocabulary.excluded
  kinds : vocabulary.kinds ≠ [] ∧ ∀ kind ∈ vocabulary.kinds, kind ≠ [] ∧ (literal kind).spellings? = some [kind]
  runs : vocabulary.typesCore.endsInRun identifierSet = true
  access : access.spellings? = some vocabulary.access ∧ ∀ keyword ∈ vocabulary.access, Text.fields keyword = [keyword]
  wellFormed : vocabulary.inType Text.replacement = false
  closed : ['{', '}', ';', '(', '='].any vocabulary.inType = false

theorem Vocabulary.Realized.compile {vocabulary : Vocabulary} {patterns : DeclarationPatterns} {access : Core}
    (realized : vocabulary.Realized patterns access) :
    PatternLocator.compile patterns = .ok (vocabulary.locator access) := by
  have types := Pattern.compile_eq_ok_iff.mpr ⟨_, _, realized.types, rfl⟩
  have methods := Pattern.compile_eq_ok_iff.mpr ⟨_, _, realized.methods, rfl⟩
  have named : vocabulary.kinds.all (·.isEmpty) = false := by
    obtain ⟨some, spelled⟩ := realized.kinds
    obtain ⟨kind, member⟩ := List.exists_mem_of_ne_nil _ some
    exact List.all_eq_false.mpr ⟨kind, member, by simp [(spelled kind member).1]⟩
  rw [PatternLocator.compile, types, methods, realized.excluded]
  simp only [Except.mapError, bind, Except.bind, named, Bool.false_eq_true, if_false]
  rfl

/-- The keywords of C#, two of which share their first letters with a third. -/
def csharpAccess : Core :=
  .choice [.sequence [literal "p", .choice [literal "ublic", .sequence [literal "r",
    .choice [literal "otected", literal "ivate"]]]], literal "internal", literal "static"]

def javaAccess : Core :=
  .choice [.sequence [literal "p", .choice [literal "ublic", .sequence [literal "r",
    .choice [literal "otected", literal "ivate"]]]], literal "static", literal "final", literal "abstract",
    literal "synchronized"]

def Language.locator? : Language → Option PatternLocator
  | csharp => csharpLocator?
  | java => javaLocator?
  | go => none

theorem exists_realized {language : Language} {vocabulary : Vocabulary}
    (spoken : language.vocabulary? = some vocabulary) :
    ∃ patterns access, vocabulary.Realized patterns access ∧ language.locator? = some (vocabulary.locator access) := by
  -- The patterns of the two languages are fixed texts, so what they say is computed.
  cases language with
  | csharp =>
    cases spoken
    have realized : csharpVocabulary.Realized .csharp csharpAccess := by constructor <;> decide +kernel
    refine ⟨_, _, realized, ?_⟩
    rw [Language.locator?, Language.csharpLocator?, realized.compile]
    rfl
  | java =>
    cases spoken
    have realized : javaVocabulary.Realized .java javaAccess := by constructor <;> decide +kernel
    refine ⟨_, _, realized, ?_⟩
    rw [Language.locator?, Language.javaLocator?, realized.compile]
    rfl
  | go => cases spoken

end QualityGate
