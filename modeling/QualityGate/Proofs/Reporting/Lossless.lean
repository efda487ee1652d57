import QualityGate.Proofs.Reporting.JsonReading
import QualityGate.Reporting.Print

/-!
What a reader of the JSON report gets back. A report is decoded by the names of its members: a list of violations that
is not there is empty, and so is a flag that is not there false. Main statement: the report of a result whose texts are
well-formed is one JSON document, and decoding gives the result. In any other report the replacement character stands
for each ill-formed byte, and nothing else is lost (`ScanResult.read?_print_json`).
-/

namespace QualityGate

namespace Json.Value

def member? (name : Text) : Value → Option Value
  | .object members => members.lookup name
  | _ => none

def text? : Value → Option Text
  | .string value => some value
  | _ => none

def integer? : Value → Option Int
  | .number digits exponent => if exponent = 0 then some digits else none
  | _ => none

def truth? : Value → Option Bool
  | .truth value => some value
  | _ => none

def items? : Value → Option (List Value)
  | .array items => some items
  | _ => none

def textAt? (name : Text) (v : Value) : Option Text := v.member? name >>= text?

def integerAt? (name : Text) (v : Value) : Option Int := v.member? name >>= integer?

def listAt? {α : Type} (name : Text) (decode : Value → Option α) (v : Value) : Option (List α) := do
  let items ← v.member? name >>= items?
  items.mapM decode

/-- The list with a name, which is empty if there is none. -/
def listOrEmptyAt? {α : Type} (name : Text) (decode : Value → Option α) (v : Value) : Option (List α) :=
  if (v.member? name).isNone then some [] else v.listAt? name decode

def flagAt? (name : Text) (v : Value) : Option Bool :=
  if (v.member? name).isNone then some false else v.member? name >>= truth?

end Json.Value

open Json (Value)

def MethodViolation.ofValue? (v : Value) : Option MethodViolation := do
  return {
    path := ← v.textAt? "path"
    file := ← v.textAt? "file"
    owner := ← v.textAt? "class"
    method := ← v.textAt? "method"
    line := ← v.integerAt? "line"
    lineCount := ← v.integerAt? "line_count"
    truncated := ← v.flagAt? "truncated" }

def LineViolation.ofValue? (v : Value) : Option LineViolation := do
  return {
    path := ← v.textAt? "path"
    line := ← v.integerAt? "line"
    length := ← v.integerAt? "length"
    text := ← v.textAt? "text" }

def ScanError.ofValue? (v : Value) : Option ScanError := do
  return { path := ← v.textAt? "path", error := ← v.textAt? "error" }

def Summary.ofValue? (v : Value) : Option Summary := do
  return {
    files := ← v.integerAt? "files"
    violations := ← v.integerAt? "violations"
    errors := ← v.integerAt? "errors" }

def ScanResult.ofValue? (v : Value) : Option ScanResult := do
  return {
    scannedPath := ← v.textAt? "scanned_path"
    check := ← v.textAt? "check"
    methods := ← v.listOrEmptyAt? "method_violations" MethodViolation.ofValue?
    lines := ← v.listOrEmptyAt? "line_violations" LineViolation.ofValue?
    errors := ← v.listAt? "errors" ScanError.ofValue?
    summary := ← v.member? "summary" >>= Summary.ofValue? }

/-! ### Decoding the value of a document -/

theorem MethodViolation.ofValue?_document (v : MethodViolation) : ofValue? v.document.value = some v := by
  obtain ⟨path, file, owner, method, line, lineCount, truncated⟩ := v
  cases truncated <;> rfl

theorem LineViolation.ofValue?_document (v : LineViolation) : ofValue? v.document.value = some v := rfl

theorem ScanError.ofValue?_document (e : ScanError) : ofValue? e.document.value = some e := rfl

theorem Summary.ofValue?_document (s : Summary) : ofValue? s.document.value = some s := rfl

theorem mapM_values {α : Type} {document : α → Document} {decode : Value → Option α}
    (decodes : ∀ x, decode (document x).value = some x) (xs : List α) :
    (Document.values (xs.map document)).mapM decode = some xs := by
  induction xs with
  | nil => rfl
  | cons x xs ih =>
    rw [List.map_cons, Document.values, List.mapM_cons, decodes, ih]
    rfl

theorem ScanResult.ofValue?_document (r : ScanResult) : ofValue? r.document.value = some r := by
  obtain ⟨scannedPath, check, methods, lines, errors, summary⟩ := r
  have decodedMethods := mapM_values MethodViolation.ofValue?_document methods
  have decodedLines := mapM_values LineViolation.ofValue?_document lines
  have decodedErrors := mapM_values ScanError.ofValue?_document errors
  unfold ofValue?
  generalize form : (document ⟨scannedPath, check, methods, lines, errors, summary⟩).value = v
  have ofMethods : v.listOrEmptyAt? "method_violations" MethodViolation.ofValue? = some methods := by
    rw [← form]
    cases methods with
    | nil => cases lines <;> rfl
    | cons => exact decodedMethods
  have ofLines : v.listOrEmptyAt? "line_violations" LineViolation.ofValue? = some lines := by
    rw [← form]
    cases lines with
    | nil => cases methods <;> rfl
    | cons => cases methods <;> exact decodedLines
  have ofErrors : v.listAt? "errors" ScanError.ofValue? = some errors := by
    rw [← form]
    cases methods <;> cases lines <;> exact decodedErrors
  have ofSummary : v.member? "summary" = some summary.document.value := by
    rw [← form]
    cases methods <;> cases lines <;> rfl
  have ofPath : v.textAt? "scanned_path" = some scannedPath := by
    rw [← form]
    rfl
  have ofCheck : v.textAt? "check" = some check := by
    rw [← form]
    rfl
  rw [ofPath, ofCheck, ofMethods, ofLines, ofErrors, ofSummary]
  rfl

/-! ### Well-formed results -/

def MethodViolation.texts (v : MethodViolation) : List Text := [v.path, v.file, v.owner, v.method]

def LineViolation.texts (v : LineViolation) : List Text := [v.path, v.text]

def ScanError.texts (e : ScanError) : List Text := [e.path, e.error]

/-- Every text of a result: paths, names, lines and messages. -/
def ScanResult.texts (r : ScanResult) : List Text :=
  [r.scannedPath, r.check] ++ r.methods.flatMap MethodViolation.texts ++ r.lines.flatMap LineViolation.texts ++
    r.errors.flatMap ScanError.texts

def ScanResult.IsWellFormed (r : ScanResult) : Prop := ∀ t ∈ r.texts, t.isWellFormed = true

instance (r : ScanResult) : Decidable r.IsWellFormed := inferInstanceAs (Decidable (∀ t ∈ r.texts, _))

namespace Document

theorem names_flagField (name : Text) (value : Bool) : ((flagField name value).map Prod.fst).Sublist [name] := by
  cases value
  · exact List.nil_sublist [name]
  · exact List.Sublist.refl [name]

theorem names_filledListField (name : Text) (items : List Document) :
    ((filledListField name items).map Prod.fst).Sublist [name] := by
  unfold filledListField
  split
  · exact List.nil_sublist [name]
  · exact List.Sublist.refl [name]

theorem inner_filledListField {name : Text} {items : List Document} (inner : ∀ item ∈ items, item.IsWellFormed) :
    ∀ field ∈ filledListField name items, field.2.IsWellFormed := by
  intro field member
  unfold filledListField at member
  split at member
  · cases member
  · rw [List.mem_singleton.mp member]
    exact .list inner

/-- A record is well-formed if its names are among different well-formed ones, in their order. -/
theorem IsWellFormed.of_sublist {fields : List Field} (names : List Text) (among : (fields.map Prod.fst).Sublist names)
    (distinct : names.Nodup) (wellFormed : ∀ name ∈ names, Text.isWellFormed name = true)
    (inner : ∀ field ∈ fields, field.2.IsWellFormed) : IsWellFormed (.record fields) :=
  .record (among.nodup distinct) (fun name member => wellFormed name (among.subset member)) inner

end Document

open Document (textField integerField listField filledListField flagField)

theorem MethodViolation.isWellFormed_document {v : MethodViolation}
    (wellFormed : ∀ t ∈ v.texts, t.isWellFormed = true) : v.document.IsWellFormed := by
  refine .of_sublist ["path", "file", "class", "method", "line", "line_count", "truncated"] ?_ (by decide)
    (by decide) ?_
  · rw [List.map_append]
    exact (List.Sublist.refl _).append (Document.names_flagField _ _)
  simp only [texts, List.forall_mem_cons] at wellFormed
  obtain ⟨path, file, owner, method, -⟩ := wellFormed
  rw [List.forall_mem_append]
  constructor
  · simp only [List.forall_mem_cons]
    exact ⟨.text path, .text file, .text owner, .text method, .integer _, .integer _, List.forall_mem_nil _⟩
  · intro field member
    cases truncated : v.truncated with
    | false => simp [truncated, flagField] at member
    | true =>
      simp only [truncated, flagField, if_true, List.mem_singleton] at member
      rw [member]
      exact .truth true

theorem LineViolation.isWellFormed_document {v : LineViolation} (wellFormed : ∀ t ∈ v.texts, t.isWellFormed = true) :
    v.document.IsWellFormed := by
  refine .of_sublist ["path", "line", "length", "text"] (List.Sublist.refl _) (by decide) (by decide) ?_
  simp only [texts, List.forall_mem_cons] at wellFormed ⊢
  obtain ⟨path, text, -⟩ := wellFormed
  exact ⟨.text path, .integer _, .integer _, .text text, List.forall_mem_nil _⟩

theorem ScanError.isWellFormed_document {e : ScanError} (wellFormed : ∀ t ∈ e.texts, t.isWellFormed = true) :
    e.document.IsWellFormed := by
  refine .of_sublist ["path", "error"] (List.Sublist.refl _) (by decide) (by decide) ?_
  simp only [texts, List.forall_mem_cons] at wellFormed ⊢
  obtain ⟨path, error, -⟩ := wellFormed
  exact ⟨.text path, .text error, List.forall_mem_nil _⟩

theorem Summary.isWellFormed_document (s : Summary) : s.document.IsWellFormed := by
  refine .of_sublist ["files", "violations", "errors"] (List.Sublist.refl _) (by decide) (by decide) ?_
  simp only [List.forall_mem_cons]
  exact ⟨.integer _, .integer _, .integer _, List.forall_mem_nil _⟩

theorem isWellFormed_map {α : Type} {texts : α → List Text} {document : α → Document}
    (each : ∀ {x}, (∀ t ∈ texts x, t.isWellFormed = true) → (document x).IsWellFormed) {xs : List α}
    (wellFormed : ∀ t ∈ xs.flatMap texts, t.isWellFormed = true) : ∀ item ∈ xs.map document, item.IsWellFormed := by
  intro item member
  obtain ⟨x, inside, rfl⟩ := List.mem_map.mp member
  exact each fun t within => wellFormed t (List.mem_flatMap.mpr ⟨x, inside, within⟩)

theorem ScanResult.isWellFormed_document {r : ScanResult} (wellFormed : r.IsWellFormed) : r.document.IsWellFormed := by
  rw [IsWellFormed, texts, List.forall_mem_append, List.forall_mem_append, List.forall_mem_append] at wellFormed
  obtain ⟨⟨⟨named, methods⟩, lines⟩, errors⟩ := wellFormed
  simp only [List.forall_mem_cons] at named
  obtain ⟨path, check, -⟩ := named
  refine .of_sublist ["scanned_path", "check", "method_violations", "line_violations", "errors", "summary"] ?_
    (by decide) (by decide) ?_
  · rw [List.map_append, List.map_append, List.map_append]
    exact (((List.Sublist.refl _).append (Document.names_filledListField _ _)).append
      (Document.names_filledListField _ _)).append (List.Sublist.refl _)
  rw [List.forall_mem_append, List.forall_mem_append, List.forall_mem_append]
  refine ⟨⟨⟨?_, ?_⟩, ?_⟩, ?_⟩
  · simp only [List.forall_mem_cons]
    exact ⟨.text path, .text check, List.forall_mem_nil _⟩
  · exact Document.inner_filledListField (isWellFormed_map MethodViolation.isWellFormed_document methods)
  · exact Document.inner_filledListField (isWellFormed_map LineViolation.isWellFormed_document lines)
  · simp only [List.forall_mem_cons]
    exact ⟨.list (isWellFormed_map ScanError.isWellFormed_document errors), r.summary.isWellFormed_document,
      List.forall_mem_nil _⟩

/-! ### Ill-formed texts -/

/-- A text with the replacement character for each ill-formed byte. -/
def Text.replaced (t : Text) : Text := Text.ofChars (Text.charsReplaced t)

theorem Text.charsReplaced_replaced (t : Text) : Text.charsReplaced t.replaced = Text.charsReplaced t := by
  rw [replaced, Json.charsReplaced_of_isWellFormed (Text.isWellFormed_ofChars _), Text.chars_ofChars]

namespace Document

mutual

/-- A document with the replacement character for each ill-formed byte of its texts. -/
def replaced : Document → Document
  | .text value => .text (Text.replaced value)
  | .integer value => .integer value
  | .truth value => .truth value
  | .list items => .list (replacedItems items)
  | .record fields => .record (replacedFields fields)

def replacedItems : List Document → List Document
  | [] => []
  | item :: rest => item.replaced :: replacedItems rest

def replacedFields : List Field → List Field
  | [] => []
  | (name, value) :: rest => (name, value.replaced) :: replacedFields rest

end

theorem replacedItems_map {α : Type} (document : α → Document) (xs : List α) :
    replacedItems (xs.map document) = xs.map fun x => (document x).replaced := by
  induction xs with
  | nil => rfl
  | cons x xs ih => rw [List.map_cons, replacedItems, ih, List.map_cons]

theorem replacedFields_append (fields more : List Field) :
    replacedFields (fields ++ more) = replacedFields fields ++ replacedFields more := by
  induction fields with
  | nil => rfl
  | cons field rest ih =>
    obtain ⟨name, value⟩ := field
    rw [List.cons_append, replacedFields, ih]
    rfl

theorem replacedFields_filledListField (name : Text) (items : List Document) :
    replacedFields (filledListField name items) = filledListField name (replacedItems items) := by
  cases items <;> rfl

end Document

namespace Json

theorem string_replaced (t : Text) : string (Text.replaced t) = string t := by
  rw [string, string, Text.charsReplaced_replaced]

mutual

/-- The printer has replaced the ill-formed bytes already. -/
theorem render_replaced (level : Nat) : ∀ document : Document, render level document.replaced = render level document
  | .text value => string_replaced value
  | .integer _ => rfl
  | .truth _ => rfl
  | .list [] => rfl
  | .list (item :: rest) => by
    rw [Document.replaced, Document.replacedItems, render, render, render_replaced (level + 1) item,
      renderItems_replaced (level + 1) rest]
  | .record [] => rfl
  | .record ((name, value) :: rest) => by
    rw [Document.replaced, Document.replacedFields, render, render, renderField, renderField,
      render_replaced (level + 1) value, renderFields_replaced (level + 1) rest]

theorem renderItems_replaced (level : Nat) :
    ∀ items : List Document, renderItems level (Document.replacedItems items) = renderItems level items
  | [] => rfl
  | item :: rest => by
    rw [Document.replacedItems, renderItems, renderItems, render_replaced level item, renderItems_replaced level rest]

theorem renderFields_replaced (level : Nat) :
    ∀ fields : List Document.Field, renderFields level (Document.replacedFields fields) = renderFields level fields
  | [] => rfl
  | (name, value) :: rest => by
    rw [Document.replacedFields, renderFields, renderFields, renderField, renderField, render_replaced level value,
      renderFields_replaced level rest]

end

end Json

def MethodViolation.replaced (v : MethodViolation) : MethodViolation :=
  { v with path := v.path.replaced, file := v.file.replaced, owner := v.owner.replaced, method := v.method.replaced }

def LineViolation.replaced (v : LineViolation) : LineViolation :=
  { v with path := v.path.replaced, text := v.text.replaced }

def ScanError.replaced (e : ScanError) : ScanError := { path := e.path.replaced, error := e.error.replaced }

def ScanResult.replaced (r : ScanResult) : ScanResult where
  scannedPath := r.scannedPath.replaced
  check := r.check.replaced
  methods := r.methods.map MethodViolation.replaced
  lines := r.lines.map LineViolation.replaced
  errors := r.errors.map ScanError.replaced
  summary := r.summary

theorem MethodViolation.document_replaced (v : MethodViolation) : v.document.replaced = v.replaced.document := by
  obtain ⟨path, file, owner, method, line, lineCount, truncated⟩ := v
  cases truncated <;> rfl

theorem ScanResult.document_replaced (r : ScanResult) : r.document.replaced = r.replaced.document := by
  have methods : Document.replacedItems (r.methods.map MethodViolation.document) =
      (r.methods.map MethodViolation.replaced).map MethodViolation.document := by
    rw [Document.replacedItems_map, List.map_map]
    exact List.map_congr_left fun v _ => v.document_replaced
  have lines : Document.replacedItems (r.lines.map LineViolation.document) =
      (r.lines.map LineViolation.replaced).map LineViolation.document := by
    rw [Document.replacedItems_map, List.map_map]
    rfl
  have errors : Document.replacedItems (r.errors.map ScanError.document) =
      (r.errors.map ScanError.replaced).map ScanError.document := by
    rw [Document.replacedItems_map, List.map_map]
    rfl
  rw [document, Document.replaced, Document.replacedFields_append, Document.replacedFields_append,
    Document.replacedFields_append, Document.replacedFields_filledListField, Document.replacedFields_filledListField,
    methods, lines, listField]
  simp only [Document.replacedFields, Document.replaced, errors]
  rfl

theorem ScanResult.texts_replaced (r : ScanResult) : r.replaced.texts = r.texts.map Text.replaced := by
  simp only [texts, replaced, List.map_append, List.map_flatMap, List.flatMap_map]
  rfl

theorem ScanResult.isWellFormed_replaced (r : ScanResult) : r.replaced.IsWellFormed := by
  intro t member
  rw [texts_replaced] at member
  obtain ⟨whole, _, rfl⟩ := List.mem_map.mp member
  exact Text.isWellFormed_ofChars _

/-- Every JSON report is read back, with the replacement character for each ill-formed byte. -/
theorem ScanResult.read?_print_json (r : ScanResult) :
    Json.read? (Json.print r.document) = some r.replaced.document.value := by
  rw [Json.print, ← Json.render_replaced, document_replaced]
  exact Json.read?_print (isWellFormed_document r.isWellFormed_replaced)

/-! ### The report -/

theorem ScanResult.print_json (r : ScanResult) (content : Text) :
    r.print .json { content } = ({ content := content ++ (Json.render 0 r.document ++ "\n") }, none) := by
  simp [print, Channel.write, Channel.send, Channel.room, Channel.accepted, Json.print]

/-- The JSON report loses nothing: after what the channel held before, it is one JSON document and a line break, and the
document is decoded to the result. No other result has the same report. -/
theorem ScanResult.json_report_lossless {result : ScanResult} (wellFormed : result.IsWellFormed) (content : Text) :
    (∃ document value, result.print .json { content } = ({ content := content ++ (document ++ "\n") }, none) ∧
      Json.read? document = some value ∧ ofValue? value = some result) ∧
      ∀ other : ScanResult, other.IsWellFormed → other.print .json { content } = result.print .json { content } →
        other = result := by
  have reads : ∀ r : ScanResult, r.IsWellFormed → Json.read? (Json.render 0 r.document) = some r.document.value :=
    fun r wellFormed => Json.read?_render (isWellFormed_document wellFormed) 0
  refine ⟨⟨_, _, result.print_json content, reads result wellFormed, result.ofValue?_document⟩, ?_⟩
  intro other wellFormed' same
  rw [print_json, print_json, Prod.mk.injEq, Channel.mk.injEq] at same
  have printed : Json.render 0 other.document = Json.render 0 result.document :=
    List.append_cancel_right (List.append_cancel_left same.1.2.1)
  have value := reads other wellFormed'
  rw [printed, reads result wellFormed] at value
  have decoded := other.ofValue?_document
  rw [← Option.some.inj value, result.ofValue?_document] at decoded
  exact (Option.some.inj decoded).symm

/-- A result with quotes, control characters, markup, a line separator and a character beyond the first plane. -/
def awkwardResult : ScanResult where
  scannedPath := "C:\\\"work\"\t</script>"
  check := "methods"
  methods :=
    [{ path := "a&b.go", file := Text.ofChars [Char.ofNat 0x2028, Char.ofNat 0x1F600], owner := "", method := "f\x00",
       line := 3, lineCount := -41, truncated := true }]
  errors := [{ path := "\x7f\n", error := "read: \x08" }]
  summary := { files := 12, violations := 1, errors := 1 }

theorem ScanResult.json_report_lossless_awkward :
    awkwardResult.IsWellFormed ∧
      (∃ document value, awkwardResult.print .json {} = ({ content := document ++ "\n" }, none) ∧
        Json.read? document = some value ∧ ofValue? value = some awkwardResult) ∧
      ({ awkwardResult with check := "lines" } : ScanResult).print .json {} ≠ awkwardResult.print .json {} := by
  have wellFormed : awkwardResult.IsWellFormed := by decide
  obtain ⟨decoded, unique⟩ := json_report_lossless wellFormed []
  refine ⟨wellFormed, decoded, fun same => ?_⟩
  exact absurd (unique { awkwardResult with check := "lines" } (by decide) same) (by decide)

end QualityGate
