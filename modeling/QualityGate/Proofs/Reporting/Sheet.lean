import QualityGate.Proofs.Reporting.Accounts
import QualityGate.Proofs.Reporting.Lossless
import QualityGate.Proofs.Reporting.TableReading
import QualityGate.Proofs.Reporting.YamlReading

/-!
What a check prints, in each format: the records one after the other, tables, or a document. A channel that is not
broken has taken all of it (`print_of_unbroken`), and whatever the format, a reader of the bytes finds as many
violations and errors as the summary counts (`Accounts.exists_reading`).
-/

namespace QualityGate

/-! ### Channels that are not broken -/

namespace Channel

def extend (channel : Channel) (t : Text) : Channel := { channel with content := channel.content ++ t }

theorem accepted_initial (room : Option Int) (writes : List Text) : accepted room writes <+: writes := by
  induction writes generalizing room with
  | nil => exact List.nil_prefix
  | cons t rest ih =>
    rw [accepted]
    split
    · exact List.cons_prefix_cons.mpr ⟨rfl, ih _⟩
    · exact List.nil_prefix

theorem send_of_unbroken {channel : Channel} {writes : List Text}
    (unbroken : (channel.send writes).1.broken = false) :
    channel.broken = false ∧ channel.send writes = (channel.extend writes.flatten, true) := by
  simp only [send, Bool.or_eq_false_iff, Bool.not_eq_false'] at unbroken
  obtain ⟨whole, all⟩ := unbroken
  simp only [whole, Bool.false_eq_true, if_false] at all
  -- A beginning of the writes that is as long as all of them is all of them.
  have taken : accepted channel.room writes = writes :=
    (accepted_initial _ _).eq_of_length (of_decide_eq_true all)
  refine ⟨whole, ?_⟩
  simp [send, extend, whole, taken]

theorem write_of_unbroken {channel : Channel} {t : Text} (unbroken : (channel.write t).1.broken = false) :
    channel.broken = false ∧ channel.write t = (channel.extend t, true) := by
  have sent := send_of_unbroken unbroken
  rwa [List.flatten_singleton] at sent

/-- A write is taken as a whole, or it breaks the channel. -/
theorem write_cases (channel : Channel) (t : Text) :
    (channel.broken = false ∧ channel.write t = (channel.extend t, true)) ∨
      ∃ other, channel.write t = (other, false) ∧ other.broken = true := by
  cases unbroken : (channel.write t).1.broken with
  | false => exact .inl (write_of_unbroken unbroken)
  | true =>
    refine .inr ⟨(channel.write t).1, Prod.ext rfl ?_, unbroken⟩
    cases whole : channel.broken <;> simp_all [write, send]

theorem content_write (channel : Channel) (t : Text) :
    (channel.write t).1.content = channel.content ∨ (channel.write t).1.content = channel.content ++ t := by
  simp only [write, send, accepted]
  split
  · exact .inl (List.append_nil _)
  split
  · exact .inr (congrArg _ (List.append_nil t))
  · exact .inl (List.append_nil _)

end Channel

/-! ### Sheets -/

/-- What is printed in a format: the text form shows the records, the others the result. -/
def ScanResult.sheet (result : ScanResult) (records : List Record) : Format → Text
  | .text => (records.map Record.text).flatten
  | .table =>
    "SCANNED PATH  " ++ result.scannedPath ++ "\n\n" ++
      (result.violationTable.writes.flatten ++
        (if result.errors.isEmpty then [] else Text.ofString "\n" ++ result.errorTable.writes.flatten : Text))
  | .json => Json.print result.document
  | .yaml => Yaml.print result.document

namespace ScanResult

theorem printTable_of_unbroken {result : ScanResult} {channel : Channel} (records : List Record)
    (unbroken : (result.printTable channel).1.broken = false) :
    result.printTable channel = (channel.extend (result.sheet records .table), none) := by
  unfold printTable at unbroken ⊢
  rcases channel.write_cases ("SCANNED PATH  " ++ result.scannedPath ++ "\n\n") with
    ⟨_, captioned⟩ | ⟨other, refused, broken⟩
  · simp only [captioned, not_true_eq_false, if_false] at unbroken ⊢
    by_cases clean : result.errors.isEmpty = true
    · simp only [clean, if_true] at unbroken ⊢
      rw [(Channel.send_of_unbroken unbroken).2]
      simp [sheet, clean, Channel.extend]
    · simp only [clean, Bool.false_eq_true, if_false] at unbroken ⊢
      generalize sent : ((channel.extend _).send result.violationTable.writes).1 = listed at unbroken ⊢
      rcases listed.write_cases "\n" with ⟨whole, divided⟩ | ⟨other, refused, broken⟩
      · simp only [divided, not_true_eq_false, if_false] at unbroken ⊢
        rw [← sent] at whole
        rw [(Channel.send_of_unbroken unbroken).2, ← sent, (Channel.send_of_unbroken whole).2]
        simp [sheet, clean, Channel.extend]
      · simp only [refused] at unbroken
        exact absurd (unbroken.symm.trans broken) (by simp)
  · simp only [refused] at unbroken
    exact absurd (unbroken.symm.trans broken) (by simp)

/-- The formats that are not written file by file print the whole sheet. -/
theorem print_of_unbroken {result : ScanResult} {format : Format} {channel : Channel} (records : List Record)
    (buffered : format.isStreaming = false) (unbroken : (result.print format channel).1.broken = false) :
    result.print format channel = (channel.extend (result.sheet records format), none) := by
  cases format with
  | text => cases buffered
  | table => exact printTable_of_unbroken records unbroken
  | json =>
    obtain ⟨_, written⟩ := Channel.write_of_unbroken (t := Json.print result.document) unbroken
    simp only [print, written, if_true]
    rfl
  | yaml =>
    obtain ⟨_, written⟩ := Channel.write_of_unbroken (t := Yaml.print result.document) unbroken
    simp only [print, written, if_true]
    rfl

end ScanResult

/-! ### Reading a sheet -/

/-- What a result says to a reader who gets it back. -/
def ScanResult.reading (result : ScanResult) : Reading where
  violations := result.methods.length + result.lines.length
  errors := result.errors.length
  totals := [result.summary.files, result.summary.violations, result.summary.errors]

/-- What a reader of the format finds on a sheet: the records of the text form one after the other, the rows of the
tables under their caption, the result that a JSON document decodes to, or the items of a YAML document. -/
def Format.Shows (format : Format) (target : Text) (records : List Record) (sheet : Text) (reading : Reading) : Prop :=
  match format with
  | .text =>
    sheet = (records.map Record.text).flatten ∧
      reading = ⟨records.countP (·.failure?.isNone), records.countP (·.failure?.isSome), []⟩
  | .table => ∃ tables, sheet = "SCANNED PATH  " ++ target ++ "\n\n" ++ tables ∧ Table.read? tables = some reading
  | .json => ∃ value result, Json.read? sheet = some value ∧ ScanResult.ofValue? value = some result ∧
      reading = result.reading
  | .yaml => Yaml.read? sheet = some reading

/-- The room that an error takes on a sheet: in a table as many lines as its path or its message has. -/
def Format.height : Format → ScanError → Nat
  | .table, error => Table.height [error.path, error.error]
  | _, _ => 1

def Format.totals (summary : Summary) : Format → List Int
  | .text => []
  | .table => [summary.files, summary.violations]
  | .json | .yaml => [summary.files, summary.violations, summary.errors]

/-- What was read agrees with the summary and the errors of a scan. -/
structure Reading.Agrees (reading : Reading) (format : Format) (summary : Summary) (errors : List ScanError) :
    Prop where
  violations : summary.violations = reading.violations
  counted : summary.errors = errors.length
  errors : reading.errors = (errors.map format.height).sum
  totals : reading.totals = format.totals summary

namespace ScanResult

/-- A result with violations of one kind only, the one that its table shows. -/
structure OneKind (result : ScanResult) : Prop where
  lines : result.check = "lines" → result.methods = []
  methods : result.check ≠ "lines" → result.lines = []

open Text (byte)

theorem totals_totalLabel (result : ScanResult) :
    Table.totals (Table.capitals result.totalLabel) = [result.summary.files] := by
  have label : Table.capitals result.totalLabel =
      "TOTAL" ++ byte ' ' :: ("FILES" ++ byte ' ' :: Text.ofInt result.summary.files) := by
    rw [totalLabel, Table.capitals, List.map_append]
    exact congrArg _ (Table.capitals_ofInt result.summary.files)
  rw [label, Table.totals_append, Table.totals_append, Table.totals_ofInt]
  rfl

theorem totals_ofNat (n : Nat) : Table.totals (Table.capitals (Text.ofNat n)) = [(n : Int)] := by
  have number : Text.ofNat n = Text.ofInt n := rfl
  rw [number, Table.capitals_ofInt, Table.totals_ofInt]

/-- A cell with an integer, and perhaps a plus behind it. -/
theorem number_cell (n : Int) {more : Text} (plus : more = [] ∨ more = "+") :
    byte '\n' ∉ Text.ofInt n ++ more ∧ byte '|' ∉ Text.ofInt n ++ more ∧
      (Text.ofInt n ++ more).any (· ≠ byte ' ') = true := by
  have absent : ∀ b : UInt8, b ≤ 0x20 ∨ 0x3A ≤ b → b ∉ more → b ∉ Text.ofInt n ++ more := by
    intro b outside missing
    rw [List.mem_append, not_or]
    exact ⟨Text.not_mem_ofInt outside n, missing⟩
  have solid : ∃ b ∈ Text.ofInt n, b ≠ byte ' ' := by
    obtain ⟨b, rest, digits⟩ := List.exists_cons_of_ne_nil (Text.ofInt_ne_nil n)
    refine ⟨b, by rw [digits]; exact List.mem_cons_self, ?_⟩
    rintro rfl
    exact Text.not_mem_ofInt (b := byte ' ') (by decide) n (by rw [digits]; exact List.mem_cons_self)
  obtain ⟨b, member, other⟩ := solid
  refine ⟨absent _ (by decide) ?_, absent _ (by decide) ?_, List.any_eq_true.mpr ⟨b, ?_, by simpa using other⟩⟩
  · rcases plus with rfl | rfl <;> decide
  · rcases plus with rfl | rfl <;> decide
  · exact List.mem_append_left more member

theorem newline_not_mem_totalLabel (result : ScanResult) : byte '\n' ∉ result.totalLabel := by
  rw [totalLabel, List.mem_append, not_or]
  exact ⟨by decide, Text.not_mem_ofInt (by decide) _⟩

theorem newline_not_mem_ofNat (n : Nat) : byte '\n' ∉ Text.ofNat n :=
  Text.not_mem_ofInt (b := byte '\n') (by decide) n

theorem isNumbered_lineTable (result : ScanResult) :
    result.lineTable.IsNumbered [result.totalLabel, [], Text.ofNat result.lines.length] where
  footed := rfl
  several := show 1 < 3 by decide
  aligned := rfl
  level := by
    refine List.forall_mem_cons.mpr ⟨rfl, fun row member => ?_⟩
    obtain ⟨v, _, rfl⟩ := List.mem_map.mp member
    rfl
  labels := by
    simp only [lineTable, List.forall_mem_append, List.forall_mem_cons]
    exact ⟨⟨by decide, by decide, by decide, List.forall_mem_nil _⟩, result.newline_not_mem_totalLabel,
      List.not_mem_nil, newline_not_mem_ofNat _, List.forall_mem_nil _⟩
  numbered := by
    intro row member
    obtain ⟨v, _, rfl⟩ := List.mem_map.mp member
    have cell := number_cell v.length (.inl rfl)
    rw [List.append_nil] at cell
    exact ⟨[v.path, Text.ofInt v.line], Text.ofInt v.length, rfl, cell⟩

theorem isNumbered_methodTable (result : ScanResult) :
    result.methodTable.IsNumbered [result.totalLabel, [], [], [], Text.ofNat result.methods.length] where
  footed := rfl
  several := show 1 < 5 by decide
  aligned := rfl
  level := by
    refine List.forall_mem_cons.mpr ⟨rfl, fun row member => ?_⟩
    obtain ⟨v, _, rfl⟩ := List.mem_map.mp member
    rfl
  labels := by
    simp only [methodTable, List.forall_mem_append, List.forall_mem_cons]
    exact ⟨⟨by decide, by decide, by decide, by decide, by decide, List.forall_mem_nil _⟩,
      result.newline_not_mem_totalLabel, List.not_mem_nil, List.not_mem_nil, List.not_mem_nil, newline_not_mem_ofNat _,
      List.forall_mem_nil _⟩
  numbered := by
    intro row member
    obtain ⟨v, _, rfl⟩ := List.mem_map.mp member
    refine ⟨[v.path, v.owner, v.method, Text.ofInt v.line], lineCountCell v, rfl, number_cell v.lineCount ?_⟩
    split
    · exact .inr rfl
    · exact .inl rfl

/-- What is read off the tables: the rows of the check, the lines of the errors, and the totals at the foot. -/
theorem read?_tables {result : ScanResult} (kind : result.OneKind) :
    Table.read? (result.violationTable.writes.flatten ++
        (if result.errors.isEmpty then [] else Text.ofString "\n" ++ result.errorTable.writes.flatten : Text)) =
      some ⟨result.methods.length + result.lines.length, (result.errors.map (Format.height .table)).sum,
        [result.summary.files, (result.methods.length + result.lines.length : Nat)]⟩ := by
  obtain ⟨footing, numbered, rows, totals⟩ : ∃ footing, result.violationTable.IsNumbered footing ∧
      result.violationTable.rows.length = result.methods.length + result.lines.length ∧
      (footing.flatMap fun label => Table.totals (Table.capitals label)) =
        [result.summary.files, (result.methods.length + result.lines.length : Nat)] := by
    unfold violationTable
    split
    next isLines =>
      refine ⟨_, result.isNumbered_lineTable, ?_, ?_⟩
      · rw [lineTable, List.length_map, kind.lines isLines, List.length_nil, Nat.zero_add]
      · simp only [List.flatMap_cons, List.flatMap_nil, totals_totalLabel, totals_ofNat, kind.lines isLines]
        simp [Table.totals, Table.capitals, Text.words, Text.splitAtByte]
    next isMethods =>
      refine ⟨_, result.isNumbered_methodTable, ?_, ?_⟩
      · rw [methodTable, List.length_map, kind.methods isMethods, List.length_nil, Nat.add_zero]
      · simp only [List.flatMap_cons, List.flatMap_nil, totals_totalLabel, totals_ofNat, kind.methods isMethods]
        simp [Table.totals, Table.capitals, Text.words, Text.splitAtByte]
  rw [← totals, ← rows]
  split
  next clean =>
    rw [List.append_nil, numbered.read?_writes, List.isEmpty_iff.mp clean]
    rfl
  · have labels : ∀ label ∈ result.errorTable.heading, byte '\n' ∉ label := by
      simp only [errorTable, List.forall_mem_cons]
      exact ⟨by decide, by decide, List.forall_mem_nil _⟩
    rw [numbered.read?_writes_append rfl labels, errorTable, List.map_map]
    rfl

end ScanResult

namespace Accounts

variable {reports : List FileReport} {summary : Summary} {result : ScanResult} {records : List Record}

theorem length_errors (accounts : Accounts reports summary result records) :
    result.errors.length = reports.countP (·.error.isSome) := by
  rw [accounts.errors, List.length_filterMap_eq_countP]

theorem countP_failures (accounts : Accounts reports summary result records) :
    records.countP (·.failure?.isSome) = result.errors.length := by
  rw [← accounts.failureRecords, List.length_filterMap_eq_countP]

theorem countP_violations (accounts : Accounts reports summary result records) :
    records.countP (·.failure?.isNone) = result.methods.length + result.lines.length := by
  have all := List.length_eq_countP_add_countP (fun record : Record => record.failure?.isSome) (l := records)
  have others : (fun record : Record => decide (¬ record.failure?.isSome = true)) =
      fun record => record.failure?.isNone := by
    funext record
    cases record.failure? <;> rfl
  rw [others, accounts.countP_failures, accounts.length_errors, accounts.length] at all
  omega

/-- What is printed is read as what is counted, whatever the format. -/
theorem exists_reading (accounts : Accounts reports summary result records) (kind : result.OneKind) (format : Format) :
    ∃ reading, format.Shows result.scannedPath records (result.sheet records format) reading ∧
      reading.Agrees format summary result.errors := by
  have counted : summary.errors = result.errors.length := by rw [accounts.failed, accounts.length_errors]
  have violations : summary.violations = (result.methods.length + result.lines.length : Nat) := by
    rw [accounts.violations, Int.natCast_add]
  have ones : ∀ errors : List ScanError, errors.length = (errors.map fun _ => 1).sum := by
    intro errors
    rw [List.map_const', List.sum_replicate_nat, Nat.mul_one]
  have same := accounts.sameSummary
  cases format with
  | text =>
    refine ⟨_, ⟨rfl, rfl⟩, ?_, counted, ?_, rfl⟩
    · rw [accounts.countP_violations, violations]
    · rw [accounts.countP_failures]
      exact ones _
  | table =>
    refine ⟨_, ⟨_, rfl, ScanResult.read?_tables kind⟩, violations, counted, rfl, ?_⟩
    rw [same, ← violations]
    rfl
  | json =>
    refine ⟨result.replaced.reading, ⟨_, _, result.read?_print_json, result.replaced.ofValue?_document, rfl⟩, ?_,
      counted, ?_, ?_⟩
    · rw [violations]
      simp [ScanResult.reading, ScanResult.replaced]
    · simp only [ScanResult.reading, ScanResult.replaced, List.length_map]
      exact ones _
    · rw [← same]
      rfl
  | yaml =>
    refine ⟨_, Yaml.read?_print result, violations, counted, ones _, ?_⟩
    rw [← same]
    rfl

end Accounts

end QualityGate
