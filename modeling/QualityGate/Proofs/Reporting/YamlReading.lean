import Mathlib.Data.List.Basic
import QualityGate.Proofs.Reporting.SummaryReading
import QualityGate.Reporting.Yaml.Print

/-!
Reading YAML line by line. A field at the outermost level begins on a line that begins with a letter. Whatever a text is
like, the further lines of its scalar never do (`ends_scalarLine`): they are empty, indented, or hold the closing quote.
So the fields of a report are found by their first lines, and the items of a list by the dashes.
-/

namespace QualityGate.Yaml

open Text (byte)

/-! ### The reader -/

/-- The lines of a text, cut at every kind of line break. -/
def lines (t : Text) : List Text := ((Text.chars t).splitOnP isBreak).map Text.ofChars

/-- Whether a field at the outermost level begins on a line. -/
def isHeader (line : Text) : Bool := line.head?.any fun b => byte 'a' ≤ b && b ≤ byte 'z'

def isHeaderOf (name line : Text) : Bool := isHeader line && line.takeWhile (· ≠ byte ':') = name

/-- The lines below the first line of a field. -/
def under (name : Text) (lines : List Text) : List Text :=
  ((lines.dropWhile (!isHeaderOf name ·)).drop 1).takeWhile (!isHeader ·)

def isItem (line : Text) : Bool := Text.startsWith line "    - "

/-- The number after a name. -/
def total? (name : Text) (lines : List Text) : Option Int :=
  lines.findSome? fun line =>
    if Text.startsWith line ("    " ++ name ++ ": ") then Text.toInt? (line.drop (name.length + 6)) else none

/-- Reads a report. Every line ends with a line break, so nothing stands behind the last one. -/
def read? (t : Text) : Option Reading :=
  let lines := (lines t).dropLast
  let summary := under "summary" lines
  do return {
    violations := (under "method_violations" lines).countP isItem + (under "line_violations" lines).countP isItem
    errors := (under "errors" lines).countP isItem
    totals := [← total? "files" summary, ← total? "violations" summary, ← total? "errors" summary] }

/-! ### Lines -/

/-- A text without line breaks, made of whole characters. -/
def IsWhole (t : Text) : Prop := ∃ cs, t = Text.ofChars cs ∧ ∀ c ∈ cs, isBreak c = false

theorem IsWhole.append {s t : Text} (left : IsWhole s) (right : IsWhole t) : IsWhole (s ++ t) := by
  obtain ⟨cs, rfl, unbroken⟩ := left
  obtain ⟨ds, rfl, unbroken'⟩ := right
  exact ⟨cs ++ ds, List.flatMap_append.symm, List.forall_mem_append.mpr ⟨unbroken, unbroken'⟩⟩

theorem isWhole_flatMap {α : Type} {piece : α → Text} {items : List α} (each : ∀ item ∈ items, IsWhole (piece item)) :
    IsWhole (items.flatMap piece) := by
  induction items with
  | nil => exact ⟨[], rfl, List.forall_mem_nil _⟩
  | cons item items ih =>
    rw [List.forall_mem_cons] at each
    exact each.1.append (ih each.2)

theorem isWhole_encode {c : Char} (unbroken : isBreak c = false) : IsWhole (Text.encode c) :=
  ⟨[c], (List.append_nil _).symm, List.forall_mem_singleton.mpr unbroken⟩

theorem isWhole_of_isPrintable {t : Text} (printable : t.IsPrintable) : IsWhole t := by
  have each : ∀ b ∈ t, IsWhole [b] := by
    intro b member
    obtain ⟨low, high⟩ := printable b member
    have low' := UInt8.le_iff_toNat_le.mp low
    have high' := UInt8.lt_iff_toNat_lt.mp high
    have bounds : (0x20 : UInt8).toNat = 0x20 ∧ (0x7F : UInt8).toNat = 0x7F := ⟨rfl, rfl⟩
    have value : (Char.ofNat b.toNat).toNat = b.toNat := Text.toNat_ofNat_of_valid (by unfold Nat.isValidChar; omega)
    have coded := Text.encode_of_ascii (c := Char.ofNat b.toNat) (by omega)
    rw [value, UInt8.ofNat_toNat] at coded
    refine coded ▸ isWhole_encode ?_
    have other : ∀ c : Char, c.toNat < 0x20 → Char.ofNat b.toNat ≠ c := by
      rintro c control rfl
      omega
    simp only [isBreak, value, Bool.or_eq_false_iff, decide_eq_false_iff_not]
    exact ⟨⟨⟨⟨other '\n' (by decide), other '\r' (by decide)⟩, by omega⟩, by omega⟩, by omega⟩
  have whole := isWhole_flatMap each
  rwa [List.flatMap_singleton'] at whole

theorem lines_break {c : Char} (isBreak : isBreak c = true) (rest : Text) :
    lines (Text.encode c ++ rest) = [] :: lines rest := by
  rw [lines, Text.chars_encode, List.splitOnP_cons_eq_if_modifyHead, if_pos isBreak]
  rfl

theorem IsWhole.lines_append {t : Text} (whole : IsWhole t) {rest first : Text} {others : List Text}
    (split : lines rest = first :: others) : lines (t ++ rest) = (t ++ first) :: others := by
  obtain ⟨cs, rfl, unbroken⟩ := whole
  induction cs with
  | nil => exact split
  | cons c cs ih =>
    rw [List.forall_mem_cons] at unbroken
    have inner := ih unbroken.2
    rw [lines, List.map_eq_cons_iff] at inner
    obtain ⟨line, more, cut, same, rfl⟩ := inner
    have joined : Text.ofChars (c :: cs) ++ rest = Text.encode c ++ (Text.ofChars cs ++ rest) := List.append_assoc ..
    rw [joined, lines, Text.chars_encode, List.splitOnP_cons_eq_if_modifyHead, unbroken.1, cut]
    simp only [Bool.false_eq_true, if_false, List.modifyHead_cons, List.map_cons, List.cons.injEq, and_true]
    rw [Text.ofChars, List.flatMap_cons, ← Text.ofChars, same, Text.ofChars, Text.ofChars, List.flatMap_cons,
      List.append_assoc]

/-- A text takes whole lines, whatever follows. -/
def Fills (t : Text) (own : List Text) : Prop := ∀ rest, lines (t ++ rest) = own ++ lines rest

theorem fills_nil : Fills [] [] := fun _ => rfl

theorem fills_break {c : Char} (broken : isBreak c = true) : Fills (Text.encode c) [[]] := lines_break broken

theorem fills_newline : Fills [byte '\n'] [[]] := fills_break (c := '\n') rfl

theorem Fills.append {s t : Text} {own more : List Text} (left : Fills s own) (right : Fills t more) :
    Fills (s ++ t) (own ++ more) := by
  intro rest
  rw [List.append_assoc, left, right, List.append_assoc]

theorem Fills.after {t first : Text} {others : List Text} (fills : Fills t (first :: others)) {s : Text}
    (whole : IsWhole s) : Fills (s ++ t) ((s ++ first) :: others) := by
  intro rest
  rw [List.append_assoc, whole.lines_append (fills rest)]
  rfl

/-! ### Scalars -/

/-- A line inside a scalar: an empty or an indented one, or one that begins with the closing quote. -/
def Inner (indent : Nat) (line : Text) : Prop :=
  line = [] ∨ Text.spaces indent <+: line ∨ line.head? = some Text.singleQuote

/-- A text ends the line that it begins on, and all further lines are inner ones. -/
def Ends (indent : Nat) (t : Text) : Prop :=
  ∃ first others, Fills t (first :: others) ∧ ∀ line ∈ others, Inner indent line

theorem Ends.after {indent : Nat} {t : Text} (ends : Ends indent t) {s : Text} (whole : IsWhole s) :
    Ends indent (s ++ t) := by
  obtain ⟨first, others, fills, inner⟩ := ends
  exact ⟨s ++ first, others, fills.after whole, inner⟩

theorem ends_line {t : Text} (whole : IsWhole t) (indent : Nat) : Ends indent (t ++ [byte '\n']) :=
  ⟨t ++ [], [], fills_newline.after whole, List.forall_mem_nil _⟩

theorem indentLines_cons (indent : Nat) (quoting afterBreak : Bool) (c : Char) (cs : List Char) :
    indentLines indent quoting afterBreak (c :: cs) =
      (if afterBreak ∧ ¬ isBreak c then Text.spaces indent else []) ++
        (if quoting ∧ c.toNat = 0x27 then [Text.singleQuote, Text.singleQuote] else Text.encode c) ++
        indentLines indent quoting (isBreak c) cs := rfl

theorem ne_quote_of_isBreak {c : Char} (broken : isBreak c = true) : c.toNat ≠ 0x27 := by
  intro quote
  have same : c = Char.ofNat 0x27 := by
    rw [← quote, Char.ofNat_toNat]
  subst same
  exact absurd broken (by decide)

theorem isWhole_spaces (n : Nat) : IsWhole (Text.spaces n) := by
  refine isWhole_of_isPrintable fun b member => ?_
  rw [List.eq_of_mem_replicate member]
  decide

/-- The indented lines of a text, up to a closing quote or none, and a line break. -/
theorem fills_indentLines (indent : Nat) (quoting : Bool) {closing : Text}
    (closes : closing = [] ∨ closing = [Text.singleQuote]) {last : Char} (broken : isBreak last = true) (cs : List Char)
    (afterBreak : Bool) :
    ∃ first others,
      Fills (indentLines indent quoting afterBreak cs ++ (closing ++ Text.encode last)) (first :: others) ∧
      (∀ line ∈ others, Inner indent line) ∧ (afterBreak = true → Inner indent first) := by
  induction cs generalizing afterBreak with
  | nil =>
    have whole : IsWhole closing := by
      rcases closes with rfl | rfl
      · exact ⟨[], rfl, List.forall_mem_nil _⟩
      · exact isWhole_of_isPrintable (by decide)
    refine ⟨closing ++ [], [], (fills_break broken).after whole, List.forall_mem_nil _, fun _ => ?_⟩
    rcases closes with rfl | rfl
    · exact .inl rfl
    · exact .inr (.inr rfl)
  | cons c cs ih =>
    obtain ⟨first, others, fills, inner, begins⟩ := ih (isBreak c)
    rw [indentLines_cons]
    cases breaks : isBreak c with
    | true =>
      -- A line break ends the line, and the next one begins after it.
      rw [breaks] at fills begins
      refine ⟨[], first :: others, ?_, List.forall_mem_cons.mpr ⟨begins rfl, inner⟩, fun _ => .inl rfl⟩
      rw [if_neg (by simp), if_neg fun both => ne_quote_of_isBreak breaks both.2, List.nil_append, List.append_assoc]
      exact (fills_break breaks).append fills
    | false =>
      rw [breaks] at fills
      have own : IsWhole
          (if quoting ∧ c.toNat = 0x27 then [Text.singleQuote, Text.singleQuote] else Text.encode c) := by
        split
        · exact isWhole_of_isPrintable (by decide)
        · exact isWhole_encode breaks
      generalize (if quoting ∧ c.toNat = 0x27 then [Text.singleQuote, Text.singleQuote] else Text.encode c) = piece
        at own ⊢
      cases afterBreak with
      | true =>
        refine ⟨Text.spaces indent ++ (piece ++ first), others, ?_, inner, fun _ => .inr (.inl ⟨_, rfl⟩)⟩
        rw [if_pos (by simp), List.append_assoc, List.append_assoc]
        exact (fills.after own).after (isWhole_spaces indent)
      | false =>
        refine ⟨piece ++ first, others, ?_, inner, nofun⟩
        rw [if_neg (by simp), List.nil_append, List.append_assoc]
        exact fills.after own

theorem indentLines_concat (indent : Nat) (quoting afterBreak : Bool) (cs : List Char) {last : Char}
    (broken : isBreak last = true) :
    indentLines indent quoting afterBreak (cs ++ [last]) =
      indentLines indent quoting afterBreak cs ++ Text.encode last := by
  induction cs generalizing afterBreak with
  | nil =>
    rw [List.nil_append, indentLines_cons, if_neg (by simp [broken]),
      if_neg fun both => ne_quote_of_isBreak broken both.2]
    exact List.append_nil _
  | cons c cs ih =>
    rw [List.cons_append, indentLines_cons, indentLines_cons, ih]
    simp only [List.append_assoc]

theorem isWhole_upperHex (width n : Nat) : IsWhole (upperHex width n) := by
  refine isWhole_of_isPrintable fun b member => ?_
  obtain ⟨digit, inside, rfl⟩ := List.mem_map.mp member
  have digits : ∀ d < 16, let b := byte (Nat.digitChar d)
      0x20 ≤ (if byte 'a' ≤ b then b - 32 else b) ∧ (if byte 'a' ≤ b then b - 32 else b) < 0x7F := by decide
  rcases List.mem_append.mp inside with zero | later
  · rw [List.eq_of_mem_replicate zero]
    decide
  · obtain ⟨c, spelled, rfl⟩ := List.mem_map.mp later
    obtain ⟨d, below, rfl⟩ := Json.exists_of_mem_toDigits (by decide) spelled
    exact digits d below

theorem isWhole_escape (c : Char) : IsWhole (escape c) := by
  have letters : ∀ letter ∈ shortEscape? c, IsWhole [Text.backslash, byte letter] := by
    intro letter member
    refine isWhole_of_isPrintable ?_
    unfold shortEscape? at member
    split at member
    all_goals first | (cases member; decide) | cases member
  have numbered : ∀ (lead : Text) (width : Nat), lead.IsPrintable → IsWhole (lead ++ upperHex width c.toNat) :=
    fun lead width printable => (isWhole_of_isPrintable printable).append (isWhole_upperHex _ _)
  unfold escape
  split
  next letter found => exact letters letter found
  · split
    · exact numbered _ _ (by decide)
    · split
      · exact numbered _ _ (by decide)
      · exact numbered _ _ (by decide)

theorem isWhole_doubleQuoted (cs : List Char) : IsWhole (doubleQuoted cs) := by
  have quote : IsWhole [Text.doubleQuote] := isWhole_of_isPrintable (by decide)
  have inside : IsWhole (cs.flatMap fun c =>
      if cs.head? = some byteOrderMark || needsEscape c then escape c else Text.encode c) := by
    refine isWhole_flatMap fun c _ => ?_
    split
    · exact isWhole_escape c
    next plain =>
      -- A line break is always escaped.
      refine isWhole_encode ?_
      cases broken : isBreak c with
      | false => rfl
      | true => exact absurd (by simp [needsEscape, broken]) plain
  exact (quote.append inside).append quote

/-- The block of a literal scalar: indented lines, and a line break at the end unless the text has one there. -/
theorem fills_block (indent : Nat) (cs : List Char) :
    ∃ first others, Fills (indentLines indent false true cs ++
        if cs.getLast?.any isBreak then [] else [byte '\n']) (first :: others) ∧
      ∀ line ∈ first :: others, Inner indent line := by
  have lines : ∀ (cs : List Char) {last : Char}, isBreak last = true → ∃ first others,
      Fills (indentLines indent false true cs ++ Text.encode last) (first :: others) ∧
        ∀ line ∈ first :: others, Inner indent line := by
    intro cs last broken
    obtain ⟨first, others, fills, inner, begins⟩ :=
      fills_indentLines indent false (.inl rfl) broken cs true
    exact ⟨first, others, fills, List.forall_mem_cons.mpr ⟨begins rfl, inner⟩⟩
  split
  next ends =>
    cases found : cs.getLast? with
    | none =>
      rw [found] at ends
      cases ends
    | some last =>
      rw [found] at ends
      obtain ⟨front, rfl⟩ := List.getLast?_eq_some_iff.mp found
      rw [indentLines_concat indent false true front ends, List.append_nil]
      exact lines front ends
  · exact lines cs (show isBreak '\n' = true from rfl)

theorem ends_literal (indent : Nat) (cs : List Char) :
    Ends indent (literal indent cs ++ if cs.getLast?.any isBreak then [] else [byte '\n']) := by
  obtain ⟨first, others, fills, inner⟩ := fills_block indent cs
  have header : IsWhole (byte '|' :: indentHint cs ++ endHint cs) := by
    refine isWhole_of_isPrintable (Text.IsPrintable.append ?_ ?_)
    · unfold indentHint
      split <;> decide
    · unfold endHint
      split
      · decide
      · split <;> decide
      · split
        · decide
        · split <;> decide
  rw [literal, List.append_assoc, List.append_assoc]
  split
  · exact ⟨_, others, fills.after header, (List.forall_mem_cons.mp inner).2⟩
  · exact ⟨_, first :: others, (fills_newline.append fills).after header, inner⟩

theorem isBreak_of_plain {safePlain : Bool} {cs : List Char} (plain : chooseStyle safePlain cs = .plain) :
    ∀ c ∈ cs, isBreak c = false := by
  unfold chooseStyle at plain
  split at plain
  · split at plain <;> cases plain
  split at plain
  · cases plain
  split at plain
  next allowed =>
    simp only [allowsPlain, Bool.and_eq_true, Bool.not_eq_true', List.any_eq_false] at allowed
    intro c member
    exact Bool.eq_false_iff.mpr (allowed.1.1.1.2 c member)
  · split at plain <;> cases plain

theorem ends_write (indent : Nat) (safePlain : Bool) (cs : List Char) :
    Ends indent (write indent cs (chooseStyle safePlain cs) ++
      if cs.getLast?.any isBreak && chooseStyle safePlain cs = .literal then [] else [byte '\n']) := by
  cases style : chooseStyle safePlain cs with
  | plain =>
    rw [if_neg (by simp)]
    exact ends_line ⟨cs, rfl, isBreak_of_plain style⟩ indent
  | singleQuoted =>
    obtain ⟨first, others, fills, inner, _⟩ :=
      fills_indentLines indent true (.inr rfl) (show isBreak '\n' = true from rfl) cs false
    have quote : IsWhole [Text.singleQuote] := isWhole_of_isPrintable (by decide)
    rw [if_neg (by simp), write, singleQuoted, List.append_assoc]
    exact ⟨_, others, fills.after quote, inner⟩
  | doubleQuoted =>
    rw [if_neg (by simp)]
    exact ends_line (isWhole_doubleQuoted cs) indent
  | literal =>
    simp only [decide_true, Bool.and_true]
    exact ends_literal indent cs

theorem chooseStyle_eq_literal_iff (safePlain : Bool) (cs : List Char) :
    chooseStyle safePlain cs = .literal ↔ cs.contains '\n' = true ∧ allowsBlock cs = true := by
  unfold chooseStyle
  cases cs.contains '\n' with
  | true => cases allowsBlock cs <;> simp
  | false =>
    cases safePlain with
    | false => simp
    | true => cases allowsPlain cs <;> cases allowsSingleQuotes cs <;> simp

/-- A scalar ends its line, and nothing in it looks like a line of the record around it. -/
theorem ends_scalarLine (indent : Nat) (t : Text) : Ends indent (scalarLine indent t) := by
  unfold scalarLine scalar endsLine
  cases Text.isWellFormed t with
  | true => exact ends_write indent (readsAsText t) (Text.chars t)
  | false =>
    have same : chooseStyle (readsAsText t) (base64Text t) = .literal ↔ chooseStyle true (base64Text t) = .literal := by
      rw [chooseStyle_eq_literal_iff, chooseStyle_eq_literal_iff]
    simp only [Bool.false_eq_true, if_false, same]
    rw [List.append_assoc]
    exact (ends_write indent true (base64Text t)).after (isWhole_of_isPrintable (by decide))

/-! ### Records and lists -/

/-- A field that is no list and no record, with a printable name. -/
structure IsFlat (field : Document.Field) : Prop where
  name : field.1.IsPrintable
  value : match field.2 with
    | .text _ | .integer _ | .truth _ => True
    | _ => False

theorem IsFlat.ends_renderValue {field : Document.Field} (flat : IsFlat field) (indent : Nat) :
    Ends (below indent) (renderValue indent field.2) := by
  have space : IsWhole [byte ' '] := isWhole_of_isPrintable (by decide)
  obtain ⟨name, value⟩ := field
  cases value with
  | text value => exact (ends_scalarLine (below indent) value).after space
  | integer value => exact ends_line (space.append (isWhole_of_isPrintable (Text.isPrintable_ofInt value))) _
  | truth value =>
    cases value with
    | false => exact ends_line (t := " false") (isWhole_of_isPrintable (by decide)) _
    | true => exact ends_line (t := " true") (isWhole_of_isPrintable (by decide)) _
  | list | record => exact flat.value.elim

theorem le_below (indent : Nat) : indent ≤ below indent := by
  unfold below step
  omega

theorem Inner.mono {inner outer : Nat} {line : Text} (inside : Inner inner line) (deeper : outer ≤ inner) :
    Inner outer line := by
  rcases inside with empty | ⟨rest, rfl⟩ | quote
  · exact .inl empty
  · refine .inr (.inl ⟨Text.spaces (inner - outer) ++ rest, ?_⟩)
    rw [← List.append_assoc, Text.spaces, Text.spaces, List.replicate_append_replicate, Nat.add_sub_cancel' deeper]
    rfl
  · exact .inr (.inr quote)

theorem isHeader_of_inner {indent : Nat} (positive : 0 < indent) {line : Text} (inside : Inner indent line) :
    isHeader line = false := by
  obtain ⟨indent, rfl⟩ : ∃ less, indent = less + 1 := ⟨indent - 1, by omega⟩
  rcases inside with rfl | ⟨rest, rfl⟩ | quote
  · rfl
  · rfl
  · rw [isHeader, quote]
    rfl

theorem isItem_of_inner {line : Text} (inside : Inner 6 line) : isItem line = false := by
  rcases inside with rfl | ⟨rest, rfl⟩ | quote
  · rfl
  · rfl
  · cases line with
    | nil => rfl
    | cons b rest =>
      obtain rfl := Option.some.inj quote
      rfl

theorem IsFlat.fills_renderField {field : Document.Field} (flat : IsFlat field) (indent : Nat) :
    ∃ own, Fills (renderField indent field) own ∧ ∀ line ∈ own, Inner indent line := by
  obtain ⟨first, others, fills, inner⟩ := flat.ends_renderValue indent
  obtain ⟨name, value⟩ := field
  have front : IsWhole (Text.spaces indent ++ name ++ ":") :=
    ((isWhole_spaces indent).append (isWhole_of_isPrintable flat.name)).append (isWhole_of_isPrintable (by decide))
  refine ⟨(Text.spaces indent ++ name ++ ":" ++ first) :: others, fills.after front, List.forall_mem_cons.mpr ⟨?_, ?_⟩⟩
  · exact .inr (.inl ⟨name ++ ":" ++ first, by simp only [List.append_assoc]⟩)
  · exact fun line member => (inner line member).mono (le_below indent)

theorem fills_renderFields {fields : List Document.Field} (flat : ∀ field ∈ fields, IsFlat field) (indent : Nat) :
    ∃ own, Fills (renderFields indent fields) own ∧ ∀ line ∈ own, Inner indent line := by
  induction fields with
  | nil => exact ⟨[], fills_nil, List.forall_mem_nil _⟩
  | cons field rest ih =>
    rw [List.forall_mem_cons] at flat
    obtain ⟨own, fills, inner⟩ := flat.1.fills_renderField indent
    obtain ⟨more, fills', inner'⟩ := ih flat.2
    exact ⟨own ++ more, fills.append fills', List.forall_mem_append.mpr ⟨inner, inner'⟩⟩

/-- An item of a list: a record of flat fields. -/
def IsEntry (item : Document) : Prop :=
  ∃ field fields, item = .record (field :: fields) ∧ ∀ other ∈ field :: fields, IsFlat other

/-- The first line of an item has the dash, and no other line of it has one. -/
theorem IsEntry.fills_renderItem {item : Document} (entry : IsEntry item) :
    ∃ own, Fills (renderItem 4 item) own ∧ own.countP isItem = 1 ∧ ∀ line ∈ own, isHeader line = false := by
  obtain ⟨⟨name, value⟩, fields, rfl, flat⟩ := entry
  rw [List.forall_mem_cons] at flat
  obtain ⟨first, others, fills, inner⟩ := flat.1.ends_renderValue 6
  obtain ⟨more, fills', inner'⟩ := fills_renderFields flat.2 6
  have front : IsWhole (Text.spaces 4 ++ "- " ++ (name ++ ":")) :=
    ((isWhole_spaces 4).append (isWhole_of_isPrintable (by decide))).append
      ((isWhole_of_isPrintable flat.1.name).append (isWhole_of_isPrintable (by decide)))
  have dropped : (renderField 6 (name, value)).drop 6 = name ++ ":" ++ renderValue 6 value := rfl
  have whole : renderItem 4 (.record ((name, value) :: fields)) =
      Text.spaces 4 ++ "- " ++ (name ++ ":") ++ renderValue 6 value ++ renderFields 6 fields := by
    rw [renderItem, dropped]
    simp only [List.append_assoc]
  have deep : ∀ line ∈ others ++ more, Inner 6 line :=
    List.forall_mem_append.mpr ⟨fun line member => (inner line member).mono (le_below 6), inner'⟩
  refine ⟨(Text.spaces 4 ++ "- " ++ (name ++ ":") ++ first) :: (others ++ more), ?_, ?_,
    List.forall_mem_cons.mpr ⟨rfl, ?_⟩⟩
  · rw [whole]
    exact (fills.after front).append fills'
  · have none : (others ++ more).countP isItem = 0 :=
      List.countP_eq_zero.mpr fun line member => by rw [isItem_of_inner (deep line member)]; exact nofun
    rw [List.countP_cons, none]
    rfl
  · exact fun line member => isHeader_of_inner (by decide) (deep line member)

theorem fills_renderItems {items : List Document} (entries : ∀ item ∈ items, IsEntry item) :
    ∃ own, Fills (renderItems 4 items) own ∧ own.countP isItem = items.length ∧
      ∀ line ∈ own, isHeader line = false := by
  induction items with
  | nil => exact ⟨[], fills_nil, rfl, List.forall_mem_nil _⟩
  | cons item rest ih =>
    rw [List.forall_mem_cons] at entries
    obtain ⟨own, fills, count, lower⟩ := entries.1.fills_renderItem
    obtain ⟨more, fills', count', lower'⟩ := ih entries.2
    refine ⟨own ++ more, fills.append fills', ?_, List.forall_mem_append.mpr ⟨lower, lower'⟩⟩
    rw [List.countP_append, count, count', List.length_cons, Nat.add_comm]

/-! ### Reports -/

theorem isHeaderOf_iff {name line : Text} :
    isHeaderOf name line = true ↔ isHeader line = true ∧ line.takeWhile (· ≠ byte ':') = name := by
  rw [isHeaderOf, Bool.and_eq_true, decide_eq_true_eq]

theorem under_cons {name header : Text} {body rest : List Text} (top : isHeaderOf name header = true)
    (lower : ∀ line ∈ body, isHeader line = false) (next : ∀ line ∈ rest.head?, isHeader line = true) (other : Text) :
    under other (header :: (body ++ rest)) = if other = name then body else under other rest := by
  unfold under
  split
  next same =>
    -- The field begins here, and ends before the next line that begins one.
    have found : isHeaderOf other header = true := same ▸ top
    have stops : rest.takeWhile (!isHeader ·) = [] := by
      cases rest with
      | nil => rfl
      | cons line rest => simp [next line rfl]
    rw [List.dropWhile_cons_of_neg (by simp [found]), List.drop_one, List.tail_cons,
      List.takeWhile_append_of_pos (by simpa using lower), stops, List.append_nil]
  next different =>
    have missed : isHeaderOf other header = false := Bool.eq_false_iff.mpr fun found =>
      different ((isHeaderOf_iff.mp found).2.symm.trans (isHeaderOf_iff.mp top).2)
    have skipped : ∀ line ∈ body, (!isHeaderOf other line) = true := by
      intro line member
      simp [isHeaderOf, lower line member]
    rw [List.dropWhile_cons_of_pos (by simp [missed]), List.dropWhile_append_of_pos skipped]

/-- A name that a field at the outermost level can have. -/
structure IsFieldName (name : Text) : Prop where
  printable : name.IsPrintable
  letter : isHeader name = true
  single : byte ':' ∉ name

theorem isFieldName_iff {name : Text} :
    IsFieldName name ↔ name.IsPrintable ∧ isHeader name = true ∧ byte ':' ∉ name :=
  ⟨fun ⟨printable, letter, single⟩ => ⟨printable, letter, single⟩, fun ⟨printable, letter, single⟩ =>
    ⟨printable, letter, single⟩⟩

instance (name : Text) : Decidable (IsFieldName name) := decidable_of_iff _ isFieldName_iff.symm

theorem IsFieldName.isHeaderOf_append {name : Text} (named : IsFieldName name) (rest : Text) :
    isHeaderOf name (name ++ byte ':' :: rest) = true := by
  have all : ∀ b ∈ name, decide (b ≠ byte ':') = true := by
    intro b member
    rw [decide_eq_true_eq]
    rintro rfl
    exact named.single member
  have letter := named.letter
  rw [isHeaderOf_iff, List.takeWhile_append_of_pos all, List.takeWhile_cons_of_neg (by simp), List.append_nil]
  cases name with
  | nil => cases letter
  | cons b name => exact ⟨letter, rfl⟩

structure IsNumber (field : Document.Field) : Prop where
  name : field.1.IsPrintable
  value : ∃ n, field.2 = .integer n

/-- A value at the outermost level: a text, a list of entries, or a record of integers. -/
inductive IsTop : Document → Prop where
  | text (value : Text) : IsTop (.text value)
  | list {items : List Document} (entries : ∀ item ∈ items, IsEntry item) : IsTop (.list items)
  | record {field : Document.Field} {fields : List Document.Field}
      (numbers : ∀ other ∈ field :: fields, IsNumber other) : IsTop (.record (field :: fields))

def numberLine : Document.Field → Text
  | (name, .integer n) => "    " ++ name ++ ": " ++ Text.ofInt n
  | _ => []

/-- What the lines below the first line of a field show of its value. -/
def Body (value : Document) (body : List Text) : Prop :=
  match value with
  | .list items => body.countP isItem = items.length
  | .record fields => body = fields.map numberLine
  | _ => True

theorem fills_numbers {fields : List Document.Field} (numbers : ∀ field ∈ fields, IsNumber field) :
    Fills (renderFields 4 fields) (fields.map numberLine) := by
  induction fields with
  | nil => exact fills_nil
  | cons field rest ih =>
    rw [List.forall_mem_cons] at numbers
    obtain ⟨name, value⟩ := field
    obtain ⟨printable, n, rfl⟩ := numbers.1
    have whole : IsWhole (numberLine (name, .integer n)) := isWhole_of_isPrintable
      (((Text.IsPrintable.append (by decide) printable).append (by decide)).append (Text.isPrintable_ofInt n))
    have line := (fills_newline.after whole).append (ih numbers.2)
    rw [List.append_nil] at line
    have written : renderField 4 (name, .integer n) = numberLine (name, .integer n) ++ [byte '\n'] := by
      rw [renderField, renderValue, numberLine]
      simp only [List.append_assoc]
      rfl
    rw [renderFields, written]
    exact line

theorem IsTop.fills_renderField {value : Document} (top : IsTop value) {name : Text} (named : IsFieldName name) :
    ∃ header body, Fills (renderField 0 (name, value)) (header :: body) ∧ isHeaderOf name header = true ∧
      (∀ line ∈ body, isHeader line = false) ∧ Body value body := by
  have front : IsWhole (name ++ [byte ':']) :=
    (isWhole_of_isPrintable named.printable).append (isWhole_of_isPrintable (by decide))
  have begins : ∀ first, isHeaderOf name (name ++ [byte ':'] ++ first) = true := by
    intro first
    rw [List.append_assoc]
    exact named.isHeaderOf_append first
  have field : renderField 0 (name, value) = name ++ [byte ':'] ++ renderValue 0 value := rfl
  rw [field]
  cases top with
  | text value =>
    obtain ⟨first, others, fills, inner⟩ := ends_scalarLine (below 0) value
    have space : IsWhole [byte ' '] := isWhole_of_isPrintable (by decide)
    exact ⟨_, others, (fills.after space).after front, begins _,
      fun line member => isHeader_of_inner (by decide) (inner line member), trivial⟩
  | @list items entries =>
    cases items with
    | nil =>
      have empty : IsWhole " []" := isWhole_of_isPrintable (by decide)
      exact ⟨_, [], (fills_newline.after empty).after front, begins _, List.forall_mem_nil _, rfl⟩
    | cons item rest =>
      obtain ⟨own, fills, count, lower⟩ := fills_renderItems entries
      exact ⟨_, own, (fills_newline.append fills).after front, begins _, lower, count⟩
  | record numbers =>
    refine ⟨_, _, (fills_newline.append (fills_numbers numbers)).after front, begins _, ?_, rfl⟩
    intro line member
    obtain ⟨⟨name, value⟩, inside, rfl⟩ := List.mem_map.mp member
    obtain ⟨n, rfl⟩ := (numbers _ inside).value
    rfl

def IsTopField (field : Document.Field) : Prop := IsFieldName field.1 ∧ IsTop field.2

/-- The lines of a report show the values of its fields. -/
structure Lays (fields : List Document.Field) (own : List Text) : Prop where
  fills : Fills (renderFields 0 fields) own
  starts : ∀ line ∈ own.head?, isHeader line = true
  absent : ∀ name, fields.lookup name = none → under name own = []
  found : ∀ name value, fields.lookup name = some value → Body value (under name own)

theorem exists_lays {fields : List Document.Field} (each : ∀ field ∈ fields, IsTopField field) :
    ∃ own, Lays fields own := by
  induction fields with
  | nil => exact ⟨[], fills_nil, nofun, fun _ _ => rfl, nofun⟩
  | cons field rest ih =>
    obtain ⟨name, value⟩ := field
    rw [List.forall_mem_cons] at each
    obtain ⟨header, body, fills, top, lower, shows⟩ := each.1.2.fills_renderField each.1.1
    obtain ⟨own, lays⟩ := ih each.2
    have split := under_cons top lower lays.starts
    have letter : isHeader header = true := (Bool.and_eq_true_iff.mp top).1
    refine ⟨header :: (body ++ own), fills.append lays.fills, ?_, ?_, ?_⟩
    · rintro line ⟨⟩
      exact letter
    · intro other missing
      rw [split]
      by_cases same : other = name
      · subst same
        rw [List.lookup_cons_self] at missing
        cases missing
      · rw [List.lookup_cons, beq_false_of_ne same] at missing
        rw [if_neg same]
        exact lays.absent other missing
    · intro other value' present
      rw [split]
      by_cases same : other = name
      · subst same
        rw [List.lookup_cons_self] at present
        obtain rfl := Option.some.inj present
        rw [if_pos rfl]
        exact shows
      · rw [List.lookup_cons, beq_false_of_ne same] at present
        rw [if_neg same]
        exact lays.found other value' present

theorem Lays.countP_list {fields : List Document.Field} {own : List Text} (lays : Lays fields own) {name : Text}
    {items : List Document} (there : fields.lookup name = some (.list items)) :
    (under name own).countP isItem = items.length := lays.found name _ there

theorem Lays.countP_filledList {fields : List Document.Field} {own : List Text} (lays : Lays fields own) {name : Text}
    {items : List Document} (there : fields.lookup name = if items.isEmpty then none else some (.list items)) :
    (under name own).countP isItem = items.length := by
  cases items with
  | nil => rw [lays.absent name there, List.countP_nil, List.length_nil]
  | cons item items => exact lays.countP_list there

theorem isFlat_textField {name : Text} (printable : name.IsPrintable) (value : Text) :
    IsFlat (Document.textField name value) := ⟨printable, trivial⟩

theorem isFlat_integerField {name : Text} (printable : name.IsPrintable) (value : Int) :
    IsFlat (Document.integerField name value) := ⟨printable, trivial⟩

theorem isEntry_method (v : MethodViolation) : IsEntry v.document := by
  have flag : ∀ field ∈ Document.flagField "truncated" v.truncated, IsFlat field := by
    cases v.truncated with
    | false => exact List.forall_mem_nil _
    | true => exact List.forall_mem_singleton.mpr ⟨by decide, trivial⟩
  refine ⟨_, _, rfl, List.forall_mem_cons.mpr ⟨isFlat_textField (by decide) _, List.forall_mem_append.mpr ⟨?_, flag⟩⟩⟩
  simp only [List.forall_mem_cons]
  exact ⟨isFlat_textField (by decide) _, isFlat_textField (by decide) _, isFlat_textField (by decide) _,
    isFlat_integerField (by decide) _, isFlat_integerField (by decide) _, List.forall_mem_nil _⟩

theorem isEntry_line (v : LineViolation) : IsEntry v.document := by
  refine ⟨_, _, rfl, ?_⟩
  simp only [List.forall_mem_cons]
  exact ⟨isFlat_textField (by decide) _, isFlat_integerField (by decide) _, isFlat_integerField (by decide) _,
    isFlat_textField (by decide) _, List.forall_mem_nil _⟩

theorem isEntry_error (e : ScanError) : IsEntry e.document := by
  refine ⟨_, _, rfl, ?_⟩
  simp only [List.forall_mem_cons]
  exact ⟨isFlat_textField (by decide) _, isFlat_textField (by decide) _, List.forall_mem_nil _⟩

theorem isTop_map {α : Type} {document : α → Document} (each : ∀ x, IsEntry (document x)) (xs : List α) :
    IsTop (.list (xs.map document)) := by
  refine .list fun item member => ?_
  obtain ⟨x, _, rfl⟩ := List.mem_map.mp member
  exact each x

theorem isTop_summary (summary : Summary) : IsTop summary.document := by
  have number : ∀ {name : Text}, name.IsPrintable → ∀ n, IsNumber (Document.integerField name n) :=
    fun printable n => ⟨printable, n, rfl⟩
  refine .record ?_
  simp only [List.forall_mem_cons]
  exact ⟨number (by decide) _, number (by decide) _, number (by decide) _, List.forall_mem_nil _⟩

theorem isTopField_text {name : Text} (named : IsFieldName name) (value : Text) :
    IsTopField (Document.textField name value) := ⟨named, .text value⟩

theorem isTopField_filledList {name : Text} (named : IsFieldName name) {items : List Document}
    (top : IsTop (.list items)) : ∀ field ∈ Document.filledListField name items, IsTopField field := by
  unfold Document.filledListField
  split
  · exact List.forall_mem_nil _
  · exact List.forall_mem_singleton.mpr ⟨named, top⟩

def fieldsOf (result : ScanResult) : List Document.Field :=
  [Document.textField "scanned_path" result.scannedPath, Document.textField "check" result.check] ++
    Document.filledListField "method_violations" (result.methods.map MethodViolation.document) ++
    Document.filledListField "line_violations" (result.lines.map LineViolation.document) ++
    [Document.listField "errors" (result.errors.map ScanError.document), ("summary", result.summary.document)]

theorem isTopField_of_mem_fieldsOf (result : ScanResult) : ∀ field ∈ fieldsOf result, IsTopField field := by
  have errors : IsTopField (Document.listField "errors" (result.errors.map ScanError.document)) :=
    ⟨show IsFieldName "errors" by decide, isTop_map isEntry_error result.errors⟩
  have summary : IsTopField ("summary", result.summary.document) :=
    ⟨show IsFieldName "summary" by decide, isTop_summary result.summary⟩
  unfold fieldsOf
  simp only [List.forall_mem_append, List.forall_mem_cons]
  exact ⟨⟨⟨⟨isTopField_text (by decide) _, isTopField_text (by decide) _, List.forall_mem_nil _⟩,
    isTopField_filledList (by decide) (isTop_map isEntry_method result.methods)⟩,
    isTopField_filledList (by decide) (isTop_map isEntry_line result.lines)⟩, errors, summary, List.forall_mem_nil _⟩

theorem lookup_fieldsOf (result : ScanResult) :
    (fieldsOf result).lookup (Text.ofString "method_violations") =
        (if (result.methods.map MethodViolation.document).isEmpty then none
          else some (.list (result.methods.map MethodViolation.document))) ∧
      (fieldsOf result).lookup (Text.ofString "line_violations") =
        (if (result.lines.map LineViolation.document).isEmpty then none
          else some (.list (result.lines.map LineViolation.document))) ∧
      (fieldsOf result).lookup (Text.ofString "errors") = some (.list (result.errors.map ScanError.document)) ∧
      (fieldsOf result).lookup (Text.ofString "summary") = some result.summary.document := by
  obtain ⟨scannedPath, check, methods, lines, errors, summary⟩ := result
  -- A list without items is left out, so what stands behind a name depends on which of them have any.
  cases methods <;> cases lines <;> exact ⟨rfl, rfl, rfl, rfl⟩

theorem total?_cons_self (name : Text) (n : Int) (rest : List Text) :
    total? name (numberLine (name, .integer n) :: rest) = some n := by
  have length : ("    " ++ name ++ ": " : Text).length = name.length + 6 := by
    rw [List.length_append, List.length_append]
    show 4 + name.length + 2 = name.length + 6
    omega
  have begins : Text.startsWith (numberLine (name, .integer n)) ("    " ++ name ++ ": ") = true :=
    List.isPrefixOf_iff_prefix.mpr ⟨_, rfl⟩
  have number : Text.toInt? ((numberLine (name, .integer n)).drop (name.length + 6)) = some n := by
    rw [numberLine, ← length, List.drop_left, Text.toInt?_ofInt]
  rw [total?, List.findSome?_cons, if_pos begins, number]

theorem total?_cons_of_other {name line : Text} (other : Text.startsWith line ("    " ++ name ++ ": ") = false)
    (rest : List Text) : total? name (line :: rest) = total? name rest := by
  rw [total?, List.findSome?_cons, other]
  rfl

theorem totals_summary (summary : Summary) :
    let lines := [numberLine ("files", .integer summary.files), numberLine ("violations", .integer summary.violations),
      numberLine ("errors", .integer summary.errors)]
    total? "files" lines = some summary.files ∧ total? "violations" lines = some summary.violations ∧
      total? "errors" lines = some summary.errors := by
  refine ⟨total?_cons_self .., ?_, ?_⟩
  · rw [total?_cons_of_other rfl, total?_cons_self]
  · rw [total?_cons_of_other rfl, total?_cons_of_other rfl, total?_cons_self]

/-- A report is read from what is printed of it, whatever its texts are like. -/
theorem read?_print (result : ScanResult) :
    read? (print result.document) =
      some ⟨result.methods.length + result.lines.length, result.errors.length,
        [result.summary.files, result.summary.violations, result.summary.errors]⟩ := by
  obtain ⟨own, lays⟩ := exists_lays (isTopField_of_mem_fieldsOf result)
  obtain ⟨methods, violations, errors, summary⟩ := lookup_fieldsOf result
  have cut : (lines (print result.document)).dropLast = own := by
    have filled := lays.fills []
    rw [List.append_nil] at filled
    have printed : print result.document = renderFields 0 (fieldsOf result) := rfl
    rw [printed, filled]
    exact List.dropLast_concat
  have body : under "summary" own = _ := lays.found _ _ summary
  obtain ⟨files, counted, failed⟩ := totals_summary result.summary
  simp only [read?, cut, lays.countP_filledList methods, lays.countP_filledList violations, lays.countP_list errors,
    List.length_map]
  rw [body]
  simp only [Document.integerField, List.map_cons, List.map_nil, files, counted, failed]
  rfl

end QualityGate.Yaml
