import Mathlib.Data.List.ReduceOption
import Molly.Disk.Linearize
import Molly.Document.Common
import Molly.Evidence.Extract

/-! Where the hints of a row come from: of the cells under the labels of a field, header cells before the cells of
the row, the last one with a text decides. -/
namespace Molly
open Effect (Dict.assign Dict.setDefault)
open Effect.Dict (lookup_assign lookup_last lookup_setDefault mem_assign)

section
variable [CaseText]

namespace CandidateExtractorConfig
variable (config : CandidateExtractorConfig)

/-- A cell with a text under a label of the field. -/
def speaks (cells : List CanonicalCell) (field : Identifier) (c : CanonicalCell) : Bool :=
  config.columnField cells c = some field && c.text.strip ≠ []

/-- The cell that decides a field: the last one with a text under a label of the field; where there is none, the first
one that is an alias itself, for the property. -/
def speaker (cells : List CanonicalCell) (field : Identifier) : Option CanonicalCell :=
  (cells.filter (config.speaks cells field)).getLast?.or
    (if field.text = "property_id" then cells.find? fun c => config.ownField c = some field else none)

variable {config}

theorem labelled_lookup (cells : List CanonicalCell) (field : Identifier) :
    (config.labelled cells).lookup field =
      (cells.filter (config.speaks cells field)).getLast?.map fun c => c.text.strip := by
  have each : (fun c : CanonicalCell => (config.columnField cells c).bind fun field =>
      if c.text.strip = [] then none else some (field, c.text.strip)) =
      fun c => (if c.text.strip = [] then none else config.columnField cells c).map fun field => (field, c.text.strip) := by
    funext c
    by_cases blank : c.text.strip = []
    · cases config.columnField cells c <;> simp [blank]
    · cases config.columnField cells c <;> simp [blank]
  have same : (fun c : CanonicalCell => decide ((if c.text.strip = [] then none else config.columnField cells c) = some field)) =
      config.speaks cells field := by
    funext c
    by_cases blank : c.text.strip = [] <;> simp [speaks, blank]
  rw [labelled, lookup_assign, each, lookup_last, same]

theorem defaultHint_lookup (hints : List (Identifier × PyText)) (c : CanonicalCell) (field : Identifier) :
    (config.defaultHint hints c).lookup field =
      (hints.lookup field).or (if field.text = "property_id" ∧ config.ownField c = some field then some c.text.strip else none) := by
  unfold defaultHint
  cases own : config.ownField c with
  | none => simp
  | some found =>
    dsimp only
    by_cases isProperty : found.text = "property_id"
    · rw [if_pos isProperty, lookup_setDefault]
      by_cases same : field = found
      · simp [same, isProperty]
      · have apart : found ≠ field := fun equal => same equal.symm
        simp [same, apart]
    · rw [if_neg isProperty]
      by_cases same : found = field
      · simp [← same, isProperty]
      · simp [same]

/-- The second loop adds the first alias of the property where no label gave a value. -/
theorem defaults_lookup (field : Identifier) : ∀ (cells : List CanonicalCell) (hints : List (Identifier × PyText)),
    (cells.foldl config.defaultHint hints).lookup field =
      (hints.lookup field).or
        ((if field.text = "property_id" then cells.find? fun c => config.ownField c = some field else none).map
          fun c => c.text.strip) := by
  intro cells
  induction cells with
  | nil => intro hints; simp
  | cons c rest ih =>
    intro hints
    rw [List.foldl_cons, ih, defaultHint_lookup, Option.or_assoc, List.find?_cons]
    by_cases isProperty : field.text = "property_id"
    · by_cases own : config.ownField c = some field <;> simp [isProperty, own]
    · simp [isProperty]

/-- What a hint is: the text of the cell that decides its field. -/
theorem hints_lookup (cells : List CanonicalCell) (field : Identifier) :
    (config.hintsForCells cells).lookup field = (config.speaker cells field).map fun c => c.text.strip := by
  rw [hintsForCells, defaults_lookup, labelled_lookup, speaker, Option.map_or]

end CandidateExtractorConfig

/-! ### Candidates of rows -/

/-- `h` is a header cell of an earlier row over the column of `c`. -/
def CanonicalCell.heads (h c : CanonicalCell) : Prop :=
  h.isHeader = true ∧ h.rowIndex < c.rowIndex ∧ h.columnIndex ≤ c.columnIndex ∧ c.columnIndex < h.columnIndex + h.columnSpan

namespace CandidateExtractorConfig
variable (config : CandidateExtractorConfig)

/-- The normalized text of a cell is an alias of a field. -/
def IsAlias (field : Identifier) (c : CanonicalCell) : Prop :=
  ∃ aliases, (field, aliases) ∈ config.aliases ∧ ∃ text ∈ aliases, normalizedAlias text = normalizedAlias c.text

/-- A cell that may give a hint: a data cell of the row under a header that is an alias of the field, or for the property
any cell of the row that is an alias itself; it is not blank. -/
structure Entitled (table : CanonicalTable) (row : Nat) (field : Identifier) (c : CanonicalCell) : Prop where
  inRow : c ∈ table.cells ∧ c.rowIndex = row
  filled : c.text.strip ≠ []
  named : (c.isHeader = false ∧ ∃ h ∈ table.cells, h.heads c ∧ config.IsAlias field h) ∨
    field.text = "property_id" ∧ config.IsAlias field c

/-- Every hint of a candidate is the text of a cell of the row entitled to give it. -/
def HintsFromRow (table : CanonicalTable) (row : Nat) (candidate : EvidenceCandidate) : Prop :=
  ∀ key value, candidate.fieldHints.fields.lookup key = some value →
    ∃ (field : Identifier) (c : CanonicalCell), key = field.pyText ∧ value = .str c.text.strip ∧ config.Entitled table row field c

/-- In a row, the cell that decides a field has the text of one entitled to. -/
def RightlyDecided (table : CanonicalTable) (row : Nat) : Prop :=
  ∀ field c, config.speaker (table.headers ++ table.rowCells row) field = some c →
    ∃ d, config.Entitled table row field d ∧ d.text.strip = c.text.strip

/-- The candidate is that of a row with hints. -/
structure TableRow (table : CanonicalTable) (row : Nat) (candidate : EvidenceCandidate) : Prop where
  kind : candidate.candidateType = .tableRow
  table : candidate.structuralContext.fields.lookup (PyText.ofString "table_id") = some (.str table.tableId.pyText)
  row : candidate.structuralContext.fields.lookup (PyText.ofString "row_index") = some (.int row)

end CandidateExtractorConfig

section
variable [Sha256]

omit [CaseText] in
/-- What a candidate keeps of the arguments it is made of. -/
theorem EvidenceCandidate.create_ok {documentId source : ArtifactId} {kind : CandidateType} {primary : SourceLocator}
    {more : List SourceLocator} {text : PyText} {cells : List CanonicalCell} {context hints : List (String × PyValue)}
    {version : Identifier} {digest : Digest} {c : EvidenceCandidate}
    (made : create documentId source kind primary more text cells context hints version digest = .ok c) :
    c.candidateType = kind ∧
      c.structuralContext.fields = PyValue.canonFields (context.map fun f => (PyText.ofString f.1, f.2)) ∧
      c.fieldHints.fields = PyValue.canonFields (hints.map fun f => (PyText.ofString f.1, f.2)) := by
  unfold create at made
  obtain ⟨own, -, made⟩ := bind_ok.mp made
  obtain ⟨_, -, made⟩ := bind_ok.mp made
  split at made
  · split at made
    · split at made
      · obtain ⟨kept, -, made⟩ := bind_ok.mp made
        split at made
        · obtain ⟨frozenContext, contextMade, made⟩ := bind_ok.mp made
          obtain ⟨frozenHints, hintsMade, made⟩ := bind_ok.mp made
          cases made
          exact ⟨rfl, (freezePyFields_ok.mp contextMade).2, (freezePyFields_ok.mp hintsMade).2⟩
        · cases made
      · cases made
    · cases made
  · cases made

end

omit [CaseText] in
/-- The hints as a mapping. -/
theorem lookup_hints (field : Identifier) (hints : List (Identifier × PyText)) :
    (PyValue.canonFields ((hints.map fun h => (h.1.text, PyValue.str h.2)).map fun f => (PyText.ofString f.1, f.2))).lookup
      field.pyText = (hints.lookup field).map .str := by
  have plain : ∀ hints : List (Identifier × PyText),
      (hints.map fun h => (h.1.text, PyValue.str h.2)).lookup field.text = (hints.lookup field).map .str := by
    intro hints
    induction hints with
    | nil => rfl
    | cons h rest ih =>
      rw [List.map_cons, Effect.SortedMap.lookup_cons, Effect.SortedMap.lookup_cons, ih]
      by_cases same : field = h.1
      · simp [same]
      · have apart : field.text ≠ h.1.text := fun equal => same (Identifier.ext equal)
        simp [same, apart]
  rw [lookup_pyCanonFields, Identifier.pyText, StoredEvent.lookup_named, plain]
  cases hints.lookup field <;> rfl

omit [CaseText] in
theorem key_hints {key : PyText} {value : PyValue} {hints : List (Identifier × PyText)}
    (found : (PyValue.canonFields ((hints.map fun h => (h.1.text, PyValue.str h.2)).map fun f => (PyText.ofString f.1, f.2))).lookup
      key = some value) : ∃ field : Identifier, key = field.pyText := by
  rw [lookup_pyCanonFields, Option.map_eq_some_iff] at found
  obtain ⟨kept, found, -⟩ := found
  obtain ⟨before, after, split, -⟩ := List.lookup_eq_some_iff.mp found
  have member : (key, kept) ∈ (hints.map fun h => (h.1.text, PyValue.str h.2)).map fun f => (PyText.ofString f.1, f.2) := by
    rw [split]
    simp
  rw [List.map_map, List.mem_map] at member
  obtain ⟨h, -, same⟩ := member
  exact ⟨h.1, (congrArg Prod.fst same).symm⟩

namespace CandidateExtractorConfig
variable [Sha256] {config : CandidateExtractorConfig} {document : CanonicalDocument} {c : EvidenceCandidate}

/-- The candidate of a row: its context names the row, its hints are those of the header cells and the row. -/
theorem rowCandidate_ok {table : CanonicalTable} {row : Nat} (made : config.rowCandidate document table row = .ok (some c)) :
    (∀ key, c.structuralContext.fields.lookup (PyText.ofString key) = ((rowContext table row).lookup key).map PyValue.canon) ∧
      c.fieldHints.fields = PyValue.canonFields (((config.hintsForCells (table.headers ++ table.rowCells row)).map
        fun h => (h.1.text, PyValue.str h.2)).map fun f => (PyText.ofString f.1, f.2)) := by
  unfold rowCandidate at made
  cases cells : table.rowCells row with
  | nil =>
    rw [cells] at made
    cases made
  | cons first more =>
    rw [cells] at made
    dsimp only at made
    split at made
    · cases made
    · split at made
      · cases made
      · obtain ⟨kept, shown, same⟩ := map_ok.mp made
        cases same
        obtain ⟨-, context, hints⟩ := EvidenceCandidate.create_ok shown
        refine ⟨fun key => ?_, hints⟩
        rw [context, lookup_pyCanonFields, StoredEvent.lookup_named]

/-- Captions and blocks make no candidates of rows. -/
theorem captionCandidate_kind {table : CanonicalTable} (made : config.captionCandidate document table = .ok (some c)) :
    c.candidateType ≠ .tableRow := by
  unfold captionCandidate at made
  cases captioned : table.caption.bind PyText.orNone with
  | none =>
    rw [captioned] at made
    cases made
  | some caption =>
    rw [captioned] at made
    dsimp only at made
    split at made
    · obtain ⟨kept, shown, same⟩ := map_ok.mp made
      cases same
      rw [(EvidenceCandidate.create_ok shown).1]
      decide
    · cases made

theorem blockCandidate_kind {block : CanonicalBlock} (made : config.blockCandidate document block = .ok (some c)) :
    c.candidateType ≠ .tableRow := by
  unfold blockCandidate at made
  split at made
  · obtain ⟨kept, shown, same⟩ := map_ok.mp made
    cases same
    rw [(EvidenceCandidate.create_ok shown).1]
    split <;> decide
  · cases made

/-- A candidate of a row comes from a row of some table. -/
theorem extract_row {bundle : EvidenceCandidateBundle} (extracted : config.extract document = .ok bundle)
    (member : c ∈ bundle.candidates) (isRow : c.candidateType = .tableRow) :
    ∃ table ∈ document.tables, ∃ row, config.rowCandidate document table row = .ok (some c) := by
  unfold extract at extracted
  obtain ⟨tables, tabled, extracted⟩ := bind_ok.mp extracted
  obtain ⟨blocks, blocked, extracted⟩ := bind_ok.mp extracted
  have listed : c ∈ tables.flatten ++ blocks.reduceOption := by
    unfold EvidenceCandidateBundle.create at extracted
    dsimp only at extracted
    split at extracted
    · split at extracted
      · split at extracted
        · cases extracted
          obtain ⟨entry, kept, rfl⟩ := List.mem_map.mp (mem_sortedBy.mp (List.mem_of_mem_take member))
          obtain ⟨d, among, rfl⟩ := List.mem_map.mp (mem_assign kept)
          exact among
        · cases extracted
      · cases extracted
    · cases extracted
  rcases List.mem_append.mp listed with inTable | inBlock
  · obtain ⟨candidates, among, inCandidates⟩ := List.mem_flatten.mp inTable
    obtain ⟨table, known, made⟩ := forall₂_right (mapM_ok.mp tabled) among
    unfold tableCandidates at made
    obtain ⟨rows, rowed, made⟩ := bind_ok.mp made
    obtain ⟨caption, captioned, made⟩ := bind_ok.mp made
    cases made
    rcases List.mem_append.mp inCandidates with inRow | inCaption
    · obtain ⟨row, -, made⟩ := forall₂_right (mapM_ok.mp rowed) (List.reduceOption_mem_iff.mp inRow)
      exact ⟨table, known, row, made⟩
    · rw [Option.mem_toList] at inCaption
      cases inCaption
      exact absurd isRow (captionCandidate_kind captioned)
  · obtain ⟨block, -, made⟩ := forall₂_right (mapM_ok.mp blocked) (List.reduceOption_mem_iff.mp inBlock)
    exact absurd isRow (blockCandidate_kind made)

/-- The candidate of a row is the one made of its cells. -/
theorem TableRow.made {bundle : EvidenceCandidateBundle} {table : CanonicalTable} {row : Nat} (isRow : TableRow table row c)
    (known : table ∈ document.tables) (extracted : config.extract document = .ok bundle) (member : c ∈ bundle.candidates) :
    config.rowCandidate document table row = .ok (some c) := by
  obtain ⟨table', known', row', made⟩ := extract_row extracted member isRow.kind
  have context := (rowCandidate_ok made).1
  have sameTable := (context "table_id").symm.trans isRow.table
  have sameRow := (context "row_index").symm.trans isRow.row
  have tableId : table'.tableId = table.tableId := Identifier.ext (PyText.ofString_injective
    (PyValue.str.inj (Option.some.inj sameTable)))
  obtain rfl := document.table_unique known' known tableId
  obtain rfl : row' = row := Int.ofNat.inj (PyValue.int.inj (Option.some.inj sameRow))
  exact made

end CandidateExtractorConfig

/-- The hints of a row come from the row exactly when the cells that decide them are entitled to. -/
theorem hints_from_row {config : CandidateExtractorConfig} [Sha256] {document : CanonicalDocument}
    {bundle : EvidenceCandidateBundle} (extracted : config.extract document = .ok bundle) {table : CanonicalTable}
    (known : table ∈ document.tables) {row : Nat} {candidate : EvidenceCandidate} (member : candidate ∈ bundle.candidates)
    (isRow : CandidateExtractorConfig.TableRow table row candidate) :
    config.HintsFromRow table row candidate ↔ config.RightlyDecided table row := by
  have made := isRow.made known extracted member
  have hints := (CandidateExtractorConfig.rowCandidate_ok made).2
  have lookup (field : Identifier) : candidate.fieldHints.fields.lookup field.pyText =
      (config.speaker (table.headers ++ table.rowCells row) field).map fun c => .str c.text.strip := by
    rw [hints, lookup_hints, CandidateExtractorConfig.hints_lookup, Option.map_map]
    rfl
  constructor
  · intro right field c speaks
    have shown : candidate.fieldHints.fields.lookup field.pyText = some (.str c.text.strip) := by
      rw [lookup, speaks]
      rfl
    obtain ⟨field', d, sameKey, sameValue, entitled⟩ := right _ _ shown
    obtain rfl : field = field' := Identifier.ext (PyText.ofString_injective sameKey)
    exact ⟨d, entitled, (PyValue.str.inj sameValue).symm⟩
  · intro decided key value found
    rw [hints] at found
    obtain ⟨field, rfl⟩ := key_hints found
    rw [← hints, lookup, Option.map_eq_some_iff] at found
    obtain ⟨c, speaks, rfl⟩ := found
    obtain ⟨d, entitled, same⟩ := decided field c speaks
    exact ⟨field, d, rfl, congrArg PyValue.str same.symm, entitled⟩

end

/-! ### A row with a blank cell -/

namespace Sample
attribute [local instance] standardSha256 asciiPrintable asciiDecimal asciiCase

/-- A cell of the table below. -/
def measuredCell (number row column : Nat) (isHeader : Bool) (text : String) : Except PyError CanonicalCell := do
  let locator ← SourceLocator.create sourceId (.str (PyText.ofString "MINERU_ELEMENT")) none (.int 1) (.int number) none
  CanonicalCell.create row column 1 1 isHeader (PyText.ofString text) locator

/-- A table of molecules and their values; the value is blank. -/
def measuredDocument : Except PyError CanonicalDocument := do
  let cells ← [(1, 0, 0, true, "Molecule"), (2, 0, 1, true, "Value"), (3, 1, 0, false, "CCN"),
    (4, 1, 1, false, " ")].mapM fun (number, row, column, isHeader, text) =>
      measuredCell number row column isHeader text
  let locator ← SourceLocator.create sourceId (.str (PyText.ofString "MINERU_ELEMENT")) none (.int 1) (.int 0) none
  let table ← CanonicalTable.create ⟨"tbl_1", by decide⟩ none none locator cells
  let quality ← ParserQuality.create .good 1 0 1 1 [] []
  CanonicalDocument.create ⟨locator.sourceArtifactId, .applicationPdf, .mineru, sha256Bytes [], none, none, [], [], [],
    [table], [], [], quality⟩

/-- The default configuration. -/
def extractorConfig : Except PyError CandidateExtractorConfig :=
  CandidateExtractorConfig.create "1"
    (CandidateExtractorConfig.defaultAliases.map fun f => (PyText.ofString f.1, f.2.map PyText.ofString)) 10000 16384

def measuredBundle : Except PyError (CandidateExtractorConfig × CanonicalDocument × EvidenceCandidateBundle) := do
  let config ← extractorConfig
  let document ← measuredDocument
  let bundle ← config.extract document
  return (config, document, bundle)

/-- The fields have this text under the key. -/
def hasText (fields : PyFields) (key : String) (text : PyText) : Bool :=
  match fields.lookup (PyText.ofString key) with
  | some (.str found) => found = text
  | _ => false

theorem hasText_ok {fields : PyFields} {key : String} {text : PyText} (holds : hasText fields key text = true) :
    fields.lookup (PyText.ofString key) = some (.str text) := by
  unfold hasText at holds
  split at holds
  · rename_i found shown
    rw [shown, of_decide_eq_true holds]
  · cases holds

def hasNumber (fields : PyFields) (key : String) (n : Int) : Bool :=
  match fields.lookup (PyText.ofString key) with
  | some (.int found) => found = n
  | _ => false

theorem hasNumber_ok {fields : PyFields} {key : String} {n : Int} (holds : hasNumber fields key n = true) :
    fields.lookup (PyText.ofString key) = some (.int n) := by
  unfold hasNumber at holds
  split at holds
  · rename_i found shown
    rw [shown, of_decide_eq_true holds]
  · cases holds

/-- The candidate is that of the second row, and the label of the values is its value. -/
def labelAsValue (table : CanonicalTable) (candidate : EvidenceCandidate) : Bool :=
  candidate.candidateType = .tableRow && hasText candidate.structuralContext.fields "table_id" table.tableId.pyText &&
    hasNumber candidate.structuralContext.fields "row_index" 1 &&
    hasText candidate.fieldHints.fields "property_value" (PyText.ofString "Value") &&
    table.cells.all fun c => c.rowIndex ≠ 1 || c.text.strip ≠ PyText.ofString "Value"

theorem measuredBundle_hints : ∃ made, measuredBundle = .ok made ∧
    (made.2.1.tables.any fun table => made.2.2.candidates.any (labelAsValue table)) = true := ok_of_any (by decide +kernel)

/-- The candidate of the row, and its hint, which no cell of the row has for its text. -/
theorem measured_row : ∃ (config : CandidateExtractorConfig) (document : CanonicalDocument) (bundle : EvidenceCandidateBundle)
    (table : CanonicalTable) (candidate : EvidenceCandidate), config.extract document = .ok bundle ∧
      (table ∈ document.tables ∧ candidate ∈ bundle.candidates ∧ CandidateExtractorConfig.TableRow table 1 candidate) ∧
      candidate.fieldHints.fields.lookup (PyText.ofString "property_value") = some (.str (PyText.ofString "Value")) ∧
      ∀ c ∈ table.cells, c.rowIndex = 1 → c.text.strip ≠ PyText.ofString "Value" := by
  obtain ⟨⟨config, document, bundle⟩, made, shown⟩ := measuredBundle_hints
  obtain ⟨config', configured, made⟩ := bind_ok.mp made
  obtain ⟨document', written, made⟩ := bind_ok.mp made
  obtain ⟨bundle', extracted, made⟩ := bind_ok.mp made
  cases made
  obtain ⟨table, known, shown⟩ := List.any_eq_true.mp shown
  obtain ⟨candidate, member, shown⟩ := List.any_eq_true.mp shown
  simp only [labelAsValue, Bool.and_eq_true, decide_eq_true_eq] at shown
  obtain ⟨⟨⟨⟨kind, ofTable⟩, ofRow⟩, value⟩, others⟩ := shown
  refine ⟨config, document, bundle, table, candidate, extracted,
    ⟨known, member, kind, hasText_ok ofTable, hasNumber_ok ofRow⟩, hasText_ok value, fun c listed inRow => ?_⟩
  have other := List.all_eq_true.mp others c listed
  simpa [inRow] using other

theorem hints_from_row_measured : ∃ (config : CandidateExtractorConfig) (document : CanonicalDocument)
    (bundle : EvidenceCandidateBundle) (table : CanonicalTable) (candidate : EvidenceCandidate),
    config.extract document = .ok bundle ∧ table ∈ document.tables ∧ candidate ∈ bundle.candidates ∧
      CandidateExtractorConfig.TableRow table 1 candidate ∧
      (config.HintsFromRow table 1 candidate ↔ config.RightlyDecided table 1) := by
  obtain ⟨config, document, bundle, table, candidate, extracted, ⟨known, member, isRow⟩, -, -⟩ := measured_row
  exact ⟨config, document, bundle, table, candidate, extracted, known, member, isRow, hints_from_row extracted known member isRow⟩

/-- The cell under the label is blank, and the label itself becomes the hint. -/
theorem hints_from_header : ∃ (config : CandidateExtractorConfig) (document : CanonicalDocument)
    (bundle : EvidenceCandidateBundle) (table : CanonicalTable) (candidate : EvidenceCandidate),
    config.extract document = .ok bundle ∧ table ∈ document.tables ∧ candidate ∈ bundle.candidates ∧
      CandidateExtractorConfig.TableRow table 1 candidate ∧ ¬config.HintsFromRow table 1 candidate := by
  obtain ⟨config, document, bundle, table, candidate, extracted, ⟨known, member, isRow⟩, value, others⟩ := measured_row
  refine ⟨config, document, bundle, table, candidate, extracted, known, member, isRow, fun right => ?_⟩
  obtain ⟨field, c, -, same, entitled⟩ := right _ _ value
  exact others c entitled.inRow.1 entitled.inRow.2 (PyValue.str.inj same).symm

end Sample
end Molly
