import Mathlib.Data.List.Infix
import Molly.Document.Canonical
import Molly.Effect.Dict
import Molly.Evidence.Candidates

/-! The extractor of evidence candidates: rows of tables, captions and blocks in which an alias of a field occurs. -/
namespace Molly
open Effect (Dict.assign Dict.setDefault)

/-- Full match of one character of `[a-z0-9%]`. -/
def isAliasChar (p : CodePoint) : Bool := (97 ≤ p.val && p.val ≤ 122) || (48 ≤ p.val && p.val ≤ 57) || p.val = 37

/-- `_normalized_alias`. -/
def normalizedAlias [CaseText] (text : PyText) : PyText :=
  PyText.strip (Effect.squeeze (fun p => !isAliasChar p) 32 false text.casefold)

/-- `part in text`. -/
def PyText.has (text part : PyText) : Bool := decide (part <:+: text)

/-! ### The configuration -/

/-- The aliases of each field, casefolded and stripped. -/
structure CandidateExtractorConfig where
  extractorVersion : Identifier
  aliases : List (Identifier × List PyText)
  maxCandidates : Nat
  maxCandidateTextChars : Nat
  counted : (1 ≤ maxCandidates ∧ maxCandidates ≤ 10000) ∧ 64 ≤ maxCandidateTextChars ∧ maxCandidateTextChars ≤ 16384
  distinct : (aliases.map Prod.fst).Nodup

namespace CandidateExtractorConfig

/-- The aliases a configuration has by default. -/
def defaultAliases : List (String × List String) :=
  [("molecule_identity", ["molecule", "smiles", "inchi", "inchikey", "compound", "structure"]),
    ("property_id", ["property", "plqy", "photoluminescence quantum yield", "quantum yield"]),
    ("property_value", ["value", "plqy value", "quantum yield value"]),
    ("unit", ["unit", "units", "fraction", "%", "percent", "percentage"]),
    ("measurement_condition", ["condition", "conditions", "solvent", "medium", "host", "dopant", "temperature"])]

def aliasFields (aliases : List (Identifier × List PyText)) : List (String × PyValue) :=
  aliases.map fun f => (f.1.text, .arr (f.2.map .str))

/-- The aliases of one field. -/
def readAliases [CaseText] (field : PyText × List PyText) : Except PyError (Identifier × List PyText) := do
  let key ← validateIdentifier "extractor alias field" field.1.display
  let clean ← field.2.mapM fun item => do
    let text := PyText.strip item.casefold
    ensure (TextWithin 128 text) ⟨.evidenceContract, "extractor alias exceeds its bounded text contract"⟩
    ensure (text ≠ []) ⟨.evidenceContract, "extractor alias is required"⟩
    return text
  return (key, clean.eraseDups)

/-- The constructor, given the items of a dict of texts. -/
def create [CaseText] (version : String) (aliases : List (PyText × List PyText)) (maxCandidates maxCandidateTextChars : Nat) :
    Except PyError CandidateExtractorConfig := do
  let version ← validateIdentifier "extractor_version" version
  if counted : (1 ≤ maxCandidates ∧ maxCandidates ≤ 10000) ∧ 64 ≤ maxCandidateTextChars ∧ maxCandidateTextChars ≤ 16384 then
    let aliases ← aliases.mapM readAliases
    let _ ← freezePyFields "extractor aliases" ((aliasFields aliases).map fun f => (PyText.ofString f.1, f.2))
    if distinct : (aliases.map Prod.fst).Nodup then
      return ⟨version, aliases, maxCandidates, maxCandidateTextChars, counted, distinct⟩
    else throw ⟨.typeError, "a dict has each key once"⟩
  else throw ⟨.evidenceContract, (if 1 ≤ maxCandidates ∧ maxCandidates ≤ 10000 then "max_candidate_text_chars" else "max_candidates") ++
    " is outside the bounded range"⟩

def entries (c : CandidateExtractorConfig) : List (String × PyValue) :=
  [("extractor_version", .str c.extractorVersion.pyText), ("aliases", .named (aliasFields c.aliases)),
    ("max_candidates", .int c.maxCandidates), ("max_candidate_text_chars", .int c.maxCandidateTextChars)]

def digest [Sha256] (c : CandidateExtractorConfig) : Digest := sha256Bytes (PyValue.named c.entries).encode

/-- Every alias, field by field. -/
def allAliases (c : CandidateExtractorConfig) : List PyText := c.aliases.flatMap Prod.snd

end CandidateExtractorConfig

/-! ### Candidates -/

/-- `_cell_dict` of a canonical cell's own dict. -/
def CandidateCell.of (cell : CanonicalCell) : Except PyError CandidateCell :=
  if bounded : cell.text.length ≤ 8192 ∧ cell.text.hasNul = false then
    .ok ⟨.int cell.rowIndex, .int cell.columnIndex, .int cell.rowSpan, .int cell.columnSpan, cell.isHeader, cell.text,
      cell.locator, bounded⟩
  else .error ⟨.evidenceContract, "table cell text exceeds its bounded text contract"⟩

theorem candidateId_valid (d : Digest) : isIdentifier ("candidate_" ++ d.text) = true :=
  markedId_valid d (by decide) (by decide)

section
variable [Sha256]

/-- `EvidenceCandidate.create`. The identity is made of the arguments, before they are checked. -/
def EvidenceCandidate.create (documentId source : ArtifactId) (kind : CandidateType) (primary : SourceLocator)
    (more : List SourceLocator) (text : PyText) (cells : List CanonicalCell) (context hints : List (String × PyValue))
    (version : Identifier) (digest : Digest) : Except PyError EvidenceCandidate := do
  let own ← (PyValue.named
    [("canonical_document_artifact_id", .str (PyText.ofString documentId.text)),
      ("source_artifact_id", .str (PyText.ofString source.text)), ("candidate_type", .str (PyText.ofString kind.text)),
      ("source_locator", primary.toDict), ("source_locators", .arr ((primary :: more).map SourceLocator.toDict)),
      ("source_text", .str text), ("table_cells", .arr (cells.map CanonicalCell.toDict)),
      ("structural_context", .named context), ("field_hints", .named hints),
      ("extractor_version", .str (PyText.ofString version.text)),
      ("extractor_config_digest", .str (PyText.ofString digest.text))]).digest
  ensure (more.length < 256) ⟨.evidenceContract, "source_locators exceed the bounded limit"⟩
  if located : ∀ l ∈ primary :: more, l.sourceArtifactId = source then
    if distinct : ((primary :: more).map fun l => l.toDict.encode).Nodup then
      if bounded : text.length ≤ 16384 ∧ text.hasNul = false then
        let kept ← cells.mapM CandidateCell.of
        if few : more.length < 256 ∧ kept.length ≤ 256 then
          let context ← freezePyFields "structural_context" (context.map fun f => (PyText.ofString f.1, f.2))
          let hints ← freezePyFields "field_hints" (hints.map fun f => (PyText.ofString f.1, f.2))
          return ⟨⟨"candidate_" ++ own.text, candidateId_valid own⟩, documentId, source, kind, primary, more, text, kept, context,
            hints, version, digest, located, bounded, few, distinct⟩
        else throw ⟨.evidenceContract, "table_cells exceed the bounded limit"⟩
      else throw ⟨.evidenceContract, "source_text exceeds its bounded text contract"⟩
    else throw ⟨.evidenceContract, "source_locators must not contain duplicates"⟩
  else throw ⟨.evidenceIntegrity, "candidate locator source does not match source_artifact_id"⟩

/-- The constructor of a bundle. -/
def EvidenceCandidateBundle.create (documentId source : ArtifactId) (version : Identifier) (digest : Digest)
    (candidates : List EvidenceCandidate) : Except PyError EvidenceCandidateBundle :=
  if few : candidates.length ≤ 10000 then
    if ordered : (candidates.map fun c => c.candidateId.pyText).Pairwise fun a b => PyText.lt a b = true then
      if belong : ∀ c ∈ candidates, c.canonicalDocumentArtifactId = documentId ∧ c.sourceArtifactId = source then
        .ok ⟨documentId, source, version, digest, candidates, few, ordered, belong⟩
      else .error ⟨.evidenceIntegrity, "candidate does not belong to the bundle source"⟩
    else .error ⟨.evidenceContract, "candidates must have unique deterministic sorted IDs"⟩
  else .error ⟨.evidenceContract, "candidate bundle exceeds the bounded candidate count"⟩

end

/-! ### Tables -/

namespace CanonicalTable

/-- The order of the sort key. -/
def before (a b : CanonicalCell) : Bool :=
  a.rowIndex < b.rowIndex ||
    (a.rowIndex = b.rowIndex &&
      (a.columnIndex < b.columnIndex || (a.columnIndex = b.columnIndex && decide (a.locator.toDict.encode < b.locator.toDict.encode))))

/-- The cells in the order of their positions. -/
def orderedCells (t : CanonicalTable) : List CanonicalCell := t.cells.insertionSort fun a b => before b a = false

def rows (t : CanonicalTable) : List Nat := (t.orderedCells.map CanonicalCell.rowIndex).eraseDups.insertionSort (· ≤ ·)

def headers (t : CanonicalTable) : List CanonicalCell := t.orderedCells.filter CanonicalCell.isHeader

/-- The first row with a header cell, else the first row. -/
def headerRow (t : CanonicalTable) : Nat :=
  ((t.headers.map CanonicalCell.rowIndex).min?.or t.rows.min?).getD 0

def rowCells (t : CanonicalTable) (row : Nat) : List CanonicalCell := t.orderedCells.filter fun c => c.rowIndex = row

end CanonicalTable

namespace CandidateExtractorConfig
variable [CaseText] (config : CandidateExtractorConfig)

/-- `by_alias`. -/
def byAlias : List (PyText × Identifier) :=
  Dict.assign (config.aliases.flatMap fun f => f.2.map fun text => (normalizedAlias text, f.1))

/-- `headers`: the normalized label of each column. -/
def columnLabels (cells : List CanonicalCell) : List (Nat × PyText) :=
  Dict.assign ((cells.filter CanonicalCell.isHeader).map fun c => (c.columnIndex, normalizedAlias c.text))

/-- The field that the label of a cell's column is an alias of. -/
def columnField (cells : List CanonicalCell) (c : CanonicalCell) : Option Identifier :=
  ((columnLabels cells).lookup c.columnIndex).bind fun label => config.byAlias.lookup label

/-- The field that a cell's own text is an alias of. -/
def ownField (c : CanonicalCell) : Option Identifier := config.byAlias.lookup (normalizedAlias c.text)

/-- The first loop: the texts of non-blank cells under labels. -/
def labelled (cells : List CanonicalCell) : List (Identifier × PyText) :=
  Dict.assign (cells.filterMap fun c =>
    (config.columnField cells c).bind fun field => if c.text.strip = [] then none else some (field, c.text.strip))

/-- The second loop: the property is a cell's own text where that is an alias. -/
def defaultHint (hints : List (Identifier × PyText)) (c : CanonicalCell) : List (Identifier × PyText) :=
  match config.ownField c with
  | some field => if field.text = "property_id" then Dict.setDefault field c.text.strip hints else hints
  | none => hints

/-- `_hints_for_cells`. -/
def hintsForCells (cells : List CanonicalCell) : List (Identifier × PyText) :=
  cells.foldl config.defaultHint (config.labelled cells)

/-- A cell of the row is an alias itself. -/
def explicitAlias (cells : List CanonicalCell) : Bool :=
  cells.any fun c => (config.allAliases.map normalizedAlias).contains (normalizedAlias c.text)

variable [Sha256]

/-- `_candidate`. -/
def candidate (document : CanonicalDocument) (kind : CandidateType) (primary : SourceLocator) (more : List SourceLocator)
    (text : PyText) (cells : List CanonicalCell) (context hints : List (String × PyValue)) : Except PyError EvidenceCandidate :=
  EvidenceCandidate.create document.artifactId document.sourceArtifactId kind primary more
    (text.take config.maxCandidateTextChars) cells context hints config.extractorVersion config.digest

def rowContext (table : CanonicalTable) (row : Nat) : List (String × PyValue) :=
  [("table_id", .str table.tableId.pyText), ("row_index", .int row), ("header_row_index", .int table.headerRow)]

/-- The candidate of one row, if it has any recognizable structure. -/
def rowCandidate (document : CanonicalDocument) (table : CanonicalTable) (row : Nat) : Except PyError (Option EvidenceCandidate) :=
  match table.rowCells row with
  | [] => .ok none
  | first :: more =>
    if row = table.headerRow then .ok none
    else
      let cells := first :: more
      let hints := config.hintsForCells (table.headers ++ cells)
      if hints.isEmpty && !config.explicitAlias cells then .ok none
      else
        some <$> config.candidate document (if hints.isEmpty then .tableCellGroup else .tableRow) first.locator
          (more.map CanonicalCell.locator)
          (((cells.map fun c => c.text.strip).intersperse (PyText.ofString " | ")).flatten) cells (rowContext table row)
          (hints.map fun h => (h.1.text, .str h.2))

/-- The candidate of a caption that has a word of an alias. -/
def captionCandidate (document : CanonicalDocument) (table : CanonicalTable) : Except PyError (Option EvidenceCandidate) :=
  match table.caption.bind PyText.orNone with
  | none => .ok none
  | some caption =>
    if ((PyText.joinSpaced config.allAliases).splitOn 32).any fun word => PyText.has caption.casefold (PyText.casefold word) then
      some <$> config.candidate document .captionEvidence table.locator [] caption []
        [("table_id", .str table.tableId.pyText), ("caption", .bool true)] []
    else .ok none

/-- The candidate of a block in which an alias occurs. -/
def blockCandidate (document : CanonicalDocument) (block : CanonicalBlock) : Except PyError (Option EvidenceCandidate) :=
  if (config.allAliases.filter fun text => 3 ≤ text.length).any fun term => PyText.has block.text.casefold term.casefold then
    some <$> config.candidate document (if block.kind = .caption then .captionEvidence else .textEvidence) block.locator []
      block.text []
      [("block_id", .str block.blockId.pyText), ("kind", .str (PyText.ofString block.kind.text)),
        ("section_id", pyOptionalText Identifier.text block.sectionId)] []
  else .ok none

/-- The candidates of one table. -/
def tableCandidates (document : CanonicalDocument) (table : CanonicalTable) : Except PyError (List EvidenceCandidate) := do
  let rows ← table.rows.mapM (config.rowCandidate document table)
  let caption ← config.captionCandidate document table
  return rows.reduceOption ++ caption.toList

/-- `extract`. -/
def extract (document : CanonicalDocument) : Except PyError EvidenceCandidateBundle := do
  let tables ← document.tables.mapM (config.tableCandidates document)
  let blocks ← document.blocks.mapM (config.blockCandidate document)
  let unique := Dict.assign ((tables.flatten ++ blocks.reduceOption).map fun c => (c.candidateId, c))
  EvidenceCandidateBundle.create document.artifactId document.sourceArtifactId config.extractorVersion config.digest
    ((sortedBy (fun c => c.candidateId.pyText) (unique.map Prod.snd)).take config.maxCandidates)

end CandidateExtractorConfig
end Molly
