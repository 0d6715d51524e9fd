import Molly.Oled.Schema

/-! Evidence candidates of one canonical document, and the bundle that holds them. -/
namespace Molly

inductive CandidateType where
  | textEvidence | tableRow | tableCellGroup | captionEvidence
  deriving DecidableEq

def CandidateType.text : CandidateType → String
  | .textEvidence => "TEXT_EVIDENCE"
  | .tableRow => "TABLE_ROW"
  | .tableCellGroup => "TABLE_CELL_GROUP"
  | .captionEvidence => "CAPTION_EVIDENCE"

/-- A cell as `_cell_dict` keeps it; the four indices are not looked at. -/
structure CandidateCell where
  rowIndex : PyValue
  columnIndex : PyValue
  rowSpan : PyValue
  columnSpan : PyValue
  isHeader : Bool
  text : PyText
  locator : SourceLocator
  bounded : text.length ≤ 8192 ∧ text.hasNul = false

namespace CandidateCell

def entries (c : CandidateCell) : List (String × PyValue) :=
  [("row_index", c.rowIndex), ("column_index", c.columnIndex), ("row_span", c.rowSpan), ("column_span", c.columnSpan),
    ("is_header", .bool c.isHeader), ("text", .str c.text), ("locator", c.locator.toDict)]

def toDict (c : CandidateCell) : PyValue := .named c.entries

end CandidateCell

structure EvidenceCandidate where
  candidateId : Identifier
  canonicalDocumentArtifactId : ArtifactId
  sourceArtifactId : ArtifactId
  candidateType : CandidateType
  sourceLocator : SourceLocator
  moreLocators : List SourceLocator
  sourceText : PyText
  tableCells : List CandidateCell
  structuralContext : PyMapping
  fieldHints : PyMapping
  extractorVersion : Identifier
  extractorConfigDigest : Digest
  located : ∀ l ∈ sourceLocator :: moreLocators, l.sourceArtifactId = sourceArtifactId
  bounded : sourceText.length ≤ 16384 ∧ sourceText.hasNul = false
  few : moreLocators.length < 256 ∧ tableCells.length ≤ 256
  distinct : ((sourceLocator :: moreLocators).map fun l => l.toDict.encode).Nodup

namespace EvidenceCandidate

/-- The first locator is the primary one. -/
def sourceLocators (c : EvidenceCandidate) : List SourceLocator := c.sourceLocator :: c.moreLocators

/-- The dict without the identity that is made of it. -/
def body (c : EvidenceCandidate) : List (String × PyValue) :=
  [("canonical_document_artifact_id", .str (PyText.ofString c.canonicalDocumentArtifactId.text)),
    ("source_artifact_id", .str (PyText.ofString c.sourceArtifactId.text)),
    ("candidate_type", .str (PyText.ofString c.candidateType.text)), ("source_locator", c.sourceLocator.toDict),
    ("source_locators", .arr (c.sourceLocators.map SourceLocator.toDict)), ("source_text", .str c.sourceText),
    ("table_cells", .arr (c.tableCells.map CandidateCell.toDict)), ("structural_context", c.structuralContext.toValue),
    ("field_hints", c.fieldHints.toValue), ("extractor_version", .str (PyText.ofString c.extractorVersion.text)),
    ("extractor_config_digest", .str (PyText.ofString c.extractorConfigDigest.text))]

def toDict (c : EvidenceCandidate) : PyValue := .named (c.body ++ [("candidate_id", .str (PyText.ofString c.candidateId.text))])

end EvidenceCandidate

structure EvidenceCandidateBundle where
  canonicalDocumentArtifactId : ArtifactId
  sourceArtifactId : ArtifactId
  extractorVersion : Identifier
  extractorConfigDigest : Digest
  candidates : List EvidenceCandidate
  few : candidates.length ≤ 10000
  ordered : (candidates.map fun c => c.candidateId.pyText).Pairwise fun a b => PyText.lt a b = true
  belong : ∀ c ∈ candidates, c.canonicalDocumentArtifactId = canonicalDocumentArtifactId ∧ c.sourceArtifactId = sourceArtifactId

namespace EvidenceCandidateBundle

def entries (b : EvidenceCandidateBundle) : List (String × PyValue) :=
  [("schema_name", .str (PyText.ofString "molly.evidence.candidate-bundle")), ("schema_version", .str (PyText.ofString "1")),
    ("canonical_document_artifact_id", .str (PyText.ofString b.canonicalDocumentArtifactId.text)),
    ("source_artifact_id", .str (PyText.ofString b.sourceArtifactId.text)),
    ("extractor_version", .str (PyText.ofString b.extractorVersion.text)),
    ("extractor_config_digest", .str (PyText.ofString b.extractorConfigDigest.text)),
    ("candidate_count", .int b.candidates.length), ("candidates", .arr (b.candidates.map EvidenceCandidate.toDict))]

def toDict (b : EvidenceCandidateBundle) : PyValue := .named b.entries

def artifactId [Sha256] (b : EvidenceCandidateBundle) : Except PyError ArtifactId := b.toDict.artifactId

end EvidenceCandidateBundle
end Molly
