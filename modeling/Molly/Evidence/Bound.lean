import Molly.Evidence.Dataset
import Molly.Evidence.Passed

/-! Review material and its inputs: which records, evidence and verdicts a review bundle takes from
the mapping, the candidates and the validation report it is bound to. -/
namespace Molly

/-- The two ways to a review bundle: the tool, and the builder that reads the artifacts itself. -/
inductive ReviewPath where
  | tool | artifacts
  deriving DecidableEq

section
variable [CaseText] [Sha256]

def ReviewPath.build : ReviewPath → List ArtifactId → EvidenceCandidateBundle → OledMappingResult → OledValidationReport →
    Except PyError ReviewBundle
  | .tool => buildReview
  | .artifacts => reviewFromArtifacts

/-- The body of the tool `oled_validate_records`. -/
def validateMapping (config : OledValidationConfig) (bundle : EvidenceCandidateBundle) (mapping : OledMappingResult) :
    Except PyError OledValidationReport := do
  let bundleId ← bundle.artifactId
  let mappingId ← mapping.artifactId
  let records ← mapping.records.mapM fun r =>
    r.toOledRecord bundle.canonicalDocumentArtifactId bundle.sourceArtifactId bundleId mappingId mapping.requestDigest
  validateRecords records bundleId mappingId config

/-- The reference names a candidate of the bundle and one of its locators, which are compared by
their canonical bytes. -/
def Located (bundle : EvidenceCandidateBundle) (e : OledEvidenceRef) : Prop :=
  ∃ c ∈ bundle.candidates, c.candidateId = e.candidateId ∧ ∃ l ∈ c.sourceLocators, l.toDict.encode = e.sourceLocator.toDict.encode

/-- What the claim compares of a validated record. -/
def OledRecord.content (v : OledRecord) : (Identifier × MoleculeIdentity × NormalizedProperty × MeasurementCondition ×
    List OledEvidenceRef) × OledValidationStatus :=
  ((v.recordId, v.moleculeIdentity, v.property, v.measurementCondition, v.evidence), v.validationStatus)

variable {config : OledValidationConfig} {bundle : EvidenceCandidateBundle} {mapping : OledMappingResult}
  {report computed : OledValidationReport}

omit [CaseText] [Sha256] in
/-- A record whose bindings are checked has its evidence in the bundle. -/
theorem located_of_checked {r : OledMappingRecord} (checked : r.checkEvidenceBindings bundle = .ok ()) :
    ∀ e ∈ r.evidence, Located bundle e := by
  unfold OledMappingRecord.checkEvidenceBindings at checked
  obtain ⟨⟨⟩, each, _⟩ := bind_ok.mp checked
  intro e member
  have found := forM_ok.mp each e member
  unfold OledMappingRecord.checkEvidence at found
  split at found
  · cases found
  rename_i c sought
  split at found
  · cases found
  split at found
  · cases found
  rename_i held
  obtain ⟨l, listed, bytes⟩ := List.mem_map.mp (not_not.mp held)
  exact ⟨c, List.mem_of_find?_eq_some sought, by simpa using List.find?_some sought, l, listed, bytes⟩

omit [CaseText] [Sha256] in
/-- Evidence that is bound in the candidates has their source. -/
theorem sourced_of_checked {r : OledMappingRecord} (checked : r.checkEvidenceBindings bundle = .ok ()) :
    ∀ e ∈ r.evidence, e.sourceArtifactId = bundle.sourceArtifactId := by
  unfold OledMappingRecord.checkEvidenceBindings at checked
  obtain ⟨⟨⟩, each, _⟩ := bind_ok.mp checked
  intro e member
  have found := forM_ok.mp each e member
  unfold OledMappingRecord.checkEvidence at found
  split at found
  · cases found
  rename_i c sought
  split at found
  · cases found
  rename_i same
  rw [not_not] at same
  rw [same]
  exact (bundle.belong c (List.mem_of_find?_eq_some sought)).2

/-! ### The chain of checks -/

variable {path : ReviewPath} {documents : List ArtifactId} {review : ReviewBundle}

end

/-! ### Evidence that the tool does not look at -/

namespace Sample
attribute [local instance] standardSha256 asciiPrintable asciiCase

/-- A mapped record whose evidence names this candidate. -/
def citing (candidate : String) : PyValue :=
  let cite (field : String) : PyValue :=
    .named [("field_name", .str (PyText.ofString field)), ("candidate_id", .str (PyText.ofString candidate)),
      ("source_artifact_id", .str (PyText.ofString paper.text)), ("source_locator", firstPage.toDict)]
  .named [("mapped_record_id", .str (PyText.ofString "r1")), ("molecule_identity", .str (PyText.ofString "CCO")),
    ("property", .named [("property_id", .str (PyText.ofString "PLQY")), ("value", .int 50), ("unit", .str (PyText.ofString "%"))]),
    ("measurement_condition", .named [("condition_status", .str (PyText.ofString "EXPLICIT"))]),
    ("evidence", .arr (["molecule_identity", "property_id", "property_value", "unit", "measurement_condition"].map cite))]

/-- The mapping of one record, its validation by the tool and its review material. -/
def prepared (candidate : String) : Except PyError (OledMappingResult × OledValidationReport × ReviewBundle) := do
  let record ← OledMappingRecord.fromDict (citing candidate)
  let mapping ← OledMappingResult.create (PyText.ofString "molly.evidence.oled-mapping") (PyText.ofString "1")
    mappingRequest.computedDigest mappingRequest.metadata [record] [] none
  let report ← validateMapping validationConfig passages mapping
  let review ← ReviewPath.tool.build [paper] passages mapping report
  return (mapping, report, review)

/-- The candidates that the evidence of a review names. -/
def cited (review : ReviewBundle) : List String :=
  review.records.flatMap fun v => v.evidence.map fun e => e.candidateId.text

end Sample
end Molly
