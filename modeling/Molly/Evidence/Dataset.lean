import Molly.Evidence.Review

/-! The export of a reviewed dataset: one row for each record of an approved review bundle. -/
namespace Molly
open Effect (chars)

/-- `canonical_json_bytes(value).decode("utf-8")`. -/
def PyValue.jsonText (value : PyValue) : Except PyError PyText := do
  let _ ← value.canonicalBytes
  return value.canon.dumps.map CodePoint.ofChar

/-- The schema and the columns are fixed; a configuration has no other choice. -/
structure DatasetExportConfig where
  numericPrecision : Nat
  bounded : 1 ≤ numericPrecision ∧ numericPrecision ≤ 17

namespace DatasetExportConfig

def columns : List String :=
  ["row_id", "molecule_identity", "property_id", "value", "unit", "original_value", "original_unit",
    "measurement_condition", "canonical_document_artifact_id", "source_artifact_id", "evidence_candidate_ids",
    "evidence_locators", "mapping_artifact_id", "mapping_request_digest", "claim_level", "review_bundle_artifact_id"]

def entries (c : DatasetExportConfig) : List (String × PyValue) :=
  [("schema_version", .str (PyText.ofString "1")),
    ("columns", .arr (columns.map fun column => .str (PyText.ofString column))),
    ("numeric_precision", .int c.numericPrecision), ("numeric_format_version", .str (PyText.ofString "g15"))]

def digest [Sha256] (c : DatasetExportConfig) : Digest := sha256Bytes (PyValue.named c.entries).encode

end DatasetExportConfig

/-- `_row`. -/
def rowOf (r : OledRecord) (bundleId : ArtifactId) : List (String × PyValue) :=
  [("row_id", .str r.recordId.pyText), ("molecule_identity", r.moleculeIdentity.toDict),
    ("property_id", .str (PyText.ofString r.property.propertyId.text)),
    ("value", (r.property.value.map PyNumber.toValue).getD .null), ("unit", pyTextOrNull r.property.unit),
    ("original_value", (r.property.originalValue.map PyScalar.toValue).getD .null),
    ("original_unit", pyTextOrNull r.property.originalUnit), ("measurement_condition", r.measurementCondition.toDict),
    ("canonical_document_artifact_id", .str (PyText.ofString r.canonicalDocumentArtifactId.text)),
    ("source_artifact_id", .str (PyText.ofString r.sourceArtifactId.text)),
    ("evidence_candidate_ids", .arr (r.evidence.map fun e => .str e.candidateId.pyText)),
    ("evidence_locators", .arr (r.evidence.map fun e => e.sourceLocator.toDict)),
    ("mapping_artifact_id", pyOptionalText ArtifactId.text r.mappingArtifactId),
    ("mapping_request_digest", pyOptionalText Digest.text r.mappingRequestDigest),
    ("claim_level", .str (PyText.ofString r.claimLevel.text)),
    ("review_bundle_artifact_id", .str (PyText.ofString bundleId.text))]

/-- `_format_number`. -/
def formatNumber (precision : Nat) : Option PyScalar → PyText
  | none => []
  | some (.number (.int n)) => PyText.ofString (toString n)
  | some (.number (.float x)) => (x.exact.general precision).map CodePoint.ofChar
  | some (.text t) => t

/-- The cells of a record's line in the CSV file. -/
def csvCells (precision : Nat) (r : OledRecord) (bundleId : ArtifactId) : Except PyError (List PyText) := do
  let identity ← r.moleculeIdentity.toDict.jsonText
  let condition ← r.measurementCondition.toDict.jsonText
  let locators ← (PyValue.arr (r.evidence.map fun e => e.sourceLocator.toDict)).jsonText
  return [r.recordId.pyText, identity, PyText.ofString r.property.propertyId.text,
    formatNumber precision (r.property.value.map .number), r.property.unit.getD [],
    formatNumber precision r.property.originalValue, r.property.originalUnit.getD [], condition,
    PyText.ofString r.canonicalDocumentArtifactId.text, PyText.ofString r.sourceArtifactId.text,
    PyText.ofString (";".intercalate (r.evidence.map fun e => e.candidateId.text)), locators,
    (r.mappingArtifactId.map fun id => PyText.ofString id.text).getD [],
    (r.mappingRequestDigest.map fun d => PyText.ofString d.text).getD [], PyText.ofString r.claimLevel.text,
    PyText.ofString bundleId.text]

/-- The CSV file is kept as its cells; the writer quotes and joins them. -/
structure DatasetExport where
  rows : List (List (String × PyValue))
  json : Bytes
  csv : List (List PyText)
  reviewBundleArtifactId : ArtifactId
  reviewDigest : Digest
  exportConfigDigest : Digest

section
variable [Sha256]

/-- The JSON body of an export. -/
def exportBody (bundleId : ArtifactId) (reviewDigest configDigest : Digest) (rows : List (List (String × PyValue))) :
    List (String × PyValue) :=
  [("schema_name", .str (PyText.ofString "molly.evidence.reviewed-dataset")), ("schema_version", .str (PyText.ofString "1")),
    ("review_bundle_artifact_id", .str (PyText.ofString bundleId.text)),
    ("review_digest", .str (PyText.ofString reviewDigest.text)),
    ("export_config_digest", .str (PyText.ofString configDigest.text)), ("rows", .arr (rows.map PyValue.named))]

/-- `review_bundle_artifact_id or review_bundle.artifact_id`. -/
def declaredOr (declared : Option PyText) (own : Except PyError ArtifactId) : Except PyError ArtifactId :=
  match declared with
  | some (p :: text) => validateArtifactId "artifact_id" (PyText.display (p :: text))
  | _ => own

/-- `DatasetExporter.export`. -/
def exportDataset (config : DatasetExportConfig) (bundle : ReviewBundle) (review : ReviewRecord)
    (declaredId declaredSha : Option PyText) : Except PyError DatasetExport := do
  let bundleId ← declaredOr declaredId bundle.artifactId
  let own ← bundle.artifactId
  ensure (bundleId = own) ⟨.evidenceIntegrity, "review bundle identity does not match its exact bytes"⟩
  ensure (declaredSha.all (· = PyText.ofString own.digest.text))
    ⟨.evidenceIntegrity, "review bundle SHA-256 does not match exact bytes"⟩
  ensure (review.artifactId = own) ⟨.reviewBinding, "review is not bound to the exact artifact digest"⟩
  ensure (review.decision = .approved) ⟨.evidenceContract, "reviewed dataset export requires APPROVED review"⟩
  ensure bundle.blockingIssues.isEmpty ⟨.evidenceContract, "structural review blockers prevent dataset export"⟩
  ensure (bundle.records.all (·.validationStatus = .pass))
    ⟨.evidenceContract, "all reviewed OLED records must have PASS validation status"⟩
  let records := sortedBy (fun r => r.recordId.pyText) bundle.records
  let rows := records.map (rowOf · own)
  let json ← (PyValue.named (exportBody own review.digest config.digest rows)).canonicalBytes
  let cells ← records.mapM (csvCells config.numericPrecision · own)
  let csv := DatasetExportConfig.columns.map PyText.ofString :: cells
  ensure (csv.all fun line => line.all fun cell => cell.all fun p => !p.isSurrogate)
    ⟨.valueError, "'utf-8' codec can't encode characters: surrogates not allowed"⟩
  return ⟨rows, json, csv, own, review.digest, config.digest⟩

variable {config : DatasetExportConfig} {bundle : ReviewBundle} {review : ReviewRecord} {out : DatasetExport}

/-- What is exported is the approved bundle, and its rows are those of the bundle's records. -/
theorem exportDataset_ok (exported : exportDataset config bundle review declaredId declaredSha = .ok out) :
    bundle.artifactId = .ok out.reviewBundleArtifactId ∧ review.decision = .approved ∧
      out.rows = (sortedBy (fun r => r.recordId.pyText) bundle.records).map (rowOf · out.reviewBundleArtifactId) ∧
      (PyValue.named (exportBody out.reviewBundleArtifactId out.reviewDigest out.exportConfigDigest out.rows)).canonicalBytes =
        .ok out.json := by
  unfold exportDataset at exported
  obtain ⟨bundleId, _, exported⟩ := bind_ok.mp exported
  obtain ⟨own, found, exported⟩ := bind_ok.mp exported
  obtain ⟨_, _, exported⟩ := bind_ok.mp exported
  obtain ⟨_, _, exported⟩ := bind_ok.mp exported
  obtain ⟨_, _, exported⟩ := bind_ok.mp exported
  obtain ⟨_, approved, exported⟩ := bind_ok.mp exported
  obtain ⟨_, _, exported⟩ := bind_ok.mp exported
  obtain ⟨_, _, exported⟩ := bind_ok.mp exported
  obtain ⟨json, written, exported⟩ := bind_ok.mp exported
  obtain ⟨cells, _, exported⟩ := bind_ok.mp exported
  obtain ⟨_, _, exported⟩ := bind_ok.mp exported
  cases exported
  rw [ensure_ok, decide_eq_true_eq] at approved
  exact ⟨found, approved, rfl, written⟩

end
end Molly
