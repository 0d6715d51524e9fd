import Molly.Evidence.Validation

/-! Review records of exact artifacts, and the immutable material that a reviewer is given. -/
namespace Molly
open Effect (chars)

/-! ### Review records -/

inductive ReviewDecision where
  | approved | rejected | needsRevision
  deriving DecidableEq

def ReviewDecision.text : ReviewDecision → String
  | .approved => "APPROVED"
  | .rejected => "REJECTED"
  | .needsRevision => "NEEDS_REVISION"

/-- The digest of a review record's artifact is that of its artifact ID. -/
structure ReviewRecord where
  reviewId : Identifier
  artifactId : ArtifactId
  decision : ReviewDecision
  reviewer : PyText
  reason : PyText
  createdAt : Timestamp
  reviewSchemaVersion : Identifier
  named : reviewer.strip ≠ [] ∧ (reviewer.all fun p => p ≠ 13 && p ≠ 10 && p ≠ 0) = true

namespace ReviewRecord

def entries (r : ReviewRecord) : List (String × PyValue) :=
  [("review_id", .str r.reviewId.pyText), ("artifact_id", .str (PyText.ofString r.artifactId.text)),
    ("artifact_sha256", .str (PyText.ofString r.artifactId.digest.text)),
    ("decision", .str (PyText.ofString r.decision.text)), ("reviewer", .str r.reviewer), ("reviewer_ref", .str r.reviewer),
    ("reason", .str r.reason), ("notes", .str r.reason), ("created_at", .str (PyText.ofString r.createdAt.text)),
    ("review_schema_version", .str r.reviewSchemaVersion.pyText)]

/-- A review record has texts only, whose canonical bytes are always defined. -/
def digest [Sha256] (r : ReviewRecord) : Digest := sha256Bytes (PyValue.named r.entries).encode

end ReviewRecord

/-! ### Review bundles -/

/-- `_ids`. -/
def idsOf (field : String) (ids : List ArtifactId) : Except PyError ArtifactIds :=
  if distinct : ids.Nodup then .ok ⟨ids, distinct⟩
  else .error ⟨.evidenceContract, field ++ " must not contain duplicate artifact IDs"⟩

/-- Records are kept in the order of their identities, and groups too. -/
structure ReviewBundle where
  canonicalDocumentArtifactIds : ArtifactIds
  candidateBundleArtifactIds : ArtifactIds
  mappingArtifactIds : ArtifactIds
  validationReportArtifactId : ArtifactId
  records : List OledRecord
  validationResults : List ValidationResult
  duplicateGroups : List DuplicateGroup
  blockingIssues : List PyText
  reviewSummary : PyMapping
  distinct : (records.map OledRecord.recordId).Nodup
  few : blockingIssues.length ≤ 512
  issues : ∀ i ∈ blockingIssues, i ≠ [] ∧ i.hasNul = false

namespace ReviewBundle

theorem sorted_distinct {records : List OledRecord} (distinct : (records.map OledRecord.recordId).Nodup) :
    ((sortedBy (fun r => r.recordId.pyText) records).map OledRecord.recordId).Nodup :=
  (((sortedBy_perm _ records).map OledRecord.recordId).nodup_iff).mpr distinct

/-- The constructor. -/
def create (documents bundles mappings : List ArtifactId) (reportId : ArtifactId) (records : List OledRecord)
    (results : List ValidationResult) (groups : List DuplicateGroup) (issues : List PyText)
    (summary : List (String × PyValue)) : Except PyError ReviewBundle := do
  let documents ← idsOf "canonical_document_artifact_ids" documents
  let bundles ← idsOf "candidate_bundle_artifact_ids" bundles
  let mappings ← idsOf "mapping_artifact_ids" mappings
  if distinct : (records.map OledRecord.recordId).Nodup then
    if valid : (sortedSet issues).length ≤ 512 ∧ ∀ i ∈ sortedSet issues, i ≠ [] ∧ i.hasNul = false then
      let summary ← freezePyFields "review_summary" (summary.map fun f => (PyText.ofString f.1, f.2))
      return ⟨documents, bundles, mappings, reportId, sortedBy (fun r => r.recordId.pyText) records, results,
        sortedBy (fun g => g.groupId.pyText) groups, sortedSet issues, summary, sorted_distinct distinct, valid.1, valid.2⟩
    else throw ⟨.evidenceContract, "review blocking issues are outside the bounded contract"⟩
  else throw ⟨.evidenceContract, "review records must have unique IDs"⟩

def entries (b : ReviewBundle) : List (String × PyValue) :=
  [("schema_name", .str (PyText.ofString "molly.evidence.oled-review-bundle")), ("schema_version", .str (PyText.ofString "1")),
    ("canonical_document_artifact_ids", pyArtifactIds b.canonicalDocumentArtifactIds),
    ("candidate_bundle_artifact_ids", pyArtifactIds b.candidateBundleArtifactIds),
    ("mapping_artifact_ids", pyArtifactIds b.mappingArtifactIds),
    ("validation_report_artifact_id", .str (PyText.ofString b.validationReportArtifactId.text)),
    ("records", .arr (b.records.map OledRecord.toDict)),
    ("validation_results", .arr (b.validationResults.map ValidationResult.toDict)),
    ("duplicate_groups", .arr (b.duplicateGroups.map DuplicateGroup.toDict)),
    ("blocking_issues", .arr (b.blockingIssues.map PyValue.str)), ("review_summary", b.reviewSummary.toValue)]

def toDict (b : ReviewBundle) : PyValue := .named b.entries

def artifactId [Sha256] (b : ReviewBundle) : Except PyError ArtifactId := b.toDict.artifactId

/-- What `create` keeps of its arguments. -/
theorem create_ok {documents bundles mappings : List ArtifactId} {reportId : ArtifactId} {records : List OledRecord}
    {found : List PyText} {b : ReviewBundle}
    (made : create documents bundles mappings reportId records results groups found summary = .ok b) :
    b.mappingArtifactIds.ids = mappings ∧ b.candidateBundleArtifactIds.ids = bundles ∧
      b.records = sortedBy (fun r => r.recordId.pyText) records ∧ b.blockingIssues = sortedSet found := by
  have listed {field : String} {ids : List ArtifactId} {kept : ArtifactIds} (made : idsOf field ids = .ok kept) : kept.ids = ids := by
    unfold idsOf at made
    split at made <;> cases made
    rfl
  unfold create at made
  obtain ⟨docs, _, made⟩ := bind_ok.mp made
  obtain ⟨bundleIds, bundled, made⟩ := bind_ok.mp made
  obtain ⟨mappingIds, mapped, made⟩ := bind_ok.mp made
  split at made
  · split at made
    · obtain ⟨frozen, _, made⟩ := bind_ok.mp made
      cases made
      exact ⟨listed mapped, listed bundled, rfl, rfl⟩
    · cases made
  · cases made

end ReviewBundle

/-! ### The builder -/

section
variable [Sha256]

/-- `ReviewBundleBuilder.build`. -/
def buildReview (documents : List ArtifactId) (bundle : EvidenceCandidateBundle) (mapping : OledMappingResult)
    (report : OledValidationReport) : Except PyError ReviewBundle := do
  let bundleId ← bundle.artifactId
  ensure (report.candidateBundleArtifactId = bundleId)
    ⟨.evidenceIntegrity, "review inputs are not bound to exact candidate/mapping artifacts"⟩
  let mappingId ← mapping.artifactId
  ensure (report.mappingArtifactId = mappingId)
    ⟨.evidenceIntegrity, "review inputs are not bound to exact candidate/mapping artifacts"⟩
  ensure (bundle.canonicalDocumentArtifactId ∈ documents)
    ⟨.evidenceIntegrity, "review bundle omits the canonical document used by candidates"⟩
  let reportId ← report.artifactId
  ReviewBundle.create documents [bundleId] [mappingId] reportId report.records report.validationResults
    report.duplicateGroups report.blockingIssues
    [("record_count", .int report.records.length), ("validation_status", .str (PyText.ofString report.status.text)),
      ("duplicate_group_count", .int report.duplicateGroups.length),
      ("blocking_issue_count", .int report.blockingIssues.length)]

/-- `from_artifacts`, once its inputs are read and are what they are declared to be: every record of
the mapping is bound in the candidates, which the tools do not look at. -/
def reviewFromArtifacts (documents : List ArtifactId) (bundle : EvidenceCandidateBundle) (mapping : OledMappingResult)
    (report : OledValidationReport) : Except PyError ReviewBundle := do
  mapping.records.forM fun r => r.checkEvidenceBindings bundle
  buildReview documents bundle mapping report

variable {documents : List ArtifactId} {bundle : EvidenceCandidateBundle} {mapping : OledMappingResult}
  {report : OledValidationReport} {review : ReviewBundle}

end
end Molly
