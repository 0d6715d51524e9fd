import Molly.Evidence.Mapping

/-! Deterministic OLED validation: one verdict for each record, and one group for the records that
state the same property of the same molecule under the same condition. -/
namespace Molly
open Effect (chars_eq)

/-! ### Validation results -/

inductive ValidationScope where
  | artifact | relation | bundle
  deriving DecidableEq

def ValidationScope.text : ValidationScope → String
  | .artifact => "ARTIFACT"
  | .relation => "RELATION"
  | .bundle => "BUNDLE"

inductive ValidationStatus where
  | pass | fail | review
  deriving DecidableEq

def ValidationStatus.text : ValidationStatus → String
  | .pass => "PASS"
  | .fail => "FAIL"
  | .review => "REVIEW"

structure ValidationResult where
  validatorId : Identifier
  validatorVersion : Identifier
  scope : ValidationScope
  subjectIds : List Reference
  status : ValidationStatus
  reason : PyText
  evidenceArtifactIds : ArtifactIds
  sourceReferences : List Reference
  timestamp : Timestamp
  metadata : PyMapping
  subjects : subjectIds ≠ [] ∧ subjectIds.Nodup
  sources : sourceReferences.Nodup

namespace ValidationResult

def entries (r : ValidationResult) : List (String × PyValue) :=
  [("validator_id", .str r.validatorId.pyText), ("validator_version", .str r.validatorVersion.pyText),
    ("scope", .str (PyText.ofString r.scope.text)),
    ("subject_ids", .arr (r.subjectIds.map fun s => .str (PyText.ofString s.text))),
    ("status", .str (PyText.ofString r.status.text)), ("reason", .str r.reason), ("message", .str r.reason),
    ("evidence_artifact_ids", pyArtifactIds r.evidenceArtifactIds),
    ("source_references", .arr (r.sourceReferences.map fun s => .str (PyText.ofString s.text))),
    ("timestamp", .str (PyText.ofString r.timestamp.text)), ("metadata", r.metadata.toValue)]

def toDict (r : ValidationResult) : PyValue := .named r.entries

end ValidationResult

structure OledValidationConfig where
  validatorId : Identifier
  validatorVersion : Identifier
  duplicateTolerance : FiniteFloat
  schemaVersion : Identifier
  tolerance : duplicateTolerance.between 0 1 = true

namespace OledValidationConfig

def entries (c : OledValidationConfig) : List (String × PyValue) :=
  [("validator_id", .str c.validatorId.pyText), ("validator_version", .str c.validatorVersion.pyText),
    ("duplicate_tolerance", .float c.duplicateTolerance), ("schema_version", .str c.schemaVersion.pyText)]

def digest [Sha256] (c : OledValidationConfig) : Digest := sha256Bytes (PyValue.named c.entries).encode

end OledValidationConfig

def validationTimestamp : Timestamp := ⟨1970, 1, 1, 0, 0, 0, 0, isMoment_epoch⟩

/-- `_validation`. -/
def validation (config : OledValidationConfig) (subjectIds : List Identifier) (status : ValidationStatus) (reason : PyText)
    (evidenceArtifactIds : List ArtifactId) (sourceReferences : List Identifier) (metadata : List (String × PyValue)) :
    Except PyError ValidationResult := do
  if subjects : subjectIds.map Identifier.reference ≠ [] ∧ (subjectIds.map Identifier.reference).Nodup then
    let evidence ← uniqueArtifactIds "evidence_artifact_ids" evidenceArtifactIds.eraseDups
    if sources : (sourceReferences.eraseDups.map Identifier.reference).Nodup then
      let metadata ← freezePyFields "validation metadata" (metadata.map fun f => (PyText.ofString f.1, f.2))
      return ⟨config.validatorId, config.validatorVersion, if 1 < subjectIds.length then .bundle else .artifact,
        subjectIds.map Identifier.reference, status, reason, evidence, sourceReferences.eraseDups.map Identifier.reference,
        validationTimestamp, metadata, subjects, sources⟩
    else throw ⟨.validation, "source_references must not contain duplicates"⟩
  else if subjectIds = [] then throw ⟨.validation, "subject_ids must contain at least one identity"⟩
  else throw ⟨.validation, "subject_ids must not contain duplicates"⟩

/-! ### Duplicate groups -/

inductive DuplicateClassification where
  | primary | consistentDuplicateCandidate | conflictCandidate | conflictingDuplicateCandidate
  deriving DecidableEq

def DuplicateClassification.text : DuplicateClassification → String
  | .primary => "PRIMARY"
  | .consistentDuplicateCandidate => "CONSISTENT_DUPLICATE_CANDIDATE"
  | .conflictCandidate => "CONFLICT_CANDIDATE"
  | .conflictingDuplicateCandidate => "CONFLICTING_DUPLICATE_CANDIDATE"

/-- The members in the order of their identities, each with its classification. -/
structure DuplicateGroup where
  groupId : Identifier
  comparisonKey : Digest
  members : List (Identifier × DuplicateClassification)
  status : ValidationStatus
  grouped : members ≠ []
  ordered : (members.map fun m => m.1.pyText).Pairwise fun a b => PyText.lt a b = true

namespace DuplicateGroup

def recordIds (g : DuplicateGroup) : List Identifier := g.members.map Prod.fst

def entries (g : DuplicateGroup) : List (String × PyValue) :=
  [("group_id", .str g.groupId.pyText), ("comparison_key", .str (PyText.ofString g.comparisonKey.text)),
    ("record_ids", .arr (g.recordIds.map fun id => .str id.pyText)),
    ("classifications", .named (g.members.map fun m => (m.1.text, .str (PyText.ofString m.2.text)))),
    ("status", .str (PyText.ofString g.status.text))]

def toDict (g : DuplicateGroup) : PyValue := .named g.entries

/-- The constructor of a group whose classifications are given with its records. -/
def create (groupId : Identifier) (key : Digest) (members : List (Identifier × DuplicateClassification))
    (status : ValidationStatus) : Except PyError DuplicateGroup :=
  if valid : members ≠ [] ∧ (members.map fun m => m.1.pyText).Pairwise fun a b => PyText.lt a b = true then
    .ok ⟨groupId, key, members, status, valid.1, valid.2⟩
  else .error ⟨.evidenceContract, "duplicate group record IDs must be sorted and unique"⟩

end DuplicateGroup

/-! ### Reports -/

structure OledValidationReport where
  candidateBundleArtifactId : ArtifactId
  mappingArtifactId : ArtifactId
  records : List OledRecord
  validationResults : List ValidationResult
  duplicateGroups : List DuplicateGroup
  blockingIssues : List PyText
  validationConfigDigest : Digest
  distinct : (records.map OledRecord.recordId).Nodup
  distinctGroups : (duplicateGroups.map DuplicateGroup.groupId).Nodup
  few : blockingIssues.length ≤ 512
  issues : ∀ i ∈ blockingIssues, i ≠ [] ∧ i.hasNul = false
  inOrder : sortedSet blockingIssues = blockingIssues

namespace OledValidationReport

/-- `status`. -/
def status (r : OledValidationReport) : ValidationStatus := if r.blockingIssues = [] then .pass else .review

section
variable [CaseText] [PrintableText]

def entries (r : OledValidationReport) : List (String × PyValue) :=
  [("schema_name", .str (PyText.ofString "molly.evidence.oled-validation")), ("schema_version", .str (PyText.ofString "1")),
    ("candidate_bundle_artifact_id", .str (PyText.ofString r.candidateBundleArtifactId.text)),
    ("mapping_artifact_id", .str (PyText.ofString r.mappingArtifactId.text)),
    ("records", .arr (r.records.map OledRecord.toDict)),
    ("validation_results", .arr (r.validationResults.map ValidationResult.toDict)),
    ("duplicate_groups", .arr (r.duplicateGroups.map DuplicateGroup.toDict)),
    ("blocking_issues", .arr (r.blockingIssues.map PyValue.str)),
    ("validation_config_digest", .str (PyText.ofString r.validationConfigDigest.text))]

def toDict (r : OledValidationReport) : PyValue := .named r.entries

def artifactId [Sha256] (r : OledValidationReport) : Except PyError ArtifactId := r.toDict.artifactId

/-- The constructor. -/
def create (bundleId mappingId : ArtifactId) (records : List OledRecord) (results : List ValidationResult)
    (groups : List DuplicateGroup) (issues : List PyText) (configDigest : Digest) : Except PyError OledValidationReport :=
  if distinct : (records.map OledRecord.recordId).Nodup then
    if distinctGroups : (groups.map DuplicateGroup.groupId).Nodup then
      if valid : (sortedSet issues).length ≤ 512 ∧ (∀ i ∈ sortedSet issues, i ≠ [] ∧ i.hasNul = false) ∧
          sortedSet (sortedSet issues) = sortedSet issues then
        .ok ⟨bundleId, mappingId, records, results, groups, sortedSet issues, configDigest, distinct, distinctGroups,
          valid.1, valid.2.1, valid.2.2⟩
      else .error ⟨.evidenceContract, "blocking issues are outside the bounded contract"⟩
    else .error ⟨.evidenceContract, "duplicate group IDs must be unique"⟩
  else .error ⟨.evidenceContract, "validation record IDs must be unique"⟩

end
end OledValidationReport

/-! ### `validate_records` -/

section
variable [CaseText] [PrintableText] [Sha256]

/-- `_record_issue`: the code of what keeps a record from passing, and the words for it. -/
def recordIssue (r : OledRecord) : Option (String × String) :=
  if !r.moleculeIdentity.resolved then some ("identity_unresolved", ": molecule identity is unresolved")
  else if !r.property.normalized then some ("property_unit_unresolved", ": property value/unit is unresolved")
  else if r.measurementCondition.unresolved then some ("condition_unresolved", ": measurement condition is unresolved")
  else if r.evidence.isEmpty then some ("evidence_missing", ": explicit evidence is missing")
  else none

/-- The candidates that the evidence names. -/
def OledRecord.candidates (r : OledRecord) : List Identifier := r.evidence.map OledEvidenceRef.candidateId

/-- The verdict on one record. -/
def judge (config : OledValidationConfig) (evidence : List ArtifactId) (r : OledRecord) : Except PyError ValidationResult :=
  match recordIssue r with
  | none =>
    validation config [r.recordId] .pass (PyText.ofString "record satisfies bounded OLED validation") evidence r.candidates []
  | some (code, message) =>
    validation config [r.recordId] .review (PyText.ofString (r.recordId.text ++ message)) evidence r.candidates
      [("issue_code", .str (PyText.ofString code))]

/-- The records with one comparison key, in the order of the given ones. -/
def groupWith (values : List OledRecord) (key : Digest) : List OledRecord := values.filter (·.comparisonKey = key)

/-- Two values are close enough; a missing one is close to none. -/
def agree (tolerance : FiniteFloat) (a b : Option PyNumber) : Bool :=
  match a, b with
  | some a, some b =>
    match a.toFloat, b.toFloat with
    | .ok x, .ok y => x.within y tolerance
    | _, _ => false
  | _, _ => false

/-- Every two values agree. -/
def consistent (tolerance : FiniteFloat) : List (Option PyNumber) → Bool
  | [] => true
  | a :: rest => rest.all (agree tolerance a) && consistent tolerance rest

/-- Several records share the key, and their values do not agree. -/
def conflicts (config : OledValidationConfig) (values : List OledRecord) (key : Digest) : Bool :=
  1 < (groupWith values key).length &&
    !consistent config.duplicateTolerance ((groupWith values key).map fun r => r.property.value)

/-- The status that a record is left with. -/
def statusIn (config : OledValidationConfig) (values : List OledRecord) (r : OledRecord) : OledValidationStatus :=
  if (recordIssue r).isNone && !conflicts config values r.comparisonKey then .pass else .review

omit [CaseText] [PrintableText] [Sha256] in
theorem duplicateId_valid (d : Digest) : isIdentifier ("duplicate_" ++ d.text) = true :=
  markedId_valid d (by decide) (by decide)

def groupIdOf (values : List OledRecord) (key : Digest) : Identifier :=
  ⟨"duplicate_" ++ (sha256Bytes (PyValue.named [("comparison_key", .str (PyText.ofString key.text)),
    ("record_ids", .arr ((groupWith values key).map fun r => .str r.recordId.pyText))]).encode).text, duplicateId_valid _⟩

/-- The first member of a group is classified apart from the others. -/
def classify (first other : DuplicateClassification) : List OledRecord → List (Identifier × DuplicateClassification)
  | [] => []
  | r :: rest => (r.recordId, first) :: rest.map fun r => (r.recordId, other)

/-- The group of a key, and the result that reports its conflict. -/
def groupOf (config : OledValidationConfig) (evidence : List ArtifactId) (values : List OledRecord) (key : Digest) :
    Except PyError (DuplicateGroup × List ValidationResult) := do
  let members := groupWith values key
  if conflicts config values key then
    let result ← validation config (members.map OledRecord.recordId) .review
      (PyText.ofString "same identity/property/condition has conflicting values") evidence
      (members.flatMap OledRecord.candidates)
      [("comparison_key", .str (PyText.ofString key.text)), ("duplicate_conflict", .bool true)]
    let group ← DuplicateGroup.create (groupIdOf values key) key
      (classify .conflictCandidate .conflictingDuplicateCandidate members) .review
    return (group, [result])
  else
    let group ← DuplicateGroup.create (groupIdOf values key) key
      (classify .primary .consistentDuplicateCandidate members) .pass
    return (group, [])

def OledRecord.revised (r : OledRecord) (status : OledValidationStatus) (group : Identifier) : OledRecord :=
  { r with validationStatus := status, duplicateGroup := some group.pyText }

/-- `validate_records` as the tools call it, without leakage groups. -/
def validateRecords (records : List OledRecord) (bundleId mappingId : ArtifactId) (config : OledValidationConfig) :
    Except PyError OledValidationReport := do
  let values := sortedBy (fun r => r.recordId.pyText) records
  let keys := sortedBy (fun d => PyText.ofString d.text) (values.map OledRecord.comparisonKey).eraseDups
  let verdicts ← values.mapM (judge config [bundleId, mappingId])
  let groups ← keys.mapM (groupOf config [bundleId, mappingId] values)
  let issues := (values.filterMap fun r => (recordIssue r).map fun issue => PyText.ofString issue.1) ++
    (keys.filter (conflicts config values)).map fun key => PyText.ofString ("duplicate_conflict:" ++ key.text)
  OledValidationReport.create bundleId mappingId
    (values.map fun r => r.revised (statusIn config values r) (groupIdOf values r.comparisonKey))
    (verdicts ++ groups.flatMap Prod.snd) (sortedBy (fun g => g.groupId.pyText) (groups.map Prod.fst)) issues config.digest

variable {bundleId mappingId : ArtifactId} {config : OledValidationConfig} {report : OledValidationReport}

omit [CaseText] [PrintableText] [Sha256] in
theorem OledValidationReport.create_ok {records : List OledRecord} {found : List PyText}
    (made : create bundleId mappingId records results groups found digest = .ok report) :
    report.candidateBundleArtifactId = bundleId ∧ report.mappingArtifactId = mappingId ∧ report.records = records ∧
      report.blockingIssues = sortedSet found := by
  unfold create at made
  split at made
  · split at made
    · split at made
      · cases made
        exact ⟨rfl, rfl, rfl, rfl⟩
      · cases made
    · cases made
  · cases made

/-- The issues that validation reports of some records. -/
def issuesOf (config : OledValidationConfig) (records : List OledRecord) : List PyText :=
  let values := sortedBy (fun r => r.recordId.pyText) records
  let keys := sortedBy (fun d => PyText.ofString d.text) (values.map OledRecord.comparisonKey).eraseDups
  sortedSet ((values.filterMap fun r => (recordIssue r).map fun issue => PyText.ofString issue.1) ++
    (keys.filter (conflicts config values)).map fun key => PyText.ofString ("duplicate_conflict:" ++ key.text))

/-- The records that validation leaves of some records. -/
def revisedRecords (config : OledValidationConfig) (records : List OledRecord) : List OledRecord :=
  let values := sortedBy (fun r => r.recordId.pyText) records
  values.map fun r => r.revised (statusIn config values r) (groupIdOf values r.comparisonKey)

omit [PrintableText] in
theorem validateRecords_ok {records : List OledRecord} (made : validateRecords records bundleId mappingId config = .ok report) :
    report.candidateBundleArtifactId = bundleId ∧ report.mappingArtifactId = mappingId ∧
      report.records = revisedRecords config records ∧ report.blockingIssues = issuesOf config records := by
  unfold validateRecords at made
  obtain ⟨verdicts, _, made⟩ := bind_ok.mp made
  obtain ⟨groups, _, made⟩ := bind_ok.mp made
  exact OledValidationReport.create_ok made

omit [PrintableText] in
theorem statusIn_pass {values : List OledRecord} {r : OledRecord} :
    statusIn config values r = .pass ↔ recordIssue r = none ∧ conflicts config values r.comparisonKey = false := by
  unfold statusIn
  split <;> rename_i verdict <;> simpa [Option.isNone_iff_eq_none] using verdict

end
end Molly
