import Molly.Evidence.Candidates

/-! Structured OLED mappings: the frozen request, the records a provider returns, and the result
that is bound to both. -/
namespace Molly
open Effect (chars)

inductive MappingStatus where
  | mapped | unresolved | review
  deriving DecidableEq

def MappingStatus.text : MappingStatus → String
  | .mapped => "MAPPED"
  | .unresolved => "UNRESOLVED"
  | .review => "REVIEW"

def MappingStatus.all : List MappingStatus := [.mapped, .unresolved, .review]

/-- The member of an enumeration with exactly this text. -/
def exactly (text : α → String) (all : List α) (candidate : PyText) : Option α :=
  all.find? fun a => PyText.ofString (text a) = candidate

/-- `_text`. -/
def requiredTextOf (field : String) (maximum : Nat) : PyValue → Except PyError PyText
  | .str text =>
    if text.strip = [] || maximum < text.length || text.hasNul then
      .error ⟨.evidenceContract, field ++ " must be bounded non-empty text"⟩
    else .ok text.strip
  | _ => .error ⟨.evidenceContract, field ++ " must be bounded non-empty text"⟩

/-! ### Requests -/

/-- The exact input identity sent to a provider. Its own digest, where it has one, is the computed one. -/
structure FrozenOledMappingRequest where
  requestSchemaVersion : Identifier
  candidateBundleArtifactId : ArtifactId
  packetIds : List Identifier
  packetDigests : List Digest
  oledMappingSchemaDigest : Digest
  promptTemplateDigest : Digest
  providerProfileRef : PyText
  modelIdentifier : PyText
  modelVersion : PyText
  mappingConfigDigest : Digest
  isSealed : Bool
  aligned : packetIds ≠ [] ∧ packetIds.length = packetDigests.length ∧ packetIds.Nodup

namespace FrozenOledMappingRequest
variable [Sha256]

def entries (r : FrozenOledMappingRequest) : List (String × PyValue) :=
  [("request_schema_version", .str (PyText.ofString r.requestSchemaVersion.text)),
    ("candidate_bundle_artifact_id", .str (PyText.ofString r.candidateBundleArtifactId.text)),
    ("packet_ids", .arr (r.packetIds.map fun id => .str (PyText.ofString id.text))),
    ("packet_digests", .arr (r.packetDigests.map fun d => .str (PyText.ofString d.text))),
    ("oled_mapping_schema_digest", .str (PyText.ofString r.oledMappingSchemaDigest.text)),
    ("prompt_template_digest", .str (PyText.ofString r.promptTemplateDigest.text)),
    ("provider_profile_ref", .str r.providerProfileRef), ("model_identifier", .str r.modelIdentifier),
    ("model_version", .str r.modelVersion), ("mapping_config_digest", .str (PyText.ofString r.mappingConfigDigest.text))]

/-- `computed_digest`: a request has texts only, whose canonical bytes are always defined. -/
def computedDigest (r : FrozenOledMappingRequest) : Digest := sha256Bytes (PyValue.named r.entries).encode

def requestDigest (r : FrozenOledMappingRequest) : Option Digest := if r.isSealed then some r.computedDigest else none

end FrozenOledMappingRequest

section
variable [CaseText] [PrintableText]

/-! ### Records -/

structure OledMappingRecord where
  mappedRecordId : Identifier
  moleculeIdentity : MoleculeIdentity
  property : NormalizedProperty
  measurementCondition : MeasurementCondition
  evidence : List OledEvidenceRef
  confidence : Option FiniteFloat
  mappingStatus : MappingStatus
  claimLevel : ClaimLevel
  evident : evidence ≠ []

namespace OledMappingRecord

/-- The confidence of a record: a number from 0 to 1, as a float. -/
def confidenceOf (value : PyValue) : Except PyError (Option FiniteFloat) := do
  let bounds : PyError := ⟨.evidenceContract, "mapping confidence must be a number from 0 to 1"⟩
  let checked (x : FiniteFloat) : Except PyError (Option FiniteFloat) := if x.between 0 1 then .ok (some x) else .error bounds
  match value with
  | .null => return none
  | .int n => checked (← (PyNumber.int n).toFloat)
  | .float x => checked x
  | _ => throw bounds

/-- The checks of the constructor, once the parts are made. -/
def create (recordId : PyText) (identity : MoleculeIdentity) (property : NormalizedProperty)
    (condition : MeasurementCondition) (evidence : List OledEvidenceRef) (confidence : PyValue) (status : PyText)
    (claimLevel : PyValue) : Except PyError OledMappingRecord := do
  let recordId ← validateIdentifier "mapped_record_id" recordId.display
  let confidence ← confidenceOf confidence
  match exactly MappingStatus.text MappingStatus.all status with
  | none => throw ⟨.evidenceContract, "unknown mapping_status"⟩
  | some status =>
    match claimLevel with
    | .str claim =>
      match exactly ClaimLevel.text ClaimLevel.all claim with
      | none => throw ⟨.evidenceContract, "unknown mapping claim_level"⟩
      | some claim =>
        if evident : evidence ≠ [] then
          return ⟨recordId, identity, property, condition, evidence, confidence, status, claim, evident⟩
        else throw ⟨.evidenceContract, "mapping record requires field-level evidence"⟩
    | _ => throw ⟨.evidenceContract, "unknown mapping claim_level"⟩

/-- The property of a provider's record, or the object made of its flat fields. -/
def rawProperty (value : PyFields) : PyValue :=
  match pyGet value "property" .null with
  | .null =>
    .named [("property_id", pyGet value "property_id" .null),
      ("value", pyGet value "value" (pyGet value "property_value" .null)), ("unit", pyGet value "unit" .null)]
  | property => property

def rawCondition (value : PyFields) : PyValue :=
  pyGet value "measurement_condition"
    (pyGet value "condition" (.named [("condition_status", .str (PyText.ofString "UNSPECIFIED"))]))

/-- `from_dict`. -/
def fromDict : PyValue → Except PyError OledMappingRecord
  | .obj value =>
    if hasUnknown value ["mapped_record_id", "molecule_identity", "property", "property_id", "value", "property_value",
        "unit", "original_value", "original_unit", "measurement_condition", "condition", "evidence", "candidate_ids",
        "confidence", "mapping_status", "claim_level"] then
      .error ⟨.evidenceContract, "mapping record has unknown fields"⟩
    else orMalformed (do
      let recordId ← pyItem value "mapped_record_id"
      let identity ← MoleculeIdentity.fromMapping (pyGet value "molecule_identity" .null)
      let property ← NormalizedProperty.fromMapping (rawProperty value)
      let condition ← MeasurementCondition.fromMapping (rawCondition value)
      let evidence ← (← (pyGet value "evidence" (.arr [])).iterate).mapM OledEvidenceRef.fromDict
      create recordId.toText identity property condition evidence (pyGet value "confidence" .null)
        (pyGet value "mapping_status" (.str (PyText.ofString "MAPPED"))).toText
        (pyGet value "claim_level" (.str (PyText.ofString "SYNTHETIC_CONTRACT_ONLY"))))
      .evidenceContract "mapping record is malformed"
  | _ => .error ⟨.evidenceContract, "mapping record must be an object"⟩

omit [CaseText] [PrintableText] in
/-- A record is made of the parts it is given, and its status and evidence are checked. -/
theorem create_ok {r : OledMappingRecord} {p : NormalizedProperty} {refs : List OledEvidenceRef}
    (made : create recordId identity p condition refs confidenceValue status claim = .ok r) :
    validateIdentifier "mapped_record_id" recordId.display = .ok r.mappedRecordId ∧ r.moleculeIdentity = identity ∧
      r.property = p ∧ r.measurementCondition = condition ∧ r.evidence = refs ∧
      exactly MappingStatus.text MappingStatus.all status = some r.mappingStatus := by
  unfold create at made
  obtain ⟨id, named, made⟩ := bind_ok.mp made
  obtain ⟨c, _, made⟩ := bind_ok.mp made
  split at made
  · cases made
  rename_i marked
  split at made
  · split at made
    · cases made
    split at made
    · cases made
      exact ⟨named, rfl, rfl, rfl, rfl, marked⟩
    · cases made
  · cases made

/-- The parts of the object that a record is read from. -/
theorem fromDict_ok {item : PyValue} {r : OledMappingRecord} (read : fromDict item = .ok r) :
    ∃ value, item = .obj value ∧ NormalizedProperty.fromMapping (rawProperty value) = .ok r.property ∧
      exactly MappingStatus.text MappingStatus.all
        (pyGet value "mapping_status" (.str (PyText.ofString "MAPPED"))).toText = some r.mappingStatus := by
  cases item with
  | obj value =>
    rw [fromDict] at read
    split at read
    · cases read
    rw [orMalformed_eq_ok] at read
    obtain ⟨recordId, _, read⟩ := bind_ok.mp read
    obtain ⟨identity, _, read⟩ := bind_ok.mp read
    obtain ⟨property, normalized, read⟩ := bind_ok.mp read
    obtain ⟨condition, _, read⟩ := bind_ok.mp read
    obtain ⟨items, _, read⟩ := bind_ok.mp read
    obtain ⟨evidence, _, read⟩ := bind_ok.mp read
    obtain ⟨_, _, same, _, _, marked⟩ := create_ok read
    exact ⟨value, rfl, same ▸ normalized, marked⟩
  | _ => cases read

/-- `candidate_ids`: the candidates of the evidence, each once. -/
def candidateIds (r : OledMappingRecord) : List Identifier := (r.evidence.map OledEvidenceRef.candidateId).eraseDups

def entries (r : OledMappingRecord) : List (String × PyValue) :=
  [("mapped_record_id", .str (PyText.ofString r.mappedRecordId.text)), ("molecule_identity", r.moleculeIdentity.toDict),
    ("property", r.property.toDict), ("measurement_condition", r.measurementCondition.toDict),
    ("evidence", .arr (r.evidence.map OledEvidenceRef.toDict)),
    ("candidate_ids", .arr (r.candidateIds.map fun id => .str (PyText.ofString id.text))),
    ("confidence", (r.confidence.map PyValue.float).getD .null),
    ("mapping_status", .str (PyText.ofString r.mappingStatus.text)), ("claim_level", .str (PyText.ofString r.claimLevel.text))]

def toDict (r : OledMappingRecord) : PyValue := .named r.entries

/-- The reference names a candidate of the bundle, of the same source and with the same locator. -/
def checkEvidence (bundle : EvidenceCandidateBundle) (e : OledEvidenceRef) : Except PyError Unit :=
  match bundle.candidates.find? (·.candidateId = e.candidateId) with
  | none => .error ⟨.evidenceIntegrity, "mapping evidence references an unknown candidate"⟩
  | some candidate =>
    if e.sourceArtifactId ≠ candidate.sourceArtifactId then
      .error ⟨.evidenceIntegrity, "mapping evidence source does not match candidate"⟩
    else if e.sourceLocator.toDict.encode ∉ candidate.sourceLocators.map fun l => l.toDict.encode then
      .error ⟨.evidenceIntegrity, "mapping evidence locator is not contained in candidate"⟩
    else .ok ()

/-- `_check_evidence_bindings`. -/
def checkEvidenceBindings (r : OledMappingRecord) (bundle : EvidenceCandidateBundle) : Except PyError Unit := do
  r.evidence.forM (checkEvidence bundle)
  let bound (field : String) := r.evidence.any (·.fieldName.text = field)
  let require (present : Bool) (field what : String) : Except PyError Unit :=
    if present && !bound field then .error ⟨.evidenceIntegrity, what ++ " has no explicit evidence binding"⟩ else .ok ()
  require (r.moleculeIdentity.smiles.isSome || r.moleculeIdentity.inchikey.isSome || r.moleculeIdentity.name.isSome)
    "molecule_identity" "mapped molecule identity"
  require true "property_id" "mapped property"
  require r.property.value.isSome "property_value" "mapped property value"
  require r.property.unit.isSome "unit" "mapped property unit"
  require (r.measurementCondition.conditionStatus ≠ PyText.ofString "UNSPECIFIED") "measurement_condition"
    "mapped measurement condition"

/-- `to_oled_record`. -/
def toOledRecord (r : OledMappingRecord) (documentId sourceId bundleId mappingId : ArtifactId) (requestDigest : Digest) :
    Except PyError OledRecord :=
  if sourced : ∀ e ∈ r.evidence, e.sourceArtifactId = sourceId then
    .ok ⟨r.mappedRecordId, documentId, sourceId, r.moleculeIdentity, r.property, r.measurementCondition, r.evidence,
      r.claimLevel, .unvalidated, some bundleId, some mappingId, some requestDigest, none, none, r.evident, sourced⟩
  else .error ⟨.coreContract, "OLED evidence source does not match record source"⟩

omit [CaseText] [PrintableText] in
theorem toOledRecord_ok {r : OledMappingRecord} {documentId sourceId bundleId mappingId : ArtifactId} {digest : Digest}
    {v : OledRecord} (made : r.toOledRecord documentId sourceId bundleId mappingId digest = .ok v) :
    v.recordId = r.mappedRecordId ∧ v.moleculeIdentity = r.moleculeIdentity ∧ v.property = r.property ∧
      v.measurementCondition = r.measurementCondition ∧ v.evidence = r.evidence := by
  unfold toOledRecord at made
  split at made
  · cases made
    exact ⟨rfl, rfl, rfl, rfl, rfl⟩
  · cases made

end OledMappingRecord

/-! ### Results -/

/-- The provider's fields of a result, which must be those of the request. -/
structure MappingMetadata where
  providerProfileRef : PyText
  modelIdentifier : PyText
  modelVersion : PyText
  mappingConfigDigest : Digest
  promptTemplateDigest : Digest
  mappingSchemaDigest : Digest
  deriving DecidableEq

def FrozenOledMappingRequest.metadata (r : FrozenOledMappingRequest) : MappingMetadata :=
  ⟨r.providerProfileRef, r.modelIdentifier, r.modelVersion, r.mappingConfigDigest, r.promptTemplateDigest,
    r.oledMappingSchemaDigest⟩

/-- Records are kept in the order of their identities. -/
def byRecordId (records : List OledMappingRecord) : List OledMappingRecord :=
  sortedBy (fun r => r.mappedRecordId.pyText) records

/-- A mapping result. Its own response digest, where it has one, is the computed one. -/
structure OledMappingResult where
  requestDigest : Digest
  provider : MappingMetadata
  records : List OledMappingRecord
  warnings : List PyText
  few : records.length ≤ 10000
  distinct : (records.map OledMappingRecord.mappedRecordId).Nodup

namespace OledMappingResult

def body (r : OledMappingResult) : List (String × PyValue) :=
  [("schema_name", .str (PyText.ofString "molly.evidence.oled-mapping")), ("schema_version", .str (PyText.ofString "1")),
    ("request_digest", .str (PyText.ofString r.requestDigest.text)),
    ("provider_profile_ref", .str r.provider.providerProfileRef), ("model_identifier", .str r.provider.modelIdentifier),
    ("model_version", .str r.provider.modelVersion),
    ("mapping_config_digest", .str (PyText.ofString r.provider.mappingConfigDigest.text)),
    ("prompt_template_digest", .str (PyText.ofString r.provider.promptTemplateDigest.text)),
    ("mapping_schema_digest", .str (PyText.ofString r.provider.mappingSchemaDigest.text)),
    ("records", .arr (r.records.map OledMappingRecord.toDict)), ("warnings", .arr (r.warnings.map PyValue.str))]

variable [Sha256]

/-- `computed_response_digest`. -/
def computedResponseDigest (r : OledMappingResult) : Except PyError Digest := (PyValue.named r.body).digest

def toDict (r : OledMappingResult) : Except PyError PyValue := do
  let digest ← r.computedResponseDigest
  return .named (r.body ++ [("response_digest", .str (PyText.ofString digest.text))])

def artifactId (r : OledMappingResult) : Except PyError ArtifactId := do
  let value ← r.toDict
  value.artifactId

/-- The constructor. -/
def create (schemaName schemaVersion : PyText) (requestDigest : Digest) (metadata : MappingMetadata)
    (records : List OledMappingRecord) (warnings : List PyValue) (responseDigest : Option PyText) :
    Except PyError OledMappingResult := do
  ensure (schemaName = PyText.ofString "molly.evidence.oled-mapping" && schemaVersion = PyText.ofString "1")
    ⟨.evidenceContract, "unsupported mapping result schema"⟩
  if few : (byRecordId records).length ≤ 10000 then
    if distinct : ((byRecordId records).map OledMappingRecord.mappedRecordId).Nodup then
      let warnings ← warnings.mapM (requiredTextOf "mapping warning" 1024)
      ensure (warnings.length ≤ 256) ⟨.evidenceContract, "mapping warnings exceed the bounded limit"⟩
      let result : OledMappingResult := ⟨requestDigest, metadata, byRecordId records, warnings, few, distinct⟩
      match responseDigest with
      | none => return result
      | some digest =>
        let digest ← validateDigestReference "response_digest" digest.display
        let computed ← result.computedResponseDigest
        ensure (digest = computed) ⟨.evidenceIntegrity, "mapping response digest does not match result content"⟩
        return result
    else throw ⟨.evidenceContract, "mapping record IDs must be unique"⟩
  else throw ⟨.evidenceContract, "mapping result exceeds the bounded record count"⟩

omit [CaseText] [PrintableText] in
theorem create_records {result : OledMappingResult} {given : List OledMappingRecord}
    (made : create schemaName schemaVersion digest metadata given texts response = .ok result) :
    result.records = byRecordId given := by
  unfold create at made
  obtain ⟨_, _, made⟩ := bind_ok.mp made
  split at made
  · split at made
    · obtain ⟨texts, _, made⟩ := bind_ok.mp made
      obtain ⟨_, _, made⟩ := bind_ok.mp made
      dsimp only at made
      split at made
      · cases made
        rfl
      · obtain ⟨digest, _, made⟩ := bind_ok.mp made
        obtain ⟨computed, _, made⟩ := bind_ok.mp made
        obtain ⟨_, _, made⟩ := bind_ok.mp made
        cases made
        rfl
    · cases made
  · cases made

/-- `from_provider_payload`. -/
def fromProviderPayload (payload : PyValue) (request : FrozenOledMappingRequest) (bundle : EvidenceCandidateBundle) :
    Except PyError OledMappingResult :=
  match payload with
  | .obj payload => do
    ensure (!hasUnknown payload ["schema_name", "schema_version", "request_digest", "provider_profile_ref",
        "model_identifier", "model_version", "mapping_config_digest", "prompt_template_digest", "mapping_schema_digest",
        "records", "warnings", "response_digest"])
      ⟨.evidenceContract, "structured mapping response has unknown fields"⟩
    let supplied := pyGet payload "request_digest" .null
    let digestValue (d : Digest) : PyValue := .str (PyText.ofString d.text)
    ensure (supplied.equal ((request.requestDigest.map digestValue).getD .null) ||
        supplied.equal (digestValue request.computedDigest))
      ⟨.evidenceIntegrity, "mapping response is bound to a different request digest"⟩
    let items ← (pyGet payload "records" (.arr [])).iterate
    let records ← items.mapM OledMappingRecord.fromDict
    ensure (records.length ≤ 10000) ⟨.evidenceContract, "mapping response has too many records"⟩
    records.forM fun r => r.checkEvidenceBindings bundle
    let text (key : String) (default : PyText) := (pyGet payload key (.str default)).toText
    let digest (key : String) (default : Digest) :=
      validateDigestReference key (text key (PyText.ofString default.text)).display
    let warnings ← (pyGet payload "warnings" (.arr [])).iterate
    let config ← digest "mapping_config_digest" request.mappingConfigDigest
    let template ← digest "prompt_template_digest" request.promptTemplateDigest
    let schema ← digest "mapping_schema_digest" request.oledMappingSchemaDigest
    let result ← create (text "schema_name" (PyText.ofString "molly.evidence.oled-mapping"))
      (text "schema_version" (PyText.ofString "1")) request.computedDigest
      ⟨text "provider_profile_ref" request.providerProfileRef, text "model_identifier" request.modelIdentifier,
        text "model_version" request.modelVersion, config, template, schema⟩
      records warnings (pyOptional payload "response_digest")
    ensure (result.provider = request.metadata)
      ⟨.evidenceIntegrity, "mapping response metadata does not match exact request"⟩
    return result
  | _ => throw ⟨.evidenceContract, "structured mapping response must be an object"⟩

/-- An accepted payload's records are read from its items, and kept in order. -/
theorem fromProviderPayload_ok {request : FrozenOledMappingRequest} {result : OledMappingResult}
    (accepted : fromProviderPayload payload request bundle = .ok result) :
    ∃ fields items given, payload = .obj fields ∧ (pyGet fields "records" (.arr [])).iterate = .ok items ∧
      items.mapM OledMappingRecord.fromDict = .ok given ∧ result.records = byRecordId given := by
  unfold fromProviderPayload at accepted
  split at accepted
  · rename_i fields
    obtain ⟨_, _, accepted⟩ := bind_ok.mp accepted
    obtain ⟨_, _, accepted⟩ := bind_ok.mp accepted
    obtain ⟨items, listed, accepted⟩ := bind_ok.mp accepted
    obtain ⟨given, read, accepted⟩ := bind_ok.mp accepted
    obtain ⟨_, _, accepted⟩ := bind_ok.mp accepted
    obtain ⟨_, _, accepted⟩ := bind_ok.mp accepted
    obtain ⟨warnings, _, accepted⟩ := bind_ok.mp accepted
    obtain ⟨config, _, accepted⟩ := bind_ok.mp accepted
    obtain ⟨template, _, accepted⟩ := bind_ok.mp accepted
    obtain ⟨schema, _, accepted⟩ := bind_ok.mp accepted
    obtain ⟨made, created, accepted⟩ := bind_ok.mp accepted
    obtain ⟨_, _, accepted⟩ := bind_ok.mp accepted
    cases accepted
    exact ⟨fields, items, given, rfl, listed, read, create_records created⟩
  · cases accepted

end OledMappingResult
end
end Molly
