import Molly.Core.AgentLoop
import Molly.Evidence.Validation

/-! What a passed record is: mapped by the provider, and normalized as the code normalizes. -/
namespace Molly

/-- `a == b` for two values of properties. -/
def sameValue (a b : Option PyNumber) : Bool :=
  ((a.map PyNumber.toValue).getD .null).equal ((b.map PyNumber.toValue).getD .null)

theorem sameValue_self (a : Option PyNumber) : sameValue a a = true := by
  rcases a with _ | n | x <;> simp [sameValue, PyNumber.toValue, PyValue.equal, PyValue.asInt]

section
variable [CaseText] [PrintableText] [Sha256]

/-- The unit is a fraction, and the value is what normalization gives for the original value and unit. -/
def NormalizedProperty.Genuine (p : NormalizedProperty) : Prop :=
  p.unit = some fractionUnit ∧
    ∃ q, NormalizedProperty.normalize (.str (PyText.ofString p.propertyId.text))
      ((p.originalValue.map PyScalar.toValue).getD .null) (pyTextOrNull p.originalUnit) = .ok q ∧ sameValue p.value q.value = true

/-- Every record that validation leaves as passed was mapped, and its property is genuine. -/
def PassMeansMapped (result : OledMappingResult) (report : OledValidationReport) : Prop :=
  ∀ v ∈ report.records, v.validationStatus = .pass →
    ∃ r ∈ result.records, r.mappedRecordId = v.recordId ∧ r.mappingStatus = .mapped ∧ v.property.Genuine

/-- The records of a payload. -/
def payloadItems : PyValue → List PyValue
  | .obj payload =>
    match (pyGet payload "records" (.arr [])).iterate with
    | .ok items => items
    | .error _ => []
  | _ => []

/-- The provider itself says whether the property of the record is normalized. -/
def suppliesStatus : PyValue → Bool
  | .obj value =>
    match OledMappingRecord.rawProperty value with
    | .obj property => (property.lookup (PyText.ofString "status")).isSome
    | _ => false
  | _ => false

omit [Sha256] in
/-- A property that the code itself normalized is genuine. -/
theorem genuine_of_unsupplied {item : PyValue} {r : OledMappingRecord} (read : OledMappingRecord.fromDict item = .ok r)
    (unsupplied : suppliesStatus item = false) (normalized : r.property.status = .normalized) : r.property.Genuine := by
  obtain ⟨value, rfl, made, _⟩ := OledMappingRecord.fromDict_ok read
  unfold suppliesStatus at unsupplied
  cases raw : OledMappingRecord.rawProperty value with
  | obj property =>
    rw [raw, NormalizedProperty.fromMapping] at made
    simp only [raw, Option.isSome_eq_false_iff, Option.isNone_iff_eq_none] at unsupplied
    split at made
    · cases made
    obtain ⟨propertyId, _, made⟩ := bind_ok.mp made
    simp only [unsupplied] at made
    obtain ⟨fraction, _⟩ := NormalizedProperty.normalize_normalized made normalized
    exact ⟨fraction, _, NormalizedProperty.normalize_again made normalized, sameValue_self _⟩
  | _ =>
    rw [raw] at made
    cases made

variable {payload : PyValue} {request : FrozenOledMappingRequest} {bundle : EvidenceCandidateBundle}
  {result : OledMappingResult} {records : List OledRecord} {config : OledValidationConfig} {report : OledValidationReport}

omit [Sha256] in
theorem payloadItems_read {r : OledMappingRecord} {fields : PyFields} {items : List PyValue} {given : List OledMappingRecord}
    (listed : (pyGet fields "records" (.arr [])).iterate = .ok items) (read : items.mapM OledMappingRecord.fromDict = .ok given) :
    r ∈ given ↔ ∃ item ∈ payloadItems (.obj fields), OledMappingRecord.fromDict item = .ok r := by
  have same : payloadItems (.obj fields) = items := by simp [payloadItems, listed]
  have each := mapM_ok.mp read
  rw [same]
  constructor
  · intro member
    obtain ⟨item, found, made⟩ := forall₂_right each member
    exact ⟨item, found, made⟩
  · rintro ⟨item, found, made⟩
    obtain ⟨r', member, made'⟩ := forall₂_left each found
    rw [made, Except.ok.injEq] at made'
    rwa [made']

/-- A passed record is mapped and normalized exactly when every record of the payload that nothing
else holds back is marked as mapped, and its property, where the provider says that it is
normalized, is a fraction that normalization gives. -/
theorem pass_mapped {documentId sourceId bundleId mappingId : ArtifactId} {digest : Digest}
    (accepted : OledMappingResult.fromProviderPayload payload request bundle = .ok result)
    (converted : result.records.mapM (fun r => r.toOledRecord documentId sourceId bundleId mappingId digest) = .ok records)
    (validated : validateRecords records bundleId mappingId config = .ok report) :
    PassMeansMapped result report ↔
      ∀ item ∈ payloadItems payload, ∀ r v, OledMappingRecord.fromDict item = .ok r →
        r.toOledRecord documentId sourceId bundleId mappingId digest = .ok v → recordIssue v = none →
        conflicts config (sortedBy (fun v => v.recordId.pyText) records) v.comparisonKey = false →
          r.mappingStatus = .mapped ∧ (suppliesStatus item = true → r.property.Genuine) := by
  obtain ⟨fields, items, given, rfl, listed, read, kept⟩ := OledMappingResult.fromProviderPayload_ok accepted
  obtain ⟨_, _, revised, _⟩ := validateRecords_ok validated
  have each := mapM_ok.mp converted
  have ofGiven {r : OledMappingRecord} : r ∈ result.records ↔ r ∈ given := by rw [kept, byRecordId, mem_sortedBy]
  constructor
  · intro passes item member r v made oled plain apart
    have mapped : r ∈ result.records := ofGiven.mpr ((payloadItems_read listed read).mpr ⟨item, member, made⟩)
    obtain ⟨v', found, made'⟩ := forall₂_left each mapped
    rw [oled, Except.ok.injEq] at made'
    subst made'
    obtain ⟨id, _, property, _⟩ := OledMappingRecord.toOledRecord_ok oled
    have passed := passes _ (by
      rw [revised]
      exact List.mem_map_of_mem (mem_sortedBy.mpr found)) (statusIn_pass.mpr ⟨plain, apart⟩)
    obtain ⟨r', mapped', same, marked, genuine⟩ := passed
    obtain rfl : r' = r := List.inj_on_of_nodup_map result.distinct mapped' mapped (same.trans id)
    refine ⟨marked, fun _ => ?_⟩
    rw [← property]
    exact genuine
  · intro held v' member passed
    rw [revised] at member
    obtain ⟨v, found, rfl⟩ := List.mem_map.mp member
    obtain ⟨plain, apart⟩ := statusIn_pass.mp passed
    obtain ⟨r, mapped, oled⟩ := forall₂_right each (mem_sortedBy.mp found)
    obtain ⟨item, listed', made⟩ := (payloadItems_read listed read).mp (ofGiven.mp mapped)
    obtain ⟨marked, supplied⟩ := held item listed' r v made oled plain apart
    obtain ⟨id, _, property, _⟩ := OledMappingRecord.toOledRecord_ok oled
    have normalized : r.property.status = .normalized := by
      rw [← property]
      by_contra unresolved
      simp [recordIssue, NormalizedProperty.normalized, unresolved] at plain
      split at plain <;> cases plain
    have genuine : r.property.Genuine := by
      cases gives : suppliesStatus item with
      | true => exact supplied gives
      | false => exact genuine_of_unsupplied made gives normalized
    exact ⟨r, mapped, id.symm, marked, property ▸ genuine⟩

end

/-! ### A record that the provider left unresolved -/

namespace Sample
attribute [local instance] standardSha256 asciiPrintable asciiCase

def emptyDigest : Digest := ⟨"e3b0c44298fc1c149afbf4c8996fb92427ae41e4649b934ca495991b7852b855", by decide +kernel⟩

def paper : ArtifactId := ⟨emptyDigest⟩

def firstPage : SourceLocator := ⟨paper, .pdfPage, none, some 1, none, none, rfl⟩

def passageId : Identifier := word "candidate_1"

def passageText : PyText := PyText.ofString "PLQY 50%"

theorem passageText_bounded : passageText.length ≤ 16384 ∧ passageText.hasNul = false := by decide +kernel

def passage : EvidenceCandidate where
  candidateId := passageId
  canonicalDocumentArtifactId := paper
  sourceArtifactId := paper
  candidateType := .textEvidence
  sourceLocator := firstPage
  moreLocators := []
  sourceText := passageText
  tableCells := []
  structuralContext := emptyMapping
  fieldHints := emptyMapping
  extractorVersion := word "1" isIdentifier_one
  extractorConfigDigest := emptyDigest
  located := by simp [firstPage]
  bounded := passageText_bounded
  few := by decide
  distinct := by simp

def passages : EvidenceCandidateBundle :=
  ⟨paper, paper, word "1" isIdentifier_one, emptyDigest, [passage], by decide, by simp, by simp [passage]⟩

def mappingRequest : FrozenOledMappingRequest :=
  ⟨word "1" isIdentifier_one, paper, [word "packet_1"], [emptyDigest], emptyDigest, emptyDigest, PyText.ofString "profile",
    PyText.ofString "model", PyText.ofString "1", emptyDigest, true, by decide⟩

def bound (field : String) : PyValue :=
  .named [("field_name", .str (PyText.ofString field)), ("candidate_id", .str (PyText.ofString "candidate_1")),
    ("source_artifact_id", .str (PyText.ofString paper.text)), ("source_locator", firstPage.toDict)]

/-- One record, with the status that the provider gives to its mapping. -/
def reply (status : String) : PyValue :=
  .named [("request_digest", .str (PyText.ofString mappingRequest.computedDigest.text)),
    ("records", .arr [.named [("mapped_record_id", .str (PyText.ofString "r1")),
      ("molecule_identity", .str (PyText.ofString "CCO")),
      ("property", .named [("property_id", .str (PyText.ofString "PLQY")), ("value", .int 50), ("unit", .str (PyText.ofString "%"))]),
      ("measurement_condition", .named [("condition_status", .str (PyText.ofString "EXPLICIT"))]),
      ("evidence", .arr (["molecule_identity", "property_id", "property_value", "unit", "measurement_condition"].map bound)),
      ("mapping_status", .str (PyText.ofString status))]])]

def validationConfig : OledValidationConfig :=
  ⟨word "oled_deterministic_validator", word "1" isIdentifier_one, ⟨"0.02", by decide +kernel⟩, word "1" isIdentifier_one, by decide +kernel⟩

/-- The run of the conversions on a reply: what is mapped, and what is left of it. -/
def intake (status : String) : Except PyError (OledMappingResult × List OledRecord × OledValidationReport) := do
  let result ← OledMappingResult.fromProviderPayload (reply status) mappingRequest passages
  let records ← result.records.mapM fun r => r.toOledRecord paper paper paper paper emptyDigest
  let report ← validateRecords records paper paper validationConfig
  return (result, records, report)

theorem intake_ok {status : String} {out : OledMappingResult × List OledRecord × OledValidationReport} (ran : intake status = .ok out) :
    OledMappingResult.fromProviderPayload (reply status) mappingRequest passages = .ok out.1 ∧
      out.1.records.mapM (fun r => r.toOledRecord paper paper paper paper emptyDigest) = .ok out.2.1 ∧
      validateRecords out.2.1 paper paper validationConfig = .ok out.2.2 := by
  obtain ⟨result, accepted, ran⟩ := bind_ok.mp ran
  obtain ⟨records, converted, ran⟩ := bind_ok.mp ran
  obtain ⟨report, validated, ran⟩ := bind_ok.mp ran
  cases ran
  exact ⟨accepted, converted, validated⟩

/-- What the mapping says of each record, and what validation leaves it with. -/
def verdicts (out : OledMappingResult × List OledRecord × OledValidationReport) :
    List MappingStatus × List OledValidationStatus :=
  (out.1.records.map OledMappingRecord.mappingStatus, out.2.2.records.map OledRecord.validationStatus)

/-- The only record is mapped. -/
theorem pass_mapped_fraction : ∃ result records report,
    OledMappingResult.fromProviderPayload (reply "MAPPED") mappingRequest passages = .ok result ∧
      (PassMeansMapped result report ↔ ∀ item ∈ payloadItems (reply "MAPPED"), ∀ r v, OledMappingRecord.fromDict item = .ok r →
        r.toOledRecord paper paper paper paper emptyDigest = .ok v → recordIssue v = none →
        conflicts validationConfig (sortedBy (fun v => v.recordId.pyText) records) v.comparisonKey = false →
          r.mappingStatus = .mapped ∧ (suppliesStatus item = true → r.property.Genuine)) := by
  have ran : ((intake "MAPPED").toOption.map verdicts) = some ([.mapped], [.pass]) := by decide +kernel
  cases taken : intake "MAPPED" with
  | error e =>
    rw [taken] at ran
    cases ran
  | ok out =>
    obtain ⟨accepted, converted, validated⟩ := intake_ok taken
    exact ⟨_, _, _, accepted, pass_mapped accepted converted validated⟩

/-- The provider left the mapping for review, and the record passes. -/
theorem pass_mapped_fails : ¬ ∀ (payload : PyValue) (request : FrozenOledMappingRequest) (bundle : EvidenceCandidateBundle)
    (documentId sourceId bundleId mappingId : ArtifactId) (digest : Digest) (config : OledValidationConfig)
    (result : OledMappingResult) (records : List OledRecord) (report : OledValidationReport),
    OledMappingResult.fromProviderPayload payload request bundle = .ok result →
    result.records.mapM (fun r => r.toOledRecord documentId sourceId bundleId mappingId digest) = .ok records →
    validateRecords records bundleId mappingId config = .ok report → PassMeansMapped result report := by
  intro always
  have ran : ((intake "REVIEW").toOption.map verdicts) = some ([.review], [.pass]) := by decide +kernel
  cases taken : intake "REVIEW" with
  | error e =>
    rw [taken] at ran
    cases ran
  | ok out =>
    obtain ⟨accepted, converted, validated⟩ := intake_ok taken
    rw [taken] at ran
    obtain ⟨mapped, passed⟩ := Prod.mk.inj (Option.some.inj ran)
    have first : OledValidationStatus.pass ∈ out.2.2.records.map OledRecord.validationStatus := by
      rw [passed]
      exact List.mem_cons_self
    obtain ⟨v, member, pass⟩ := List.mem_map.mp first
    obtain ⟨r, listed, _, marked, _⟩ := always _ _ _ _ _ _ _ _ _ _ _ _ accepted converted validated v member pass
    have also : MappingStatus.mapped ∈ out.1.records.map OledMappingRecord.mappingStatus :=
      List.mem_map.mpr ⟨r, listed, marked⟩
    rw [mapped] at also
    cases List.mem_singleton.mp also

end Sample
end Molly
