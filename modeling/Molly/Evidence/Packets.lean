import Molly.Core.Tools
import Molly.Evidence.Mapping

/-! The mapping stage: the packets that are made of a bundle's candidates, the request that names them, and the
acceptance of what the provider returns. -/
namespace Molly

/-! ### Packets -/

/-- One bounded input of a mapping. -/
structure EvidencePacket where
  packetId : Identifier
  candidateIds : List Identifier
  sourceLocators : List SourceLocator
  sourceText : PyText
  tableContext : PyMapping
  mappingSchemaVersion : Identifier
  named : candidateIds ≠ [] ∧ candidateIds.Nodup
  located : sourceLocators ≠ [] ∧ sourceLocators.length ≤ 256
  bounded : sourceText.length ≤ 12000 ∧ sourceText.hasNul = false

namespace EvidencePacket

/-- The dict of a packet without the identity that is made of it. -/
def bodyOf (candidateIds : List Identifier) (locators : List SourceLocator) (text : PyText) (context : PyValue)
    (schemaVersion : Identifier) : List (String × PyValue) :=
  [("schema_name", .str (PyText.ofString "molly.evidence.packet")), ("schema_version", .str (PyText.ofString "1")),
    ("candidate_ids", .arr (candidateIds.map fun id => .str id.pyText)), ("source_locators", .arr (locators.map SourceLocator.toDict)),
    ("source_text", .str text), ("table_context", context), ("mapping_schema_version", .str schemaVersion.pyText)]

variable [Sha256]

def digest (p : EvidencePacket) : Except PyError Digest :=
  (PyValue.named (bodyOf p.candidateIds p.sourceLocators p.sourceText p.tableContext.toValue p.mappingSchemaVersion)).digest

omit [Sha256] in
theorem packetId_valid (d : Digest) : isIdentifier ("packet_" ++ d.text) = true := markedId_valid d (by decide) (by decide)

/-- `create`. -/
def create (candidateIds : List Identifier) (locators : List SourceLocator) (text : PyText) (context : List (String × PyValue))
    (schemaVersion : Identifier) : Except PyError EvidencePacket := do
  let digest ← (PyValue.named (bodyOf candidateIds locators text (.named context) schemaVersion)).digest
  if named : candidateIds ≠ [] ∧ candidateIds.Nodup then
    if located : locators ≠ [] ∧ locators.length ≤ 256 then
      if bounded : text.length ≤ 12000 ∧ text.hasNul = false then
        let context ← freezePyFields "packet table_context" (context.map fun f => (PyText.ofString f.1, f.2))
        return ⟨⟨"packet_" ++ digest.text, packetId_valid digest⟩, candidateIds, locators, text, context, schemaVersion, named,
          located, bounded⟩
      else throw ⟨.evidenceContract, "packet source_text is outside its bounded text contract"⟩
    else throw ⟨.evidenceContract, "packet source_locators are outside the bounded contract"⟩
  else throw ⟨.evidenceContract, "packet candidate_ids must be unique and non-empty"⟩

theorem create_ok {candidateIds : List Identifier} {locators : List SourceLocator} {text : PyText} {p : EvidencePacket}
    (made : create candidateIds locators text context schemaVersion = .ok p) :
    p.candidateIds = candidateIds ∧ p.sourceLocators = locators ∧ p.sourceText = text := by
  unfold create at made
  obtain ⟨digest, _, made⟩ := bind_ok.mp made
  split at made
  · split at made
    · split at made
      · obtain ⟨frozen, _, made⟩ := bind_ok.mp made
        cases made
        exact ⟨rfl, rfl, rfl⟩
      · cases made
    · cases made
  · cases made

end EvidencePacket

def candidateSchemaVersion : Identifier := ⟨"1", isIdentifier_one⟩

section
variable [Sha256]

/-- The packet of a candidate. -/
def packetOf (c : EvidenceCandidate) : Except PyError EvidencePacket :=
  EvidencePacket.create [c.candidateId] c.sourceLocators c.sourceText
    [("candidate_type", .str (PyText.ofString c.candidateType.text)), ("structural_context", c.structuralContext.toValue),
      ("field_hints", c.fieldHints.toValue)]
    candidateSchemaVersion

/-- `EvidencePacketBuilder.build`. -/
def buildPackets (bundle : EvidenceCandidateBundle) : Except PyError (List EvidencePacket) := do
  let packets ← bundle.candidates.mapM packetOf
  return sortedBy (fun p => p.packetId.pyText) packets

/-- The texts of the packets are those of the candidates. -/
theorem buildPackets_texts {bundle : EvidenceCandidateBundle} {packets : List EvidencePacket}
    (built : buildPackets bundle = .ok packets) (text : PyText) :
    (∃ p ∈ packets, p.sourceText = text) ↔ ∃ c ∈ bundle.candidates, c.sourceText = text := by
  obtain ⟨made, each, shown⟩ := bind_ok.mp built
  cases shown
  have pairs := mapM_ok.mp each
  constructor
  · intro held
    obtain ⟨p, member, rfl⟩ := held
    obtain ⟨c, listed, created⟩ := forall₂_right pairs (mem_sortedBy.mp member)
    exact ⟨c, listed, (EvidencePacket.create_ok created).2.2.symm⟩
  · intro held
    obtain ⟨c, listed, rfl⟩ := held
    obtain ⟨p, member, created⟩ := forall₂_left pairs listed
    exact ⟨p, mem_sortedBy.mpr member, (EvidencePacket.create_ok created).2.2⟩

end

/-! ### Configurations -/

/-- The configuration of the server, a part of each request's identity. -/
structure MappingConfig where
  maxRecords : Nat
  maxPacketTextChars : Nat
  temperature : FiniteFloat
  schemaVersion : Identifier
  counted : 1 ≤ maxRecords ∧ maxRecords ≤ 10000
  sized : 64 ≤ maxPacketTextChars ∧ maxPacketTextChars ≤ 64000
  tempered : temperature.between 0 2 = true

namespace MappingConfig

theorem countOf_within {low high : Nat} {n : Int} (within : (low : Int) ≤ n ∧ n ≤ high) : low ≤ n.toNat ∧ n.toNat ≤ high := by
  omega

/-- An integer within its bounds, which are not negative. -/
def countOf (field : String) (low high : Nat) : PyValue → Except PyError { n : Nat // low ≤ n ∧ n ≤ high }
  | .int n =>
    if within : (low : Int) ≤ n ∧ n ≤ high then .ok ⟨n.toNat, countOf_within within⟩
    else .error ⟨.evidenceContract, field ++ " is outside the bounded range"⟩
  | _ => .error ⟨.evidenceContract, field ++ " is outside the bounded range"⟩

def temperatureOf (value : PyValue) : Except PyError { x : FiniteFloat // x.between 0 2 = true } := do
  let bounds : PyError := ⟨.evidenceContract, "mapping temperature is outside the bounded range"⟩
  let checked (x : FiniteFloat) : Except PyError { x : FiniteFloat // x.between 0 2 = true } :=
    if tempered : x.between 0 2 = true then .ok ⟨x, tempered⟩ else .error bounds
  match value with
  | .int n => checked (← (PyNumber.int n).toFloat)
  | .float x => checked x
  | _ => throw bounds

/-- The constructor. -/
def create (maxRecords maxPacketTextChars temperature : PyValue) (schemaVersion : String) : Except PyError MappingConfig := do
  let records ← countOf "max_records" 1 10000 maxRecords
  let chars ← countOf "max_packet_text_chars" 64 64000 maxPacketTextChars
  let temperature ← temperatureOf temperature
  let version ← validateIdentifier "mapping config schema_version" schemaVersion
  return ⟨records.1, chars.1, temperature.1, version, records.2, chars.2, temperature.2⟩

/-- The configuration of a service that is given none. -/
def standard : MappingConfig :=
  ⟨10000, 12000, ⟨"0.0", by decide +kernel⟩, ⟨"1", isIdentifier_one⟩, by decide, by decide, by decide +kernel⟩

def entries (c : MappingConfig) : List (String × PyValue) :=
  [("max_records", .int c.maxRecords), ("max_packet_text_chars", .int c.maxPacketTextChars), ("temperature", .float c.temperature),
    ("schema_version", .str c.schemaVersion.pyText)]

/-- A configuration has short numbers and texts, whose canonical bytes are always defined. -/
def digest [Sha256] (c : MappingConfig) : Digest := sha256Bytes (PyValue.named c.entries).encode

end MappingConfig

/-! ### The service -/

section
variable [CaseText] [PrintableText] [Sha256]

/-- `MAPPING_SCHEMA_DIGEST`. -/
def mappingSchemaDigest : Digest :=
  sha256Bytes (PyValue.named [("schema_name", .str (PyText.ofString "molly.evidence.oled-mapping")),
    ("schema_version", .str (PyText.ofString "1")),
    ("fields", .arr (["molecule_identity", "property_id", "property_value", "unit", "measurement_condition"].map fun field =>
      .str (PyText.ofString field))),
    ("claim_levels", .arr (ClaimLevel.all.map fun level => .str (PyText.ofString level.text))),
    ("evidence_required_for_non_null_fields", .bool true)]).encode

/-- `PROMPT_TEMPLATE_DIGEST`. -/
def promptTemplateDigest : Digest :=
  sha256Bytes (PyValue.named [("template", .str (PyText.ofString "map bounded OLED fields from supplied evidence packet only")),
    ("version", .str (PyText.ofString "1"))]).encode

/-- `create`: a request that states its own digest. -/
def FrozenOledMappingRequest.create (bundleId : ArtifactId) (packets : List EvidencePacket)
    (providerProfileRef modelIdentifier modelVersion : PyText) (configDigest : Digest) : Except PyError FrozenOledMappingRequest := do
  let digests ← packets.mapM EvidencePacket.digest
  if aligned : packets.map EvidencePacket.packetId ≠ [] ∧ (packets.map EvidencePacket.packetId).length = digests.length ∧
      (packets.map EvidencePacket.packetId).Nodup then
    let profile ← requiredTextOf "provider_profile_ref" 256 (.str providerProfileRef)
    let model ← requiredTextOf "model_identifier" 256 (.str modelIdentifier)
    let version ← requiredTextOf "model_version" 256 (.str modelVersion)
    return ⟨⟨"1", isIdentifier_one⟩, bundleId, packets.map EvidencePacket.packetId, digests, mappingSchemaDigest,
      Molly.promptTemplateDigest, profile, model, version, configDigest, true, aligned⟩
  else throw ⟨.evidenceContract, "mapping packet IDs/digests must be unique and aligned"⟩

/-- What a provider returns: an object, or a result that it made itself. -/
inductive ProviderReply where
  | payload (value : PyValue)
  | result (made : OledMappingResult)

structure MappingProvider where
  providerProfileRef : PyText
  modelIdentifier : PyText
  modelVersion : PyText
  map : FrozenOledMappingRequest → List EvidencePacket → Except PyError ProviderReply

structure MappingService where
  provider : MappingProvider
  mappingConfig : MappingConfig
  providerProfileRef : PyText
  modelIdentifier : PyText
  modelVersion : PyText

structure MappingOutcome where
  request : FrozenOledMappingRequest
  result : OledMappingResult
  artifactDraft : ArtifactDraft

/-- `given or own`. -/
def PyText.orOwn (given : Option PyText) (own : PyText) : PyText :=
  match given with
  | none => own
  | some text => if text = [] then own else text

/-- `to_artifact_draft`. -/
def OledMappingResult.toArtifactDraft (r : OledMappingResult) : Except PyError ArtifactDraft := do
  let value ← r.toDict
  let content ← value.canonicalBytes
  return ⟨content, "application/json", some ⟨"molly.evidence.oled-mapping", by decide +kernel⟩, some ⟨"1", isIdentifier_one⟩⟩

namespace MappingService

/-- The constructor. -/
def create (provider : MappingProvider) (config : Option MappingConfig) (profile model version : Option PyText) :
    Except PyError MappingService := do
  let profile := PyText.orOwn profile provider.providerProfileRef
  let model := PyText.orOwn model provider.modelIdentifier
  let version := PyText.orOwn version provider.modelVersion
  let _ ← requiredTextOf "provider_profile_ref" 256 (.str profile)
  let _ ← requiredTextOf "model_identifier" 256 (.str model)
  let _ ← requiredTextOf "model_version" 256 (.str version)
  return ⟨provider, config.getD MappingConfig.standard, profile, model, version⟩

/-- `build_request`. -/
def buildRequest (service : MappingService) (bundle : EvidenceCandidateBundle) :
    Except PyError (FrozenOledMappingRequest × List EvidencePacket) := do
  let packets ← buildPackets bundle
  let bundleId ← bundle.artifactId
  let request ← FrozenOledMappingRequest.create bundleId packets service.providerProfileRef service.modelIdentifier
    service.modelVersion service.mappingConfig.digest
  return (request, packets)

/-- What the service makes of a reply to its request. -/
def accept (request : FrozenOledMappingRequest) (bundle : EvidenceCandidateBundle) :
    ProviderReply → Except PyError OledMappingResult
  | .result made => do
    ensure (made.requestDigest = request.computedDigest) ⟨.evidenceIntegrity, "provider result request digest mismatch"⟩
    made.records.forM fun r => r.checkEvidenceBindings bundle
    return made
  | .payload value => OledMappingResult.fromProviderPayload value request bundle

/-- `map`. -/
def map (service : MappingService) (bundle : EvidenceCandidateBundle) : Except PyError MappingOutcome := do
  let (request, packets) ← service.buildRequest bundle
  let reply ← service.provider.map request packets
  let result ← accept request bundle reply
  let draft ← result.toArtifactDraft
  return ⟨request, result, draft⟩

end MappingService
end
end Molly
