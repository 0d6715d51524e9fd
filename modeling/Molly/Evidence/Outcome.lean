import Molly.Evidence.Bound
import Molly.Evidence.Packets

/-! What an outcome of the mapping service is bound to: its request, the limits of the configuration, and the
candidates. -/
namespace Molly

section
variable [CaseText] [PrintableText] [Sha256]

/-- The outcome is bound to its request and to the configuration, and its evidence to the candidates. -/
structure OutcomeBound (service : MappingService) (bundle : EvidenceCandidateBundle) (outcome : MappingOutcome)
    (packets : List EvidencePacket) : Prop where
  metadata : outcome.result.provider = outcome.request.metadata
  few : outcome.result.records.length ≤ service.mappingConfig.maxRecords
  located : ∀ r ∈ outcome.result.records, ∀ e ∈ r.evidence, Located bundle e ∧ e.sourceArtifactId = bundle.sourceArtifactId
  texts : ∀ p ∈ packets, p.sourceText.length ≤ service.mappingConfig.maxPacketTextChars

/-- The records of a reply, as many as the mapping keeps. -/
def ProviderReply.recordCount : ProviderReply → Nat
  | .payload value => (payloadItems value).length
  | .result made => made.records.length

/-- The fields that the requests of a service name its provider and configuration by. -/
def MappingService.metadata (service : MappingService) : MappingMetadata :=
  ⟨service.providerProfileRef.strip, service.modelIdentifier.strip, service.modelVersion.strip, service.mappingConfig.digest,
    promptTemplateDigest, mappingSchemaDigest⟩

/-- What the service does not look at: the fields of a result that the provider made, the number of records, and the
lengths of the candidates' texts. -/
structure ProviderReply.Conforms (service : MappingService) (bundle : EvidenceCandidateBundle) (reply : ProviderReply) : Prop where
  metadata : ∀ made, reply = .result made → made.provider = service.metadata
  few : reply.recordCount ≤ service.mappingConfig.maxRecords
  texts : ∀ c ∈ bundle.candidates, c.sourceText.length ≤ service.mappingConfig.maxPacketTextChars

/-! ### What the service checks -/

variable {service : MappingService} {bundle : EvidenceCandidateBundle} {request : FrozenOledMappingRequest}
  {packets : List EvidencePacket} {reply : ProviderReply} {result : OledMappingResult} {outcome : MappingOutcome}

omit [CaseText] [PrintableText] [Sha256] in
theorem requiredTextOf_str {field : String} {maximum : Nat} {text kept : PyText}
    (read : requiredTextOf field maximum (.str text) = .ok kept) : kept = text.strip := by
  rw [requiredTextOf] at read
  split at read
  · cases read
  · cases read
    rfl

omit [CaseText] [PrintableText] in
/-- A request names the provider and the configuration of its service. -/
theorem buildRequest_ok (built : service.buildRequest bundle = .ok (request, packets)) :
    request.metadata = service.metadata ∧ buildPackets bundle = .ok packets := by
  unfold MappingService.buildRequest at built
  obtain ⟨made, packed, built⟩ := bind_ok.mp built
  obtain ⟨bundleId, _, built⟩ := bind_ok.mp built
  obtain ⟨frozen, created, built⟩ := bind_ok.mp built
  cases built
  refine ⟨?_, packed⟩
  unfold FrozenOledMappingRequest.create at created
  obtain ⟨digests, _, created⟩ := bind_ok.mp created
  split at created
  · obtain ⟨profile, profiled, created⟩ := bind_ok.mp created
    obtain ⟨model, modelled, created⟩ := bind_ok.mp created
    obtain ⟨version, versioned, created⟩ := bind_ok.mp created
    cases created
    rw [FrozenOledMappingRequest.metadata, MappingService.metadata, ← requiredTextOf_str profiled, ← requiredTextOf_str modelled,
      ← requiredTextOf_str versioned]
  · cases created

/-- A payload's mapping has the fields of the request, as many records as the payload, and evidence in the candidates. -/
theorem fromProviderPayload_bound {payload : PyValue} (accepted : OledMappingResult.fromProviderPayload payload request bundle = .ok result) :
    result.provider = request.metadata ∧ result.records.length = (payloadItems payload).length ∧
      ∀ r ∈ result.records, r.checkEvidenceBindings bundle = .ok () := by
  unfold OledMappingResult.fromProviderPayload at accepted
  split at accepted
  · rename_i fields
    obtain ⟨_, _, accepted⟩ := bind_ok.mp accepted
    obtain ⟨_, _, accepted⟩ := bind_ok.mp accepted
    obtain ⟨items, listed, accepted⟩ := bind_ok.mp accepted
    obtain ⟨given, read, accepted⟩ := bind_ok.mp accepted
    obtain ⟨_, _, accepted⟩ := bind_ok.mp accepted
    obtain ⟨⟨⟩, checked, accepted⟩ := bind_ok.mp accepted
    obtain ⟨warnings, _, accepted⟩ := bind_ok.mp accepted
    obtain ⟨config, _, accepted⟩ := bind_ok.mp accepted
    obtain ⟨template, _, accepted⟩ := bind_ok.mp accepted
    obtain ⟨schema, _, accepted⟩ := bind_ok.mp accepted
    obtain ⟨made, created, accepted⟩ := bind_ok.mp accepted
    obtain ⟨_, same, accepted⟩ := bind_ok.mp accepted
    cases accepted
    rw [ensure_ok, decide_eq_true_eq] at same
    have kept := OledMappingResult.create_records created
    refine ⟨same, ?_, ?_⟩
    · have count := (mapM_ok.mp read).length_eq
      rw [kept, byRecordId, (sortedBy_perm _ _).length_eq, ← count, payloadItems, listed]
    · intro r member
      rw [kept, byRecordId, mem_sortedBy] at member
      exact forM_ok.mp checked r member
  · cases accepted

/-- An accepted reply has its number of records, and their evidence is in the candidates. -/
theorem accept_ok (accepted : MappingService.accept request bundle reply = .ok result) :
    (result.provider = request.metadata ↔ ∀ made, reply = .result made → made.provider = request.metadata) ∧
      result.records.length = reply.recordCount ∧ ∀ r ∈ result.records, r.checkEvidenceBindings bundle = .ok () := by
  cases reply with
  | payload value =>
    obtain ⟨metadata, count, checked⟩ := fromProviderPayload_bound accepted
    exact ⟨⟨fun _ _ other => (by cases other), fun _ => metadata⟩, count, checked⟩
  | result made =>
    obtain ⟨_, _, accepted⟩ := bind_ok.mp accepted
    obtain ⟨⟨⟩, checked, accepted⟩ := bind_ok.mp accepted
    cases accepted
    refine ⟨?_, rfl, forM_ok.mp checked⟩
    constructor
    · intro metadata other same
      cases same
      exact metadata
    · exact fun each => each _ rfl

/-- The steps of a mapping. -/
theorem service_mapped (mapped : service.map bundle = .ok outcome) : ∃ packets reply,
    service.buildRequest bundle = .ok (outcome.request, packets) ∧ service.provider.map outcome.request packets = .ok reply ∧
      MappingService.accept outcome.request bundle reply = .ok outcome.result := by
  unfold MappingService.map at mapped
  obtain ⟨built, requested, mapped⟩ := bind_ok.mp mapped
  obtain ⟨reply, replied, mapped⟩ := bind_ok.mp mapped
  obtain ⟨result, accepted, mapped⟩ := bind_ok.mp mapped
  obtain ⟨draft, _, mapped⟩ := bind_ok.mp mapped
  cases mapped
  exact ⟨built.2, reply, requested, replied, accepted⟩

/-- An outcome is bound to its request and configuration exactly where the reply and the candidates conform to them. -/
theorem outcome_bound (mapped : service.map bundle = .ok outcome) : ∃ packets reply,
    service.buildRequest bundle = .ok (outcome.request, packets) ∧ service.provider.map outcome.request packets = .ok reply ∧
      (OutcomeBound service bundle outcome packets ↔ reply.Conforms service bundle) := by
  obtain ⟨packets, reply, built, replied, accepted⟩ := service_mapped mapped
  refine ⟨packets, reply, built, replied, ?_⟩
  obtain ⟨named, packed⟩ := buildRequest_ok built
  obtain ⟨metadata, count, checked⟩ := accept_ok accepted
  rw [named] at metadata
  have texts (n : Nat) : (∀ p ∈ packets, p.sourceText.length ≤ n) ↔ ∀ c ∈ bundle.candidates, c.sourceText.length ≤ n := by
    have same := buildPackets_texts packed
    constructor
    · intro each c member
      obtain ⟨p, found, text⟩ := (same c.sourceText).mpr ⟨c, member, rfl⟩
      rw [← text]
      exact each p found
    · intro each p member
      obtain ⟨c, found, text⟩ := (same p.sourceText).mp ⟨p, member, rfl⟩
      rw [← text]
      exact each c found
  constructor
  · intro held
    rw [← named] at metadata
    refine ⟨?_, count ▸ held.few, (texts _).mp held.texts⟩
    rw [← named]
    exact metadata.mp held.metadata
  · intro conforms
    refine ⟨?_, count ▸ conforms.few, ?_, (texts _).mpr conforms.texts⟩
    · rw [named]
      exact metadata.mpr conforms.metadata
    · exact fun r member e cited =>
        ⟨located_of_checked (checked r member) e cited, sourced_of_checked (checked r member) e cited⟩

end

/-! ### A provider that makes its results itself -/

namespace Sample
attribute [local instance] standardSha256 asciiPrintable asciiCase

/-- A provider whose results name this model. -/
def resultsOf (model : PyText) : MappingProvider where
  providerProfileRef := PyText.ofString "profile"
  modelIdentifier := PyText.ofString "model"
  modelVersion := PyText.ofString "1"
  map := fun request _ => .ok (.result
    ⟨request.computedDigest, { request.metadata with modelIdentifier := model }, [], [], by decide, List.nodup_nil⟩)

def serviceOf (model : PyText) : MappingService :=
  ⟨resultsOf model, .standard, PyText.ofString "profile", PyText.ofString "model", PyText.ofString "1"⟩

/-- The outcome of one candidate. -/
theorem outcome_bound_model : ∃ outcome packets reply, (serviceOf (PyText.ofString "model")).map passages = .ok outcome ∧
    (OutcomeBound (serviceOf (PyText.ofString "model")) passages outcome packets ↔
      ProviderReply.Conforms (serviceOf (PyText.ofString "model")) passages reply) := by
  have ran : ((serviceOf (PyText.ofString "model")).map passages).toOption.isSome = true := by decide +kernel
  cases taken : (serviceOf (PyText.ofString "model")).map passages with
  | error e =>
    rw [taken] at ran
    cases ran
  | ok outcome =>
    obtain ⟨packets, reply, _, _, exactly⟩ := outcome_bound taken
    exact ⟨outcome, packets, reply, rfl, exactly⟩

/-- The result names another model than the request. -/
theorem outcome_bound_fails : ¬∀ (service : MappingService) (bundle : EvidenceCandidateBundle) (outcome : MappingOutcome)
    (packets : List EvidencePacket), service.map bundle = .ok outcome →
    service.buildRequest bundle = .ok (outcome.request, packets) → OutcomeBound service bundle outcome packets := by
  intro always
  have ran : ((serviceOf (PyText.ofString "other")).map passages).toOption.isSome = true := by decide +kernel
  cases taken : (serviceOf (PyText.ofString "other")).map passages with
  | error e =>
    rw [taken] at ran
    cases ran
  | ok outcome =>
    obtain ⟨packets, reply, built, replied, accepted⟩ := service_mapped taken
    have metadata := (always _ _ _ _ taken built).metadata
    obtain ⟨named, _⟩ := buildRequest_ok built
    obtain rfl : reply = .result ⟨outcome.request.computedDigest,
        { outcome.request.metadata with modelIdentifier := PyText.ofString "other" }, [], [], by decide, List.nodup_nil⟩ :=
      (Except.ok.inj replied).symm
    have other := (accept_ok accepted).1.mp metadata _ rfl
    have models := congrArg MappingMetadata.modelIdentifier other
    rw [named] at models
    have apart : PyText.ofString "other" ≠ (PyText.ofString "model").strip := by decide +kernel
    exact apart models

end Sample
end Molly
