import Molly.Run.Store
import Molly.Run.System

/-! The custody of a run's lineage: each relation that names a success of the run states
one of its facts, and every success is projected before anything else is recorded. -/
namespace Molly
open Effect AgentLoop

/-- A relation without its links. -/
def LineageRelation.unchained (r : LineageRelation) : LineageRelation :=
  { r with previousRelationSha256 := none, relationSha256 := none }

@[simp] theorem unchained_lineageChain [Sha256] (existing : List LineageRelation) (candidate : LineageRelation) :
    (ArtifactLineage.chain existing candidate).unchained = candidate.unchained := rfl

theorem accepted_factMetadata (e : LedgerEvent) (callId : String) :
    Json.acceptedFields (factMetadata e callId) = true := by
  simp only [factMetadata, Json.acceptedFields, Json.accepted]
  decide +kernel

/-- The frozen metadata of an execution fact. -/
def factObject (e : LedgerEvent) (callId : String) : JsonObject :=
  ⟨Json.canonFields (factMetadata e callId), acceptedFields_canon _ (accepted_factMetadata e callId),
    canonFields_canonFields _⟩

@[simp] theorem freezeFields_factMetadata (e : LedgerEvent) (callId field : String) :
    freezeFields field (factMetadata e callId) = .ok (factObject e callId) :=
  freezeFields_of_accepted (accepted_factMetadata e callId) field

abbrev Fact := RelationType × Reference × Reference

def LineageRelation.fact (r : LineageRelation) : Fact := (r.relationType, r.subjectId, r.objectId)

/-- The facts of a success event. -/
def factsOf (e : LedgerEvent) : List Fact :=
  match e.stepId with
  | some stepId => executionFacts e stepId
  | none => []

section
variable [Sha256]

/-- The relation that a fact of a success event is recorded as. -/
def factRelation (e : LedgerEvent) (callId : String) (fact : Fact) : LineageRelation :=
  ⟨fact.1, fact.2.1, fact.2.2, executionRelationId e.eventId fact.1 fact.2.1 fact.2.2, e.timestamp,
    factObject e callId, none, none⟩

/-- A relation records a fact of a success event. -/
def Expresses (e : LedgerEvent) (r : LineageRelation) (fact : Fact) : Prop :=
  ∃ callId, e.metadataCallId = some callId ∧ r.unchained = factRelation e callId fact

/-- Every fact of a success event is recorded. -/
def Projected (lineage : List LineageRelation) (e : LedgerEvent) : Prop :=
  ∀ fact ∈ factsOf e, ∃ r ∈ lineage, Expresses e r fact

theorem Projected.mono {lineage more : List LineageRelation} {e : LedgerEvent} (projected : Projected lineage e)
    (sub : lineage ⊆ more) : Projected more e := by
  intro fact member
  obtain ⟨r, found, expresses⟩ := projected fact member
  exact ⟨r, sub found, expresses⟩

namespace Expresses
variable {e : LedgerEvent} {r : LineageRelation} {fact : Fact}

theorem fact_eq (expresses : Expresses e r fact) : r.fact = fact := by
  obtain ⟨callId, _, same⟩ := expresses
  have facts := congrArg LineageRelation.fact same
  exact facts

theorem relationId (expresses : Expresses e r fact) :
    r.relationId = executionRelationId e.eventId fact.1 fact.2.1 fact.2.2 := by
  obtain ⟨callId, _, same⟩ := expresses
  exact congrArg LineageRelation.relationId same

theorem successEventId (expresses : Expresses e r fact) : r.successEventId = some e.eventId.text := by
  obtain ⟨callId, _, same⟩ := expresses
  have metadata : r.metadata = factObject e callId := congrArg LineageRelation.metadata same
  have found : r.metadata.get "success_event_id" = some (.str e.eventId.text) := by
    rw [metadata]
    simp [JsonObject.get, factObject, factMetadata, Json.canon]
  simp [LineageRelation.successEventId, found]

end Expresses

omit [Sha256] in
/-- A mapping whose values are texts has no other form. -/
theorem identified_texts : ∀ {fields texts : Fields}, (∀ f ∈ texts, ∃ s, f.2 = Json.str s) →
    Json.identifiedFields fields = texts → fields = texts
  | [], [], _, _ => rfl
  | [], _ :: _, _, same => by cases same
  | (key, item) :: fields, [], _, same => by cases same
  | (key, item) :: fields, (key', item') :: texts, each, same => by
    simp only [Json.identifiedFields, List.cons.injEq, Prod.mk.injEq] at same
    obtain ⟨⟨rfl, value⟩, rest⟩ := same
    obtain ⟨s, rfl⟩ := each _ List.mem_cons_self
    have tail := identified_texts (fun f member => each f (List.mem_cons_of_mem _ member)) rest
    cases item with
    | str t => simpa [Json.identified, tail] using value
    | float x =>
      simp only [Json.identified] at value
      split at value <;> cases value
    | _ => cases value

omit [Sha256] in
theorem factObject_fields (e : LedgerEvent) (callId : String) : (factObject e callId).fields =
    [("call_id", .str callId), ("run_id", .str e.runId.text), ("success_event_id", .str e.eventId.text)] := rfl

omit [Sha256] in
theorem factObject_identified {e : LedgerEvent} {callId : String} {m : JsonObject} :
    m.toJson.identified = (factObject e callId).toJson.identified ↔ m = factObject e callId := by
  constructor
  · intro same
    have fields : m.fields = (factObject e callId).fields := by
      simp only [JsonObject.toJson, Json.identified, factObject_fields, Json.identifiedFields, Json.obj.injEq] at same
      rw [factObject_fields]
      exact identified_texts (by simp) same
    obtain ⟨_, _, _⟩ := m
    cases fields
    rfl
  · rintro rfl
    rfl

/-- The same fact under the same identifier is the same relation, links aside. -/
theorem sameFact_iff {e : LedgerEvent} {callId : String} {r : LineageRelation} {fact : Fact}
    (same : r.relationId = (factRelation e callId fact).relationId) :
    ArtifactLineage.sameFact r (factRelation e callId fact) = true ↔ r.unchained = factRelation e callId fact := by
  obtain ⟨relationType, subject, object, relationId, createdAt, metadata, previous, digest⟩ := r
  have identified : relationId = (factRelation e callId fact).relationId := same
  subst identified
  simp only [ArtifactLineage.sameFact, Bool.and_eq_true, decide_eq_true_eq, and_assoc]
  simp [LineageRelation.unchained, factRelation, factObject_identified]

/-! ### The discipline -/

def World.events (request : RunRequest) (w : World) : List LedgerEvent := RunLedger.forRun request.runId w.ledger

/-- The events whose artifacts the store must hold. -/
def EventType.needsArtifacts : EventType → Bool
  | .toolCallMaterialized | .toolExecutionSucceeded => true
  | _ => false

/-- The artifacts that an event refers to. -/
def LedgerEvent.artifacts (e : LedgerEvent) : List ArtifactId := e.inputArtifactIds.ids ++ e.outputArtifactIds.ids

/-- What a state root keeps of a run. -/
structure Custody (request : RunRequest) (w : World) : Prop where
  events : (w.ledger.map (·.eventId)).Nodup
  relations : (w.lineage.map (·.relationId)).Nodup
  backed : ∀ r ∈ w.lineage, ∀ id, r.successEventId = some id → ∃ e ∈ w.ledger, e.eventId.text = id
  expected : ∀ e ∈ w.events request, ∀ r ∈ w.lineage, r.successEventId = some e.eventId.text →
    ∃ fact ∈ factsOf e, Expresses e r fact
  projected : ∀ e ∈ (w.events request).dropLast, e.eventType = .toolExecutionSucceeded → Projected w.lineage e
  inputs : w.events request ≠ [] → ∀ id ∈ request.inputArtifactIds.ids, w.Stored id
  artifacts : ∀ e ∈ w.events request, e.eventType.needsArtifacts = true → ∀ id ∈ e.artifacts, w.Stored id

/-- Every success of the run is projected. -/
def Settled (request : RunRequest) (w : World) : Prop :=
  ∀ e ∈ w.events request, e.eventType = .toolExecutionSucceeded → Projected w.lineage e

/-- Nothing is recorded, and the provider is not asked, before every success is
projected; a relation is added for a fact of a success only. -/
def custody (request : RunRequest) : Discipline host World where
  act := World.act
  inv := Custody request
  may
    | .appendEvent e, w => e.runId = request.runId ∧ Settled request w ∧
        (∀ id ∈ request.inputArtifactIds.ids, w.Stored id) ∧
        (e.eventType.needsArtifacts = true → ∀ id ∈ e.artifacts, w.Stored id)
    | .appendRelation _ candidate, w => ∃ e ∈ w.events request, ∃ fact ∈ factsOf e, Expresses e candidate fact
    | .nextAction context _, w => context.runId = request.runId ∧ Settled request w ∧
        ∀ id ∈ request.inputArtifactIds.ids, w.Stored id
    | _, _ => True

namespace Custody
variable {request : RunRequest} {w t : World}

/-- Growth of the store alone. -/
theorem grows (custody : Custody request w) (grows : w.Grows t) (ledger : t.ledger = w.ledger)
    (lineage : t.lineage = w.lineage) : Custody request t := by
  have events : t.events request = w.events request := by simp only [World.events, ledger]
  constructor
  · rw [ledger]
    exact custody.events
  · rw [lineage]
    exact custody.relations
  · rw [ledger, lineage]
    exact custody.backed
  · rw [events, lineage]
    exact custody.expected
  · rw [events, lineage]
    exact custody.projected
  · rw [events]
    intro begun id member
    exact grows.stored (custody.inputs begun id member)
  · rw [events]
    intro e member needs id artifact
    exact grows.stored (custody.artifacts e member needs id artifact)

theorem event_unique (custody : Custody request w) {a b : LedgerEvent} (left : a ∈ w.events request)
    (right : b ∈ w.events request) (same : a.eventId = b.eventId) : a = b :=
  List.inj_on_of_nodup_map custody.events (List.mem_filter.mp left).1 (List.mem_filter.mp right).1 same

/-- One more event of the run. -/
theorem append (custody : Custody request w) (settled : Settled request w)
    (inputs : ∀ id ∈ request.inputArtifactIds.ids, w.Stored id) {event persisted : LedgerEvent}
    (run : event.runId = request.runId)
    (artifacts : event.eventType.needsArtifacts = true → ∀ id ∈ event.artifacts, w.Stored id)
    (written : RunLedger.append w.ledger event = .ok persisted) :
    Custody request { w with ledger := w.ledger ++ [persisted] } := by
  obtain ⟨free, rfl⟩ := append_ok.mp written
  have known : World.events request { w with ledger := w.ledger ++ [RunLedger.chain w.ledger event] } =
      w.events request ++ [RunLedger.chain w.ledger event] := forRun_snoc w.ledger run
  constructor
  · rw [List.map_append, List.nodup_append]
    refine ⟨custody.events, List.nodup_singleton _, ?_⟩
    intro id member other last
    obtain ⟨e, there, rfl⟩ := List.mem_map.mp member
    obtain rfl : other = event.eventId := List.mem_singleton.mp last
    exact free e there
  · exact custody.relations
  · intro r member id named
    obtain ⟨e, there, same⟩ := custody.backed r member id named
    exact ⟨e, List.mem_append_left _ there, same⟩
  · rw [known]
    apply forall_snoc custody.expected
    intro r member named
    obtain ⟨e, there, same⟩ := custody.backed r member _ named
    exact absurd (Identifier.ext same) (free e there)
  · rw [known, List.dropLast_concat]
    exact settled
  · intro _
    exact inputs
  · rw [known]
    exact forall_snoc custody.artifacts artifacts

/-- One more relation, for a fact of a success. -/
theorem relate (custody : Custody request w) {memory : LineageMemory} {candidate persisted : LineageRelation}
    {e : LedgerEvent} {fact : Fact} (member : e ∈ w.events request) (stated : fact ∈ factsOf e)
    (expresses : Expresses e candidate fact)
    (written : ArtifactLineage.append memory w.lineage candidate = .ok persisted) :
    Custody request { w with lineage := w.lineage ++ [persisted] } := by
  obtain ⟨_, free, rfl⟩ := lineage_append_ok.mp written
  have states : Expresses e (ArtifactLineage.chain w.lineage candidate) fact := expresses
  constructor
  · exact custody.events
  · rw [List.map_append, List.nodup_append]
    refine ⟨custody.relations, List.nodup_singleton _, ?_⟩
    intro id found other last
    obtain ⟨r, there, rfl⟩ := List.mem_map.mp found
    obtain rfl : other = candidate.relationId := List.mem_singleton.mp last
    exact free r there
  · apply forall_snoc custody.backed
    intro id named
    rw [states.successEventId, Option.some.injEq] at named
    exact ⟨e, (List.mem_filter.mp member).1, named⟩
  · intro f there
    apply forall_snoc (custody.expected f there)
    intro named
    rw [states.successEventId, Option.some.injEq] at named
    obtain rfl := custody.event_unique member there (Identifier.ext named)
    exact ⟨fact, stated, states⟩
  · intro f there success
    exact (custody.projected f there success).mono (List.subset_append_left _ _)
  · exact custody.inputs
  · exact custody.artifacts

/-- What a provider appends for the run. -/
theorem freezes (custody : Custody request w) (settled : Settled request w)
    (inputs : ∀ id ∈ request.inputArtifactIds.ids, w.Stored id) {ledger : List LedgerEvent}
    (frozen : FreezesIntents request.runId w.ledger ledger) :
    Custody request { w with ledger := ledger } ∧ Settled request { w with ledger := ledger } := by
  induction frozen with
  | none => exact ⟨custody, settled⟩
  | @append before event persisted frozen written run eventType _ ih =>
    obtain ⟨kept, projected⟩ := ih
    refine ⟨kept.append projected inputs run (by simp [eventType, EventType.needsArtifacts]) written, ?_⟩
    obtain ⟨_, rfl⟩ := append_ok.mp written
    have known : World.events request { w with ledger := before ++ [RunLedger.chain before event] } =
        World.events request { w with ledger := before } ++ [RunLedger.chain before event] := forRun_snoc before run
    unfold Settled
    rw [known]
    apply forall_snoc projected
    intro success
    cases eventType.symm.trans success

end Custody

/-- The store only grows. -/
theorem World.grows_of_act {op : Op} {w t : World} {reply : op.Reply} (acted : World.act op w reply t) : w.Grows t := by
  cases op with
  | snapshot | readEvents | readRelations | readObject | readRecord =>
    obtain ⟨_, rfl⟩ := acted
    exact .refl _
  | newId =>
    obtain ⟨_, _, rfl⟩ := acted
    exact .refl _
  | now =>
    cases acted
    exact .refl _
  | appendEvent | appendRelation =>
    obtain ⟨_, rfl⟩ := acted
    exact ⟨fun _ _ same => same, fun _ _ same => same⟩
  | linkObject | linkRecord => exact (restocked_of_act (by trivial) acted).grows
  | nextAction =>
    obtain ⟨_, _, grows, _⟩ := acted
    exact grows
  | execute =>
    obtain ⟨_, _, grows, _⟩ := acted
    exact grows

/-- The step lemma: a permitted request keeps the custody. -/
theorem custody_act {request : RunRequest} (op : Op) {w t : World} (reply : op.Reply) (holds : Custody request w)
    (may : (custody request).may op w) (acted : World.act op w reply t) : Custody request t := by
  have grows := World.grows_of_act acted
  cases op with
  | snapshot | readEvents | readRelations | readObject | readRecord | linkObject | linkRecord =>
    obtain ⟨_, rfl⟩ := acted
    exact holds.grows grows rfl rfl
  | newId =>
    obtain ⟨_, _, rfl⟩ := acted
    exact holds
  | now =>
    cases acted
    exact holds
  | appendEvent event =>
    obtain ⟨rfl, rfl⟩ := acted
    obtain ⟨run, settled, inputs, artifacts⟩ := may
    cases written : RunLedger.append w.ledger event with
    | error _ =>
      rw [written] at grows
      exact holds.grows grows (List.append_nil _) rfl
    | ok persisted => exact holds.append settled inputs run artifacts written
  | appendRelation memory candidate =>
    obtain ⟨rfl, rfl⟩ := acted
    obtain ⟨e, member, fact, stated, expresses⟩ := may
    cases written : ArtifactLineage.append memory w.lineage candidate with
    | error _ =>
      rw [written] at grows
      exact holds.grows grows rfl (List.append_nil _)
    | ok persisted => exact holds.relate member stated expresses written
  | nextAction context tools =>
    obtain ⟨frozen, lineage, grown, _⟩ := acted
    obtain ⟨run, settled, inputs⟩ := may
    rw [run] at frozen
    exact (holds.freezes settled inputs frozen).1.grows ⟨grown.objects, grown.records⟩ rfl lineage
  | execute =>
    obtain ⟨ledger, lineage, grown, _⟩ := acted
    exact holds.grows grown ledger lineage

end
end Molly
