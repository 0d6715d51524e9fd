import Molly.Core.Runs

/-! The append-only run ledger: immutable events and the locked append section. -/
namespace Molly

def eventTypeNames : List String :=
  ["RUN_STARTED", "DECISION_RECORDED", "TOOL_CALL_MATERIALIZED", "APPROVAL_REQUIRED", "APPROVAL_RECORDED",
    "TOOL_CALL_REJECTED", "TOOL_EXECUTION_STARTED", "TOOL_EXECUTION_SUCCEEDED", "TOOL_EXECUTION_FAILED",
    "REVIEW_REQUESTED", "RUN_STOPPED", "RUN_REJECTED", "RUN_FAILED", "BUDGET_EXHAUSTED", "INTENT_FROZEN"]

/-- The event types of `EVENT_TYPES`; a ledger may hold others. -/
inductive EventType where
  | runStarted | decisionRecorded | toolCallMaterialized | approvalRequired | approvalRecorded
  | toolCallRejected | toolExecutionStarted | toolExecutionSucceeded | toolExecutionFailed
  | reviewRequested | runStopped | runRejected | runFailed | budgetExhausted | intentFrozen
  | foreign (name : Identifier) (unlisted : name.text ∉ eventTypeNames)
  deriving DecidableEq

def EventType.name : EventType → String
  | .runStarted => "RUN_STARTED"
  | .decisionRecorded => "DECISION_RECORDED"
  | .toolCallMaterialized => "TOOL_CALL_MATERIALIZED"
  | .approvalRequired => "APPROVAL_REQUIRED"
  | .approvalRecorded => "APPROVAL_RECORDED"
  | .toolCallRejected => "TOOL_CALL_REJECTED"
  | .toolExecutionStarted => "TOOL_EXECUTION_STARTED"
  | .toolExecutionSucceeded => "TOOL_EXECUTION_SUCCEEDED"
  | .toolExecutionFailed => "TOOL_EXECUTION_FAILED"
  | .reviewRequested => "REVIEW_REQUESTED"
  | .runStopped => "RUN_STOPPED"
  | .runRejected => "RUN_REJECTED"
  | .runFailed => "RUN_FAILED"
  | .budgetExhausted => "BUDGET_EXHAUSTED"
  | .intentFrozen => "INTENT_FROZEN"
  | .foreign name _ => name.text

/-- The run-ending types. -/
def EventType.endsRun : EventType → Bool
  | .runStopped | .runRejected | .runFailed | .budgetExhausted => true
  | _ => false

/-- The types that settle a started execution. -/
def EventType.endsExecution : EventType → Bool
  | .toolExecutionSucceeded | .toolExecutionFailed => true
  | _ => false

/-- A digest kept as it was written, bare or with its prefix. -/
structure DigestReference where
  text : String
  valid : isSha256 (String.ofList ((removeSha256Prefix text.toList).getD text.toList)) = true
  deriving DecidableEq

/-- One immutable observation. -/
structure LedgerEvent where
  eventId : Identifier
  runId : Identifier
  eventType : EventType
  stepId : Option Identifier
  status : Option Identifier
  toolName : Option Identifier
  toolVersion : Option Identifier
  inputArtifactIds : ArtifactIds
  outputArtifactIds : ArtifactIds
  modelProfile : JsonObject
  providerProfile : JsonObject
  promptDigest : Option DigestReference
  configDigest : Option DigestReference
  seedMetadata : JsonObject
  timestamp : Timestamp
  metadata : JsonObject
  previousEventSha256 : Option Digest
  eventSha256 : Option Digest
  deriving DecidableEq

def optionalText (text : α → String) : Option α → Json
  | none => .null
  | some value => .str (text value)

namespace LedgerEvent

def toDict (e : LedgerEvent) (includeDigest : Bool) : Fields :=
  [("event_id", .str e.eventId.text), ("run_id", .str e.runId.text),
    ("step_id", optionalText Identifier.text e.stepId), ("event_type", .str e.eventType.name),
    ("status", optionalText Identifier.text e.status),
    ("tool_name", optionalText Identifier.text e.toolName),
    ("tool_version", optionalText Identifier.text e.toolVersion),
    ("input_artifact_ids", e.inputArtifactIds.toJson), ("output_artifact_ids", e.outputArtifactIds.toJson),
    ("model_profile", e.modelProfile.toJson), ("provider_profile", e.providerProfile.toJson),
    ("prompt_digest", optionalText DigestReference.text e.promptDigest),
    ("config_digest", optionalText DigestReference.text e.configDigest),
    ("seed_metadata", e.seedMetadata.toJson), ("timestamp", .str e.timestamp.text),
    ("metadata", e.metadata.toJson),
    ("previous_event_sha256", optionalText Digest.text e.previousEventSha256)] ++
  if includeDigest then [("event_sha256", optionalText Digest.text e.eventSha256)] else []

def computedSha256 [Sha256] (e : LedgerEvent) : Digest := sha256Bytes (Json.obj (e.toDict false)).encode

/-- The call of an event, when its metadata names one. -/
def metadataCallId (e : LedgerEvent) : Option String :=
  match e.metadata.get "call_id" with
  | some (.str callId) => some callId
  | _ => none

end LedgerEvent

/-- The fields a writer chooses; the profiles, digests and seed keep their defaults. -/
structure EventDraft where
  eventType : EventType
  stepId : Option Identifier
  status : Identifier
  toolName : Option Identifier
  toolVersion : Option Identifier
  inputArtifactIds : ArtifactIds
  outputArtifactIds : List ArtifactId
  metadata : Fields

/-- The checks of the constructor that typed fields do not already carry. -/
def LedgerEvent.create (eventId runId : Identifier) (timestamp : Timestamp) (draft : EventDraft) :
    Except PyError LedgerEvent := do
  let outputs ← uniqueArtifactIds "output_artifact_ids" draft.outputArtifactIds
  let metadata ← freezeFields "metadata" draft.metadata
  return {
    eventId, runId, eventType := draft.eventType, stepId := draft.stepId, status := some draft.status,
    toolName := draft.toolName, toolVersion := draft.toolVersion,
    inputArtifactIds := draft.inputArtifactIds, outputArtifactIds := outputs,
    modelProfile := .empty, providerProfile := .empty, promptDigest := none, configDigest := none,
    seedMetadata := .empty, timestamp, metadata, previousEventSha256 := none, eventSha256 := none }

namespace RunLedger

/-- `for_run`. -/
def forRun (runId : Identifier) (events : List LedgerEvent) : List LedgerEvent :=
  events.filter (·.runId = runId)

/-- The link to the last event, and the event's own digest. -/
def chain [Sha256] (existing : List LedgerEvent) (event : LedgerEvent) : LedgerEvent :=
  let previous := existing.getLast?.bind (·.eventSha256)
  let prepared := { event with previousEventSha256 := previous, eventSha256 := none }
  { prepared with eventSha256 := some prepared.computedSha256 }

/-- The locked section of `append`: the event it persists behind the existing ones. -/
def append [Sha256] (existing : List LedgerEvent) (event : LedgerEvent) : Except PyError LedgerEvent :=
  if existing.any (·.eventId = event.eventId) then
    .error ⟨.ledger, "duplicate ledger event ID: " ++ event.eventId.text⟩
  else .ok (chain existing event)

end RunLedger

/-- Two events that differ in their links only. -/
def LedgerEvent.unchained (e : LedgerEvent) : LedgerEvent :=
  { e with previousEventSha256 := none, eventSha256 := none }

@[simp] theorem unchained_chain [Sha256] (existing : List LedgerEvent) (e : LedgerEvent) :
    (RunLedger.chain existing e).unchained = e.unchained := rfl

theorem append_ok [Sha256] {existing : List LedgerEvent} {event persisted : LedgerEvent} :
    RunLedger.append existing event = .ok persisted ↔
      (∀ e ∈ existing, e.eventId ≠ event.eventId) ∧ persisted = RunLedger.chain existing event := by
  unfold RunLedger.append
  split
  · rename_i taken
    simp only [List.any_eq_true, decide_eq_true_eq] at taken
    obtain ⟨e, member, same⟩ := taken
    simp only [reduceCtorEq, false_iff, not_and]
    intro free
    exact absurd same (free e member)
  · rename_i free
    simp only [List.any_eq_true, decide_eq_true_eq, not_exists, not_and] at free
    simp only [Except.ok.injEq]
    exact ⟨fun same => ⟨free, same.symm⟩, fun both => both.2.symm⟩

theorem create_ok {eventId runId : Identifier} {timestamp : Timestamp} {draft : EventDraft}
    (made : LedgerEvent.create eventId runId timestamp draft = .ok e) :
    e.eventId = eventId ∧ e.runId = runId ∧ e.eventType = draft.eventType ∧ e.stepId = draft.stepId ∧
      e.toolName = draft.toolName ∧ e.toolVersion = draft.toolVersion ∧
      e.inputArtifactIds = draft.inputArtifactIds ∧ e.outputArtifactIds.ids = draft.outputArtifactIds ∧
      e.timestamp = timestamp ∧ freezeFields "metadata" draft.metadata = .ok e.metadata := by
  unfold LedgerEvent.create at made
  cases unique : uniqueArtifactIds "output_artifact_ids" draft.outputArtifactIds with
  | error _ => simp [unique, bind, Except.bind] at made
  | ok outputs =>
    cases frozen : freezeFields "metadata" draft.metadata with
    | error _ => simp [unique, frozen, bind, Except.bind] at made
    | ok metadata =>
      simp only [unique, frozen, bind, Except.bind, pure, Except.pure, Except.ok.injEq] at made
      subst made
      exact ⟨rfl, rfl, rfl, rfl, rfl, rfl, rfl, uniqueArtifactIds_ok.mp unique, rfl, rfl⟩

/-- The constructor succeeds exactly on duplicate-free outputs and storable metadata. -/
theorem create_isOk {eventId runId : Identifier} {timestamp : Timestamp} {draft : EventDraft} :
    (∃ e, LedgerEvent.create eventId runId timestamp draft = .ok e) ↔
      draft.outputArtifactIds.Nodup ∧ Json.acceptedFields draft.metadata = true := by
  unfold LedgerEvent.create
  by_cases nodup : draft.outputArtifactIds.Nodup
  · by_cases kept : Json.acceptedFields draft.metadata = true
    · simp [uniqueArtifactIds, nodup, freezeFields_of_accepted kept, bind, Except.bind, pure, Except.pure, kept]
    · have failed : ∃ e, freezeFields "metadata" draft.metadata = .error e := by
        cases frozen : freezeFields "metadata" draft.metadata with
        | error e => exact ⟨e, rfl⟩
        | ok m => exact absurd (freezeFields_ok.mp frozen).1 kept
      obtain ⟨e, failed⟩ := failed
      simp [uniqueArtifactIds, nodup, failed, bind, Except.bind, kept]
  · simp [uniqueArtifactIds, nodup, bind, Except.bind]

end Molly
