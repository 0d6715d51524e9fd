import Molly.Core.AgentLoop
import Molly.Oled.Texts

/-! The read-only inspection of one run: what is checked of the ledger, the lineage and the
store before the run is projected, and the projection. -/
namespace Molly
open AgentLoop

def integrity (message : String) : PyError := ⟨.inspectionIntegrity, message⟩

/-! ### The records that an inspector reads -/

namespace RunLedger

/-- The checks of `_read_events` on the events of a file's lines. -/
def readFrom [Sha256] (previous : Option Digest) (seen : List Identifier) :
    List LedgerEvent → Except PyError (List LedgerEvent)
  | [] => .ok []
  | event :: events =>
    match event.eventSha256 with
    | none => .error ⟨.ledgerCorruption, "persisted ledger event has no digest"⟩
    | some digest => do
      ensure (event.computedSha256 = digest) ⟨.ledgerCorruption, "ledger event digest mismatch"⟩
      ensure (event.eventId ∉ seen) ⟨.ledgerCorruption, "ledger contains a duplicate event ID"⟩
      ensure (event.previousEventSha256 = previous) ⟨.ledgerCorruption, "ledger event chain is discontinuous"⟩
      let rest ← readFrom (some digest) (event.eventId :: seen) events
      return event :: rest

end RunLedger

namespace ArtifactLineage

/-- The checks of `_read_relations` on the relations of a file's lines. -/
def readFrom [Sha256] (memory : LineageMemory) (previous : Option Digest) (seen : List Identifier) :
    List LineageRelation → Except PyError (List LineageRelation)
  | [] => .ok []
  | relation :: relations =>
    match relation.relationSha256 with
    | none => .error ⟨.lineage, "persisted lineage record has no digest"⟩
    | some digest => do
      ensure (relation.computedSha256 = digest) ⟨.lineage, "lineage record digest mismatch"⟩
      ensure (relation.relationId ∉ seen) ⟨.lineage, "lineage contains a duplicate relation ID"⟩
      ensure (relation.previousRelationSha256 = previous) ⟨.lineage, "lineage relation chain is discontinuous"⟩
      memory.checkKnown relation.subjectId relation.objectId
      let rest ← readFrom memory (some digest) (relation.relationId :: seen) relations
      return relation :: rest

end ArtifactLineage

/-- The three stores of a state root, as one inspector finds them. -/
structure RunInspector where
  /-- Whether `store.verify` returns for an identity. -/
  verifies : String → Bool
  ledger : List LedgerEvent
  memory : LineageMemory
  lineage : List LineageRelation

/-! ### Projections -/

def EventType.isCall : EventType → Bool
  | .toolCallMaterialized | .approvalRequired | .approvalRecorded | .toolCallRejected | .toolExecutionStarted
  | .toolExecutionSucceeded | .toolExecutionFailed => true
  | _ => false

inductive ApprovalStatus where
  | required
  | decided (decision : ApprovalDecision)
  deriving DecidableEq, Repr

def ApprovalStatus.value : ApprovalStatus → String
  | .required => "REQUIRED"
  | .decided decision => decision.value

inductive ExecutionStatus where
  | rejected | interrupted | succeeded | failed | pending
  deriving DecidableEq, Repr

def ExecutionStatus.value : ExecutionStatus → String
  | .rejected => "REJECTED"
  | .interrupted => "INTERRUPTED"
  | .succeeded => "SUCCEEDED"
  | .failed => "FAILED"
  | .pending => "PENDING"

/-- A read-only projection of one exact materialized tool call. -/
structure ToolCallInspection where
  callId : Identifier
  stepId : Identifier
  toolName : Identifier
  toolVersion : Identifier
  toolSpecDigest : Digest
  toolCallDigest : Digest
  arguments : JsonObject
  inputArtifactIds : ArtifactIds
  outputArtifactIds : ArtifactIds
  approvalRequired : Bool
  approvalStatus : Option ApprovalStatus
  executionStatus : ExecutionStatus
  reasonSummary : Summary
  resultData : Json
  resultDataSha256 : Option Digest
  failureType : Option Identifier
  eventIds : List Identifier
  deriving DecidableEq

/-- `execution_status == "PENDING"`. -/
def ToolCallInspection.isPending (call : ToolCallInspection) : Bool := call.executionStatus = .pending

/-- Pending, asked for, and not decided. -/
def ToolCallInspection.awaitsApproval (call : ToolCallInspection) : Bool :=
  call.isPending && call.approvalStatus = some .required

inductive ReviewState where
  | waitingReview | requested
  deriving DecidableEq, Repr

/-- The canonical projection of one run. -/
structure RunInspection where
  runId : Identifier
  requestDigest : Digest
  goal : String
  initialArtifactIds : ArtifactIds
  policyDigest : Digest
  status : RunStatus
  decisionCount : Nat
  toolCallCount : Nat
  stepCount : Nat
  materializedCalls : List ToolCallInspection
  pendingCall : Option JsonObject
  reviewRequestState : Option ReviewState
  failureSummary : List JsonObject
  lineageRelations : List JsonObject
  finalArtifactIds : List ArtifactId
  referencedArtifactIds : List ArtifactId
  eventIds : List Identifier
  ledgerSha256 : Digest
  lineageSha256 : Digest
  runtimeProfileRef : Option Identifier
  runtimeProfileDigest : Option Digest
  deriving DecidableEq

namespace Json

def isScalar : Json → Bool
  | .arr _ | .obj _ => false
  | _ => true

/-- What a metadata filter lets through of one value. -/
def scalars : Json → Option Json
  | .arr items => some (.arr (items.filter isScalar))
  | .obj _ => none
  | value => some value

end Json

def safeMetadataKeys : List String :=
  ["run_id", "call_id", "success_event_id", "profile_ref", "provider_profile_ref", "model_identifier",
    "model_version", "job_id", "job_handle_id", "config_digest", "task_digest", "execution_config_digest",
    "seed", "seed_value", "resource_profile_ref", "status"]

def hasSuffix (text suffix : String) : Bool := suffix.toList.isSuffixOf text.toList

/-- `_safe_metadata`. -/
def safeMetadata (value : JsonObject) : Fields :=
  value.fields.filterMap fun field =>
    if field.1 ∈ safeMetadataKeys || hasSuffix field.1 "_id" || hasSuffix field.1 "_ref" || hasSuffix field.1 "_digest"
    then field.2.scalars.map fun item => (field.1, item)
    else none

/-- `_digest_json`. -/
def digestJson [Sha256] (value : Json) : Except PyError Digest := sha256Bytes <$> canonicalJsonBytes value

/-- `metadata.get(key)`, which is `None` for a missing key. -/
def LedgerEvent.metadataGet (e : LedgerEvent) (key : String) : Json := (e.metadata.get key).getD .null

namespace RunInspector
variable [Sha256]

/-! ### The request of a run -/

/-- `_request_from_start`. -/
def requestFromStart (start : LedgerEvent) : Except PyError RunRequest :=
  match start.metadata.get "request" with
  | some (.obj raw) => do
    let malformed := "RUN_STARTED request binding is malformed"
    let request ← orRaise (RunRequest.fromDict (.obj raw)) .inspectionIntegrity malformed
    let digest ← orRaise (validateDigestReference "request_digest"
      (pyStr ((start.metadata.get "request_digest").getD (.str "")))) .inspectionIntegrity malformed
    ensure (request.requestSha256 = digest && request.runId = start.runId)
      (integrity "RUN_STARTED request binding is inconsistent")
    let recorded ← pyTuple ((start.metadata.get "initial_artifact_ids").getD (.arr []))
    ensure (recorded = request.inputArtifactIds.ids.map fun id => .str id.text)
      (integrity "RUN_STARTED input binding is inconsistent")
    ensure (start.metadataGet "policy_digest" = .str request.toolPolicyDigest.text)
      (integrity "RUN_STARTED policy binding is inconsistent")
    return request
  | _ => .error (integrity "RUN_STARTED is missing its immutable request")

/-! ### The calls of a run -/

/-- `_call_id`. -/
def callId (event : LedgerEvent) : Except PyError (Option Identifier) :=
  match event.metadataGet "call_id" with
  | .null => .ok none
  | .str value =>
    some <$> orRaise (validateIdentifier "call_id" value) .inspectionIntegrity "call event has an invalid call_id"
  | _ => .error (integrity "call event has a malformed call_id")

/-- One entry of `materialized`, `materialized_events` and `related`. -/
structure CallEvents where
  call : MaterializedToolCall
  event : LedgerEvent
  related : List LedgerEvent

/-- A materialization event, checked against the call in it. -/
def materialize (known : List CallEvents) (callId : Option Identifier) (event : LedgerEvent) :
    Except PyError (List CallEvents) :=
  match event.metadata.get "materialized_call" with
  | some (.obj raw) => do
    let call ← orRaise (MaterializedToolCall.fromDict (.obj raw)) .inspectionIntegrity "materialized call is malformed"
    ensure (callId = some call.callId && event.stepId = some call.stepId)
      (integrity "materialized call identity is inconsistent")
    ensure (event.toolName = some call.toolName && event.toolVersion = some call.toolVersion)
      (integrity "materialized call tool identity is inconsistent")
    ensure (event.inputArtifactIds = call.inputArtifactIds)
      (integrity "materialized call input identity is inconsistent")
    ensure (event.metadataGet "tool_call_digest" = .str call.digest.text)
      (integrity "materialized call digest is inconsistent")
    ensure (known.all fun entry => entry.call.callId ≠ call.callId)
      (integrity "run contains duplicate materialized call IDs")
    return known ++ [⟨call, event, []⟩]
  | _ => .error (integrity "materialized call event is missing its call")

/-- `related[call_id].append(event)`. -/
def CallEvents.attach (callId : Identifier) (event : LedgerEvent) (entry : CallEvents) : CallEvents :=
  if entry.call.callId = callId then { entry with related := entry.related ++ [event] } else entry

/-- The first loop of `_project_calls`, one event. -/
def collectCall (known : List CallEvents) (event : LedgerEvent) : Except PyError (List CallEvents) := do
  let callId ← callId event
  if event.eventType = .toolCallMaterialized then materialize known callId event
  else
    match callId with
    | none => return known
    | some callId => do
      ensure event.eventType.isCall (integrity "non-call event contains a call_id")
      ensure (known.any fun entry => entry.call.callId = callId)
        (integrity "call event precedes or omits materialization")
      return known.map (CallEvents.attach callId event)

def collectCalls (events : List LedgerEvent) : Except PyError (List CallEvents) := events.foldlM collectCall []

/-- The checks of one event of a call. -/
def checkRelated (call : MaterializedToolCall) (event : LedgerEvent) : Except PyError Unit := do
  ensure (event.stepId = some call.stepId) (integrity "call event step identity is inconsistent")
  ensure (event.toolName = some call.toolName && event.toolVersion = some call.toolVersion)
    (integrity "call event tool identity is inconsistent")
  ensure (event.inputArtifactIds = call.inputArtifactIds) (integrity "call event input identity is inconsistent")
  ensure (event.metadataGet "tool_call_digest" = .null ||
    event.metadataGet "tool_call_digest" = .str call.digest.text) (integrity "call event digest is inconsistent")

/-- The approval record of a call, bound to it. -/
def approvalOf (call : MaterializedToolCall) : List LedgerEvent → Except PyError (Option ApprovalRecord)
  | [] => .ok none
  | [event] =>
    match event.metadata.get "approval" with
    | some (.obj raw) => some <$> orRaise (do
        let approval ← ApprovalRecord.fromDict (.obj raw)
        approval.assertBindsTo call
        return approval) .inspectionIntegrity "approval is not bound to its call"
    | _ => .error (integrity "approval event is missing its record")
  | _ => .error (integrity "call has multiple approval records")

/-- `_validate_result_data`. -/
def validateResultData (event : LedgerEvent) : Except PyError (Json × Digest) :=
  match event.metadata.get "result_data", event.metadata.get "result_data_sha256" with
  | some value, some recorded => do
    let malformed := "successful execution result data is malformed"
    let encoded ← orRaise (canonicalJsonBytes value) .inspectionIntegrity malformed
    let recorded ← orRaise (validateDigestReference "result_data_sha256" (pyStr recorded)) .inspectionIntegrity malformed
    ensure (encoded.length ≤ maxToolResultDataBytes && sha256Bytes encoded = recorded)
      (integrity "successful execution result data integrity failed")
    return (value, sha256Bytes encoded)
  | _, _ => .error (integrity "successful execution is missing durable result data")

def executionStatus (approval : Option ApprovalRecord) (started terminal : List LedgerEvent) : ExecutionStatus :=
  if approval.any (·.decision = .rejected) then .rejected
  else if !started.isEmpty && terminal.isEmpty then .interrupted
  else
    match terminal with
    | [] => .pending
    | last :: _ => if last.eventType = .toolExecutionSucceeded then .succeeded else .failed

/-- The error type that a failure event records. -/
def failureType (event : LedgerEvent) : Except PyError (Option Identifier) :=
  match event.metadataGet "error_type" with
  | .null => .ok none
  | .str raw => some <$> validateIdentifier "failure_type" raw
  | _ => .error (integrity "failure event error_type is malformed")

/-- What the terminal event of a call adds to its projection. -/
structure Outcome where
  outputs : ArtifactIds
  data : Json
  digest : Option Digest
  failure : Option Identifier

def outcomeOf : List LedgerEvent → Except PyError Outcome
  | [] => .ok ⟨.none, .null, none, none⟩
  | event :: _ =>
    if event.eventType = .toolExecutionSucceeded then do
      let result ← validateResultData event
      return ⟨event.outputArtifactIds, result.1, some result.2, none⟩
    else do
      let failure ← failureType event
      return ⟨.none, .null, none, failure⟩

def approvalStatus (required : Bool) (approval : Option ApprovalRecord) : Option ApprovalStatus :=
  match approval with
  | some approval => some (.decided approval.decision)
  | none => if required then some .required else none

/-- The second loop of `_project_calls`, one call. -/
def projectCall (entry : CallEvents) : Except PyError ToolCallInspection := do
  let call := entry.call
  entry.related.forM (checkRelated call)
  let approval ← approvalOf call (ofType .approvalRecorded entry.related)
  let required := entry.related.any (·.eventType = .approvalRequired)
  let rejected := ofType .toolCallRejected entry.related
  let started := ofType .toolExecutionStarted entry.related
  let terminal := entry.related.filter (·.eventType.endsExecution)
  ensure (rejected.length ≤ 1 && started.length ≤ 1 && terminal.length ≤ 1)
    (integrity "call has duplicate lifecycle events")
  ensure (rejected.isEmpty || approval.isSome) (integrity "rejected call has no approval record")
  ensure (rejected.isEmpty || approval.all (·.decision = .rejected))
    (integrity "rejected call approval decision is inconsistent")
  let outcome ← outcomeOf terminal
  return {
    callId := call.callId, stepId := call.stepId, toolName := call.toolName, toolVersion := call.toolVersion,
    toolSpecDigest := call.toolSpecDigest, toolCallDigest := call.digest, arguments := call.arguments.object,
    inputArtifactIds := call.inputArtifactIds, outputArtifactIds := outcome.outputs, approvalRequired := required,
    approvalStatus := approvalStatus required approval,
    executionStatus := executionStatus approval started terminal, reasonSummary := call.reasonSummary,
    resultData := outcome.data, resultDataSha256 := outcome.digest, failureType := outcome.failure,
    eventIds := entry.event.eventId :: entry.related.map (·.eventId) }

/-- `_project_calls`: the calls, and the last one that waits for its approval. -/
def projectCalls (events : List LedgerEvent) :
    Except PyError (List ToolCallInspection × Option MaterializedToolCall) := do
  let known ← collectCalls events
  let calls ← known.mapM projectCall
  let pending := ((known.zip calls).filter (·.2.awaitsApproval)).getLast?
  ensure ((calls.filter ToolCallInspection.isPending).length ≤ 1)
    (integrity "run contains multiple unresolved tool calls")
  return (calls, pending.map (·.1.call))

/-! ### The status of a run -/

def terminalStatus : EventType → RunStatus
  | .runStopped => .stopped
  | .runRejected => .rejected
  | .runFailed => .failed
  | _ => .budgetExhausted

/-- A start whose call has no terminal event. -/
def unfinished (events : List LedgerEvent) (event : LedgerEvent) : Bool :=
  event.eventType = .toolExecutionStarted && !events.any fun later =>
    later.eventType.endsExecution && later.metadataGet "call_id" = event.metadataGet "call_id"

/-- `_status`; an unresolved call leaves a run as active as any other. -/
def status (events : List LedgerEvent) (pending : Option MaterializedToolCall) : Except PyError RunStatus :=
  match (events.filter (·.eventType.endsRun)).getLast? with
  | some terminal =>
    if lastIs events terminal then .ok (terminalStatus terminal.eventType)
    else .error (integrity "events follow a terminal run event")
  | none =>
    if events.any (unfinished events) then .ok .interrupted
    else if pending.isSome then .ok .waitingApproval
    else if events.getLast?.any (·.eventType = .reviewRequested) then .ok .waitingReview
    else .ok .active

/-! ### The inspection of a run -/

def referencedByEvent (event : LedgerEvent) : List ArtifactId :=
  event.inputArtifactIds.ids ++ event.outputArtifactIds.ids

/-- The identities that `_verify_all_artifact_references` looks up. -/
def references (events : List LedgerEvent) (relations : List LineageRelation) : List String :=
  (events.flatMap fun event => (referencedByEvent event).map ArtifactId.text) ++
    (relations.flatMap fun relation => [relation.subjectId.text, relation.objectId.text]).filter fun identity =>
      "sha256:".toList.isPrefixOf identity.toList

/-- `_verify_artifact`. -/
def verifyArtifact (inspector : RunInspector) (artifactId : String) : Except PyError Unit :=
  ensure (inspector.verifies artifactId) (integrity "inspection references an unavailable or corrupt artifact")

def failureFields (event : LedgerEvent) : Fields :=
  [("event_id", .str event.eventId.text), ("call_id", event.metadataGet "call_id"),
    ("tool_name", optionalText Identifier.text event.toolName), ("error_type", event.metadataGet "error_type")]

/-- `_lineage_for_run`. -/
def lineageForRun (runId : Identifier) (events : List LedgerEvent) (relations : List LineageRelation) : List Fields :=
  let steps := events.filterMap fun event => event.stepId.map Identifier.text
  (relations.filter fun relation =>
    let owner := (relation.metadata.get "run_id").getD .null
    owner = .str runId.text || (owner = .null && (relation.subjectId.text ∈ steps || relation.objectId.text ∈ steps))).map
  fun relation => (relation.toDict true).map fun field =>
    if field.1 = "metadata" then (field.1, .obj (safeMetadata relation.metadata)) else field

def reviewState (events : List LedgerEvent) : Option ReviewState :=
  if events.any (·.eventType = .reviewRequested) then
    some (if events.getLast?.any (·.eventType = .reviewRequested) then .waitingReview else .requested)
  else none

def profileRef (request : RunRequest) : Except PyError (Option Identifier) :=
  match (request.metadata.get "runtime_profile_ref").getD .null with
  | .null => .ok none
  | .str value => some <$> validateIdentifier "runtime_profile_ref" value
  | _ => .error (integrity "runtime profile reference is malformed")

def profileDigest (request : RunRequest) : Except PyError (Option Digest) :=
  match (request.metadata.get "runtime_profile_digest").getD .null with
  | .null => .ok none
  | value => some <$> orRaise (validateDigestReference "runtime_profile_digest" (pyStr value)) .inspectionIntegrity
      "runtime profile digest is malformed"

/-- The only start of a run, at its head. -/
def startOf (events : List LedgerEvent) : Except PyError LedgerEvent :=
  match events with
  | [] => .error ⟨.inspection, "run was not found"⟩
  | first :: _ =>
    if (ofType .runStarted events).length = 1 && first.eventType = .runStarted then .ok first
    else .error (integrity "run must start with exactly one RUN_STARTED event")

/-- `inspect_run`. -/
def inspectRun (inspector : RunInspector) (runId : Identifier) : Except PyError RunInspection := do
  let all ← orRaise (RunLedger.readFrom none [] inspector.ledger) .inspectionIntegrity
    "RunLedger integrity verification failed"
  let events := RunLedger.forRun runId all
  let start ← startOf events
  let request ← requestFromStart start
  let relations ← orRaise (ArtifactLineage.readFrom inspector.memory none [] inspector.lineage) .inspectionIntegrity
    "ArtifactLineage integrity verification failed"
  request.inputArtifactIds.ids.forM fun id => inspector.verifyArtifact id.text
  (references all relations).forM inspector.verifyArtifact
  let (calls, pending) ← projectCalls events
  let status ← status events pending
  let final := calls.foldl (fun ids call => addVisible ids call.outputArtifactIds.ids) request.inputArtifactIds.ids
  let referenced := addVisible (events.foldl (fun ids event => addVisible ids (referencedByEvent event)) []) final
  let ledgerDigest ← digestJson (.arr (all.map fun event => .obj (event.toDict true)))
  let lineageDigest ← digestJson (.arr (relations.map fun relation => .obj (relation.toDict true)))
  let runtimeProfileRef ← profileRef request
  let runtimeProfileDigest ← profileDigest request
  let pendingCall ← freezeOptional "pending inspection call" (pending.map (·.toDict))
  let failures ← ((ofType .toolExecutionFailed events).map failureFields).mapM (freezeFields "failure summary")
  let lineage ← (lineageForRun runId events relations).mapM (freezeFields "inspection lineage relation")
  return {
    runId := request.runId, requestDigest := request.requestSha256, goal := request.goal,
    initialArtifactIds := request.inputArtifactIds, policyDigest := request.toolPolicyDigest, status,
    decisionCount := (ofType .decisionRecorded events).length,
    toolCallCount := (ofType .toolCallMaterialized events).length,
    stepCount := ((ofType .toolCallMaterialized events).filterMap (·.stepId)).dedup.length,
    materializedCalls := calls, pendingCall, reviewRequestState := reviewState events, failureSummary := failures,
    lineageRelations := lineage, finalArtifactIds := final, referencedArtifactIds := referenced,
    eventIds := events.map (·.eventId), ledgerSha256 := ledgerDigest, lineageSha256 := lineageDigest,
    runtimeProfileRef, runtimeProfileDigest }

/-- `events_for_run`. -/
def eventsForRun (inspector : RunInspector) (runId : Identifier) : Except PyError (List LedgerEvent) := do
  let _ ← inspector.inspectRun runId
  let all ← orRaise (RunLedger.readFrom none [] inspector.ledger) .inspectionIntegrity
    "RunLedger integrity verification failed"
  return RunLedger.forRun runId all

end RunInspector
end Molly
