import Molly.Core.Host

/-! The single bounded execution authority: projection of a run, and the turns of
`AgentLoop.run`. -/
namespace Molly
open Effect

structure CallState where
  call : MaterializedToolCall
  approvalRequired : Bool
  approval : Option ApprovalRecord
  approvalEvent : Option LedgerEvent
  rejectedEvent : Option LedgerEvent
  startedEvent : Option LedgerEvent
  terminalEvent : Option LedgerEvent

namespace CallState

/-- Neither started nor settled. -/
def unstarted (state : CallState) : Bool := state.terminalEvent.isNone && state.startedEvent.isNone

def awaitsApproval (state : CallState) : Bool :=
  state.unstarted && state.approvalRequired && state.approval.isNone

def awaitsExecution (state : CallState) : Bool :=
  state.unstarted && (!state.approvalRequired || state.approval.any (·.decision = .approved))

def isInterrupted (state : CallState) : Bool := state.startedEvent.isSome && state.terminalEvent.isNone

end CallState

structure RunProjection where
  events : List LedgerEvent
  callStates : List CallState
  pendingApproval : Option CallState
  pendingExecution : Option CallState
  interrupted : Bool
  waitingReview : Bool
  terminalEvent : Option LedgerEvent

/-- Safety limits for one run. -/
structure ServerRunHardLimits where
  maxDecisions : Nat
  maxToolCalls : Nat
  maxSteps : Nat
  deriving DecidableEq

def serverRunHardLimits : ServerRunHardLimits := ⟨12, 8, 8⟩

/-- An identifier written out in the source. -/
def word (text : String) (valid : isIdentifier text = true := by decide +kernel) : Identifier := ⟨text, valid⟩

theorem isIdentifier_approved : isIdentifier "APPROVED" = true := by decide +kernel

theorem isIdentifier_rejected : isIdentifier "REJECTED" = true := by decide +kernel

def ApprovalDecision.status : ApprovalDecision → Identifier
  | .approved => word "APPROVED" isIdentifier_approved
  | .rejected => word "REJECTED" isIdentifier_rejected

/-- The configuration of a loop. The store, the ledger, the lineage, the clock, the
provider and the executors are the host's. -/
structure AgentLoop where
  registry : ToolRegistry
  policy : ToolPolicy

namespace AgentLoop
variable [Sha256]

def runState (message : String) : PyError := ⟨.runState, message⟩

/-! ### Projection -/

/-- `_validated_success_result_data`. -/
def validatedSuccessResultData (event : LedgerEvent) : Except PyError (Json × Digest) := do
  if event.eventType ≠ .toolExecutionSucceeded then
    throw (runState "only successful execution events contain result data")
  match event.metadata.get "result_data", event.metadata.get "result_data_sha256" with
  | some resultData, some recorded =>
    let invalid := "successful execution contains invalid result data"
    let encoded ← orRaise (canonicalJsonBytes resultData) .runState invalid
    let normalized ← match recorded with
      | .str text => orRaise (validateDigestReference "result_data_sha256" text) .runState invalid
      | _ => throw (runState invalid)
    if encoded.length > maxToolResultDataBytes then
      throw (runState "successful execution result data exceeds its bounded size")
    if normalized ≠ sha256Bytes encoded then
      throw (runState "successful execution result data digest mismatch")
    return (resultData, sha256Bytes encoded)
  | _, _ => throw (runState "successful execution is missing durable result data")

/-- `_call_id_for_event`. -/
def callIdForEvent (event : LedgerEvent) : Except PyError Identifier :=
  match event.metadataCallId with
  | none => .error (runState (event.eventType.name ++ " is missing call_id"))
  | some callId => validateIdentifier "call_id" callId

def isObject : Json → Bool
  | .obj _ => true
  | _ => false

/-- The call of a materialization event. -/
def materializedCall (event : LedgerEvent) : Except PyError MaterializedToolCall := do
  match event.metadata.get "materialized_call" with
  | some (.obj raw) =>
    let call ← orRaise (MaterializedToolCall.fromDict (.obj raw)) .runState
      "materialization event contains an invalid call"
    let callId ← callIdForEvent event
    if call.callId ≠ callId || event.stepId ≠ some call.stepId then
      throw (runState "materialization event identity disagrees with its call")
    if event.toolName ≠ some call.toolName || event.toolVersion ≠ some call.toolVersion then
      throw (runState "materialization event tool identity disagrees with its call")
    if event.inputArtifactIds ≠ call.inputArtifactIds then
      throw (runState "materialization event input identity disagrees with its call")
    return call
  | _ => throw (runState "materialization event is missing its exact call")

/-- The first loop of `_project`, one event: its checks, and the call it materializes. -/
def collectEvent (event : LedgerEvent) : Except PyError (List MaterializedToolCall) := do
  if event.eventType = .toolExecutionSucceeded then
    let _ ← validatedSuccessResultData event
  let calls ← if event.eventType = .toolCallMaterialized then
      (fun call => [call]) <$> materializedCall event
    else pure []
  if event.metadataCallId.isSome then
    let _ ← callIdForEvent event
  return calls

def collect : List LedgerEvent → Except PyError (List MaterializedToolCall)
  | [] => .ok []
  | event :: events => do
    let calls ← collectEvent event
    return calls ++ (← collect events)

/-- `by_call.get(call.call_id, [])`. -/
def related (events : List LedgerEvent) (call : MaterializedToolCall) : List LedgerEvent :=
  events.filter fun event => event.metadataCallId = some call.callId.text

def ofType (eventType : EventType) (events : List LedgerEvent) : List LedgerEvent :=
  events.filter (·.eventType = eventType)

def checkRelated (call : MaterializedToolCall) : List LedgerEvent → Except PyError Unit
  | [] => .ok ()
  | event :: events =>
    if event.eventType = .toolCallMaterialized then checkRelated call events
    else if (event.metadata.get "tool_call_digest").any (fun recorded =>
        recorded ≠ .null && recorded ≠ .str call.digest.text) then
      .error (runState "call event digest disagrees with its materialized call")
    else if event.stepId ≠ some call.stepId then
      .error (runState "call event step identity disagrees with its materialized call")
    else checkRelated call events

/-- The approval of a call's approval event. -/
def boundApproval (call : MaterializedToolCall) (event : LedgerEvent) : Except PyError ApprovalRecord :=
  match event.metadata.get "approval" with
  | some (.obj raw) =>
    orRaise (do
      let approval ← ApprovalRecord.fromDict (.obj raw)
      approval.assertBindsTo call
      return approval) .runState "approval event is not bound to its materialized call"
  | _ => .error (runState "approval event is missing its immutable record")

def readApproval (call : MaterializedToolCall) :
    Option LedgerEvent → Except PyError (Option ApprovalRecord)
  | none => .ok none
  | some event => some <$> boundApproval call event

/-- At most one event of a kind. -/
def atMostOne (message : String) : List LedgerEvent → Except PyError (Option LedgerEvent)
  | [] => .ok none
  | [event] => .ok (some event)
  | _ => .error (runState message)

/-- The second loop of `_project`, one call. -/
def callState (events : List LedgerEvent) (call : MaterializedToolCall) : Except PyError CallState := do
  let related := related events call
  checkRelated call related
  let approvalEvent ← atMostOne "a materialized call has multiple approval records"
    (ofType .approvalRecorded related)
  let approval ← readApproval call approvalEvent
  let rejectedEvent ← atMostOne "a materialized call has multiple rejection events"
    (ofType .toolCallRejected related)
  let startedEvent ← atMostOne "a materialized call has multiple execution starts"
    (ofType .toolExecutionStarted related)
  let terminal ← atMostOne "a materialized call has multiple execution terminals"
    (related.filter (·.eventType.endsExecution))
  let approvalRequired := related.any (·.eventType = .approvalRequired)
  if approvalRequired && approval.isNone && rejectedEvent.isSome then
    throw (runState "rejected call has no approval record")
  let terminalEvent := if approval.any (·.decision = .rejected) then rejectedEvent else terminal
  return ⟨call, approvalRequired, approval, approvalEvent, rejectedEvent, startedEvent, terminalEvent⟩

def callStates (events : List LedgerEvent) : List MaterializedToolCall → Except PyError (List CallState)
  | [] => .ok []
  | call :: calls => do
    let state ← callState events call
    return state :: (← callStates events calls)

def lastIs (events : List LedgerEvent) (event : LedgerEvent) : Bool :=
  events.getLast?.any (·.eventId = event.eventId)

/-- `_project`. -/
def project (events : List LedgerEvent) : Except PyError RunProjection := do
  let materialized ← collect events
  let states ← callStates events materialized
  let terminalRun := (events.filter (·.eventType.endsRun)).getLast?
  if terminalRun.any fun event => !lastIs events event then
    throw (runState "events were appended after a terminal run state")
  let pendingApproval := states.filter CallState.awaitsApproval
  let pendingExecution := states.filter CallState.awaitsExecution
  if (pendingApproval ++ pendingExecution).length > 1 then
    throw (runState "run contains multiple unresolved materialized calls")
  let review := (ofType .reviewRequested events).getLast?
  return {
    events, callStates := states,
    pendingApproval := pendingApproval.head?, pendingExecution := pendingExecution.head?,
    interrupted := states.any CallState.isInterrupted,
    waitingReview := review.any fun event => materialized.isEmpty || lastIs events event,
    terminalEvent := terminalRun }

/-- `_counts`: decisions, tool calls and distinct steps. -/
def counts (events : List LedgerEvent) : Nat × Nat × Nat :=
  ((ofType .decisionRecorded events).length, (ofType .toolCallMaterialized events).length,
    ((ofType .toolCallMaterialized events).filterMap (·.stepId)).dedup.length)

/-- `_effective_hard_limits`. -/
def effectiveHardLimits (request : RunRequest) : ServerRunHardLimits :=
  match request.legacyBudget with
  | none => serverRunHardLimits
  | some legacy =>
    ⟨min serverRunHardLimits.maxDecisions legacy.maxDecisions,
      min serverRunHardLimits.maxToolCalls legacy.maxToolCalls,
      min serverRunHardLimits.maxSteps legacy.maxSteps⟩

/-- `_hard_limit_reason`: strict before a provider turn, relaxed for an admitted call. -/
def hardLimitReason (request : RunRequest) (events : List LedgerEvent) (pendingExecution : Bool) :
    Option (String × (Nat × Nat × Nat)) :=
  let (decisions, toolCalls, steps) := counts events
  let limits := effectiveHardLimits request
  if pendingExecution then
    if decisions > limits.maxDecisions then
      some ("server decision safety limit exceeded", counts events)
    else if toolCalls > limits.maxToolCalls then
      some ("server tool-call safety limit exceeded", counts events)
    else if steps > limits.maxSteps then some ("server step safety limit exceeded", counts events)
    else none
  else if decisions ≥ limits.maxDecisions then
    some ("server decision safety limit reached", counts events)
  else if toolCalls ≥ limits.maxToolCalls then
    some ("server tool-call safety limit reached", counts events)
  else if steps ≥ limits.maxSteps then some ("server step safety limit reached", counts events)
  else none

/-- Append the artifacts not yet in the list, in order. -/
def addVisible (visible : List ArtifactId) (ids : List ArtifactId) : List ArtifactId :=
  ids.foldl (fun visible id => if id ∈ visible then visible else visible ++ [id]) visible

/-- `_visible_artifacts`. -/
def visibleArtifacts (request : RunRequest) (events : List LedgerEvent) : List ArtifactId :=
  (ofType .toolExecutionSucceeded events).foldl
    (fun visible event => addVisible visible event.outputArtifactIds.ids) request.inputArtifactIds.ids

def statusOf (projection : RunProjection) : RunStatus :=
  match projection.terminalEvent.map LedgerEvent.eventType with
  | some .runStopped => .stopped
  | some .runRejected => .rejected
  | some .runFailed => .failed
  | some _ => .budgetExhausted
  | none =>
    if projection.interrupted then .interrupted
    else if projection.pendingApproval.isSome then .waitingApproval
    else if projection.waitingReview then .waitingReview
    else .active

/-- `_result` on the events it reads. -/
def resultOf (request : RunRequest) (events : List LedgerEvent) (projection : RunProjection)
    (message : String) : Except PyError RunResult :=
  RunResult.create request.runId (statusOf projection) (visibleArtifacts request events)
    (events.getLast?.map (·.eventId)) (projection.pendingApproval.map (·.call.toDict)) message

/-- `status`: a projection of the run's events that appends and repairs nothing. -/
def status (runId : Identifier) (ledger : List LedgerEvent) : Except PyError RunResult := do
  let events := RunLedger.forRun runId ledger
  if events.isEmpty then RunResult.create runId .new [] none none ""
  else
    match (events.find? (·.eventType = .runStarted)).bind (·.metadata.get "request") with
    | some (.obj raw) =>
      let request ← RunRequest.fromDict (.obj raw)
      let events := RunLedger.forRun request.runId ledger
      resultOf request events (← project events) ""
    | _ => throw (runState "cannot project a run without its immutable request")

/-! ### Appending -/

inductive IdField where
  | stepId | callId | eventId
  deriving DecidableEq

def usedIds (field : IdField) (events : List LedgerEvent) : List String :=
  match field with
  | .stepId => events.filterMap fun event => event.stepId.map Identifier.text
  | .callId => events.filterMap LedgerEvent.metadataCallId
  | .eventId => events.map fun event => event.eventId.text

/-- `_new_unique_id`: the host draws candidates until one is unused. -/
def newUniqueId (stem : String) (field : IdField) : Process Identifier := do
  let events ← Molly.request .readEvents
  Molly.request (.newId stem (usedIds field events))

/-- `_append`. -/
def append (request : RunRequest) (draft : EventDraft) : Process LedgerEvent := do
  let eventId ← newUniqueId "evt" .eventId
  let timestamp ← Molly.request .now
  let event ← Task.ofExcept (LedgerEvent.create eventId request.runId timestamp draft)
  let persisted ← Molly.request (.appendEvent event)
  Task.ofExcept persisted

/-- An event about the run as a whole. -/
def runDraft (eventType : EventType) (status : Identifier) (metadata : Fields) : EventDraft :=
  ⟨eventType, none, status, none, none, .none, [], metadata⟩

/-- An event about one call, bound to its digest. -/
def callDraft (eventType : EventType) (status : Identifier) (call : MaterializedToolCall)
    (outputs : List ArtifactId) (metadata : Fields) : EventDraft :=
  ⟨eventType, some call.stepId, status, some call.toolName, some call.toolVersion, call.inputArtifactIds,
    outputs, [("call_id", .str call.callId.text), ("tool_call_digest", .str call.digest.text)] ++ metadata⟩

def startMetadata (request : RunRequest) : Fields :=
  [("request", .obj request.toDict), ("request_digest", .str request.requestSha256.text),
    ("policy_digest", .str request.toolPolicyDigest.text),
    ("initial_artifact_ids", request.inputArtifactIds.toJson)]

def startDraft (request : RunRequest) : EventDraft :=
  runDraft .runStarted (word "STARTED") (startMetadata request)

def decisionDraft (action : StructuredAction) : EventDraft :=
  runDraft .decisionRecorded (word "PROPOSED") [("action", .obj action.toDict)]

def stoppedDraft (action : StopAction) : EventDraft :=
  runDraft .runStopped (word "STOPPED") [("reason", .str action.reason.text)]

def reviewDraft (action : RequestReviewAction) : EventDraft :=
  runDraft .reviewRequested (word "WAITING_REVIEW")
    [("action", .obj (StructuredAction.requestReview action).toDict)]

def materializedDraft (call : MaterializedToolCall) : EventDraft :=
  callDraft .toolCallMaterialized (word "MATERIALIZED") call []
    [("tool_spec_digest", .str call.toolSpecDigest.text), ("policy_digest", .str call.policyDigest.text),
      ("materialized_call", .obj call.toDict)]

def approvalRequiredDraft (call : MaterializedToolCall) : EventDraft :=
  callDraft .approvalRequired (word "WAITING_APPROVAL") call [] []

def approvalRecordedDraft (call : MaterializedToolCall) (approval : ApprovalRecord) : EventDraft :=
  callDraft .approvalRecorded approval.decision.status call [] [("approval", .obj approval.toDict)]

def rejectionDraft (call : MaterializedToolCall) (approval : ApprovalRecord) : EventDraft :=
  callDraft .toolCallRejected (word "REJECTED" isIdentifier_rejected) call [] [("approval_id", .str approval.approvalId.text)]

/-- The run's own rejection names the call under another key. -/
def runRejectedDraft (call : MaterializedToolCall) : EventDraft :=
  ⟨.runRejected, some call.stepId, word "REJECTED" isIdentifier_rejected, some call.toolName, some call.toolVersion,
    call.inputArtifactIds, [],
    [("rejected_call_id", .str call.callId.text), ("tool_call_digest", .str call.digest.text),
      ("reason", .str "operator rejected the pending operation")]⟩

def startedDraft (call : MaterializedToolCall) : EventDraft :=
  callDraft .toolExecutionStarted (word "STARTED") call [] []

def failedDraft (call : MaterializedToolCall) (errorType : String) : EventDraft :=
  callDraft .toolExecutionFailed (word "FAILED") call [] [("error_type", .str errorType)]

def succeededDraft (call : MaterializedToolCall) (outputs : List ArtifactId) (data : Json)
    (encoded : Bytes) : EventDraft :=
  callDraft .toolExecutionSucceeded (word "SUCCEEDED") call outputs
    [("result_data", data), ("result_data_sha256", .str (sha256Bytes encoded).text)]

def hardLimitDraft (reason : String) (counts : Nat × Nat × Nat) (limits : ServerRunHardLimits) :
    EventDraft :=
  runDraft .budgetExhausted (word "EXHAUSTED")
    [("reason", .str reason),
      ("counts", .obj [("decisions", .int counts.1), ("tool_calls", .int counts.2.1),
        ("steps", .int counts.2.2)]),
      ("server_limits", .obj [("max_decisions", .int limits.maxDecisions),
        ("max_tool_calls", .int limits.maxToolCalls), ("max_steps", .int limits.maxSteps)])]

/-- `_append_hard_limit`. -/
def appendHardLimit (request : RunRequest) (reason : String) (counts : Nat × Nat × Nat) : Process Unit := do
  let ledger ← Molly.request .readEvents
  let events := RunLedger.forRun request.runId ledger
  if events.any (·.eventType = .budgetExhausted) then return ()
  else
    let _ ← append request (hardLimitDraft reason counts (effectiveHardLimits request))
    return ()

/-- `_result`. -/
def result (request : RunRequest) (projection : Option RunProjection) (message : String) :
    Process RunResult := do
  let ledger ← Molly.request .readEvents
  let events := RunLedger.forRun request.runId ledger
  match projection with
  | some projection => Task.ofExcept (resultOf request events projection message)
  | none =>
    let projection ← Task.ofExcept (project events)
    Task.ofExcept (resultOf request events projection message)

/-! ### Starting and reconciling -/

/-- `_ensure_request_policy`. -/
def ensureRequestPolicy (loop : AgentLoop) (request : RunRequest) : Except PyError Unit :=
  if request.toolPolicyDigest ≠ loop.policy.policyDigest then
    .error ⟨.runBinding, "RunRequest policy digest does not match the active ToolPolicy"⟩
  else .ok ()

/-- The checks of a resumed run's only start event. -/
def checkStart (request : RunRequest) (start : LedgerEvent) : Except PyError Unit := do
  if start.metadata.get "request_digest" ≠ some (.str request.requestSha256.text) then
    throw ⟨.runBinding, "same run_id was supplied with a different request digest"⟩
  if start.metadata.get "policy_digest" ≠ some (.str request.toolPolicyDigest.text) then
    throw ⟨.runBinding, "run policy binding changed during resume"⟩
  match start.metadata.get "request" with
  | some (.obj recorded) =>
    let reconstructed ← orRaise (RunRequest.fromDict (.obj recorded)) .runState
      "RUN_STARTED request binding is malformed"
    if reconstructed.requestSha256 ≠ request.requestSha256 then
      throw ⟨.runBinding, "persisted request binding does not match the supplied request"⟩
  | _ => throw (runState "RUN_STARTED does not contain the immutable request binding")

def validateExisting (request : RunRequest) (existing : List LedgerEvent) : Except PyError Unit :=
  match ofType .runStarted existing with
  | [start] => checkStart request start
  | _ => .error (runState "run ledger must contain exactly one RUN_STARTED event")

/-- `_initialize_or_validate`. -/
def initializeOrValidate (loop : AgentLoop) (request : RunRequest) : Process (List LedgerEvent) := do
  Task.ofExcept (loop.ensureRequestPolicy request)
  let ledger ← Molly.request .snapshot
  let existing := RunLedger.forRun request.runId ledger
  if existing.isEmpty then
    ArtifactStore.verifyAll request.inputArtifactIds.ids
    let _ ← append request (startDraft request)
    let ledger ← Molly.request .readEvents
    return RunLedger.forRun request.runId ledger
  else
    Task.ofExcept (validateExisting request existing)
    ArtifactStore.verifyAll request.inputArtifactIds.ids
    return existing

/-- `_execution_relation_id`. -/
def executionRelationId (successEventId : Identifier) (relationType : RelationType)
    (subjectId objectId : Reference) : Identifier :=
  ⟨"rel_exec_" ++ (sha256Bytes (Json.obj [("success_event_id", .str successEventId.text),
      ("relation_type", .str relationType.value), ("subject_id", .str subjectId.text),
      ("object_id", .str objectId.text)]).encode).text, relationId_valid _⟩

/-- The relations one success event states, in the order they are added. -/
def executionFacts (event : LedgerEvent) (stepId : Identifier) :
    List (RelationType × Reference × Reference) :=
  (event.outputArtifactIds.ids.flatMap fun output =>
    (.producedBy, output.reference, stepId.reference) ::
      event.inputArtifactIds.ids.map fun input => (.derivedFrom, output.reference, input.reference)) ++
  event.inputArtifactIds.ids.map fun input => (.consumedBy, input.reference, stepId.reference)

def factMetadata (event : LedgerEvent) (callId : String) : Fields :=
  [("run_id", .str event.runId.text), ("call_id", .str callId),
    ("success_event_id", .str event.eventId.text)]

/-- The nested `add` of `_project_success`. -/
def addFact (event : LedgerEvent) (callId : String) (fact : RelationType × Reference × Reference) :
    Process Unit :=
  tryCatch (do
    let _ ← ArtifactLineage.addRelationIdempotent fact.1 fact.2.1 fact.2.2
      (executionRelationId event.eventId fact.1 fact.2.1 fact.2.2) event.timestamp (factMetadata event callId)
    return ()) fun e =>
      if e.cls = .reconciliation then throw e
      else throw ⟨.reconciliation, "execution lineage projection failed"⟩

def addFacts (event : LedgerEvent) (callId : String) :
    List (RelationType × Reference × Reference) → Process Unit
  | [] => return ()
  | fact :: facts => do
    addFact event callId fact
    addFacts event callId facts

/-- Verify and register the artifacts of a success event. -/
def registerArtifacts : List ArtifactId → Process Unit
  | [] => return ()
  | id :: ids => do
    tryCatch (do
      let _ ← ArtifactStore.verify id
      return ()) fun _ =>
        throw ⟨.reconciliation, "successful execution references an unavailable or corrupt artifact"⟩
    ArtifactLineage.registerArtifact id
    registerArtifacts ids

/-- `_project_success`. -/
def projectSuccess (event : LedgerEvent) : Process Unit := do
  if event.eventType ≠ .toolExecutionSucceeded then
    throw ⟨.reconciliation, "only successful execution events can be projected"⟩
  else
    let _ ← Task.ofExcept (validatedSuccessResultData event)
    match event.stepId, event.metadataCallId with
    | none, _ => throw ⟨.reconciliation, "successful execution is missing step_id"⟩
    | some _, none => throw ⟨.reconciliation, "successful execution is missing call_id"⟩
    | some stepId, some callId =>
      ArtifactLineage.registerStep stepId
      registerArtifacts (event.inputArtifactIds.ids ++ event.outputArtifactIds.ids)
      addFacts event callId (executionFacts event stepId)

/-- `_reconcile_success_lineage`. -/
def reconcileSuccessLineage : List LedgerEvent → Process Unit
  | [] => return ()
  | event :: events =>
    if event.eventType = .toolExecutionSucceeded then do
      projectSuccess event
      reconcileSuccessLineage events
    else reconcileSuccessLineage events

/-! ### Calls -/

/-- `_materialize`. -/
def materialize (request : RunRequest) (proposal : ToolCallProposal) (spec : ToolSpec) :
    Process MaterializedToolCall := do
  let stepId ← newUniqueId "step" .stepId
  let callId ← newUniqueId "call" .callId
  let createdAt ← Molly.request .now
  return ⟨request.runId, stepId, callId, spec.name, spec.version, spec.specDigest, request.toolPolicyDigest,
    proposal.arguments, proposal.inputArtifactIds, createdAt, proposal.reasonSummary⟩

/-- `_validate_proposal_inputs`. -/
def validateProposalInputs (visible : List ArtifactId) : List ArtifactId → Process Unit
  | [] => return ()
  | id :: ids => do
    if id ∉ visible then
      throw ⟨.toolContract, "tool proposal references an artifact not visible in this run"⟩
    else
      let _ ← ArtifactStore.verify id
      validateProposalInputs visible ids

/-- `_assert_current_call`. -/
def assertCurrentCall (loop : AgentLoop) (request : RunRequest) (call : MaterializedToolCall) :
    Except PyError ToolSpec :=
  let checked : Except PyError ToolSpec := do
    let spec ← loop.registry.resolveExact call.toolName call.toolVersion call.toolSpecDigest
    if call.policyDigest ≠ request.toolPolicyDigest then
      throw ⟨.runBinding, "materialized call policy digest does not match the run"⟩
    loop.policy.check spec
    return spec
  match checked with
  | .ok spec => .ok spec
  | .error e =>
    if e.cls.isInstance .runBinding || e.cls.isInstance .toolContract then .error e
    else .error ⟨.toolContract, "materialized call no longer resolves to the exact tool"⟩

/-- Full match of `[A-Za-z0-9_.-]{1,80}`. -/
def isErrorType (name : String) : Bool :=
  let chars := name.toList
  1 ≤ chars.length && chars.length ≤ 80 &&
    chars.all fun c => c.isAlphanum || c ∈ ['_', '.', '-']

/-- `_safe_error_type` on the class name. -/
def safeErrorType (name : String) : String := if isErrorType name then name else "ToolError"

def contextOf (call : MaterializedToolCall) : ToolExecutionContext :=
  ⟨call.runId, call.stepId, call.callId, call.digest, call.arguments, call.inputArtifactIds⟩

/-- The result checks and publications of the guarded block. -/
def publish [JsonSchema] (spec : ToolSpec) (data : Json) (drafts : List DraftFields) :
    Process (Json × Bytes × List ArtifactRecord) := do
  let result ← Task.ofExcept (ToolResult.create data drafts)
  let encoded ← Task.ofExcept (canonicalJsonBytes result.data)
  if encoded.length > maxToolResultDataBytes then throw oversizedData
  else
    Task.ofExcept (spec.validateOutput result.data)
    let records ← ArtifactStore.putAll result.artifacts
    return (result.data, encoded, records)

/-- The guarded block of `_execute_call`: the published result, or the class name of
the exception it caught. -/
def attempt [JsonSchema] (spec executor : ToolSpec) (call : MaterializedToolCall) :
    Process (Except String (Json × Bytes × List ArtifactRecord)) := do
  match ← Molly.request (.execute executor (contextOf call)) with
  | .raised typeName => return .error typeName
  | .returned data drafts =>
    tryCatch (do return .ok (← publish spec data drafts)) fun e => return .error e.cls.name

/-- `_execute_call`. -/
def executeCall [JsonSchema] (loop : AgentLoop) (request : RunRequest) (call : MaterializedToolCall) :
    Process LedgerEvent := do
  let spec ← Task.ofExcept (loop.assertCurrentCall request call)
  let executor ← Task.ofExcept (loop.registry.executorFor spec)
  let _ ← append request (startedDraft call)
  match ← attempt spec executor call with
  | .error typeName => append request (failedDraft call (safeErrorType typeName))
  | .ok (data, encoded, records) =>
    let success ← append request (succeededDraft call (records.map (·.artifactId)) data encoded)
    -- The durable fact comes first; a later restart repairs a missing projection.
    projectSuccess success
    return success

/-! ### Turns -/

def recentEvents (events : List LedgerEvent) : List Fields :=
  (events.drop (events.length - 12)).map fun event =>
    [("event_type", .str event.eventType.name), ("status", optionalText Identifier.text event.status),
      ("step_id", optionalText Identifier.text event.stepId),
      ("tool_name", optionalText Identifier.text event.toolName), ("timestamp", .str event.timestamp.text)]

def outcomeFields (event : LedgerEvent) : Fields :=
  [("event_type", .str event.eventType.name), ("status", optionalText Identifier.text event.status),
    ("tool_name", optionalText Identifier.text event.toolName),
    ("tool_version", optionalText Identifier.text event.toolVersion),
    ("output_artifact_ids", event.outputArtifactIds.toJson)]

def previousOutcome (events : List LedgerEvent) : Except PyError (Option Fields) :=
  match events.reverse.find? (·.eventType.endsExecution) with
  | none => .ok none
  | some event =>
    if event.eventType = .toolExecutionSucceeded then do
      let (data, digest) ← validatedSuccessResultData event
      return some (outcomeFields event ++ [("data", data), ("data_sha256", .str digest.text)])
    else .ok (some (outcomeFields event))

def contextKeys : List String :=
  ["llm_profile_ref", "llm_profile_digest", "workflow_intent_preview", "workflow_intent_preview_digest"]

/-- `_context`. -/
def context (request : RunRequest) (events : List LedgerEvent) : Except PyError RunContext := do
  let previous ← previousOutcome events
  let metadata := contextKeys.filterMap fun key => (request.metadata.get key).map fun value => (key, value)
  RunContext.create request.runId request.goal (visibleArtifacts request events) request.inputArtifactIds
    metadata (recentEvents events) previous

/-- `_invoke_provider`; no action means `StopIteration`. -/
def invokeProvider (loop : AgentLoop) (context : RunContext) : Process (Option StructuredAction) := do
  match ← Molly.request (.nextAction context loop.registry.modelVisibleTools) with
  | .action value => return some value
  | .stopIteration => return none
  | .actionError message => throw ⟨.action, message⟩
  | .raised => throw ⟨.action, "DecisionProvider returned an invalid action"⟩

/-- How a turn ends: with a result, or at the head of the loop again. -/
inductive Turn where
  | done (result : RunResult)
  | again (approval : Option ApprovalRecord) (approvalResume : Bool)

/-- `_record_approval`. -/
def recordApproval (request : RunRequest) (call : MaterializedToolCall) (approval : ApprovalRecord) :
    Process LedgerEvent := do
  Task.ofExcept (approval.assertBindsTo call)
  append request (approvalRecordedDraft call approval)

/-- The turn of a pending approval. -/
def approvalTurn (loop : AgentLoop) (request : RunRequest) (projection : RunProjection)
    (pending : CallState) (approval : Option ApprovalRecord) (approvalResume : Bool) : Process Turn := do
  let _ ← Task.ofExcept (loop.assertCurrentCall request pending.call)
  match approval with
  | none => return .done (← result request (some projection) "")
  | some approval =>
    match pending.approval with
    | some recorded =>
      if approval.digest ≠ recorded.digest then
        throw ⟨.approval, "a different approval was supplied for the pending call"⟩
      else return .again none approvalResume
    | none =>
      let _ ← recordApproval request pending.call approval
      if approval.decision = .rejected then
        let _ ← append request (rejectionDraft pending.call approval)
        let _ ← append request (runRejectedDraft pending.call)
        return .done (← result request none "approval rejected")
      else return .again none true

/-- The check of an approval supplied when none is pending. -/
def checkSupplied (projection : RunProjection) : Option ApprovalRecord → Except PyError Unit
  | none => .ok ()
  | some approval =>
    match projection.pendingExecution.bind (·.approval) with
    | some recorded =>
      if recorded.decision = .approved then
        if approval.digest ≠ recorded.digest then
          .error ⟨.approval, "a different approval was supplied for the approved call"⟩
        else .ok ()
      else .error ⟨.approval, "no pending approval matches the supplied record"⟩
    | none => .error ⟨.approval, "no pending approval matches the supplied record"⟩

/-- The turn of a pending execution. -/
def executionTurn [JsonSchema] (loop : AgentLoop) (request : RunRequest) (events : List LedgerEvent)
    (pending : CallState) (approvalResume : Bool) : Process Turn := do
  match hardLimitReason request events true with
  | some (reason, counts) =>
    appendHardLimit request reason counts
    return .done (← result request none "")
  | none =>
    let approvalResume := approvalResume || pending.approval.any (·.decision = .approved)
    let _ ← loop.executeCall request pending.call
    if approvalResume then return .done (← result request none "")
    else return .again none approvalResume

/-- The checks of a proposal, under the guard of its turn. -/
def admitProposal [JsonSchema] (loop : AgentLoop) (request : RunRequest) (events : List LedgerEvent)
    (proposal : ToolCallProposal) : Process ToolSpec :=
  tryCatch (do
    let spec ← Task.ofExcept (loop.registry.resolve proposal.toolName none)
    validateProposalInputs (visibleArtifacts request events) proposal.inputArtifactIds.ids
    Task.ofExcept (spec.validateArguments proposal.arguments.object)
    Task.ofExcept (loop.policy.check spec)
    return spec) fun e =>
      if e.cls.isInstance .toolContract then throw e
      else throw ⟨.toolContract, "tool proposal failed closed"⟩

/-- The turn of an admitted or refused tool call. -/
def proposalTurn [JsonSchema] (loop : AgentLoop) (request : RunRequest) (events : List LedgerEvent)
    (proposal : ToolCallProposal) (approvalResume : Bool) : Process Turn := do
  let spec ← loop.admitProposal request events proposal
  -- The server, never the provider, creates the identities and the bound fields.
  let call ← materialize request proposal spec
  let _ ← append request (materializedDraft call)
  if loop.policy.requiresApproval spec then
    let _ ← append request (approvalRequiredDraft call)
    return .done (← result request none "")
  else
    let _ ← loop.executeCall request call
    return .again none approvalResume

/-- The turn that asks the provider. -/
def providerTurn [JsonSchema] (loop : AgentLoop) (request : RunRequest) (events : List LedgerEvent)
    (approvalResume : Bool) : Process Turn := do
  match hardLimitReason request events false with
  | some (reason, counts) =>
    appendHardLimit request reason counts
    return .done (← result request none "")
  | none =>
    let context ← Task.ofExcept (context request events)
    match ← loop.invokeProvider context with
    | none => return .done (← result request none "DecisionProvider has no further action")
    | some action =>
      let _ ← append request (decisionDraft action)
      match action with
      | .stop action =>
        let _ ← append request (stoppedDraft action)
        return .done (← result request none "")
      | .requestReview action =>
        let _ ← append request (reviewDraft action)
        return .done (← result request none "")
      | .toolCall proposal => loop.proposalTurn request events proposal approvalResume

/-- What a turn does with the projection it read. -/
def turnOn [JsonSchema] (loop : AgentLoop) (request : RunRequest) (events : List LedgerEvent)
    (projection : RunProjection) (approval : Option ApprovalRecord) (approvalResume : Bool) :
    Process Turn := do
  if projection.terminalEvent.isSome then
    if approval.isSome then throw ⟨.approval, "terminal runs cannot accept a new approval"⟩
    else return .done (← result request (some projection) "")
  else if projection.interrupted then
    if approval.isSome then
      throw ⟨.approval, "interrupted calls require reconciliation before approval"⟩
    else return .done (← result request (some projection) "call needs reconciliation")
  else
    match projection.pendingApproval with
    | some pending => loop.approvalTurn request projection pending approval approvalResume
    | none =>
      Task.ofExcept (checkSupplied projection approval)
      if projection.waitingReview then return .done (← result request (some projection) "")
      else
        match projection.pendingExecution with
        | some pending => loop.executionTurn request events pending approvalResume
        | none => loop.providerTurn request events approvalResume

/-- One pass through the body of `while True`. -/
def turn [JsonSchema] (loop : AgentLoop) (request : RunRequest) (approval : Option ApprovalRecord)
    (approvalResume : Bool) : Process Turn := do
  let ledger ← Molly.request .snapshot
  let events := RunLedger.forRun request.runId ledger
  let projection ← Task.ofExcept (project events)
  loop.turnOn request events projection approval approvalResume

/-- The loop, cut off after `fuel` passes. -/
def drive [JsonSchema] (loop : AgentLoop) (request : RunRequest) :
    (fuel : Nat) → Option ApprovalRecord → Bool → Process (Option RunResult)
  | 0, _, _ => return none
  | fuel + 1, approval, approvalResume => do
    match ← loop.turn request approval approvalResume with
    | .done result => return some result
    | .again approval approvalResume => loop.drive request fuel approval approvalResume

/-- Drive one run until it stops, waits, is interrupted, or needs input. -/
def run [JsonSchema] (loop : AgentLoop) (fuel : Nat) (request : RunRequest)
    (approval : Option ApprovalRecord) : Process (Option RunResult) := do
  let events ← loop.initializeOrValidate request
  reconcileSuccessLineage events
  loop.drive request fuel approval false

end AgentLoop
end Molly
