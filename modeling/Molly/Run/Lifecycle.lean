import Molly.Run.World

/-! The life of one run: the phases of its calls, the events that may follow a given
history, and the histories these make. -/
namespace Molly
open AgentLoop

/-- An event with the fields of a draft, whatever its identity, time and links. -/
structure Drafted (request : RunRequest) (draft : EventDraft) (e : LedgerEvent) : Prop where
  run : e.runId = request.runId
  eventType : e.eventType = draft.eventType
  step : e.stepId = draft.stepId
  toolName : e.toolName = draft.toolName
  toolVersion : e.toolVersion = draft.toolVersion
  inputs : e.inputArtifactIds = draft.inputArtifactIds
  outputs : e.outputArtifactIds.ids = draft.outputArtifactIds
  metadata : ∀ key, e.metadata.get key = (draft.metadata.lookup key).map Json.canon

inductive CallPhase where
  | materialized
  | waiting
  | decided (approval : ApprovalRecord)
  | rejected (approval : ApprovalRecord)
  | running (approval : Option ApprovalRecord)
  | succeeded (approval : Option ApprovalRecord)
  | failed (approval : Option ApprovalRecord)
  deriving DecidableEq

namespace CallPhase

/-- The operator has refused the call. -/
def refused : CallPhase → Bool
  | .decided a => a.decision = .rejected
  | .rejected _ => true
  | _ => false

/-- The call waits for its execution. -/
def due : CallPhase → Bool
  | .materialized => true
  | .decided a => a.decision = .approved
  | _ => false

def isRunning : CallPhase → Bool
  | .running _ => true
  | _ => false

def wasRejected : CallPhase → Bool
  | .rejected _ => true
  | _ => false

def hasStarted : CallPhase → Bool
  | .running _ | .succeeded _ | .failed _ => true
  | _ => false

def hasEnded : CallPhase → Bool
  | .succeeded _ | .failed _ => true
  | _ => false

/-- The recorded decision about the call. -/
def approval : CallPhase → Option ApprovalRecord
  | .decided a | .rejected a => some a
  | .running a | .succeeded a | .failed a => a
  | .materialized | .waiting => none

/-- The operator has been asked about the call. -/
def wasAsked : CallPhase → Bool
  | .materialized => false
  | .waiting => true
  | phase => phase.approval.isSome

/-- Nothing more is due for the call. -/
def settled : CallPhase → Bool
  | .succeeded _ | .failed _ => true
  | phase => phase.refused

end CallPhase

inductive Ending where
  | open
  | review
  | closed (eventType : EventType)
  deriving DecidableEq

/-- The run-ending event, if the run has one. -/
def Ending.terminal : Ending → Option EventType
  | .closed eventType => some eventType
  | _ => none

/-- What a ledger says about a run. -/
structure RunModel where
  begun : Bool
  settled : List (MaterializedToolCall × CallPhase)
  current : Option (MaterializedToolCall × CallPhase)
  ending : Ending
  deriving DecidableEq

namespace RunModel

def unbegun : RunModel := ⟨false, [], none, .open⟩

def calls (m : RunModel) : List (MaterializedToolCall × CallPhase) := m.settled ++ m.current.toList

/-- Some call of the run has been refused. -/
def Refused (m : RunModel) : Prop := ∃ call phase, (call, phase) ∈ m.calls ∧ phase.refused = true

/-- The run goes on; behind a refusal only when `skipped` allows it. -/
structure Active (skipped : Prop) (m : RunModel) : Prop where
  begun : m.begun = true
  going : m.ending = .open
  unrefused : m.Refused → skipped

/-- The run goes on and no call is due. -/
structure Idle (skipped : Prop) (m : RunModel) : Prop extends Active skipped m where
  settled : ∀ call phase, m.current = some (call, phase) → phase.settled = true

def withCall (m : RunModel) (call : MaterializedToolCall) (phase : CallPhase) : RunModel :=
  { m with current := some (call, phase) }

end RunModel

section
variable [Sha256]

/-- The registered tool of a call requires approval. -/
def RequiresApproval (loop : AgentLoop) (call : MaterializedToolCall) : Prop :=
  ∃ spec ∈ loop.registry.tools, spec.key = (call.toolName, call.toolVersion) ∧
    loop.policy.requiresApproval spec = true

/-- What the server has checked when it materializes a call. -/
structure Admitted (loop : AgentLoop) (request : RunRequest) (events : List LedgerEvent)
    (call : MaterializedToolCall) : Prop where
  run : call.runId = request.runId
  policy : call.policyDigest = request.toolPolicyDigest
  registered : ∃ spec ∈ loop.registry.tools, spec.key = (call.toolName, call.toolVersion) ∧
    call.toolSpecDigest = spec.specDigest
  freshCall : call.callId.text ∉ usedIds .callId events
  freshStep : call.stepId.text ∉ usedIds .stepId events
  visible : ∀ id ∈ call.inputArtifactIds.ids, id ∈ visibleArtifacts request events
  toolCalls : (counts events).2.1 < (effectiveHardLimits request).maxToolCalls
  steps : (counts events).2.2 < (effectiveHardLimits request).maxSteps

/-- Result data that a success event can hold. -/
structure Storable (data : Json) : Prop where
  accepted : data.accepted = true
  frozen : data.canon = data
  bounded : data.encode.length ≤ maxToolResultDataBytes

/-- The events that may follow a history. A call that requires approval starts without
one only when `ungated` allows it. -/
inductive Legal (loop : AgentLoop) (request : RunRequest) (ungated skipped : Prop) :
    List LedgerEvent → RunModel → LedgerEvent → RunModel → Prop where
  | start : loop.ensureRequestPolicy request = .ok () → Drafted request (startDraft request) e →
      Legal loop request ungated skipped [] .unbegun e ⟨true, [], none, .open⟩
  | intent : m.Idle skipped → e.eventType = .intentFrozen → e.metadata.get "call_id" = none →
      e.runId = request.runId → Legal loop request ungated skipped es m e m
  | decision (action : StructuredAction) : m.Idle skipped → Drafted request (decisionDraft action) e →
      (counts es).1 < (effectiveHardLimits request).maxDecisions →
      Legal loop request ungated skipped es m e m
  | stopped (action : StopAction) : m.Idle skipped → Drafted request (stoppedDraft action) e →
      Legal loop request ungated skipped es m e { m with ending := .closed .runStopped }
  | review (action : RequestReviewAction) : m.Idle skipped → Drafted request (reviewDraft action) e →
      Legal loop request ungated skipped es m e { m with ending := .review }
  | hardLimit (reason : String) (counted : Nat × Nat × Nat) : m.Active skipped →
      (∀ call, m.current ≠ some (call, .waiting)) →
      (∀ call approval, m.current ≠ some (call, .running approval)) →
      Drafted request (hardLimitDraft reason counted (effectiveHardLimits request)) e →
      Legal loop request ungated skipped es m e { m with ending := .closed .budgetExhausted }
  | materialized : m.Idle skipped → Admitted loop request es call →
      Drafted request (materializedDraft call) e →
      Legal loop request ungated skipped es m e ⟨true, m.calls, some (call, .materialized), .open⟩
  | required : m.Active skipped → m.current = some (call, .materialized) →
      Drafted request (approvalRequiredDraft call) e →
      Legal loop request ungated skipped es m e (m.withCall call .waiting)
  | recorded : m.Active skipped → m.current = some (call, .waiting) → approval.bindsTo call = true →
      Drafted request (approvalRecordedDraft call approval) e →
      Legal loop request ungated skipped es m e (m.withCall call (.decided approval))
  | rejection : m.begun = true → m.ending = .open → m.current = some (call, .decided approval) →
      approval.decision = .rejected → Drafted request (rejectionDraft call approval) e →
      Legal loop request ungated skipped es m e (m.withCall call (.rejected approval))
  | runRejected : m.begun = true → m.ending = .open → m.current = some (call, .rejected approval) →
      Drafted request (runRejectedDraft call) e →
      Legal loop request ungated skipped es m e { m with ending := .closed .runRejected }
  | started : m.Active skipped → m.current = some (call, .materialized) →
      (RequiresApproval loop call → ungated) → Drafted request (startedDraft call) e →
      Legal loop request ungated skipped es m e (m.withCall call (.running none))
  | resumed : m.Active skipped → m.current = some (call, .decided approval) →
      approval.decision = .approved → Drafted request (startedDraft call) e →
      Legal loop request ungated skipped es m e (m.withCall call (.running (some approval)))
  | succeeded (outputs : List ArtifactId) (data : Json) : m.Active skipped →
      m.current = some (call, .running approval) → Storable data →
      Drafted request (succeededDraft call outputs data data.encode) e →
      Legal loop request ungated skipped es m e (m.withCall call (.succeeded approval))
  | failed (errorType : String) : m.Active skipped → m.current = some (call, .running approval) →
      Drafted request (failedDraft call errorType) e →
      Legal loop request ungated skipped es m e (m.withCall call (.failed approval))

/-- The event lists of a run, with what they say about it. -/
inductive History (loop : AgentLoop) (request : RunRequest) (ungated skipped : Prop) :
    List LedgerEvent → RunModel → Prop where
  | empty : History loop request ungated skipped [] .unbegun
  | snoc : History loop request ungated skipped es m → Legal loop request ungated skipped es m e n →
      History loop request ungated skipped (es ++ [e]) n

/-- The events of one call up to a phase. -/
inductive CallHistory (request : RunRequest) (call : MaterializedToolCall) :
    CallPhase → List LedgerEvent → Prop where
  | materialized : Drafted request (materializedDraft call) e → CallHistory request call .materialized [e]
  | required : CallHistory request call .materialized es → Drafted request (approvalRequiredDraft call) e →
      CallHistory request call .waiting (es ++ [e])
  | recorded : CallHistory request call .waiting es → approval.bindsTo call = true →
      Drafted request (approvalRecordedDraft call approval) e →
      CallHistory request call (.decided approval) (es ++ [e])
  | rejection : CallHistory request call (.decided approval) es → approval.decision = .rejected →
      Drafted request (rejectionDraft call approval) e →
      CallHistory request call (.rejected approval) (es ++ [e])
  | started : CallHistory request call .materialized es → Drafted request (startedDraft call) e →
      CallHistory request call (.running none) (es ++ [e])
  | resumed : CallHistory request call (.decided approval) es → approval.decision = .approved →
      Drafted request (startedDraft call) e → CallHistory request call (.running (some approval)) (es ++ [e])
  | succeeded (outputs : List ArtifactId) (data : Json) : CallHistory request call (.running approval) es →
      Storable data → Drafted request (succeededDraft call outputs data data.encode) e →
      CallHistory request call (.succeeded approval) (es ++ [e])
  | failed (errorType : String) : CallHistory request call (.running approval) es →
      Drafted request (failedDraft call errorType) e →
      CallHistory request call (.failed approval) (es ++ [e])

end

/-! ### Reading drafts back -/

namespace Drafted
variable [Sha256] {request : RunRequest}

theorem chained {draft : EventDraft} {eventId : Identifier} {timestamp : Timestamp}
    (made : LedgerEvent.create eventId request.runId timestamp draft = .ok e) (existing : List LedgerEvent) :
    Drafted request draft (RunLedger.chain existing e) := by
  obtain ⟨_, run, eventType, step, toolName, toolVersion, inputs, outputs, _, frozen⟩ := create_ok made
  exact ⟨run, eventType, step, toolName, toolVersion, inputs, outputs, get_freezeFields frozen⟩

omit [Sha256] in
/-- Events about the run name no call. -/
theorem runCallId {eventType : EventType} {status : Identifier} {metadata : Fields}
    (drafted : Drafted request (runDraft eventType status metadata) e)
    (unnamed : metadata.lookup "call_id" = none) : e.metadataCallId = none := by
  have found := drafted.metadata "call_id"
  simp only [runDraft, unnamed, Option.map_none] at found
  simp [LedgerEvent.metadataCallId, found]

theorem callId {eventType : EventType} {status : Identifier} {call : MaterializedToolCall}
    {outputs : List ArtifactId} {metadata : Fields}
    (drafted : Drafted request (callDraft eventType status call outputs metadata) e) :
    e.metadataCallId = some call.callId.text := by
  have found := drafted.metadata "call_id"
  simp only [callDraft, List.cons_append, lookup_cons, ↓reduceIte, Option.map_some, Json.canon] at found
  simp [LedgerEvent.metadataCallId, found]

theorem callDigest {eventType : EventType} {status : Identifier} {call : MaterializedToolCall}
    {outputs : List ArtifactId} {metadata : Fields}
    (drafted : Drafted request (callDraft eventType status call outputs metadata) e) :
    e.metadata.get "tool_call_digest" = some (.str call.digest.text) := by
  have found := drafted.metadata "tool_call_digest"
  simpa [callDraft, Json.canon] using found

theorem callStep {eventType : EventType} {status : Identifier} {call : MaterializedToolCall}
    {outputs : List ArtifactId} {metadata : Fields}
    (drafted : Drafted request (callDraft eventType status call outputs metadata) e) :
    e.stepId = some call.stepId := drafted.step

theorem runRejectedCallId {call : MaterializedToolCall}
    (drafted : Drafted request (runRejectedDraft call) e) : e.metadataCallId = none := by
  have found := drafted.metadata "call_id"
  simp [runRejectedDraft] at found
  simp [LedgerEvent.metadataCallId, found]

/-- The identifier of a call event is valid. -/
theorem callIdForEvent {eventType : EventType} {status : Identifier} {call : MaterializedToolCall}
    {outputs : List ArtifactId} {metadata : Fields}
    (drafted : Drafted request (callDraft eventType status call outputs metadata) e) :
    AgentLoop.callIdForEvent e = .ok call.callId := by
  simp [AgentLoop.callIdForEvent, drafted.callId]

theorem materializedCall {call : MaterializedToolCall}
    (drafted : Drafted request (materializedDraft call) e) : AgentLoop.materializedCall e = .ok call := by
  have raw : e.metadata.get "materialized_call" = some (.obj (Json.canonFields call.toDict)) := by
    have found := drafted.metadata "materialized_call"
    simpa [materializedDraft, callDraft, Json.canon] using found
  have step : e.stepId = some call.stepId := drafted.step
  have name : e.toolName = some call.toolName := drafted.toolName
  have version : e.toolVersion = some call.toolVersion := drafted.toolVersion
  have inputs : e.inputArtifactIds = call.inputArtifactIds := drafted.inputs
  have named := drafted.callIdForEvent
  simp [AgentLoop.materializedCall, raw, named, step, name, version, inputs, bind, Except.bind, pure,
    Except.pure]

theorem approval {call : MaterializedToolCall} {approval : ApprovalRecord}
    (drafted : Drafted request (approvalRecordedDraft call approval) e) (bound : approval.bindsTo call = true) :
    boundApproval call e = .ok approval := by
  have raw : e.metadata.get "approval" = some (.obj (Json.canonFields approval.toDict)) := by
    have found := drafted.metadata "approval"
    simpa [approvalRecordedDraft, callDraft, Json.canon] using found
  simp [boundApproval, raw, ApprovalRecord.assertBindsTo, bound, bind, Except.bind, pure, Except.pure]

theorem resultData {call : MaterializedToolCall} {outputs : List ArtifactId} {data : Json}
    (drafted : Drafted request (succeededDraft call outputs data data.encode) e) (storable : Storable data) :
    validatedSuccessResultData e = .ok (data, sha256Bytes data.encode) := by
  have eventType : e.eventType = .toolExecutionSucceeded := drafted.eventType
  have stored : e.metadata.get "result_data" = some data := by
    have found := drafted.metadata "result_data"
    simpa [succeededDraft, callDraft, storable.frozen] using found
  have digest : e.metadata.get "result_data_sha256" = some (.str (sha256Bytes data.encode).text) := by
    have found := drafted.metadata "result_data_sha256"
    simpa [succeededDraft, callDraft, Json.canon] using found
  have encoded := canonicalJsonBytes_of_accepted storable.accepted
  have bounded := storable.bounded
  simp [validatedSuccessResultData, eventType, stored, digest, encoded, bounded, bind, Except.bind, pure,
    Except.pure]

end Drafted
end Molly
