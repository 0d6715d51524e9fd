import Molly.Inspect.Inspection

/-! The observer's trace of a run: one root span with the events of the run itself, and one
child span for each materialized call. -/
namespace Molly
open Effect (chars chars_eq)

/-! ### Records -/

/-- A text of `n` lowercase hexadecimal digits. -/
structure HexId (n : Nat) where
  text : String
  valid : (decide ((chars text).length = n) && (chars text).all isHexChar) = true
  deriving DecidableEq

/-- The first digits of a digest. -/
def Digest.first (d : Digest) (n : Nat) (short : n ≤ 64 := by decide) : HexId n :=
  ⟨String.ofList ((chars d.text).take n), by
    have valid := d.valid
    simp only [isSha256, chars_eq, Bool.and_eq_true, decide_eq_true_eq] at valid
    simp only [chars_eq, String.toList_ofList, List.length_take, valid.1, Nat.min_eq_left short, decide_true,
      Bool.true_and]
    rw [List.all_eq_true]
    intro c member
    exact List.all_eq_true.mp valid.2 c (List.mem_of_mem_take member)⟩

structure TraceEvent where
  name : Identifier
  timestamp : Timestamp
  attributes : JsonObject
  deriving DecidableEq

structure TraceSpan where
  spanId : HexId 16
  parentSpanId : Option (HexId 16)
  name : Identifier
  startTime : Timestamp
  endTime : Option Timestamp
  attributes : JsonObject
  events : List TraceEvent
  deriving DecidableEq

/-- Canonical observer data: uniquely identified spans, the first of which has no parent. -/
structure RunTrace where
  traceId : HexId 32
  runId : Identifier
  status : RunStatus
  sourceLedgerSha256 : Digest
  sourceLineageSha256 : Digest
  spans : List TraceSpan
  distinct : (spans.map (·.spanId)).Nodup
  rooted : ∃ root rest, spans = root :: rest ∧ root.parentSpanId = none

/-- The last checks of the constructor. -/
def RunTrace.create (traceId : HexId 32) (runId : Identifier) (status : RunStatus) (ledger lineage : Digest)
    (spans : List TraceSpan) : Except PyError RunTrace :=
  match spans with
  | [] => .error ⟨.valueError, "trace spans must be non-empty and uniquely identified"⟩
  | root :: rest =>
    if distinct : ((root :: rest).map (·.spanId)).Nodup then
      if orphan : root.parentSpanId = none then
        .ok ⟨traceId, runId, status, ledger, lineage, root :: rest, distinct, root, rest, rfl, orphan⟩
      else .error ⟨.valueError, "trace root span cannot have a parent"⟩
    else .error ⟨.valueError, "trace spans must be non-empty and uniquely identified"⟩

/-! ### Attributes -/

def RunStatus.value : RunStatus → String
  | .new => "NEW"
  | .active => "ACTIVE"
  | .waitingApproval => "WAITING_APPROVAL"
  | .waitingReview => "WAITING_REVIEW"
  | .interrupted => "INTERRUPTED"
  | .stopped => "STOPPED"
  | .rejected => "REJECTED"
  | .failed => "FAILED"
  | .budgetExhausted => "BUDGET_EXHAUSTED"

/-- `dict.update`. -/
def updated (fields more : Fields) : Fields := more.foldl (fun fields field => insertField field.1 field.2 fields) fields

def safeProfileKeys : List String :=
  ["profile_ref", "provider_profile_ref", "model_identifier", "model_version", "job_id", "job_handle_id",
    "config_digest", "task_digest", "execution_config_digest", "seed", "seed_value", "resource_profile_ref"]

/-- The keys that the filter of an event's mappings lets through. -/
def isSafeKey (key : String) : Bool := key ∈ safeProfileKeys || hasSuffix key "_digest"

/-- `_safe_mapping_attributes`. -/
def safeMappingAttributes (value : JsonObject) : Fields :=
  value.fields.filterMap fun field =>
    if isSafeKey field.1 then field.2.scalars.map fun item => (field.1, item) else none

/-- A text under a key, when there is one. -/
def optionalEntry (key : String) (text : α → String) (value : Option α) : Fields :=
  value.toList.map fun value => (key, .str (text value))

/-- The entry of a mapping under a key, when it is a text. -/
def textEntry (value : Option Json) (key : String) : Fields :=
  match value with
  | some (.str text) => [(key, .str text)]
  | _ => []

/-- The decision and the reviewer of a recorded approval. -/
def approvalAttributes (event : LedgerEvent) : Fields :=
  match event.metadata.get "approval" with
  | some (.obj approval) => ["decision", "reviewer_ref"].flatMap fun key => textEntry (approval.lookup key) key
  | _ => []

/-- `_event_attributes`. -/
def eventAttributes (event : LedgerEvent) : Fields :=
  let identity := [("event_type", .str event.eventType.name)] ++ optionalEntry "status" Identifier.text event.status ++
    textEntry (event.metadata.get "call_id") "call_id" ++
    textEntry (event.metadata.get "tool_call_digest") "tool_call_digest" ++
    optionalEntry "tool_name" Identifier.text event.toolName ++ optionalEntry "tool_version" Identifier.text event.toolVersion
  let mappings := [event.modelProfile, event.providerProfile, event.metadata].flatMap safeMappingAttributes
  let digests := optionalEntry "prompt_digest" DigestReference.text event.promptDigest ++
    optionalEntry "config_digest" DigestReference.text event.configDigest
  let approval := if event.eventType = .approvalRecorded then approvalAttributes event else []
  updated [] (identity ++ mappings ++ digests ++ safeMappingAttributes event.seedMetadata ++ approval)

def artifactList (ids : List ArtifactId) : Json := .arr (ids.map fun id => .str id.text)

/-- `_root_attributes`. -/
def rootAttributes (inspection : RunInspection) : Fields :=
  [("run_id", .str inspection.runId.text), ("request_digest", .str inspection.requestDigest.text),
    ("policy_digest", .str inspection.policyDigest.text), ("status", .str inspection.status.value),
    ("decision_count", .int inspection.decisionCount), ("tool_call_count", .int inspection.toolCallCount),
    ("step_count", .int inspection.stepCount),
    ("initial_artifact_ids", artifactList inspection.initialArtifactIds.ids),
    ("final_artifact_ids", artifactList inspection.finalArtifactIds),
    ("ledger_sha256", .str inspection.ledgerSha256.text), ("lineage_sha256", .str inspection.lineageSha256.text)] ++
  optionalEntry "runtime_profile_ref" Identifier.text inspection.runtimeProfileRef ++
  optionalEntry "runtime_profile_digest" Digest.text inspection.runtimeProfileDigest

/-- `_call_span_attributes`. -/
def callSpanAttributes (call : ToolCallInspection) : Fields :=
  [("call_id", .str call.callId.text), ("step_id", .str call.stepId.text), ("tool_name", .str call.toolName.text),
    ("tool_version", .str call.toolVersion.text), ("tool_spec_digest", .str call.toolSpecDigest.text),
    ("tool_call_digest", .str call.toolCallDigest.text),
    ("input_artifact_ids", artifactList call.inputArtifactIds.ids),
    ("output_artifact_ids", artifactList call.outputArtifactIds.ids),
    ("approval_required", .bool call.approvalRequired), ("execution_status", .str call.executionStatus.value)] ++
  optionalEntry "approval_status" ApprovalStatus.value call.approvalStatus ++
  optionalEntry "result_data_sha256" Digest.text call.resultDataSha256 ++
  optionalEntry "failure_type" Identifier.text call.failureType

/-! ### Projection -/

section
variable [Sha256]

def traceIdForRun (runId : Identifier) : HexId 32 :=
  (sha256Bytes (Json.obj [("namespace", .str "molly.trace.v1"), ("run_id", .str runId.text)]).encode).first 32

def spanIdFor (traceId : HexId 32) (kind : String) (identity : Identifier) : HexId 16 :=
  (sha256Bytes (Json.obj [("trace_id", .str traceId.text), ("kind", .str kind),
    ("identity", .str identity.text)]).encode).first 16

/-- `str.lower` on an identifier. -/
def lowered (text : String) : String := String.ofList (text.toList.map Char.toLower)

def traceEvent (event : LedgerEvent) : Except PyError TraceEvent := do
  let name ← validateIdentifier "trace event name" ("molly.event." ++ lowered event.eventType.name)
  let attributes ← freezeFields "trace event attributes" (eventAttributes event)
  return ⟨name, event.timestamp, attributes⟩

/-- `events_by_id[event_id]`. -/
def eventById (events : List LedgerEvent) (eventId : Identifier) : Except PyError LedgerEvent :=
  match events.reverse.find? (·.eventId = eventId) with
  | some event => .ok event
  | none => .error ⟨.keyError, eventId.text⟩

/-- One span over some events: `spanned` gives its times, `shown` its trace events. -/
def traceSpan (spanId : HexId 16) (parent : Option (HexId 16)) (name : String) (spanned shown : List LedgerEvent)
    (attributes : Fields) : Except PyError TraceSpan := do
  let events ← shown.mapM traceEvent
  match spanned.head?, spanned.getLast? with
  | some first, some last =>
    let name ← validateIdentifier "trace span name" name
    let attributes ← freezeFields "trace span attributes" attributes
    return ⟨spanId, parent, name, first.timestamp, some last.timestamp, attributes, events⟩
  | _, _ => throw ⟨.keyError, "list index out of range"⟩

def callSpan (traceId : HexId 32) (events : List LedgerEvent) (call : ToolCallInspection) (rootId : HexId 16) :
    Except PyError TraceSpan := do
  let callEvents ← call.eventIds.mapM (eventById events)
  traceSpan (spanIdFor traceId "call" call.callId) (some rootId) ("molly.tool." ++ call.toolName.text) callEvents
    callEvents (callSpanAttributes call)

/-- `project_run`. -/
def projectRun (inspector : RunInspector) (runId : Identifier) : Except PyError RunTrace := do
  let inspection ← inspector.inspectRun runId
  let events ← inspector.eventsForRun runId
  let traceId := traceIdForRun inspection.runId
  let rootId := spanIdFor traceId "run" inspection.runId
  let root ← traceSpan rootId none "molly.run" events (events.filter fun event => !event.eventType.isCall)
    (rootAttributes inspection)
  let calls ← inspection.materializedCalls.mapM fun call => callSpan traceId events call rootId
  RunTrace.create traceId inspection.runId inspection.status inspection.ledgerSha256 inspection.lineageSha256
    (root :: calls)

end
end Molly
