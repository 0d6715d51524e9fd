import Molly.Core.Timestamps

/-! Tool specifications, the closed registry, the run policy and the exact
materialized call. -/
namespace Molly

inductive SideEffectClass where
  | pure | localArtifact | networkRead | externalWrite | remoteCompute
  deriving DecidableEq, Repr

def SideEffectClass.value : SideEffectClass → String
  | .pure => "PURE"
  | .localArtifact => "LOCAL_ARTIFACT"
  | .networkRead => "NETWORK_READ"
  | .externalWrite => "EXTERNAL_WRITE"
  | .remoteCompute => "REMOTE_COMPUTE"

def maxToolResultDataBytes : Nat := 64 * 1024

/-! ### Bounded texts -/

def isBounded (text : String) : Bool := text.toList.length ≤ 2000
def hasNul (text : String) : Bool := text.toList.any (·.toNat = 0)

/-- The reason of a stop or review action. -/
structure Reason where
  text : String
  bounded : isBounded text = true
  deriving DecidableEq, Repr

/-- The reason summary of a tool call, which also excludes NUL. -/
structure Summary where
  text : String
  bounded : isBounded text = true
  clean : hasNul text = false
  deriving DecidableEq, Repr

def Summary.empty : Summary := ⟨"", rfl, rfl⟩

def validateSummary (value : String) : Except PyError Summary :=
  if bounded : isBounded value = true then
    if clean : hasNul value = false then .ok ⟨value, bounded, clean⟩
    else .error ⟨.toolContract, "reason_summary contains NUL"⟩
  else .error ⟨.toolContract, "reason_summary must be bounded text"⟩

@[simp] theorem validateSummary_text (s : Summary) : validateSummary s.text = .ok s := by
  simp [validateSummary, s.bounded, s.clean]

/-! ### Specifications -/

/-- JSON Schema validation, the `jsonschema` package: the path of the fault reported
for a value, if the value has one. -/
class JsonSchema where
  fault : (schema : JsonObject) → (value : Json) → Option (List String)

/-- `_validate_schema_data`. -/
def validateSchemaData [JsonSchema] (schema : JsonObject) (value : Json) (field : String) :
    Except PyError Unit :=
  match JsonSchema.fault schema value with
  | none => .ok ()
  | some path =>
    let place := ".".intercalate path
    let suffix := if place = "" then "" else " at " ++ place
    .error ⟨.schemaValidation, field ++ " does not match its JSON schema" ++ suffix⟩

/-- One exact, server-owned version of a bounded tool. -/
structure ToolSpec where
  name : Identifier
  version : Identifier
  description : String
  inputSchema : JsonObject
  outputSchema : JsonObject
  sideEffectClass : SideEffectClass
  requiresApproval : Bool
  executionConfigDigest : Option Digest
  described : strip description.toList ≠ []
  deriving DecidableEq

namespace ToolSpec

def toDict (spec : ToolSpec) : Fields :=
  [("name", .str spec.name.text), ("version", .str spec.version.text),
    ("description", .str spec.description), ("input_schema", spec.inputSchema.toJson),
    ("output_schema", spec.outputSchema.toJson),
    ("side_effect_class", .str spec.sideEffectClass.value),
    ("requires_approval", .bool spec.requiresApproval)] ++
  match spec.executionConfigDigest with
  | some digest => [("execution_config_digest", .str digest.text)]
  | none => []

def specDigest [Sha256] (spec : ToolSpec) : Digest := sha256Bytes (Json.obj spec.toDict).encode

/-- The only tool information exposed to a decision provider. -/
def modelView (spec : ToolSpec) : Json :=
  .obj [("name", .str spec.name.text), ("description", .str spec.description),
    ("input_schema", spec.inputSchema.toJson)]

def validateArguments [JsonSchema] (spec : ToolSpec) (arguments : JsonObject) : Except PyError Unit :=
  validateSchemaData spec.inputSchema arguments.toJson "tool arguments"

def validateOutput [JsonSchema] (spec : ToolSpec) (data : Json) : Except PyError Unit := do
  let _ ← orRaise (canonicalJsonBytes data) .toolContract "tool output must contain canonical JSON data"
  validateSchemaData spec.outputSchema data "tool output"

def key (spec : ToolSpec) : Identifier × Identifier := (spec.name, spec.version)

end ToolSpec

/-! ### Registry -/

/-- The registered tools, each under its own name and version. -/
structure ToolRegistry where
  tools : List ToolSpec
  distinct : (tools.map ToolSpec.key).Nodup

namespace ToolRegistry

def byName (registry : ToolRegistry) (name : Identifier) : List ToolSpec :=
  registry.tools.filter (·.name = name)

/-- The last two checks of `resolve`. -/
def only (name : Identifier) : List ToolSpec → Except PyError ToolSpec
  | [] => .error ⟨.toolContract, "unknown tool: '" ++ name.text ++ "'"⟩
  | [spec] => .ok spec
  | _ => .error ⟨.toolContract,
      "tool name is ambiguous; exact version required: '" ++ name.text ++ "'"⟩

def resolve (registry : ToolRegistry) (name : Identifier) (version : Option Identifier) :
    Except PyError ToolSpec :=
  match version with
  | none => only name (registry.byName name)
  | some version => only name ((registry.byName name).filter (·.version = version))

def resolveExact [Sha256] (registry : ToolRegistry) (name version : Identifier) (digest : Digest) :
    Except PyError ToolSpec := do
  let spec ← registry.resolve name (some version)
  if spec.specDigest ≠ digest then
    throw ⟨.toolContract, "registered tool spec digest does not match the materialized call"⟩
  return spec

/-- The entry whose executor `executor_for` returns. -/
def executorFor [Sha256] (registry : ToolRegistry) (spec : ToolSpec) : Except PyError ToolSpec :=
  match registry.tools.find? (·.key = spec.key) with
  | none => .error ⟨.toolContract, "tool is not registered"⟩
  | some entry =>
    if entry.specDigest ≠ spec.specDigest then
      .error ⟨.toolContract, "registered tool semantics changed"⟩
    else .ok entry

def specLe (a b : ToolSpec) : Bool :=
  keyLt a.name.text b.name.text || (a.name = b.name && !keyLt b.version.text a.version.text)

def modelVisibleTools (registry : ToolRegistry) : List Json :=
  (registry.tools.mergeSort specLe).map ToolSpec.modelView

end ToolRegistry

/-! ### Policy -/

/-- The complete immutable execution policy of a run. -/
structure ToolPolicy where
  allowedTools : List Identifier
  allowedSideEffectClasses : List SideEffectClass
  approvalRequiredSideEffectClasses : List SideEffectClass

namespace ToolPolicy

def classesJson (classes : List SideEffectClass) : Json := .arr (classes.map fun c => .str c.value)

def toDict (policy : ToolPolicy) : Fields :=
  [("allowed_tools", .arr (policy.allowedTools.map fun name => .str name.text)),
    ("allowed_side_effect_classes", classesJson policy.allowedSideEffectClasses),
    ("approval_required_side_effect_classes", classesJson policy.approvalRequiredSideEffectClasses)]

def policyDigest [Sha256] (policy : ToolPolicy) : Digest := sha256Bytes (Json.obj policy.toDict).encode

def sortBy (value : α → String) (items : List α) : List α :=
  items.mergeSort fun a b => !keyLt (value b) (value a)

def uniqueStrings [DecidableEq α] (field : String) (values : List α) : Except PyError (List α) :=
  if values.Nodup then .ok values
  else .error ⟨.toolContract, field ++ " must not contain duplicates"⟩

/-- The constructor: duplicate-free lists, kept in order. -/
def create (allowedTools : List Identifier)
    (allowedSideEffectClasses approvalRequired : List SideEffectClass) : Except PyError ToolPolicy := do
  let tools ← uniqueStrings "allowed_tools" allowedTools
  let allowed ← uniqueStrings "allowed_side_effect_classes" allowedSideEffectClasses
  let required ← uniqueStrings "approval_required_side_effect_classes" approvalRequired
  return ⟨sortBy Identifier.text tools, sortBy SideEffectClass.value allowed,
    sortBy SideEffectClass.value required⟩

def allows (policy : ToolPolicy) (spec : ToolSpec) : Bool :=
  spec.name ∈ policy.allowedTools && spec.sideEffectClass ∈ policy.allowedSideEffectClasses

def requiresApproval (policy : ToolPolicy) (spec : ToolSpec) : Bool :=
  spec.requiresApproval || spec.sideEffectClass ∈ policy.approvalRequiredSideEffectClasses

def check (policy : ToolPolicy) (spec : ToolSpec) : Except PyError Unit :=
  if policy.allows spec then .ok ()
  else .error ⟨.toolPolicy, "tool is not allowed by the run ToolPolicy: " ++ spec.name.text⟩

end ToolPolicy

/-! ### Authority fields -/

def modelAuthorityKeys : List String :=
  ["run_id", "step_id", "call_id", "tool_version", "tool_spec_digest", "policy_digest", "approval_id",
    "approval_digest", "idempotency_key", "executor", "backend", "path", "filesystem_path",
    "store_root", "credential", "credentials", "secret", "token", "ssh_target", "endpoint",
    "private_endpoint"]

def authorityKey (key : String) : Bool :=
  String.ofList (key.toList.flatMap casefold) ∈ modelAuthorityKeys

mutual
/-- `_reject_model_authority_fields`. -/
def Json.rejectAuthority : Json → Except PyError Unit
  | .arr items => Json.rejectAuthorityItems items
  | .obj fields => Json.rejectAuthorityFields fields
  | _ => .ok ()

def Json.rejectAuthorityItems : List Json → Except PyError Unit
  | [] => .ok ()
  | item :: items =>
    match item.rejectAuthority with
    | .error e => .error e
    | .ok () => Json.rejectAuthorityItems items

def Json.rejectAuthorityFields : List (String × Json) → Except PyError Unit
  | [] => .ok ()
  | (key, item) :: fields =>
    if authorityKey key then
      .error ⟨.toolContract, "model action cannot provide authority field: " ++ key⟩
    else
      match item.rejectAuthority with
      | .error e => .error e
      | .ok () => Json.rejectAuthorityFields fields
end

/-- Tool arguments: a frozen mapping without server-owned fields. -/
structure Arguments where
  object : JsonObject
  modelOwned : object.toJson.rejectAuthority = .ok ()
  deriving DecidableEq

theorem rejectAuthorityFields_insertField (key : String) (item : Json) (fields : Fields)
    (head : authorityKey key = false) (value : item.rejectAuthority = .ok ())
    (tail : Json.rejectAuthorityFields fields = .ok ()) :
    Json.rejectAuthorityFields (insertField key item fields) = .ok () := by
  induction fields with
  | nil => simp [insertField, Json.rejectAuthorityFields, head, value]
  | cons first rest ih =>
    obtain ⟨k, v⟩ := first
    have kept := tail
    simp only [Json.rejectAuthorityFields] at tail
    split at tail
    · contradiction
    rename_i owned
    cases checked : v.rejectAuthority with
    | error e => simp [checked] at tail
    | ok =>
      simp only [checked] at tail
      simp only [insertField]
      split
      · simp [Json.rejectAuthorityFields, head, value, owned, checked, tail]
      split
      · simp [Json.rejectAuthorityFields, head, value, tail]
      · simp [Json.rejectAuthorityFields, owned, checked, ih tail]

mutual
theorem rejectAuthority_canon : ∀ j : Json, j.rejectAuthority = .ok () → j.canon.rejectAuthority = .ok ()
  | .null, _ | .bool _, _ | .int _, _ | .float _, _ | .str _, _ => by simp [Json.canon, Json.rejectAuthority]
  | .arr items, kept => by
    simpa [Json.canon, Json.rejectAuthority] using
      rejectAuthorityItems_canon items (by simpa [Json.rejectAuthority] using kept)
  | .obj fields, kept => by
    simpa [Json.canon, Json.rejectAuthority] using
      rejectAuthorityFields_canon fields (by simpa [Json.rejectAuthority] using kept)

theorem rejectAuthorityItems_canon : ∀ items : List Json, Json.rejectAuthorityItems items = .ok () →
    Json.rejectAuthorityItems (Json.canonItems items) = .ok ()
  | [], _ => by simp [Json.canonItems, Json.rejectAuthorityItems]
  | item :: items, kept => by
    simp only [Json.rejectAuthorityItems] at kept
    cases checked : item.rejectAuthority with
    | error e => simp [checked] at kept
    | ok =>
      simp only [checked] at kept
      simp [Json.canonItems, Json.rejectAuthorityItems, rejectAuthority_canon item checked,
        rejectAuthorityItems_canon items kept]

theorem rejectAuthorityFields_canon : ∀ fields : List (String × Json),
    Json.rejectAuthorityFields fields = .ok () → Json.rejectAuthorityFields (Json.canonFields fields) = .ok ()
  | [], _ => by simp [Json.canonFields, Json.rejectAuthorityFields]
  | (key, item) :: fields, kept => by
    simp only [Json.rejectAuthorityFields] at kept
    split at kept
    · contradiction
    rename_i owned
    cases checked : item.rejectAuthority with
    | error e => simp [checked] at kept
    | ok =>
      simp only [checked] at kept
      exact rejectAuthorityFields_insertField key item.canon _ (by simpa using owned)
        (rejectAuthority_canon item checked) (rejectAuthorityFields_canon fields kept)
end

/-- The two checks on the arguments of a call, in the order of the constructors. -/
def validateArguments (field : String) (fields : Fields) : Except PyError Arguments :=
  match owned : Json.rejectAuthorityFields fields with
  | .error e => .error e
  | .ok () =>
    match frozen : freezeFields field fields with
    | .error e => .error e
    | .ok object => .ok ⟨object, by
        simp [JsonObject.toJson, Json.rejectAuthority, (freezeFields_ok.mp frozen).2,
          rejectAuthorityFields_canon fields owned]⟩

@[simp] theorem validateArguments_object (a : Arguments) (field : String) :
    validateArguments field a.object.fields = .ok a := by
  have owned := a.modelOwned
  simp only [JsonObject.toJson, Json.rejectAuthority] at owned
  unfold validateArguments
  split
  · rename_i e eq
    simp [owned] at eq
  split
  · rename_i e eq
    simp at eq
  · rename_i object eq
    rw [freezeFields_object] at eq
    cases eq
    rfl

/-! ### Actions -/

structure ToolCallProposal where
  toolName : Identifier
  arguments : Arguments
  inputArtifactIds : ArtifactIds
  reasonSummary : Summary
  deriving DecidableEq

structure StopAction where
  reason : Reason
  deriving DecidableEq

structure RequestReviewAction where
  reason : Reason
  subjectIds : List Reference
  nodup : subjectIds.Nodup
  deriving DecidableEq

inductive StructuredAction where
  | toolCall (proposal : ToolCallProposal)
  | stop (action : StopAction)
  | requestReview (action : RequestReviewAction)
  deriving DecidableEq

def StructuredAction.toDict : StructuredAction → Fields
  | .toolCall p =>
    [("action_type", .str "TOOL_CALL"), ("tool_name", .str p.toolName.text),
      ("arguments", p.arguments.object.toJson), ("input_artifact_ids", p.inputArtifactIds.toJson),
      ("reason_summary", .str p.reasonSummary.text)]
  | .stop a => [("action_type", .str "STOP"), ("reason", .str a.reason.text)]
  | .requestReview a =>
    [("action_type", .str "REQUEST_REVIEW"), ("reason", .str a.reason.text),
      ("subject_ids", .arr (a.subjectIds.map fun subject => .str subject.text))]

/-! ### Materialized calls -/

/-- The complete server-owned execution identity. Its digest is computed, since the
constructor refuses any other stored one. -/
structure MaterializedToolCall where
  runId : Identifier
  stepId : Identifier
  callId : Identifier
  toolName : Identifier
  toolVersion : Identifier
  toolSpecDigest : Digest
  policyDigest : Digest
  arguments : Arguments
  inputArtifactIds : ArtifactIds
  createdAt : Timestamp
  reasonSummary : Summary
  deriving DecidableEq

namespace MaterializedToolCall

/-- `_body`. -/
def body (call : MaterializedToolCall) : Fields :=
  [("run_id", .str call.runId.text), ("step_id", .str call.stepId.text),
    ("call_id", .str call.callId.text), ("tool_name", .str call.toolName.text),
    ("tool_version", .str call.toolVersion.text), ("tool_spec_digest", .str call.toolSpecDigest.text),
    ("policy_digest", .str call.policyDigest.text), ("arguments", call.arguments.object.toJson),
    ("input_artifact_ids", call.inputArtifactIds.toJson), ("created_at", .str call.createdAt.text)]

def digest [Sha256] (call : MaterializedToolCall) : Digest := sha256Bytes (Json.obj call.body).encode

def toDict [Sha256] (call : MaterializedToolCall) : Fields :=
  call.body ++ [("tool_call_digest", .str call.digest.text), ("reason_summary", .str call.reasonSummary.text)]

def allowedFields : List String :=
  ["run_id", "step_id", "call_id", "tool_name", "tool_version", "tool_spec_digest", "policy_digest",
    "arguments", "input_artifact_ids", "created_at", "tool_call_digest", "reason_summary"]

/-- The guarded part of `from_dict`. -/
def parse [Sha256] (value : Fields) : Except PyError MaterializedToolCall := do
  let text key := pyStr <$> item value key
  let runId ← validateIdentifier "run_id" (← text "run_id")
  let stepId ← validateIdentifier "step_id" (← text "step_id")
  let callId ← validateIdentifier "call_id" (← text "call_id")
  let toolName ← validateIdentifier "tool_name" (← text "tool_name")
  let toolVersion ← validateIdentifier "tool_version" (← text "tool_version")
  let specDigest ← validateDigestReference "tool_spec_digest" (← text "tool_spec_digest")
  let policyDigest ← validateDigestReference "policy_digest" (← text "policy_digest")
  let arguments ← validateArguments "materialized arguments" (← pyDict (← item value "arguments"))
  let inputs ← validateArtifactIds "input_artifact_ids"
    (← pyTuple ((value.lookup "input_artifact_ids").getD (.arr [])))
  let createdAt ← normalizeTimestamp "created_at" (← text "created_at")
  let recorded ← validateDigestReference "tool_call_digest" (← text "tool_call_digest")
  let summary ← validateSummary (pyStr ((value.lookup "reason_summary").getD (.str "")))
  let call : MaterializedToolCall := ⟨runId, stepId, callId, toolName, toolVersion, specDigest, policyDigest,
    arguments, inputs, createdAt, summary⟩
  if recorded ≠ call.digest then
    throw ⟨.toolContract, "materialized tool call digest mismatch"⟩
  return call

def fromDict [Sha256] : Json → Except PyError MaterializedToolCall
  | .obj value =>
    if value.any fun field => field.1 ∉ allowedFields then
      .error ⟨.toolContract, "materialized tool call has unknown fields"⟩
    else orRaise (parse value) .toolContract "materialized tool call is malformed"
  | _ => .error ⟨.toolContract, "materialized tool call must be an object"⟩

/-- The values of a call's own mapping are accepted by the ledger as they are. -/
@[simp] theorem accepted_body (call : MaterializedToolCall) : Json.acceptedFields call.body = true := by
  simp only [body, Json.acceptedFields, Json.accepted, JsonObject.accepted_toJson, accepted_artifactIds,
    Bool.and_true]
  simp [acceptsKey_record]

@[simp] theorem accepted_toDict [Sha256] (call : MaterializedToolCall) :
    Json.acceptedFields call.toDict = true := by
  simp only [toDict, body, List.cons_append, List.nil_append, Json.acceptedFields, Json.accepted,
    JsonObject.accepted_toJson, accepted_artifactIds, Bool.and_true]
  simp [acceptsKey_record]

/-- A persisted call reads back as itself. -/
@[simp] theorem fromDict_toDict [Sha256] (call : MaterializedToolCall) :
    fromDict (.obj (Json.canonFields call.toDict)) = .ok call := by
  have known : (Json.canonFields call.toDict).any (fun field => field.1 ∉ allowedFields) = false := by
    rw [List.any_eq_false]
    intro field member
    have listed : field.1 ∈ allowedFields := by
      simpa [toDict, body, allowedFields] using key_mem_canonFields member
    simp [listed]
  have read (key : String) : (Json.canonFields call.toDict).lookup key =
      (call.toDict.lookup key).map Json.canon := lookup_canonFields key call.toDict
  simp only [fromDict, known, parse, item, read]
  simp [toDict, body, Json.canon, pyStr, bind, Except.bind, Functor.map, Except.map, pure, Except.pure]

end MaterializedToolCall

/-! ### Execution -/

/-- The immutable projection of one call that an executor receives. -/
structure ToolExecutionContext where
  runId : Identifier
  stepId : Identifier
  callId : Identifier
  idempotencyKey : Digest
  arguments : Arguments
  inputArtifactIds : ArtifactIds
  deriving DecidableEq

/-- Intrinsic publication data returned by a host tool. -/
structure ArtifactDraft where
  content : Bytes
  mediaType : String
  schemaName : Option Identifier
  schemaVersion : Option Identifier
  deriving DecidableEq

/-- The fields of a draft before its own checks. -/
structure DraftFields where
  content : Bytes
  mediaType : String
  schemaName : Option String
  schemaVersion : Option String
  deriving DecidableEq

def validateOptionalIdentifier (field : String) : Option String → Except PyError (Option Identifier)
  | none => .ok none
  | some value => some <$> validateIdentifier field value

def hasControl (text : String) : Bool := text.toList.any (·.toNat ∈ [0, 10, 13])

def ArtifactDraft.create (draft : DraftFields) : Except PyError ArtifactDraft := do
  if strip draft.mediaType.toList = [] then
    throw ⟨.toolContract, "ArtifactDraft media_type is required"⟩
  if hasControl draft.mediaType then
    throw ⟨.toolContract, "ArtifactDraft media_type contains a control character"⟩
  let schemaName ← validateOptionalIdentifier "schema_name" draft.schemaName
  let schemaVersion ← validateOptionalIdentifier "schema_version" draft.schemaVersion
  return ⟨draft.content, draft.mediaType, schemaName, schemaVersion⟩

/-- Structured host output with its artifact drafts. -/
structure ToolResult where
  data : Json
  artifacts : List ArtifactDraft

def oversizedData : PyError := ⟨.toolContract,
  "tool result data exceeds the bounded canonical size; publish larger content through ArtifactDraft"⟩

def ToolResult.create (data : Json) (artifacts : List DraftFields) : Except PyError ToolResult := do
  let message := "tool result data must contain canonical JSON data"
  let frozen ← orRaise (freezeJsonValue "tool result data" data) .toolContract message
  let encoded ← orRaise (canonicalJsonBytes frozen) .toolContract message
  if encoded.length > maxToolResultDataBytes then throw oversizedData
  return ⟨frozen, ← artifacts.mapM ArtifactDraft.create⟩

/-- What an executor does: it returns data with drafts, or it raises. -/
inductive ExecutorOutcome where
  | returned (data : Json) (artifacts : List DraftFields)
  | raised (typeName : String)
  deriving DecidableEq

/-- What a decision provider does; any exception but `StopIteration` becomes an
`ActionError`. -/
inductive ProviderOutcome where
  | action (value : StructuredAction)
  | stopIteration
  | actionError (message : String)
  | raised
  deriving DecidableEq

end Molly
