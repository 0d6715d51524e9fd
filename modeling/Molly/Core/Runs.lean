import Molly.Core.Tools

/-! Approvals, run requests and the projections handed to callers. -/
namespace Molly

/-! ### Approvals -/

inductive ApprovalDecision where
  | approved | rejected
  deriving DecidableEq, Repr

def ApprovalDecision.value : ApprovalDecision → String
  | .approved => "APPROVED"
  | .rejected => "REJECTED"

/-- `value.strip().upper()`; no character outside ASCII has an upper case made of the
letters of the two decisions. -/
def stripUpper (value : String) : String := String.ofList ((strip value.toList).map Char.toUpper)

def approvalDecision : Json → Except PyError ApprovalDecision
  | .str value =>
    if stripUpper value = "APPROVED" then .ok .approved
    else if stripUpper value = "REJECTED" then .ok .rejected
    else .error ⟨.approval, "unknown approval decision: '" ++ value ++ "'"⟩
  | value => .error ⟨.approval, "unknown approval decision: " ++ pyStr value⟩

@[simp] theorem approvalDecision_value (d : ApprovalDecision) :
    approvalDecision (.str d.value) = .ok d := by
  cases d <;> decide +kernel

/-- One human decision for one exact materialized call digest. -/
structure ApprovalRecord where
  approvalId : Identifier
  toolCallDigest : Digest
  decision : ApprovalDecision
  reviewerRef : Reference
  createdAt : Timestamp
  deriving DecidableEq

namespace ApprovalRecord

def toDict (a : ApprovalRecord) : Fields :=
  [("approval_id", .str a.approvalId.text), ("tool_call_digest", .str a.toolCallDigest.text),
    ("decision", .str a.decision.value), ("reviewer_ref", .str a.reviewerRef.text),
    ("created_at", .str a.createdAt.text)]

def digest [Sha256] (a : ApprovalRecord) : Digest := sha256Bytes (Json.obj a.toDict).encode

def bindsTo [Sha256] (a : ApprovalRecord) (call : MaterializedToolCall) : Bool :=
  a.toolCallDigest = call.digest

def assertBindsTo [Sha256] (a : ApprovalRecord) (call : MaterializedToolCall) : Except PyError Unit :=
  if a.bindsTo call then .ok ()
  else .error ⟨.approval, "approval is not bound to the exact materialized tool call"⟩

/-- The guarded part of `from_dict`. -/
def parse (value : Fields) : Except PyError ApprovalRecord := do
  let text key := pyStr <$> item value key
  let approvalId ← validateIdentifier "approval_id" (← text "approval_id")
  let toolCallDigest ← validateDigestReference "tool_call_digest" (← text "tool_call_digest")
  let decision ← approvalDecision (← item value "decision")
  let reviewerRef ← validateReference "reviewer_ref" (← text "reviewer_ref")
  let createdAt ← normalizeTimestamp "created_at" (← text "created_at")
  return ⟨approvalId, toolCallDigest, decision, reviewerRef, createdAt⟩

def fromDict : Json → Except PyError ApprovalRecord
  | .obj value => orRaise (parse value) .approval "approval is malformed"
  | _ => .error ⟨.approval, "approval must be a JSON object"⟩

@[simp] theorem accepted_toDict (a : ApprovalRecord) : Json.acceptedFields a.toDict = true := by
  simp only [toDict, Json.acceptedFields, Json.accepted, Bool.and_true]
  simp [acceptsKey_record]

/-- A persisted approval reads back as itself. -/
@[simp] theorem fromDict_toDict (a : ApprovalRecord) :
    fromDict (.obj (Json.canonFields a.toDict)) = .ok a := by
  have read (key : String) : (Json.canonFields a.toDict).lookup key =
      (a.toDict.lookup key).map Json.canon := lookup_canonFields key a.toDict
  simp only [fromDict, parse, item, read]
  simp [toDict, Json.canon, pyStr, bind, Except.bind, Functor.map, Except.map, pure, Except.pure]

end ApprovalRecord

/-! ### Requests -/

/-- The request budget of older ledgers, kept for their digests. -/
structure LegacyBudget where
  maxDecisions : Nat
  maxToolCalls : Nat
  maxSteps : Nat
  deriving DecidableEq, Repr

namespace LegacyBudget

def fieldNames : List String := ["max_decisions", "max_tool_calls", "max_steps"]

def toDict (b : LegacyBudget) : Fields :=
  [("max_decisions", .int b.maxDecisions), ("max_steps", .int b.maxSteps),
    ("max_tool_calls", .int b.maxToolCalls)]

def count (name : String) (value : Fields) : Except PyError Nat :=
  match value.lookup name with
  | some (.int n) =>
    if n < 0 then .error ⟨.runBinding, "legacy run request " ++ name ++ " is malformed"⟩ else .ok n.toNat
  | _ => .error ⟨.runBinding, "legacy run request " ++ name ++ " is malformed"⟩

/-- `_legacy_budget_binding`. -/
def binding : Json → Except PyError LegacyBudget
  | .obj value =>
    if (value.all fun field => field.1 ∈ fieldNames) && fieldNames.all fun name => (value.lookup name).isSome
    then do
      let decisions ← count "max_decisions" value
      let steps ← count "max_steps" value
      let toolCalls ← count "max_tool_calls" value
      return ⟨decisions, toolCalls, steps⟩
    else .error ⟨.runBinding, "legacy run request budget is malformed"⟩
  | _ => .error ⟨.runBinding, "legacy run request budget is malformed"⟩

end LegacyBudget

def isGoal (goal : String) : Bool :=
  strip goal.toList ≠ [] && goal.toList.length ≤ 100000 && !hasNul goal

/-- An immutable request bound to one server-owned run ID. -/
structure RunRequest where
  runId : Identifier
  goal : String
  inputArtifactIds : ArtifactIds
  toolPolicyDigest : Digest
  createdAt : Timestamp
  metadata : JsonObject
  legacyBudget : Option LegacyBudget
  valid : isGoal goal = true
  deriving DecidableEq

namespace RunRequest

def toDict (r : RunRequest) : Fields :=
  [("run_id", .str r.runId.text), ("goal", .str r.goal), ("input_artifact_ids", r.inputArtifactIds.toJson),
    ("tool_policy_digest", .str r.toolPolicyDigest.text), ("created_at", .str r.createdAt.text),
    ("metadata", r.metadata.toJson)] ++
  match r.legacyBudget with
  | some budget => [("budget", .obj budget.toDict)]
  | none => []

def requestSha256 [Sha256] (r : RunRequest) : Digest := sha256Bytes (Json.obj r.toDict).encode

def validateGoal (goal : String) : Except PyError Unit :=
  if strip goal.toList = [] then .error ⟨.coreContract, "goal is required"⟩
  else if isGoal goal then .ok ()
  else .error ⟨.coreContract, "goal is outside the bounded request contract"⟩

theorem isGoal_of_validateGoal {goal : String} (checked : validateGoal goal = .ok ()) : isGoal goal = true := by
  unfold validateGoal at checked
  split at checked
  · contradiction
  split at checked
  · assumption
  · contradiction

/-- The guarded part of `from_dict`. -/
def parse (value : Fields) (budget : Option LegacyBudget) : Except PyError RunRequest := do
  let text key := pyStr <$> item value key
  let runId ← validateIdentifier "run_id" (← text "run_id")
  let goal ← text "goal"
  match checked : validateGoal goal with
  | .error e => throw e
  | .ok () =>
    let inputs ← validateArtifactIds "input_artifact_ids"
      (← pyTuple ((value.lookup "input_artifact_ids").getD (.arr [])))
    let policyDigest ← validateDigestReference "tool_policy_digest" (← text "tool_policy_digest")
    let createdAt ← normalizeTimestamp "created_at" (← text "created_at")
    let metadata ← freezeFields "run metadata" (← pyDict ((value.lookup "metadata").getD (.obj [])))
    return ⟨runId, goal, inputs, policyDigest, createdAt, metadata, budget, isGoal_of_validateGoal checked⟩

def fromDict : Json → Except PyError RunRequest
  | .obj value => do
    let budget ← match value.lookup "budget" with
      | some budget => some <$> LegacyBudget.binding budget
      | none => .ok none
    orRaise (parse value budget) .runBinding "run request is malformed"
  | _ => .error ⟨.runBinding, "run request must be a JSON object"⟩

@[simp] theorem accepted_toDict (r : RunRequest) : Json.acceptedFields r.toDict = true := by
  have budget (b : LegacyBudget) : Json.acceptedFields b.toDict = true := by
    simp only [LegacyBudget.toDict, Json.acceptedFields, Json.accepted, Bool.and_true]
    simp [acceptsKey_record]
  cases legacy : r.legacyBudget with
  | none =>
    simp only [toDict, legacy, List.cons_append, List.nil_append, Json.acceptedFields, Json.accepted,
      JsonObject.accepted_toJson, accepted_artifactIds, Bool.and_true]
    simp [acceptsKey_record]
  | some b =>
    simp only [toDict, legacy, List.cons_append, List.nil_append, Json.acceptedFields, Json.accepted,
      JsonObject.accepted_toJson, accepted_artifactIds, budget, Bool.and_true]
    simp [acceptsKey_record]

theorem binding_toDict (b : LegacyBudget) :
    LegacyBudget.binding (.obj (Json.canonFields b.toDict)) = .ok b := by
  have listed : (Json.canonFields b.toDict).all (fun field => field.1 ∈ LegacyBudget.fieldNames) = true := by
    rw [List.all_eq_true]
    intro field member
    have keys := key_mem_canonFields member
    simp only [LegacyBudget.toDict, List.map_cons, List.map_nil, List.mem_cons, List.not_mem_nil,
      or_false] at keys
    rcases keys with same | same | same <;> simp [same, LegacyBudget.fieldNames]
  have present : LegacyBudget.fieldNames.all
      (fun name => ((Json.canonFields b.toDict).lookup name).isSome) = true := by
    simp [LegacyBudget.fieldNames, LegacyBudget.toDict]
  have count (n : Nat) (name : String)
      (found : b.toDict.lookup name = some (.int n)) :
      LegacyBudget.count name (Json.canonFields b.toDict) = .ok n := by
    have below : ¬ (n : Int) < 0 := by omega
    simp [LegacyBudget.count, found, Json.canon, below]
  simp only [LegacyBudget.binding, listed, present, Bool.and_self, ↓reduceIte,
    count b.maxDecisions "max_decisions" rfl, count b.maxSteps "max_steps" rfl,
    count b.maxToolCalls "max_tool_calls" rfl]
  rfl

@[simp] theorem validateGoal_goal (r : RunRequest) : validateGoal r.goal = .ok () := by
  have valid := r.valid
  simp only [isGoal, Bool.and_eq_true, decide_eq_true_eq] at valid
  simp [validateGoal, valid.1.1, r.valid]

/-- A persisted request, with or without a legacy budget, reads back as itself. -/
@[simp] theorem fromDict_toDict (r : RunRequest) :
    fromDict (.obj (Json.canonFields r.toDict)) = .ok r := by
  have read (key : String) : (Json.canonFields r.toDict).lookup key =
      (r.toDict.lookup key).map Json.canon := lookup_canonFields key r.toDict
  cases legacy : r.legacyBudget with
  | none =>
    simp only [fromDict, parse, item, read]
    simp [toDict, legacy, Json.canon, pyStr, bind, Except.bind, Functor.map, Except.map, pure, Except.pure]
    split
    · rename_i e failed
      simp at failed
    · cases r; cases legacy; rfl
  | some b =>
    simp only [fromDict, parse, item, read]
    simp [toDict, legacy, Json.canon, pyStr, binding_toDict, bind, Except.bind, Functor.map, Except.map, pure,
      Except.pure]
    split
    · rename_i e failed
      simp at failed
    · cases r; cases legacy; rfl

end RunRequest

/-! ### Projections -/

inductive RunStatus where
  | new | active | waitingApproval | waitingReview | interrupted | stopped | rejected | failed
  | budgetExhausted
  deriving DecidableEq, Repr

/-- Sanitized context supplied to a decision provider. -/
structure RunContext where
  runId : Identifier
  goal : String
  visibleArtifactIds : ArtifactIds
  initialArtifactIds : ArtifactIds
  requestMetadata : JsonObject
  recentEvents : List JsonObject
  previousToolOutcome : Option JsonObject

def freezeOptional (field : String) : Option Fields → Except PyError (Option JsonObject)
  | none => .ok none
  | some fields => some <$> freezeFields field fields

def RunContext.create (runId : Identifier) (goal : String) (visible : List ArtifactId)
    (initial : ArtifactIds) (requestMetadata : Fields) (recentEvents : List Fields)
    (previous : Option Fields) : Except PyError RunContext := do
  let visible ← uniqueArtifactIds "visible_artifact_ids" visible
  let requestMetadata ← freezeFields "request metadata" requestMetadata
  let recentEvents ← recentEvents.mapM (freezeFields "recent event")
  let previous ← freezeOptional "tool outcome" previous
  return ⟨runId, goal, visible, initial, requestMetadata, recentEvents, previous⟩

/-- A read-only projection of one turn. -/
structure RunResult where
  runId : Identifier
  status : RunStatus
  visibleArtifactIds : ArtifactIds
  lastEventId : Option Identifier
  pendingCall : Option JsonObject
  message : String
  deriving DecidableEq

def RunResult.create (runId : Identifier) (status : RunStatus) (visible : List ArtifactId)
    (lastEventId : Option Identifier) (pending : Option Fields) (message : String) :
    Except PyError RunResult := do
  let visible ← uniqueArtifactIds "visible_artifact_ids" visible
  let pending ← freezeOptional "pending call" pending
  return ⟨runId, status, visible, lastEventId, pending, message⟩

end Molly
