import Molly.File.Joined
import Molly.Oled.Schema
import Mathlib.Data.List.TakeWhile

/-! The records of a run as its ledger keeps them: a materialized call, a run request and an approval,
with the dict that each is written as and the reader of that dict. -/
namespace Molly
open Effect (chars chars_eq)

/-! ### References that are read back -/

theorem slashParts_ne_nil : ∀ cs : List Char, slashParts cs ≠ []
  | [] => by simp [slashParts]
  | c :: cs => by
    unfold slashParts
    split
    · simp
    · split <;> simp

theorem slashParts_plain_cons {c : Char} (plain : c ≠ '/') {cs part : List Char} {parts : List (List Char)}
    (split : slashParts cs = part :: parts) : slashParts (c :: cs) = (c :: part) :: parts := by
  rw [slashParts, if_neg plain, split]

/-- A part of dots is a part of the other text. -/
def DotsKept (part other : List Char) : Prop := (∀ c ∈ part, c = '.') → part = other

namespace PyText

/-- The parts of the joined text that are dots are parts of the text. -/
theorem slashParts_joined : ∀ text : PyText,
    List.Forall₂ DotsKept (slashParts (text.joined.map CodePoint.toChar)) (slashParts (text.map CodePoint.toChar))
  | [] => .cons (fun _ => rfl) .nil
  | [p] => by
    have same : joined [p] = [p] := rfl
    rw [same]
    exact List.forall₂_same.mpr fun _ _ _ => rfl
  | p :: q :: rest => by
    by_cases pair : (p.isHigh && q.isLow) = true
    · have tail := slashParts_joined rest
      rw [joined_pair pair, List.map_cons, List.map_cons, List.map_cons]
      have val := joinSurrogates_val pair
      have shown := toChar_beyond (p := joinSurrogates p q) (by omega)
      have apart {c : Char} (small : c.toNat < 65536) : (joinSurrogates p q).toChar ≠ c := by
        intro same
        rw [same] at shown
        omega
      rw [Bool.and_eq_true] at pair
      rw [toChar_surrogate (Or.inl pair.1), toChar_surrogate (Or.inr pair.2)]
      cases first : slashParts ((joined rest).map CodePoint.toChar) with
      | nil => exact absurd first (slashParts_ne_nil _)
      | cons part parts =>
        cases second : slashParts (rest.map CodePoint.toChar) with
        | nil => exact absurd second (slashParts_ne_nil _)
        | cons other others =>
          rw [first, second] at tail
          rw [slashParts_plain_cons (apart (by decide)) first,
            slashParts_plain_cons (by decide) (slashParts_plain_cons (by decide) second)]
          obtain ⟨_, rest⟩ := List.forall₂_cons.mp tail
          refine .cons (fun dots => ?_) rest
          exact absurd (dots _ List.mem_cons_self) (apart (by decide))
    · have tail := slashParts_joined (q :: rest)
      rw [joined_apart pair, List.map_cons, List.map_cons]
      by_cases slash : p.toChar = '/'
      · rw [slash]
        simp only [slashParts, if_true]
        exact .cons (fun _ => rfl) tail
      · cases first : slashParts ((joined (q :: rest)).map CodePoint.toChar) with
        | nil => exact absurd first (slashParts_ne_nil _)
        | cons part parts =>
          cases second : slashParts ((q :: rest).map CodePoint.toChar) with
          | nil => exact absurd second (slashParts_ne_nil _)
          | cons other others =>
            rw [first, second] at tail
            rw [slashParts_plain_cons slash first, slashParts_plain_cons slash second]
            obtain ⟨head, rest⟩ := List.forall₂_cons.mp tail
            refine .cons (fun dots => ?_) rest
            rw [head fun c member => dots c (List.mem_cons_of_mem _ member)]

/-- What a reference must not have: the checks of `validate_reference`, on the characters. -/
theorem referenceFault_display {text : PyText} : referenceFault text.display = none ↔
    (text ≠ [] ∧ text.length ≤ 512) ∧ (∀ p ∈ text, isSpace p.toChar = false ∧ p.toChar.toNat ≠ 0 ∧ p.toChar ≠ '\\') ∧
      (∀ p ∈ text.head?, p.toChar ≠ '/' ∧ p.toChar ≠ '~') ∧
      ['.', '.'] ∉ slashParts (text.map CodePoint.toChar) := by
  unfold referenceFault
  have shown : chars text.display = text.map CodePoint.toChar := by
    rw [chars_eq, display, String.toList_ofList]
  simp only [shown, List.length_map, List.any_map, List.head?_map]
  constructor
  · intro clean
    split at clean
    · cases clean
    split at clean
    · cases clean
    split at clean
    · cases clean
    split at clean
    · cases clean
    rename_i bounded spaced placed dotted
    simp only [Bool.or_eq_true, decide_eq_true_eq, not_or, List.any_eq_true, not_exists, not_and, Function.comp_apply,
      Option.any_map, Option.any_eq_true, List.mem_cons, List.not_mem_nil, or_false, Bool.not_eq_true] at bounded spaced placed dotted
    refine ⟨⟨?_, by omega⟩, ?_, ?_, ?_⟩
    · intro empty
      exact bounded.1 (by rw [empty]; rfl)
    · intro p member
      exact ⟨spaced.1 p member, spaced.2 p member, placed.2 p member⟩
    · intro p first
      have heads := placed.1 p first
      exact ⟨heads.1, heads.2.2⟩
    · intro member
      exact dotted _ member rfl
  · intro clean
    obtain ⟨⟨filled, short⟩, plain, heads, dots⟩ := clean
    rw [if_neg, if_neg, if_neg, if_neg]
    · simp only [List.any_eq_true, decide_eq_true_eq, not_exists, not_and]
      intro part member same
      exact dots (same ▸ member)
    · simp only [Bool.or_eq_true, Option.any_map, Option.any_eq_true, List.any_eq_true, Function.comp_apply, decide_eq_true_eq,
        not_or, not_exists, not_and, List.mem_cons, List.not_mem_nil, or_false]
      refine ⟨fun p first => ?_, fun p member => (plain p member).2.2⟩
      have head := heads p first
      exact ⟨head.1, (plain p (List.mem_of_mem_head? first)).2.2, head.2⟩
    · simp only [Bool.or_eq_true, List.any_eq_true, Function.comp_apply, decide_eq_true_eq, not_or, not_exists, not_and,
        Bool.not_eq_true]
      exact ⟨fun p member => (plain p member).1, fun p member => (plain p member).2.1⟩
    · simp only [Bool.or_eq_true, decide_eq_true_eq, not_or]
      have long := List.length_pos_of_ne_nil filled
      omega

theorem joined_head {text : PyText} {p : CodePoint} (first : p ∈ text.joined.head?) : p ∈ text.head? ∨ 65536 ≤ p.val := by
  match text, first with
  | [], first => cases first
  | [_], first => exact Or.inl first
  | a :: b :: rest, first =>
    by_cases pair : (a.isHigh && b.isLow) = true
    · rw [joined_pair pair] at first
      obtain rfl : joinSurrogates a b = p := by simpa using first
      have val := joinSurrogates_val pair
      exact Or.inr (by omega)
    · rw [joined_apart pair] at first
      exact Or.inl first

/-- The joined text of a reference is a reference. -/
theorem referenceFault_joined {text : PyText} (valid : referenceFault text.display = none) :
    referenceFault text.joined.display = none := by
  obtain ⟨⟨filled, short⟩, plain, heads, dots⟩ := referenceFault_display.mp valid
  have apart {p : CodePoint} (beyond : 65536 ≤ p.val) {c : Char} (small : c.toNat < 65536) : p.toChar ≠ c := by
    have shown := toChar_beyond beyond
    intro same
    rw [same] at shown
    omega
  refine referenceFault_display.mpr ⟨⟨joined_ne_nil filled, ?_⟩, ?_, ?_, ?_⟩
  · have shorter := joined_length text
    omega
  · intro p member
    rcases mem_joined member with found | beyond
    · exact plain p found
    · have shown := toChar_beyond beyond
      exact ⟨isSpace_beyond beyond, by omega, apart beyond (by decide)⟩
  · intro p first
    rcases joined_head first with found | beyond
    · exact heads p found
    · exact ⟨apart beyond (by decide), apart beyond (by decide)⟩
  · intro member
    obtain ⟨other, found, kept⟩ := forall₂_left (slashParts_joined text) member
    rw [← kept (by simp)] at found
    exact dots found

end PyText

/-! ### Materialized calls -/

mutual
/-- `_reject_model_authority_fields`. -/
def PyValue.rejectAuthority : PyValue → Except PyError Unit
  | .arr items => PyValue.rejectAuthorityItems items
  | .obj fields => PyValue.rejectAuthorityFields fields
  | _ => .ok ()

def PyValue.rejectAuthorityItems : List PyValue → Except PyError Unit
  | [] => .ok ()
  | item :: items =>
    match item.rejectAuthority with
    | .error e => .error e
    | .ok () => PyValue.rejectAuthorityItems items

def PyValue.rejectAuthorityFields : PyFields → Except PyError Unit
  | [] => .ok ()
  | (key, item) :: fields =>
    if authorityKey key.display then
      .error ⟨.toolContract, "model action cannot provide authority field: " ++ key.display⟩
    else
      match item.rejectAuthority with
      | .error e => .error e
      | .ok () => PyValue.rejectAuthorityFields fields
end

theorem rejectAuthorityFields_iff {fields : PyFields} : PyValue.rejectAuthorityFields fields = .ok () ↔
    ∀ f ∈ fields, authorityKey f.1.display = false ∧ f.2.rejectAuthority = .ok () := by
  induction fields with
  | nil => simp [PyValue.rejectAuthorityFields]
  | cons field fields ih =>
    obtain ⟨key, item⟩ := field
    by_cases owned : authorityKey key.display = true
    · simp [PyValue.rejectAuthorityFields, owned]
    · cases checked : item.rejectAuthority with
      | error e => simp [PyValue.rejectAuthorityFields, owned, checked]
      | ok => simp [PyValue.rejectAuthorityFields, owned, checked, ih]

theorem rejectAuthorityItems_iff {items : List PyValue} : PyValue.rejectAuthorityItems items = .ok () ↔
    ∀ v ∈ items, v.rejectAuthority = .ok () := by
  induction items with
  | nil => simp [PyValue.rejectAuthorityItems]
  | cons item items ih =>
    cases checked : item.rejectAuthority with
    | error e => simp [PyValue.rejectAuthorityItems, checked]
    | ok => simp [PyValue.rejectAuthorityItems, checked, ih]

mutual
theorem rejectAuthority_pyCanon : ∀ v : PyValue, v.rejectAuthority = .ok () → v.canon.rejectAuthority = .ok ()
  | .null, _ | .bool _, _ | .int _, _ | .float _, _ | .nonFinite _, _ | .str _, _ => by
    simp only [PyValue.canon, PyValue.rejectAuthority]
  | .arr items, kept => by
    simp only [PyValue.canon, PyValue.rejectAuthority] at kept ⊢
    exact rejectAuthorityItems_pyCanon items kept
  | .obj fields, kept => by
    simp only [PyValue.canon, PyValue.rejectAuthority] at kept ⊢
    refine rejectAuthorityFields_iff.mpr fun f member => ?_
    obtain ⟨g, found, rfl⟩ := mem_pyCanonFields member
    exact ⟨(rejectAuthorityFields_iff.mp kept g found).1, rejectAuthorityEach_pyCanon fields kept g found⟩

theorem rejectAuthorityItems_pyCanon : ∀ items : List PyValue, PyValue.rejectAuthorityItems items = .ok () →
    PyValue.rejectAuthorityItems (PyValue.canonItems items) = .ok ()
  | [], _ => rfl
  | item :: items, kept => by
    have each := List.forall_mem_cons.mp (rejectAuthorityItems_iff.mp kept)
    have head := rejectAuthority_pyCanon item each.1
    have tail := rejectAuthorityItems_pyCanon items (rejectAuthorityItems_iff.mpr each.2)
    simp only [PyValue.canonItems, PyValue.rejectAuthorityItems, head, tail]

theorem rejectAuthorityEach_pyCanon : ∀ fields : PyFields, PyValue.rejectAuthorityFields fields = .ok () →
    ∀ f ∈ fields, f.2.canon.rejectAuthority = .ok ()
  | (key, item) :: fields, kept, f, member => by
    have each := List.forall_mem_cons.mp (rejectAuthorityFields_iff.mp kept)
    rcases List.mem_cons.mp member with rfl | member
    · exact rejectAuthority_pyCanon item each.1.2
    · exact rejectAuthorityEach_pyCanon fields (rejectAuthorityFields_iff.mpr each.2) f member
end

theorem rejectAuthorityFields_pyCanon {fields : PyFields} (kept : PyValue.rejectAuthorityFields fields = .ok ()) :
    PyValue.rejectAuthorityFields (PyValue.canonFields fields) = .ok () := by
  have whole := rejectAuthority_pyCanon (.obj fields) (by simpa only [PyValue.rejectAuthority] using kept)
  simpa only [PyValue.canon, PyValue.rejectAuthority] using whole

mutual
theorem rejectAuthority_joined : ∀ v : PyValue, v.joined.rejectAuthority = v.rejectAuthority
  | .null | .bool _ | .int _ | .float _ | .nonFinite _ | .str _ => by simp only [PyValue.joined, PyValue.rejectAuthority]
  | .arr items => by simp only [PyValue.joined, PyValue.rejectAuthority, rejectAuthorityItems_joined items]
  | .obj fields => by simp only [PyValue.joined, PyValue.rejectAuthority, rejectAuthorityFields_joined fields]

theorem rejectAuthorityItems_joined : ∀ items : List PyValue,
    PyValue.rejectAuthorityItems (PyValue.joinedItems items) = PyValue.rejectAuthorityItems items
  | [] => rfl
  | item :: items => by
    simp only [PyValue.joinedItems, PyValue.rejectAuthorityItems, rejectAuthority_joined item, rejectAuthorityItems_joined items]

theorem rejectAuthorityFields_joined : ∀ fields : PyFields,
    PyValue.rejectAuthorityFields (PyValue.joinedFields fields) = PyValue.rejectAuthorityFields fields
  | [] => rfl
  | (key, item) :: fields => by
    simp only [PyValue.joinedFields, PyValue.rejectAuthorityFields, rejectAuthority_joined item, rejectAuthorityFields_joined fields]
end

/-- What the digest of a call is made of. -/
structure CallBody where
  runId : Identifier
  stepId : Identifier
  callId : Identifier
  toolName : Identifier
  toolVersion : Identifier
  toolSpecDigest : Digest
  policyDigest : Digest
  arguments : PyMapping
  inputArtifactIds : ArtifactIds
  createdAt : Timestamp
  modelOwned : PyValue.rejectAuthorityFields arguments.fields = .ok ()
  written : PyValue.fitsFields arguments.fields = true

namespace CallBody

/-- `_body`. -/
def entries (b : CallBody) : List (String × PyValue) :=
  [("run_id", .str b.runId.pyText), ("step_id", .str b.stepId.pyText), ("call_id", .str b.callId.pyText),
    ("tool_name", .str b.toolName.pyText), ("tool_version", .str b.toolVersion.pyText),
    ("tool_spec_digest", .str (PyText.ofString b.toolSpecDigest.text)),
    ("policy_digest", .str (PyText.ofString b.policyDigest.text)), ("arguments", b.arguments.toValue),
    ("input_artifact_ids", pyArtifactIds b.inputArtifactIds), ("created_at", .str (PyText.ofString b.createdAt.text))]

/-- `computed_digest`; the arguments have canonical bytes. -/
def digest [Sha256] (b : CallBody) : Digest := sha256Bytes (PyValue.named b.entries).encode

end CallBody

/-- A materialized call, with the summary that its digest leaves out. -/
structure StoredCall extends CallBody where
  reasonSummary : PyText
  bounded : reasonSummary.length ≤ 2000 ∧ reasonSummary.hasNul = false

/-- The two checks on the arguments of a call. -/
def validateCallArguments (arguments : PyFields) :
    Except PyError { m : PyMapping // PyValue.rejectAuthorityFields m.fields = .ok () } :=
  match owned : PyValue.rejectAuthorityFields arguments with
  | .error e => .error e
  | .ok () =>
    match frozen : freezePyFields "materialized arguments" arguments with
    | .error e => .error e
    | .ok m => .ok ⟨m, by
        rw [(freezePyFields_ok.mp frozen).2]
        exact rejectAuthorityFields_pyCanon owned⟩

theorem validateCallArguments_mapping (m : PyMapping) (owned : PyValue.rejectAuthorityFields m.fields = .ok ()) :
    validateCallArguments m.fields = .ok ⟨m, owned⟩ := by
  unfold validateCallArguments
  split
  · rename_i refused
    rw [owned] at refused
    cases refused
  · split
    · rename_i refused
      rw [freezePyFields_mapping] at refused
      cases refused
    · rename_i frozen
      rw [freezePyFields_mapping] at frozen
      cases frozen
      rfl

namespace StoredCall

def entries [Sha256] (c : StoredCall) : List (String × PyValue) :=
  c.toCallBody.entries ++ [("tool_call_digest", .str (PyText.ofString c.digest.text)), ("reason_summary", .str c.reasonSummary)]

def toDict [Sha256] (c : StoredCall) : PyValue := .named c.entries

/-- The constructor. -/
def create [Sha256] (runId stepId callId toolName toolVersion specDigest policyDigest : PyText) (arguments : PyFields)
    (inputs : List PyValue) (createdAt : PyText) (digest : Option PyText) (summary : PyText) : Except PyError StoredCall := do
  let runId ← validateIdentifier "run_id" runId.display
  let stepId ← validateIdentifier "step_id" stepId.display
  let callId ← validateIdentifier "call_id" callId.display
  let toolName ← validateIdentifier "tool_name" toolName.display
  let toolVersion ← validateIdentifier "tool_version" toolVersion.display
  let specDigest ← validateDigestReference "tool_spec_digest" specDigest.display
  let policyDigest ← validateDigestReference "policy_digest" policyDigest.display
  let arguments ← validateCallArguments arguments
  let inputs ← uniqueArtifactIds "input_artifact_ids" (← inputs.mapM (artifactIdOfValue "input_artifact_ids"))
  let createdAt ← normalizeTimestamp "created_at" createdAt.display
  let recorded ← optionally (validateDigestReference "tool_call_digest") digest
  if written : PyValue.fitsFields arguments.1.fields = true then
    let body : CallBody := ⟨runId, stepId, callId, toolName, toolVersion, specDigest, policyDigest, arguments.1, inputs,
      createdAt, arguments.2, written⟩
    ensure (recorded.all (· = body.digest)) ⟨.toolContract, "materialized tool call digest mismatch"⟩
    if short : summary.length ≤ 2000 then
      if clean : summary.hasNul = false then return ⟨body, summary, short, clean⟩
      else throw ⟨.toolContract, "reason_summary contains NUL"⟩
    else throw ⟨.toolContract, "reason_summary must be bounded text"⟩
  else throw ⟨.coreContract, "value is not canonical JSON"⟩

def allowed : List String :=
  ["run_id", "step_id", "call_id", "tool_name", "tool_version", "tool_spec_digest", "policy_digest", "arguments",
    "input_artifact_ids", "created_at", "tool_call_digest", "reason_summary"]

/-- `from_dict`. -/
def fromDict [Sha256] [PrintableText] : PyValue → Except PyError StoredCall
  | .obj value =>
    if hasUnknown value allowed then .error ⟨.toolContract, "materialized tool call has unknown fields"⟩
    else orMalformed (do
      let text key := PyValue.toText <$> pyItem value key
      let runId ← text "run_id"
      let stepId ← text "step_id"
      let callId ← text "call_id"
      let toolName ← text "tool_name"
      let toolVersion ← text "tool_version"
      let specDigest ← text "tool_spec_digest"
      let policyDigest ← text "policy_digest"
      let arguments ← (← pyItem value "arguments").toDict
      let inputs ← (pyGet value "input_artifact_ids" (.arr [])).iterate
      let createdAt ← text "created_at"
      let digest ← text "tool_call_digest"
      create runId stepId callId toolName toolVersion specDigest policyDigest arguments inputs createdAt (some digest)
        (pyGet value "reason_summary" (.str [])).toText)
      .toolContract "materialized tool call is malformed"
  | _ => .error ⟨.toolContract, "materialized tool call must be an object"⟩

end StoredCall

/-! ### Run requests -/

/-- The budget of older requests. -/
def LegacyBudget.entries (b : LegacyBudget) : List (String × PyValue) :=
  [("max_decisions", .int b.maxDecisions), ("max_steps", .int b.maxSteps), ("max_tool_calls", .int b.maxToolCalls)]

structure StoredRequest where
  runId : Identifier
  goal : PyText
  inputArtifactIds : ArtifactIds
  toolPolicyDigest : Digest
  createdAt : Timestamp
  metadata : PyMapping
  legacyBudget : Option LegacyBudget
  stated : goal.strip ≠ []
  bounded : goal.length ≤ 100000 ∧ goal.hasNul = false

namespace StoredRequest

def entries (r : StoredRequest) : List (String × PyValue) :=
  [("run_id", .str r.runId.pyText), ("goal", .str r.goal), ("input_artifact_ids", pyArtifactIds r.inputArtifactIds),
    ("tool_policy_digest", .str (PyText.ofString r.toolPolicyDigest.text)),
    ("created_at", .str (PyText.ofString r.createdAt.text)), ("metadata", r.metadata.toValue)] ++
  match r.legacyBudget with
  | some budget => [("budget", .named budget.entries)]
  | none => []

def toDict (r : StoredRequest) : PyValue := .named r.entries

/-- `request_sha256`. -/
def digest [Sha256] (r : StoredRequest) : Except PyError Digest := r.toDict.digest

/-- One count of a legacy budget. -/
def countOf (value : PyFields) (name : String) : Except PyError Nat :=
  match pyGet value name .null with
  | .int n =>
    if n < 0 then .error ⟨.runBinding, "legacy run request " ++ name ++ " is malformed"⟩ else .ok n.toNat
  | _ => .error ⟨.runBinding, "legacy run request " ++ name ++ " is malformed"⟩

/-- `_legacy_budget_binding`. -/
def budgetOf : PyValue → Except PyError LegacyBudget
  | .obj value =>
    if !hasUnknown value LegacyBudget.fieldNames &&
        LegacyBudget.fieldNames.all fun name => (value.lookup (PyText.ofString name)).isSome then do
      let decisions ← countOf value "max_decisions"
      let steps ← countOf value "max_steps"
      let toolCalls ← countOf value "max_tool_calls"
      return ⟨decisions, toolCalls, steps⟩
    else .error ⟨.runBinding, "legacy run request budget is malformed"⟩
  | _ => .error ⟨.runBinding, "legacy run request budget is malformed"⟩

/-- The constructor, with the budget that a reader puts in afterwards. -/
def create (runId goal : PyText) (inputs : List PyValue) (policyDigest createdAt : PyText) (metadata : PyFields)
    (budget : Option LegacyBudget) : Except PyError StoredRequest := do
  let runId ← validateIdentifier "run_id" runId.display
  if stated : goal.strip ≠ [] then
    if bounded : goal.length ≤ 100000 ∧ goal.hasNul = false then
      let inputs ← uniqueArtifactIds "input_artifact_ids" (← inputs.mapM (artifactIdOfValue "input_artifact_ids"))
      let policyDigest ← validateDigestReference "tool_policy_digest" policyDigest.display
      let createdAt ← normalizeTimestamp "created_at" createdAt.display
      let metadata ← freezePyFields "run metadata" metadata
      return ⟨runId, goal, inputs, policyDigest, createdAt, metadata, budget, stated, bounded⟩
    else throw ⟨.coreContract, "goal is outside the bounded request contract"⟩
  else throw ⟨.coreContract, "goal is required"⟩

/-- The budget in a request, if one is there. -/
def legacyBudgetOf (value : PyFields) : Except PyError (Option LegacyBudget) :=
  match value.lookup (PyText.ofString "budget") with
  | some budget => some <$> budgetOf budget
  | none => .ok none

/-- `from_dict`. -/
def fromDict [PrintableText] : PyValue → Except PyError StoredRequest
  | .obj value => do
    let budget ← legacyBudgetOf value
    orMalformed (do
      let text key := PyValue.toText <$> pyItem value key
      let runId ← text "run_id"
      let goal ← text "goal"
      let inputs ← (pyGet value "input_artifact_ids" (.arr [])).iterate
      let policyDigest ← text "tool_policy_digest"
      let createdAt ← text "created_at"
      let metadata ← (pyGet value "metadata" (.obj [])).toDict
      create runId goal inputs policyDigest createdAt metadata budget)
      .runBinding "run request is malformed"
  | _ => .error ⟨.runBinding, "run request must be a JSON object"⟩

end StoredRequest

/-! ### Approvals -/

structure StoredApproval where
  approvalId : Identifier
  toolCallDigest : Digest
  decision : ApprovalDecision
  reviewerRef : PyText
  createdAt : Timestamp
  referred : referenceFault reviewerRef.display = none

namespace StoredApproval

def entries (a : StoredApproval) : List (String × PyValue) :=
  [("approval_id", .str a.approvalId.pyText), ("tool_call_digest", .str (PyText.ofString a.toolCallDigest.text)),
    ("decision", .str (PyText.ofString a.decision.value)), ("reviewer_ref", .str a.reviewerRef),
    ("created_at", .str (PyText.ofString a.createdAt.text))]

def toDict (a : StoredApproval) : PyValue := .named a.entries

/-- An approval has texts only, whose canonical bytes are always defined. -/
def digest [Sha256] (a : StoredApproval) : Digest := sha256Bytes a.toDict.encode

section
variable [CaseText] [PrintableText]

def decisionOf : PyValue → Except PyError ApprovalDecision
  | .str text =>
    match enumOf ApprovalDecision.value [.approved, .rejected] text with
    | some decision => .ok decision
    | none => .error ⟨.approval, "unknown approval decision: " ++ (reprText text).display⟩
  | value => .error ⟨.approval, "unknown approval decision: " ++ value.repr.display⟩

/-- The constructor. -/
def create (approvalId toolCallDigest : PyText) (decision : PyValue) (reviewerRef createdAt : PyText) :
    Except PyError StoredApproval := do
  let approvalId ← validateIdentifier "approval_id" approvalId.display
  let digest ← validateDigestReference "tool_call_digest" toolCallDigest.display
  let decision ← decisionOf decision
  match fault : referenceFault reviewerRef.display with
  | some (cls, words) => throw ⟨cls, "reviewer_ref" ++ words⟩
  | none =>
    let createdAt ← normalizeTimestamp "created_at" createdAt.display
    return ⟨approvalId, digest, decision, reviewerRef, createdAt, fault⟩

/-- `from_dict`. -/
def fromDict : PyValue → Except PyError StoredApproval
  | .obj value =>
    orMalformed (do
      let text key := PyValue.toText <$> pyItem value key
      let approvalId ← text "approval_id"
      let digest ← text "tool_call_digest"
      let decision ← pyItem value "decision"
      let reviewerRef ← text "reviewer_ref"
      let createdAt ← text "created_at"
      create approvalId digest decision reviewerRef createdAt)
      .approval "approval is malformed"
  | _ => .error ⟨.approval, "approval must be a JSON object"⟩

end
end StoredApproval

/-! ### Reading back -/

/-- The readers look only at what stands under a key. -/
theorem pyItem_readFields (entries : List (String × PyValue)) (key : String) {v : PyValue}
    (listed : entries.lookup key = some v) : pyItem (PyValue.readFields (entries.map fun f => (PyText.ofString f.1, f.2))) key = .ok v.readBack := by
  rw [pyItem, PyValue.lookup_readFields, listed]
  rfl

theorem pyGet_listed (entries : List (String × PyValue)) (key : String) (default : PyValue) {v : PyValue}
    (listed : entries.lookup key = some v) : pyGet (PyValue.readFields (entries.map fun f => (PyText.ofString f.1, f.2))) key default = v.readBack := by
  rw [PyValue.pyGet_readFields, listed]
  rfl

/-- A dict that is read back has no other keys. -/
theorem hasUnknown_readFields {entries : List (String × PyValue)} {allowed : List String}
    (listed : ∀ f ∈ entries, f.1 ∈ allowed) :
    hasUnknown (PyValue.readFields (entries.map fun f => (PyText.ofString f.1, f.2))) allowed = false := by
  rw [hasUnknown, List.any_eq_false]
  intro f member
  rw [PyValue.readFields] at member
  obtain ⟨g, found, rfl⟩ := mem_pyCanonFields member
  rw [joinedFields_eq, List.map_map] at found
  obtain ⟨entry, stated, rfl⟩ := List.mem_map.mp found
  have known : PyText.ofString entry.1 ∈ allowed.map PyText.ofString := List.mem_map_of_mem (listed entry stated)
  simpa using known

theorem artifactIds_items (field : String) (ids : List ArtifactId) :
    (ids.map fun id => PyValue.str (PyText.ofString id.text)).mapM (artifactIdOfValue field) = .ok ids := by
  refine mapM_ok.mpr (List.forall₂_map_left_iff.mpr (List.forall₂_same.mpr fun id _ => ?_))
  rw [artifactIdOfValue, PyText.display_ofString, validateArtifactId_text]

theorem ok_bind {x : Except PyError α} {f : α → Except PyError β} (first : x = .ok a) (rest : f a = .ok b) :
    (x >>= f) = .ok b := bind_ok.mpr ⟨a, first, rest⟩

theorem PyText.hasNul_joined {text : PyText} (clean : text.hasNul = false) : text.joined.hasNul = false := by
  rw [PyText.hasNul, decide_eq_false_iff_not] at clean ⊢
  intro member
  rcases PyText.mem_joined member with found | beyond
  · exact clean found
  · simp at beyond

/-- A text field of a dict that is read back, and one that no pair stands in. -/
theorem text_readFields [PrintableText] (entries : List (String × PyValue)) (key : String) {t : PyText}
    (listed : entries.lookup key = some (.str t)) :
    PyValue.toText <$> pyItem (PyValue.readFields (entries.map fun f => (PyText.ofString f.1, f.2))) key = .ok t.joined := by
  rw [pyItem_readFields _ _ listed, PyValue.readBack_str]
  rfl

theorem string_readFields [PrintableText] (entries : List (String × PyValue)) (key : String) {s : String}
    (listed : entries.lookup key = some (.str (PyText.ofString s))) :
    PyValue.toText <$> pyItem (PyValue.readFields (entries.map fun f => (PyText.ofString f.1, f.2))) key =
      .ok (PyText.ofString s) := by
  rw [text_readFields _ _ listed, PyText.joined_ofString]

namespace StoredCall
variable [Sha256]

/-- The call that is read back. -/
def joined (c : StoredCall) : StoredCall where
  toCallBody := { c.toCallBody with
    arguments := c.arguments.joined
    modelOwned := rejectAuthorityFields_pyCanon ((rejectAuthorityFields_joined _).trans c.modelOwned)
    written := c.arguments.fits_joined.trans c.written }
  reasonSummary := c.reasonSummary.joined
  bounded := ⟨Nat.le_trans c.reasonSummary.joined_length c.bounded.1, PyText.hasNul_joined c.bounded.2⟩

omit [Sha256] in
theorem body_joined (c : StoredCall) : c.joined.toCallBody.entries = c.toCallBody.entries.map fun f => (f.1, f.2.readBack) := by
  simp [CallBody.entries, joined, Identifier.pyText]

theorem digest_joined (c : StoredCall) : c.joined.digest = c.digest := by
  have same := PyValue.encode_eq_readBack (PyValue.canon_named_readBack c.body_joined)
  rw [CallBody.digest, CallBody.digest, PyValue.named, same]

/-- The joined call has the dict that is read. -/
theorem toDict_joined (c : StoredCall) : c.joined.toDict.canon = c.toDict.readBack := by
  refine PyValue.canon_named_readBack ?_
  rw [entries, entries, body_joined, digest_joined, List.map_append]
  simp [joined]

/-- The constructor makes a call of its own parts. -/
theorem create_own (c : StoredCall) :
    create c.runId.pyText c.stepId.pyText c.callId.pyText c.toolName.pyText c.toolVersion.pyText
      (PyText.ofString c.toolSpecDigest.text) (PyText.ofString c.policyDigest.text) c.arguments.fields
      (c.inputArtifactIds.ids.map fun id => .str (PyText.ofString id.text)) (PyText.ofString c.createdAt.text)
      (some (PyText.ofString c.digest.text)) c.reasonSummary = .ok c := by
  unfold create
  simp only [Identifier.pyText, PyText.display_ofString, optionally]
  refine ok_bind (validateIdentifier_text _ _) (ok_bind (validateIdentifier_text _ _) (ok_bind (validateIdentifier_text _ _)
    (ok_bind (validateIdentifier_text _ _) (ok_bind (validateIdentifier_text _ _) ?_))))
  refine ok_bind (validateDigestReference_text _ _) (ok_bind (validateDigestReference_text _ _) ?_)
  refine ok_bind (validateCallArguments_mapping _ c.modelOwned) ?_
  refine ok_bind (artifactIds_items _ _) (ok_bind (uniqueArtifactIds_ids _ _) ?_)
  refine ok_bind (normalizeTimestamp_text _ _) ?_
  refine ok_bind (a := some c.digest) (by rw [validateDigestReference_text]) ?_
  rw [dif_pos c.written]
  refine ok_bind (a := ()) (by simp) ?_
  rw [dif_pos c.bounded.1, dif_pos c.bounded.2]
  rfl

/-- The dict of a call is read back as the call, with its texts joined. -/
theorem fromDict_readBack [PrintableText] (c : StoredCall) : fromDict c.toDict.readBack = .ok c.joined := by
  have named (key : String) {s : String} := string_readFields c.entries key (s := s)
  have known : hasUnknown (PyValue.readFields (c.entries.map fun f => (PyText.ofString f.1, f.2))) allowed = false :=
    hasUnknown_readFields (by simp [entries, CallBody.entries, allowed])
  have arguments := pyItem_readFields c.entries "arguments" (v := c.arguments.toValue) rfl
  have inputs := pyGet_listed c.entries "input_artifact_ids" (.arr []) (v := pyArtifactIds c.inputArtifactIds) rfl
  have summary := pyGet_listed c.entries "reason_summary" (.str []) (v := .str c.reasonSummary) rfl
  rw [PyValue.readBack_pyArtifactIds] at inputs
  rw [PyValue.readBack_str] at summary
  rw [toDict, PyValue.named, PyValue.readBack_obj, fromDict, known, if_neg (by decide), orMalformed_eq_ok, inputs, summary]
  refine ok_bind (named "run_id" rfl) (ok_bind (named "step_id" rfl) (ok_bind (named "call_id" rfl) ?_))
  refine ok_bind (named "tool_name" rfl) (ok_bind (named "tool_version" rfl) ?_)
  refine ok_bind (named "tool_spec_digest" rfl) (ok_bind (named "policy_digest" rfl) ?_)
  refine ok_bind arguments (ok_bind (a := c.joined.arguments.fields) (by rw [PyMapping.readBack_toValue]; rfl) ?_)
  refine ok_bind (a := c.inputArtifactIds.ids.map fun id => .str (PyText.ofString id.text)) rfl ?_
  refine ok_bind (named "created_at" rfl) (ok_bind (named "tool_call_digest" rfl) ?_)
  have own := c.joined.create_own
  rw [digest_joined] at own
  exact own

end StoredCall

namespace StoredRequest

/-- A text with a character that is no space has one when it is joined. -/
theorem strip_ne_nil {text : PyText} : text.strip ≠ [] ↔ ∃ p ∈ text, isSpace p.toChar = false := by
  have inner : text.dropWhile (fun p => isSpace p.toChar) ≠ [] ↔ ∃ p ∈ text, isSpace p.toChar = false := by
    rw [ne_eq, List.dropWhile_eq_nil_iff]
    simp
  rw [← inner, PyText.strip, ne_eq, List.reverse_eq_nil_iff, List.dropWhile_eq_nil_iff]
  constructor
  · intro some empty
    rw [empty] at some
    simp at some
  · intro filled each
    have head := List.head_dropWhile_not (fun p : CodePoint => isSpace p.toChar) filled
    have spaced := each _ (List.mem_reverse.mpr (List.head_mem filled))
    rw [spaced] at head
    cases head

def joined (r : StoredRequest) : StoredRequest where
  runId := r.runId
  goal := r.goal.joined
  inputArtifactIds := r.inputArtifactIds
  toolPolicyDigest := r.toolPolicyDigest
  createdAt := r.createdAt
  metadata := r.metadata.joined
  legacyBudget := r.legacyBudget
  stated := by
    obtain ⟨p, member, shown⟩ := strip_ne_nil.mp r.stated
    refine strip_ne_nil.mpr ?_
    rcases PyText.joined_mem member with found | ⟨q, found, beyond⟩
    · exact ⟨p, found, shown⟩
    · exact ⟨q, found, PyText.isSpace_beyond beyond⟩
  bounded := ⟨Nat.le_trans r.goal.joined_length r.bounded.1, PyText.hasNul_joined r.bounded.2⟩

theorem LegacyBudget.readBack (b : LegacyBudget) : budgetOf (PyValue.named b.entries).readBack = .ok b := by
  have known : hasUnknown (PyValue.readFields (b.entries.map fun f => (PyText.ofString f.1, f.2))) LegacyBudget.fieldNames = false :=
    hasUnknown_readFields (by simp [LegacyBudget.entries, LegacyBudget.fieldNames])
  have count (name : String) {n : Nat} (listed : b.entries.lookup name = some (.int n)) :
      countOf (PyValue.readFields (b.entries.map fun f => (PyText.ofString f.1, f.2))) name = .ok n := by
    have nonneg : ¬((n : Int) < 0) := by omega
    rw [countOf, pyGet_listed b.entries name .null listed, PyValue.readBack_int]
    simp [nonneg]
  have present : (LegacyBudget.fieldNames.all fun name =>
      ((PyValue.readFields (b.entries.map fun f => (PyText.ofString f.1, f.2))).lookup (PyText.ofString name)).isSome) = true := by
    simp only [LegacyBudget.fieldNames, List.all_cons, List.all_nil, PyValue.lookup_readFields, Option.isSome_map,
      LegacyBudget.entries]
    rfl
  rw [PyValue.named, PyValue.readBack_obj, budgetOf, known, present, if_pos (by decide)]
  exact ok_bind (count "max_decisions" rfl) (ok_bind (count "max_steps" rfl) (ok_bind (count "max_tool_calls" rfl) rfl))

theorem entries_joined (r : StoredRequest) : r.joined.entries = r.entries.map fun f => (f.1, f.2.readBack) := by
  have order : PyText.lt (PyText.ofString "max_decisions") (PyText.ofString "max_steps") = true ∧
      PyText.lt (PyText.ofString "max_steps") (PyText.ofString "max_tool_calls") = true := by decide +kernel
  have budget (b : LegacyBudget) : (PyValue.named b.entries).readBack = .named b.entries := by
    rw [PyValue.named, PyValue.readBack_obj, PyValue.readFields]
    simp [LegacyBudget.entries, PyValue.joinedFields, PyValue.canonFields, PyValue.joined, PyValue.canon,
      Effect.SortedMap.insert, keyOrder, order]
  cases legacy : r.legacyBudget with
  | none => simp [entries, joined, Identifier.pyText, legacy]
  | some b => simp [entries, joined, Identifier.pyText, legacy, budget]

/-- The joined request has the dict that is read. -/
theorem toDict_joined (r : StoredRequest) : r.joined.toDict.canon = r.toDict.readBack :=
  PyValue.canon_named_readBack r.entries_joined

theorem digest_joined [Sha256] (r : StoredRequest) {bytes : Bytes} (written : r.toDict.canonicalBytes = .ok bytes) :
    r.joined.digest = r.digest := by
  obtain ⟨accepted, fits, rfl⟩ := canonicalBytes_eq_ok.mp written
  have kept : r.joined.toDict.accepted = true := by
    simpa [toDict, entries, joined, PyValue.accepted, PyValue.acceptedFields] using accepted
  have fitting : r.joined.toDict.fits = r.toDict.fits := by
    cases legacy : r.legacyBudget <;>
      simp [toDict, entries, joined, PyValue.fits, PyValue.fitsFields, legacy, PyMapping.fits_joined]
  have same := PyValue.encode_eq_readBack r.toDict_joined
  have again := canonicalBytes_eq_ok.mpr ⟨kept, fitting.trans fits, same.symm⟩
  rw [digest, digest, PyValue.digest, PyValue.digest, again, written]

/-- The constructor makes a request of its own parts. -/
theorem create_own (r : StoredRequest) :
    create r.runId.pyText r.goal (r.inputArtifactIds.ids.map fun id => .str (PyText.ofString id.text))
      (PyText.ofString r.toolPolicyDigest.text) (PyText.ofString r.createdAt.text) r.metadata.fields r.legacyBudget = .ok r := by
  unfold create
  simp only [Identifier.pyText, PyText.display_ofString]
  refine ok_bind (validateIdentifier_text _ _) ?_
  rw [dif_pos r.stated, dif_pos r.bounded]
  refine ok_bind (artifactIds_items _ _) (ok_bind (uniqueArtifactIds_ids _ _) ?_)
  refine ok_bind (validateDigestReference_text _ _) (ok_bind (normalizeTimestamp_text _ _) ?_)
  exact ok_bind (freezePyFields_mapping _ _) rfl

/-- The dict of a request is read back as the request, with its texts joined. -/
theorem fromDict_readBack [PrintableText] (r : StoredRequest) : fromDict r.toDict.readBack = .ok r.joined := by
  have named (key : String) {s : String} := string_readFields r.entries key (s := s)
  have inputs := pyGet_listed r.entries "input_artifact_ids" (.arr []) (v := pyArtifactIds r.inputArtifactIds) rfl
  have metadata := pyGet_listed r.entries "metadata" (.obj []) (v := r.metadata.toValue) rfl
  have budget : legacyBudgetOf (PyValue.readFields (r.entries.map fun f => (PyText.ofString f.1, f.2))) = .ok r.legacyBudget := by
    rw [legacyBudgetOf, PyValue.lookup_readFields]
    cases legacy : r.legacyBudget with
    | none =>
      have absent : r.entries.lookup "budget" = none := by
        rw [entries, legacy]
        rfl
      rw [absent]
      rfl
    | some b =>
      have listed : r.entries.lookup "budget" = some (.named b.entries) := by
        rw [entries, legacy]
        rfl
      rw [listed, Option.map_some]
      dsimp only
      rw [LegacyBudget.readBack]
      rfl
  rw [PyValue.readBack_pyArtifactIds] at inputs
  rw [PyMapping.readBack_toValue] at metadata
  rw [toDict, PyValue.named, PyValue.readBack_obj, fromDict]
  refine ok_bind budget ?_
  rw [orMalformed_eq_ok, inputs, metadata]
  refine ok_bind (named "run_id" rfl) (ok_bind (text_readFields r.entries "goal" rfl) ?_)
  refine ok_bind (a := r.inputArtifactIds.ids.map fun id => .str (PyText.ofString id.text)) rfl ?_
  refine ok_bind (named "tool_policy_digest" rfl) (ok_bind (named "created_at" rfl) ?_)
  exact ok_bind (a := r.joined.metadata.fields) rfl r.joined.create_own

end StoredRequest

namespace StoredApproval
variable [CaseText]

def joined (a : StoredApproval) : StoredApproval :=
  { a with reviewerRef := a.reviewerRef.joined, referred := PyText.referenceFault_joined a.referred }

theorem decisionOf_value [PrintableText] (d : ApprovalDecision) : decisionOf (.str (PyText.ofString d.value)) = .ok d := by
  have shape : ∀ word ∈ ["APPROVED", "REJECTED"], (PyText.ofString word).strip = PyText.ofString word ∧
      ((PyText.ofString word).all fun p => p.val < 128 && !(97 ≤ p.val && p.val ≤ 122)) = true := by decide +kernel
  cases d
  · obtain ⟨stripped, plain⟩ := shape "APPROVED" (by simp)
    simp [decisionOf, enumOf, ApprovalDecision.value, stripped, PyText.upper_ascii plain]
  · obtain ⟨stripped, plain⟩ := shape "REJECTED" (by simp)
    simp [decisionOf, enumOf, ApprovalDecision.value, stripped, PyText.upper_ascii plain]

omit [CaseText] in
/-- The joined approval has the dict that is read. -/
theorem toDict_joined (a : StoredApproval) : a.joined.toDict.canon = a.toDict.readBack :=
  PyValue.canon_named_readBack (by simp [entries, joined, Identifier.pyText])

omit [CaseText] in
theorem digest_joined [Sha256] (a : StoredApproval) : a.joined.digest = a.digest := by
  rw [digest, digest, PyValue.encode_eq_readBack a.toDict_joined]

/-- The constructor makes an approval of its own parts. -/
theorem create_own [PrintableText] (a : StoredApproval) :
    create a.approvalId.pyText (PyText.ofString a.toolCallDigest.text) (.str (PyText.ofString a.decision.value)) a.reviewerRef
      (PyText.ofString a.createdAt.text) = .ok a := by
  unfold create
  simp only [Identifier.pyText, PyText.display_ofString]
  refine ok_bind (validateIdentifier_text _ _) (ok_bind (validateDigestReference_text _ _) ?_)
  refine ok_bind (decisionOf_value _) ?_
  split
  · rename_i fault
    rw [a.referred] at fault
    cases fault
  · exact ok_bind (normalizeTimestamp_text _ _) rfl

/-- The dict of an approval is read back as the approval, with its texts joined. -/
theorem fromDict_readBack [PrintableText] (a : StoredApproval) : fromDict a.toDict.readBack = .ok a.joined := by
  have named (key : String) {s : String} := string_readFields a.entries key (s := s)
  have decision := pyItem_readFields a.entries "decision" (v := .str (PyText.ofString a.decision.value)) rfl
  rw [PyValue.readBack_str, PyText.joined_ofString] at decision
  rw [toDict, PyValue.named, PyValue.readBack_obj, fromDict, orMalformed_eq_ok]
  refine ok_bind (named "approval_id" rfl) (ok_bind (named "tool_call_digest" rfl) (ok_bind decision ?_))
  refine ok_bind (text_readFields a.entries "reviewer_ref" rfl) (ok_bind (named "created_at" rfl) ?_)
  exact a.joined.create_own

end StoredApproval
end Molly
