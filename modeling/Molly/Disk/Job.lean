import Molly.File.Written
import Molly.File.Lineage

/-! Compute profiles, job handles and the state file of a job. -/
namespace Molly

/-! ### Profiles -/

inductive BackendKind where
  | local
  | remote

def BackendKind.value : BackendKind → String
  | .local => "local"
  | .remote => "remote"

/-- Server-owned backend and profile identity; credentials are references only. -/
structure ComputeProfile where
  profileId : Identifier
  profileVersion : Identifier
  backendKind : BackendKind
  hostIdentity : PyText
  workerRef : PyText
  environmentRef : PyText
  resourceConstraints : PyMapping
  credentialRef : Option StoredReference

namespace ComputeProfile

def entries (p : ComputeProfile) : List (String × PyValue) :=
  [("profile_id", .str (PyText.ofString p.profileId.text)), ("profile_version", .str (PyText.ofString p.profileVersion.text)),
    ("backend_kind", .str (PyText.ofString p.backendKind.value)), ("host_identity", .str p.hostIdentity),
    ("worker_ref", .str p.workerRef), ("environment_ref", .str p.environmentRef),
    ("resource_constraints", p.resourceConstraints.toValue),
    ("server_material_ref", match p.credentialRef with
      | none => .null
      | some reference => .str reference.text)]

/-- `to_dict`. -/
def toDict (p : ComputeProfile) : PyFields := p.entries.map fun f => (PyText.ofString f.1, f.2)

def digest [Sha256] (p : ComputeProfile) : Except PyError Digest := sha256Bytes <$> (PyValue.obj p.toDict).canonicalBytes

end ComputeProfile

/-! ### Handles -/

/-- Exact durable identity for one compute submission. -/
structure JobHandle where
  jobId : Identifier
  profileId : Identifier
  profileDigest : Digest
  taskDigest : Digest
  idempotencyKey : Digest
  inputArtifactIds : ArtifactIds
  executionConfigDigest : Option Digest
  submittedAt : Timestamp
  deriving DecidableEq

namespace JobHandle

def entries (h : JobHandle) : List (String × PyValue) :=
  [("job_id", .str (PyText.ofString h.jobId.text)), ("profile_id", .str (PyText.ofString h.profileId.text)),
    ("profile_digest", .str (PyText.ofString h.profileDigest.text)), ("task_digest", .str (PyText.ofString h.taskDigest.text)),
    ("idempotency_key", .str (PyText.ofString h.idempotencyKey.text)), ("input_artifact_ids", pyArtifactIds h.inputArtifactIds),
    ("execution_config_digest", pyOptionalText Digest.text h.executionConfigDigest),
    ("submitted_at", .str (PyText.ofString h.submittedAt.text))]

/-- `to_dict`. -/
def toDict (h : JobHandle) : PyFields := h.entries.map fun f => (PyText.ofString f.1, f.2)

def toValue (h : JobHandle) : PyValue := .obj h.toDict

variable [PrintableText]

/-- The guarded part of `from_dict`: the arguments, then the checks of the constructor. -/
def parse (value : PyFields) : Except PyError JobHandle := do
  let text key := PyValue.toText <$> pyItem value key
  let jobId ← text "job_id"
  let profileId ← text "profile_id"
  let profileDigest ← text "profile_digest"
  let taskDigest ← text "task_digest"
  let idempotencyKey ← text "idempotency_key"
  let inputs ← (pyGet value "input_artifact_ids" (.arr [])).iterate
  let submittedAt ← text "submitted_at"
  let jobId ← validateIdentifier "job_id" jobId.display
  let profileId ← validateIdentifier "profile_id" profileId.display
  let profileDigest ← validateDigestReference "profile_digest" profileDigest.display
  let taskDigest ← validateDigestReference "task_digest" taskDigest.display
  let idempotencyKey ← validateDigestReference "idempotency_key" idempotencyKey.display
  let inputs ← inputs.mapM (artifactIdOfValue "input_artifact_id")
  let inputs ← uniqueArtifactIds "input_artifact_ids" inputs
  let config ← optionally (validateDigestReference "execution_config_digest") (pyOptional value "execution_config_digest")
  let submittedAt ← normalizeTimestamp "submitted_at" submittedAt.display
  return ⟨jobId, profileId, profileDigest, taskDigest, idempotencyKey, inputs, config, submittedAt⟩

/-- `from_dict`. -/
def fromDict : PyValue → Except PyError JobHandle
  | .obj value => orMalformed (parse value) .compute "durable JobHandle is malformed"
  | _ => .error ⟨.compute, "durable JobHandle is malformed"⟩

/-- The fields a repeated submission must share. -/
def sameJob (a b : JobHandle) : Bool :=
  a.jobId = b.jobId && a.profileId = b.profileId && a.profileDigest = b.profileDigest && a.taskDigest = b.taskDigest &&
    a.idempotencyKey = b.idempotencyKey && a.inputArtifactIds = b.inputArtifactIds &&
    a.executionConfigDigest = b.executionConfigDigest

end JobHandle

/-! ### State files -/

inductive JobState where
  | submitted | running | succeeded | failed | interrupted
  deriving DecidableEq

def JobState.value : JobState → String
  | .submitted => "SUBMITTED"
  | .running => "RUNNING"
  | .succeeded => "SUCCEEDED"
  | .failed => "FAILED"
  | .interrupted => "INTERRUPTED"

structure ComputeOutputRef where
  name : Identifier
  artifactId : ArtifactId
  deriving DecidableEq

def ComputeOutputRef.entries (r : ComputeOutputRef) : List (String × PyValue) :=
  [("name", .str (PyText.ofString r.name.text)), ("artifact_id", .str (PyText.ofString r.artifactId.text))]

/-- `to_dict`. -/
def ComputeOutputRef.toValue (r : ComputeOutputRef) : PyValue := .obj (r.entries.map fun f => (PyText.ofString f.1, f.2))

/-- `ComputeOutputRef(**item)`. -/
def ComputeOutputRef.ofValue (item : PyValue) : Except PyError ComputeOutputRef :=
  match item with
  | .obj fields =>
    match fields.length, pyItem fields "name", pyItem fields "artifact_id" with
    | 2, .ok (.str name), .ok artifactId => do
      let name ← validateIdentifier "output name" name.display
      let artifactId ← artifactIdOfValue "artifact_id" artifactId
      return ⟨name, artifactId⟩
    | 2, .ok _, .ok _ => .error ⟨.coreContract, "output name must be text"⟩
    | _, _, _ => .error ⟨.typeError, "ComputeOutputRef got unexpected keyword arguments"⟩
  | _ => .error ⟨.typeError, "argument after ** must be a mapping"⟩

/-- `_refs`. -/
def outputRefs (value : PyValue) (allowEmpty : Bool) : Except PyError (List ComputeOutputRef) :=
  match value with
  | .arr items => do
    let refs ← orMalformed (items.mapM ComputeOutputRef.ofValue) .computeIntegrity "durable output reference is malformed"
    if (!allowEmpty && refs.isEmpty) || !decide (refs.map (·.name)).Nodup then
      throw ⟨.computeIntegrity, "durable output references are empty or not unique"⟩
    else return refs
  | _ => .error ⟨.computeIntegrity, "durable output references are malformed"⟩

/-- The state dict of a job, as `submit` writes it. -/
structure JobRecord where
  handle : JobHandle
  state : JobState
  outputs : List ComputeOutputRef
  manifestArtifactId : Option ArtifactId
  errorType : Option String

namespace JobRecord

def entries (r : JobRecord) : List (String × PyValue) :=
  [("schema_name", .str (PyText.ofString "molly.remote_compute.job-state")), ("schema_version", .str (PyText.ofString "1")),
    ("handle", r.handle.toValue), ("task_digest", .str (PyText.ofString r.handle.taskDigest.text)),
    ("input_artifact_ids", pyArtifactIds r.handle.inputArtifactIds),
    ("execution_config_digest", pyOptionalText Digest.text r.handle.executionConfigDigest),
    ("state", .str (PyText.ofString r.state.value)), ("outputs", .arr (r.outputs.map ComputeOutputRef.toValue)),
    ("manifest_artifact_id", pyOptionalText ArtifactId.text r.manifestArtifactId),
    ("error_type", pyOptionalText id r.errorType)]

def toDict (r : JobRecord) : PyFields := r.entries.map fun f => (PyText.ofString f.1, f.2)

/-- The line `_write_state` writes. -/
def payload (r : JobRecord) : Except PyError Bytes := (· ++ [10]) <$> (PyValue.obj r.toDict).canonicalBytes

/-- `_new_state`. -/
def create (handle : JobHandle) : JobRecord := ⟨handle, .submitted, [], none, none⟩

end JobRecord

/-- What a job file must decode to before anything is read of it. -/
def decodeState (raw : Bytes) : Except PyError PyFields :=
  let invalid : PyError := ⟨.computeIntegrity, "durable job state is invalid JSON"⟩
  match decodeUtf8 raw with
  | none => .error invalid
  | some text =>
    match loads text with
    | .error .decode => .error invalid
    | .error .digits => .error ⟨.valueError, "Exceeds the limit for integer string conversion"⟩
    | .ok (.obj value) => .ok value
    | .ok _ => .error ⟨.computeIntegrity, "durable job state is not an object"⟩

/-- The check on the bytes that are read again. -/
def assertCanonicalState (value : PyFields) (raw : Bytes) : Except PyError Unit := do
  let canonical ← (PyValue.obj value).canonicalBytes
  if canonical ++ [10] ≠ raw then throw ⟨.computeIntegrity, "durable job state is not canonical"⟩
  else return ()

/-- The handle of a state, under the words of the caller's error. -/
def stateHandle [PrintableText] (state : PyFields) (fault : String) : Except PyError JobHandle :=
  orRaise (pyItem state "handle" >>= JobHandle.fromDict) .computeIntegrity fault

/-- `state.get("task_digest") != handle.task_digest`. -/
def otherTask (state : PyFields) (handle : JobHandle) : Bool :=
  !(pyGet state "task_digest" .null).equal (.str (PyText.ofString handle.taskDigest.text))

/-! ### A state file is read back -/

namespace JobHandle
variable [PrintableText]

theorem parse_toDict (h : JobHandle) : parse (PyValue.canonFields h.toDict) = .ok h := by
  have named (key : String) {v : PyValue} (listed : h.entries.lookup key = some v) (frozen : v.canon = v) :
      (PyValue.canonFields h.toDict).lookup (PyText.ofString key) = some v := by
    rw [toDict, canon_obj_entries, listed, Option.map_some, frozen]
  have jobId := named "job_id" rfl rfl
  have profileId := named "profile_id" rfl rfl
  have profileDigest := named "profile_digest" rfl rfl
  have taskDigest := named "task_digest" rfl rfl
  have idempotencyKey := named "idempotency_key" rfl rfl
  have submittedAt := named "submitted_at" rfl rfl
  have inputs := named "input_artifact_ids" rfl (StoredEvent.canon_pyArtifactIds _)
  have config := StoredEvent.optionally_pyOptional (validateDigestReference_text · "execution_config_digest")
    (named "execution_config_digest" rfl (StoredEvent.canon_pyOptionalText _ _))
  have each : (h.inputArtifactIds.ids.map fun id => PyValue.str (PyText.ofString id.text)).mapM
      (artifactIdOfValue "input_artifact_id") = .ok h.inputArtifactIds.ids := by
    generalize h.inputArtifactIds.ids = ids
    induction ids with
    | nil => rfl
    | cons id ids ih =>
      simp only [List.map_cons, List.mapM_cons, ih, artifactIdOfValue, PyText.display_ofString, validateArtifactId_text]
      rfl
  simp [parse, pyItem, pyGet, jobId, profileId, profileDigest, taskDigest, idempotencyKey, submittedAt, inputs, config,
    pyArtifactIds, PyValue.iterate, each, bind, Except.bind, Functor.map, Except.map, pure, Except.pure]

theorem fromDict_toValue (h : JobHandle) : fromDict h.toValue.canon = .ok h := by
  simp [toValue, PyValue.canon, fromDict, parse_toDict]

omit [PrintableText] in
theorem toValue_writable (h : JobHandle) : h.toValue.Writable := by
  have named : ∀ name ∈ h.entries.map Prod.fst, name ≠ "" ∧ sensitiveKey name = false := by
    have names : ∀ name ∈ ["job_id", "profile_id", "profile_digest", "task_digest", "idempotency_key", "input_artifact_ids",
      "execution_config_digest", "submitted_at"], name ≠ "" ∧ sensitiveKey name = false := by decide +kernel
    exact names
  refine .obj (fun f member => named f.1 (List.mem_map_of_mem member)) fun f member => ?_
  simp only [entries, List.mem_cons, List.not_mem_nil, or_false] at member
  rcases member with rfl | rfl | rfl | rfl | rfl | rfl | rfl | rfl
  · exact .text _
  · exact .text _
  · exact .text _
  · exact .text _
  · exact .text _
  · exact .artifactIds _
  · exact .optional _ _
  · exact .text _

end JobHandle

theorem ComputeOutputRef.toValue_writable (r : ComputeOutputRef) : r.toValue.Writable := by
  have named : ∀ name ∈ r.entries.map Prod.fst, name ≠ "" ∧ sensitiveKey name = false := by
    have names : ∀ name ∈ ["name", "artifact_id"], name ≠ "" ∧ sensitiveKey name = false := by decide +kernel
    exact names
  refine .obj (fun f member => named f.1 (List.mem_map_of_mem member)) fun f member => ?_
  simp only [entries, List.mem_cons, List.not_mem_nil, or_false] at member
  rcases member with rfl | rfl
  · exact .text _
  · exact .text _

theorem ComputeOutputRef.ofValue_toValue (r : ComputeOutputRef) : ofValue r.toValue.canon = .ok r := by
  have named (key : String) {v : PyValue} (listed : r.entries.lookup key = some v) (frozen : v.canon = v) :
      (PyValue.canonFields (r.entries.map fun f => (PyText.ofString f.1, f.2))).lookup (PyText.ofString key) = some v := by
    rw [canon_obj_entries, listed, Option.map_some, frozen]
  have name := named "name" rfl rfl
  have artifactId := named "artifact_id" rfl rfl
  have two : (PyValue.canonFields (r.entries.map fun f => (PyText.ofString f.1, f.2))).length = 2 := by
    simp only [pyCanonFields_eq]
    rfl
  simp [toValue, PyValue.canon, ofValue, two, pyItem, name, artifactId, artifactIdOfValue, bind, Except.bind, pure,
    Except.pure]

namespace JobRecord
variable [PrintableText]

omit [PrintableText] in
theorem toDict_writable (r : JobRecord) : (PyValue.obj r.toDict).Writable := by
  have named : ∀ name ∈ r.entries.map Prod.fst, name ≠ "" ∧ sensitiveKey name = false := by
    have names : ∀ name ∈ ["schema_name", "schema_version", "handle", "task_digest", "input_artifact_ids",
      "execution_config_digest", "state", "outputs", "manifest_artifact_id", "error_type"],
      name ≠ "" ∧ sensitiveKey name = false := by decide +kernel
    exact names
  refine .obj (fun f member => named f.1 (List.mem_map_of_mem member)) fun f member => ?_
  simp only [entries, List.mem_cons, List.not_mem_nil, or_false] at member
  rcases member with rfl | rfl | rfl | rfl | rfl | rfl | rfl | rfl | rfl | rfl
  · exact .text _
  · exact .text _
  · exact r.handle.toValue_writable
  · exact .text _
  · exact .artifactIds _
  · exact .optional _ _
  · exact .text _
  · refine .arr fun v member => ?_
    obtain ⟨ref, _, rfl⟩ := List.mem_map.mp member
    exact ref.toValue_writable
  · exact .optional _ _
  · exact .optional _ _

/-- The line of a state. -/
def line (r : JobRecord) : Bytes := (PyValue.obj r.toDict).encode ++ [10]

/-- The dict the line is read as. -/
def frozen (r : JobRecord) : PyFields := PyValue.canonFields r.toDict

omit [PrintableText] in
theorem payload_eq (r : JobRecord) : r.payload = .ok r.line := by
  rw [payload, r.toDict_writable.canonicalBytes]
  rfl

omit [PrintableText] in
theorem decodeState_line (r : JobRecord) : decodeState r.line = .ok r.frozen := by
  obtain ⟨decoded, loaded⟩ := r.toDict_writable.loads_line
  simp only [decodeState, line, decoded, loaded]
  rfl

omit [PrintableText] in
theorem canonicalBytes_frozen (r : JobRecord) : (PyValue.obj r.frozen).canonicalBytes = .ok (PyValue.obj r.toDict).encode := by
  have frozen := r.toDict_writable.canonicalBytes_canon
  rwa [PyValue.canon] at frozen

omit [PrintableText] in
theorem assertCanonical_line (r : JobRecord) : assertCanonicalState r.frozen r.line = .ok () := by
  simp only [assertCanonicalState, r.canonicalBytes_frozen, bind, Except.bind]
  exact if_neg fun different => different rfl

omit [PrintableText] in
theorem assertCanonical_frozen (r : JobRecord) {raw : Bytes} (canonical : assertCanonicalState r.frozen raw = .ok ()) :
    raw = r.line := by
  simp only [assertCanonicalState, r.canonicalBytes_frozen, bind, Except.bind] at canonical
  by_contra other
  rw [if_pos (fun same => other same.symm)] at canonical
  cases canonical

omit [PrintableText] in
theorem lookup_frozen (r : JobRecord) (key : String) {v : PyValue} (listed : r.entries.lookup key = some v) :
    r.frozen.lookup (PyText.ofString key) = some v.canon := by
  rw [frozen, toDict, canon_obj_entries, listed, Option.map_some]

theorem stateHandle_frozen (r : JobRecord) (fault : String) : stateHandle r.frozen fault = .ok r.handle := by
  have found := r.lookup_frozen "handle" rfl
  simp [stateHandle, pyItem, found, bind, Except.bind, JobHandle.fromDict_toValue]

omit [PrintableText] in
/-- The references of a state are read back when no name is there twice. -/
theorem outputRefs_line (r : JobRecord) (allowEmpty : Bool) : outputRefs (pyGet r.frozen "outputs" (.arr [])) allowEmpty =
    if (!allowEmpty && r.outputs.isEmpty) || !decide (r.outputs.map (·.name)).Nodup then
      .error ⟨.computeIntegrity, "durable output references are empty or not unique"⟩
    else .ok r.outputs := by
  have found := r.lookup_frozen "outputs" rfl
  have each : (PyValue.canonItems (r.outputs.map ComputeOutputRef.toValue)).mapM ComputeOutputRef.ofValue = .ok r.outputs := by
    rw [pyCanonItems_eq]
    generalize r.outputs = outputs
    induction outputs with
    | nil => rfl
    | cons ref outputs ih =>
      simp only [List.map_cons, List.mapM_cons, ih, ref.ofValue_toValue]
      rfl
  simp only [pyGet, found, Option.getD_some, PyValue.canon, outputRefs, each, orMalformed_ok, bind, Except.bind]
  rfl

omit [PrintableText] in
/-- The references read of a state are its own. -/
theorem outputRefs_frozen (r : JobRecord) {allowEmpty : Bool} {refs : List ComputeOutputRef}
    (read : outputRefs (pyGet r.frozen "outputs" (.arr [])) allowEmpty = .ok refs) : refs = r.outputs := by
  rw [r.outputRefs_line] at read
  split at read
  · cases read
  · exact (Except.ok.inj read).symm

theorem line_injective {r s : JobRecord} (same : r.line = s.line) : r.handle = s.handle := by
  have first := r.decodeState_line
  rw [same, s.decodeState_line] at first
  have handles := r.stateHandle_frozen ""
  rw [← Except.ok.inj first, s.stateHandle_frozen] at handles
  exact (Except.ok.inj handles).symm

end JobRecord
end Molly
