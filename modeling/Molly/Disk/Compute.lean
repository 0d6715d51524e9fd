import Molly.Disk.Job
import Molly.Disk.Store

/-! The durable compute backend: `submit`, whose winner links the state file of the job,
and `collect`. -/
namespace Molly
open Effect

/-- A runner output before the backend publishes it. -/
structure ComputeOutput where
  name : Identifier
  content : Bytes
  mediaType : PyText
  schemaName : Option Identifier
  schemaVersion : Option Identifier

/-- An exception with the name of its type, which need not be one that a handler names. -/
structure Raised where
  typeName : String
  error : PyError

/-- An item of what a runner returns; `name` of another object may raise. -/
inductive RunnerItem where
  | output (value : ComputeOutput)
  | other (unnamed : Option Raised)

inductive RunnerReply where
  | returned (items : List RunnerItem)
  | raised (exception : Raised)

/-- What the backend asks outside: two clocks, and the runner. The key of the submission
stands in the request for the records only. -/
inductive ComputeHost where
  | now
  | clock
  | run (key : Digest) (task : PyFields) (profile : ComputeProfile) (jobId : Identifier)

def ComputeHost.Reply : ComputeHost → Type
  | .now => Timestamp
  | .clock => String
  | .run _ _ _ _ => RunnerReply

def computeHost : Signature := ⟨ComputeHost, ComputeHost.Reply⟩

instance : Timed computeHost := ⟨.now, id⟩

/-- `DurableComputeBackend`, with or without a runner. -/
structure ComputeBackend where
  profile : ComputeProfile
  hasRunner : Bool

namespace OnDisk.ComputeBackend

abbrev JobProcess (α : Type) : Type := Process computeHost α

def now : JobProcess String := outside (E := computeHost) .clock

def run (key : Digest) (task : PyFields) (profile : ComputeProfile) (jobId : Identifier) : JobProcess RunnerReply :=
  outside (E := computeHost) (.run key task profile jobId)

/-- `os.replace` of a complete temporary file. -/
def replaceFile (path : Path) (payload : Bytes) : JobProcess Unit :=
  Task.ask (S := files Path Bytes computeHost) (.replace path payload)

section
variable [Sha256]

/-- `_task_digest`. -/
def taskDigest (task : PyFields) : Except PyError Digest :=
  orRaise (sha256Bytes <$> (PyValue.obj task).canonicalBytes) .compute "compute task is not canonical JSON"

/-- `_task_inputs`. -/
def taskInputs [PrintableText] (task : PyFields) : Except PyError ArtifactIds :=
  match pyGet task "input_artifact_ids" (.arr []) with
  | .arr items => do
    let ids ← items.mapM fun item => validateArtifactId "compute input artifact" item.toText.display
    if nodup : ids.Nodup then return ⟨ids, nodup⟩
    else throw ⟨.compute, "compute task input_artifact_ids must be unique"⟩
  | _ => .error ⟨.compute, "compute task input_artifact_ids must be an array"⟩

/-- `_task_config_digest`. -/
def taskConfigDigest [PrintableText] (task : PyFields) : Except PyError (Option Digest) :=
  optionally (validateDigestReference "compute config_digest") (pyOptional task "config_digest")

/-- `_job_id`. -/
def jobId (profileDigest key : Digest) : Except PyError Identifier := do
  let bytes ← (PyValue.obj [(PyText.ofString "profile_digest", .str (PyText.ofString profileDigest.text)),
    (PyText.ofString "idempotency_key", .str (PyText.ofString key.text))]).canonicalBytes
  validateIdentifier "job_id" ("job_" ++ String.ofList ((sha256Bytes bytes).text.toList.take 48))

end

section
variable [Sha256] [PrintableText] [DecimalText]

omit [Sha256] [DecimalText] in
/-- `_read_json`, whose second look at the file may meet another state. -/
def readJson (key : Digest) : JobProcess PyFields :=
  let missing : PyError := ⟨.computeIntegrity, "durable job state is missing or unsafe"⟩
  readable (.job key) missing missing ⟨.computeIntegrity, "durable job state is invalid JSON"⟩ fun raw => do
    let value ← Task.ofExcept (decodeState raw)
    match ← readFile (.job key) with
    | none => throw fileNotFound
    | some again =>
      Task.ofExcept (assertCanonicalState value again)
      return value

/-- `_load_existing_or_none`. -/
def loadExistingOrNone (key : Digest) (handle : JobHandle) : JobProcess (Option JobHandle) := do
  if !(← test (.job key)) then return none
  else
    let state ← readJson key
    let persisted ← Task.ofExcept (stateHandle state "existing job state has malformed handle")
    if !persisted.sameJob handle || otherTask state handle then
      throw ⟨.computeConflict, "idempotency key was reused for a different task or profile"⟩
    else return some persisted

/-- `_write_state` over a file that is there. -/
def writeState (key : Digest) (record : JobRecord) : JobProcess Unit := do
  let payload ← Task.ofExcept record.payload
  replaceFile (.job key) payload

/-- The checks on what the runner returned. -/
def acceptOutputs (items : List RunnerItem) : Except Raised (List ComputeOutput) :=
  let refuse (words : String) : Except Raised (List ComputeOutput) :=
    .error ⟨"ComputeExecutionError", ⟨.computeExecution, words⟩⟩
  if items = [] then refuse "compute runner returned no outputs"
  else
    match items.findSome? fun item => match item with
      | .other (some exception) => some exception
      | _ => none with
    | some exception => .error exception
    | none =>
      match items.mapM fun item => match item with
        | .output value => some value
        | .other _ => none with
      | none => refuse "compute runner returned invalid or duplicate outputs"
      | some outputs =>
        if (outputs.map (·.name)).Nodup then .ok outputs
        else refuse "compute runner returned invalid or duplicate outputs"

/-- The arguments of `store.put` for one output. -/
def outputRequest (output : ComputeOutput) : PutRequest :=
  ⟨output.content, output.mediaType, output.schemaName.map fun name => PyText.ofString name.text,
    output.schemaVersion.map fun version => PyText.ofString version.text, none⟩

def publishOutputs : List ComputeOutput → JobProcess (List ComputeOutputRef)
  | [] => return []
  | output :: outputs => do
    let record ← ArtifactStore.put (outputRequest output)
    let references ← publishOutputs outputs
    return ⟨output.name, record.artifactId⟩ :: references

/-- The entries of the output manifest, with the sizes the store verifies. -/
def manifestEntries : List ComputeOutputRef → JobProcess (List PyValue)
  | [] => return []
  | reference :: references => do
    let record ← ArtifactStore.verify reference.artifactId
    let entries ← manifestEntries references
    return .obj ([("name", .str (PyText.ofString reference.name.text)),
      ("artifact_id", .str (PyText.ofString reference.artifactId.text)),
      ("sha256", .str (PyText.ofString reference.artifactId.digest.text)),
      ("size_bytes", .int record.sizeBytes)].map fun f => (PyText.ofString f.1, f.2)) :: entries

def manifestSchema : PyText := PyText.ofString "molly.remote_compute.output-manifest"

def manifestBody (handle : JobHandle) (entries : List PyValue) : PyFields :=
  [("schema_name", .str manifestSchema), ("schema_version", .str (PyText.ofString "1")),
    ("job_id", .str (PyText.ofString handle.jobId.text)), ("task_digest", .str (PyText.ofString handle.taskDigest.text)),
    ("profile_digest", .str (PyText.ofString handle.profileDigest.text)), ("outputs", .arr entries)].map fun f =>
      (PyText.ofString f.1, f.2)

/-- The guarded part of `submit` once the outputs are accepted: publish them with their
manifest, and record success. -/
def succeed (key : Digest) (handle : JobHandle) (outputs : List ComputeOutput) : JobProcess Unit := do
  let references ← publishOutputs outputs
  let entries ← manifestEntries references
  let content ← Task.ofExcept (PyValue.obj (manifestBody handle entries)).canonicalBytes
  let manifest ← ArtifactStore.put ⟨content, PyText.ofString "application/json", some manifestSchema,
    some (PyText.ofString "1"), none⟩
  writeState key ⟨handle, .succeeded, references, some manifest.artifactId, none⟩

/-- An exception of the store or of the backend itself. -/
def caught (m : JobProcess Unit) : JobProcess (Except Raised Unit) :=
  tryCatch (do m; return .ok ()) fun error => return .error ⟨error.cls.name, error⟩

/-- The guarded part of `submit`. -/
def execute (key : Digest) (task : PyFields) (profile : ComputeProfile) (handle : JobHandle) :
    JobProcess (Except Raised Unit) := do
  match ← run key task profile handle.jobId with
  | .raised exception => return .error exception
  | .returned items =>
    match acceptOutputs items with
    | .error exception => return .error exception
    | .ok outputs => caught (succeed key handle outputs)

/-- Full match of `^[A-Za-z0-9_.-]{1,80}$`. -/
def isErrorType (name : String) : Bool :=
  let cs := name.toList
  cs ≠ [] && cs.length ≤ 80 && cs.all fun c => c.isAlphanum || c ∈ ['_', '.', '-']

/-- The `except` clause of `submit`. -/
def fail (key : Digest) (handle : JobHandle) (exception : Raised) : JobProcess JobHandle := do
  let errorType := if isErrorType exception.typeName then exception.typeName else "ComputeError"
  writeState key ⟨handle, .failed, [], none, some errorType⟩
  if exception.error.cls.isInstance .compute then throw exception.error
  else throw ⟨.computeExecution, "server-owned compute runner failed"⟩

/-- The handle `submit` compares and links, once the clock has answered. -/
def newHandle (backend : ComputeBackend) (task : PyFields) (key : Digest) :
    Except PyError (String → Except PyError JobHandle) := do
  let task_digest ← taskDigest task
  let inputs ← taskInputs task
  let config ← taskConfigDigest task
  let profileDigest ← backend.profile.digest
  let jobId ← jobId profileDigest key
  return fun submittedAt => do
    let submittedAt ← normalizeTimestamp "submitted_at" submittedAt
    return ⟨jobId, backend.profile.profileId, profileDigest, task_digest, key, inputs, config, submittedAt⟩

/-- What the winner of the link does with the job. -/
def drive (backend : ComputeBackend) (task : PyFields) (key : Digest) (handle : JobHandle) : JobProcess JobHandle := do
  writeState key ⟨handle, .running, [], none, none⟩
  match ← execute key task backend.profile handle with
  | .ok () => return handle
  | .error exception => fail key handle exception

/-- Submit once; a repeat of the exact identity returns the same handle. -/
def submit (backend : ComputeBackend) (task : PyFields) (idempotencyKey : String) : JobProcess JobHandle := do
  let key ← Task.ofExcept (validateDigestReference "idempotency_key" idempotencyKey)
  let handle ← Task.ofExcept (newHandle backend task key)
  let submittedAt ← now
  let handle ← Task.ofExcept (handle submittedAt)
  match ← loadExistingOrNone key handle with
  | some existing => return existing
  | none =>
    if !backend.hasRunner then
      throw ⟨.computeExecution, "new compute submission requires a server-owned runner"⟩
    else
      let payload ← Task.ofExcept (JobRecord.create handle).payload
      if ← publishNoReplace (.job key) payload then drive backend task key handle
      else
        match ← loadExistingOrNone key handle with
        | some existing => return existing
        | none => throw ⟨.computeIntegrity, "compute state appeared without a valid existing job"⟩

/-! ### Collection -/

structure ArtifactBundle where
  jobId : Identifier
  taskDigest : Digest
  profileDigest : Digest
  outputs : List ComputeOutputRef
  manifestArtifactId : ArtifactId

/-- `_state_for_handle`. -/
def stateForHandle (backend : ComputeBackend) (handle : JobHandle) : JobProcess PyFields := do
  let unbound : PyError := ⟨.computeConflict, "JobHandle is bound to another compute profile"⟩
  if handle.profileId ≠ backend.profile.profileId then throw unbound
  else
    let digest ← Task.ofExcept backend.profile.digest
    if handle.profileDigest ≠ digest then throw unbound
    else
      let state ← readJson handle.idempotencyKey
      let persisted ← Task.ofExcept (stateHandle state "durable state has malformed JobHandle")
      if persisted ≠ handle then throw ⟨.computeConflict, "JobHandle fields do not match durable state"⟩
      else if otherTask state handle then
        throw ⟨.computeIntegrity, "durable task digest disagrees with JobHandle"⟩
      else return state

/-- `store.verify` of an identity that is a text. -/
def verifyText (artifactId : PyText) : JobProcess StoredRecord := do
  let id ← Task.ofExcept (validateArtifactId "artifact_id" artifactId.display)
  ArtifactStore.verify id

/-- `except Exception as exc: raise ComputeIntegrityError(words) from exc`. -/
def orIntegrity (m : JobProcess α) (words : String) : JobProcess α :=
  tryCatch m fun _ => throw ⟨.computeIntegrity, words⟩

/-- One entry of the output manifest. -/
def manifestRef (entry : PyValue) : JobProcess ComputeOutputRef := do
  let malformed : PyError := ⟨.computeIntegrity, "output manifest entry is malformed"⟩
  match entry with
  | .obj fields =>
    let (reference, digest, size) ← Task.ofExcept (orMalformed (do
      let name ← pyItem fields "name"
      let artifactId ← pyItem fields "artifact_id"
      let name ← validateIdentifier "output name" name.toText.display
      let artifactId ← validateArtifactId "artifact_id" artifactId.toText.display
      let digest ← pyItem fields "sha256"
      let size ← (← pyItem fields "size_bytes").toInt
      return ((⟨name, artifactId⟩ : ComputeOutputRef), digest.toText, size)) malformed.cls malformed.message)
    if digest ≠ PyText.ofString reference.artifactId.digest.text then
      throw ⟨.computeIntegrity, "output manifest digest disagrees with artifact identity"⟩
    else
      let record ← orIntegrity (ArtifactStore.verify reference.artifactId) "compute output artifact cannot be verified"
      if (record.sizeBytes : Int) ≠ size then
        throw ⟨.computeIntegrity, "output manifest size disagrees with artifact"⟩
      else return reference
  | _ => throw malformed

def manifestRefs : List PyValue → JobProcess (List ComputeOutputRef)
  | [] => return []
  | entry :: entries => do
    let reference ← manifestRef entry
    let references ← manifestRefs entries
    return reference :: references

/-- The manifest of the store, decoded. -/
def decodeManifest (raw : Bytes) : Except PyError PyFields :=
  let invalid : PyError := ⟨.computeIntegrity, "output manifest is invalid JSON"⟩
  match decodeUtf8 raw with
  | none => .error invalid
  | some text =>
    match loads text with
    | .error .decode => .error invalid
    | .error .digits => .error ⟨.valueError, "Exceeds the limit for integer string conversion"⟩
    | .ok (.obj value) => .ok value
    | .ok _ => .error ⟨.computeIntegrity, "output manifest is not an object"⟩

/-- The manifest is that of the handle's job. -/
def manifestOf (fields : PyFields) (handle : JobHandle) : Bool :=
  let named (key text : String) := (pyGet fields key .null).equal (.str (PyText.ofString text))
  named "job_id" handle.jobId.text && named "task_digest" handle.taskDigest.text &&
    named "profile_digest" handle.profileDigest.text

/-- Verify the exact job and output manifest before exposing artifacts. -/
def collect (backend : ComputeBackend) (handle : JobHandle) : JobProcess ArtifactBundle := do
  let state ← stateForHandle backend handle
  let reached := pyGet state "state" .null
  if !reached.equal (.str (PyText.ofString JobState.succeeded.value)) then
    throw ⟨.computeIntegrity, "job is not collectable in state " ++ reached.repr.display⟩
  else
    let refs ← Task.ofExcept (outputRefs (pyGet state "outputs" (.arr [])) false)
    match pyGet state "manifest_artifact_id" .null with
    | .str manifestId =>
      let record ← orIntegrity (verifyText manifestId) "output manifest cannot be verified"
      if record.schemaName.map (fun name => PyText.ofString name.text) ≠ some manifestSchema then
        throw ⟨.computeIntegrity, "output manifest has the wrong schema"⟩
      else
        let raw ← ArtifactStore.read record.artifactId
        let manifest ← Task.ofExcept (decodeManifest raw)
        if !manifestOf manifest handle then
          throw ⟨.computeIntegrity, "output manifest identity does not match JobHandle"⟩
        else
          match pyGet manifest "outputs" .null with
          | .arr entries =>
            let manifestRefs ← manifestRefs entries
            if manifestRefs ≠ refs then
              throw ⟨.computeIntegrity, "durable output references disagree with output manifest"⟩
            else return ⟨handle.jobId, handle.taskDigest, handle.profileDigest, refs, record.artifactId⟩
          | _ => throw ⟨.computeIntegrity, "output manifest entries are malformed"⟩
    | _ => throw ⟨.computeIntegrity, "successful job is missing its output manifest"⟩

end
end OnDisk.ComputeBackend
end Molly
