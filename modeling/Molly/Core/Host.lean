import Molly.Core.Artifacts
import Molly.Effect.Program

/-! What a process asks of its host, one request for each step that another process
can see or that the host decides, and the store and lineage operations over them. -/
namespace Molly
open Effect

inductive Op where
  /-- The ledger read at the head of a turn, or the first one of an invocation. -/
  | snapshot
  /-- Any later ledger read. -/
  | readEvents
  | appendEvent (event : LedgerEvent)
  | readRelations
  | appendRelation (memory : LineageMemory) (candidate : LineageRelation)
  | readObject (digest : Digest)
  | linkObject (digest : Digest) (payload : Bytes)
  | readRecord (digest : Digest)
  | linkRecord (digest : Digest) (record : ArtifactRecord)
  | now
  | newId (stem : String) (used : List String)
  | nextAction (context : RunContext) (tools : List Json)
  | execute (spec : ToolSpec) (context : ToolExecutionContext)

def Op.Reply : Op → Type
  | .snapshot | .readEvents => List LedgerEvent
  | .appendEvent _ => Except PyError LedgerEvent
  | .readRelations => List LineageRelation
  | .appendRelation _ _ => Except PyError LineageRelation
  | .readObject _ => Option Bytes
  | .linkObject _ _ | .linkRecord _ _ => Bool
  | .readRecord _ => Option RecordFile
  | .now => Timestamp
  | .newId _ _ => Identifier
  | .nextAction _ _ => ProviderOutcome
  | .execute _ _ => ExecutorOutcome

def host : Signature := ⟨Op, Op.Reply⟩

/-- The code of one process, whose memory is that of its `ArtifactLineage`. -/
abbrev Process (α : Type) : Type := Task host LineageMemory PyError α

def request (op : Op) : Process op.Reply := Task.ask (S := host) op

/-! ### Artifact store -/

namespace ArtifactStore
variable [Sha256]

/-- `_read_verified_bytes`. -/
def readVerifiedBytes (expected : Digest) : Process Bytes := do
  match ← request (.readObject expected) with
  | none => throw ⟨.artifactNotFound, "artifact object is missing: " ++ expected.text⟩
  | some payload =>
    let actual := sha256Bytes payload
    if actual ≠ expected then
      throw ⟨.artifactIntegrity,
        "artifact digest mismatch: expected " ++ expected.text ++ ", got " ++ actual.text⟩
    else return payload

/-- `_read_record`. -/
def readRecord (digest : Digest) : Process ArtifactRecord := do
  match ← request (.readRecord digest) with
  | none => throw ⟨.artifactNotFound, "artifact metadata is missing: " ++ digest.text ++ ".json"⟩
  | some .malformed => throw ⟨.artifactIntegrity, "artifact metadata is not valid UTF-8 JSON"⟩
  | some (.record record) => return record

/-- `_existing_record`. -/
def existingRecord (requested : ArtifactRecord) : Process ArtifactRecord := do
  let existing ← readRecord requested.sha256
  Task.ofExcept (existing.assertCompatible requested)
  let payload ← readVerifiedBytes requested.sha256
  if existing.sizeBytes ≠ payload.length then
    throw ⟨.artifactIntegrity, "existing metadata size does not match artifact bytes"⟩
  else return existing

/-- Publish the object unless it is there, and verify it either way. -/
def publishObject (digest : Digest) (payload : Bytes) : Process Bytes := do
  match ← request (.readObject digest) with
  | some _ => readVerifiedBytes digest
  | none =>
    let _ ← request (.linkObject digest payload)
    readVerifiedBytes digest

/-- Publish exact bytes and intrinsic metadata, returning the first record. -/
def put (draft : ArtifactDraft) : Process ArtifactRecord := do
  let digest := sha256Bytes draft.content
  let storedAt ← request .now
  let record ← Task.ofExcept (ArtifactRecord.create ⟨digest⟩ draft.mediaType draft.schemaName
    draft.schemaVersion draft.content.length storedAt)
  let _ ← publishObject digest draft.content
  match ← request (.readRecord digest) with
  | some _ => existingRecord record
  | none =>
    let _ ← request (.linkRecord digest record)
    existingRecord record

/-- Verify metadata and exact object bytes. -/
def verify (artifactId : ArtifactId) : Process ArtifactRecord := do
  let record ← readRecord artifactId.digest
  if record.artifactId ≠ artifactId then
    throw ⟨.artifactIntegrity, "metadata artifact identity does not match lookup key"⟩
  else
    let payload ← readVerifiedBytes artifactId.digest
    if payload.length ≠ record.sizeBytes then
      throw ⟨.artifactIntegrity, "artifact metadata size does not match object bytes"⟩
    else return record

def read (artifactId : ArtifactId) : Process Bytes := do
  let record ← verify artifactId
  readVerifiedBytes record.sha256

def verifyAll : List ArtifactId → Process Unit
  | [] => return ()
  | id :: ids => do
    let _ ← verify id
    verifyAll ids

def putAll : List ArtifactDraft → Process (List ArtifactRecord)
  | [] => return []
  | draft :: drafts => do
    let record ← put draft
    return record :: (← putAll drafts)

end ArtifactStore

/-- `read_artifact`: a tool reads its declared inputs only. -/
def ToolExecutionContext.readArtifact [Sha256] (context : ToolExecutionContext) (artifactId : String) :
    Process Bytes := do
  let _ ← Task.ofExcept (validateReference "artifact_id" artifactId)
  match context.inputArtifactIds.ids.find? (·.text = artifactId) with
  | none => throw ⟨.toolAccess, "tool may read only declared input artifacts"⟩
  | some declared => ArtifactStore.read declared

/-! ### Artifact lineage -/

namespace ArtifactLineage

/-- `_hydrate_persisted_identities`. -/
def hydratePersistedIdentities : Process Unit := do
  let memory ← Task.memory
  if memory.strict then return ()
  else
    let relations ← request .readRelations
    Task.remember (memory.hydrate relations)

/-- The body of `register_step` and `register_artifact`. -/
def registerIdentity (id : Reference) : Process Unit := do
  hydratePersistedIdentities
  let memory ← Task.memory
  Task.remember (memory.register id)

def registerStep (stepId : Identifier) : Process Unit := registerIdentity stepId.reference
def registerArtifact (artifactId : ArtifactId) : Process Unit := registerIdentity artifactId.reference

def relations : Process (List LineageRelation) := do
  let memory ← Task.memory
  let file ← request .readRelations
  Task.ofExcept (memory.readRelations file)

def addRelation (candidate : LineageRelation) : Process LineageRelation := do
  let memory ← Task.memory
  Task.ofExcept (memory.checkKnown candidate.subjectId candidate.objectId)
  let persisted ← request (.appendRelation memory candidate)
  Task.ofExcept persisted

/-- Append a deterministic relation, or verify an existing one. -/
def addRelationIdempotent (relationType : RelationType) (subjectId objectId : Reference)
    (relationId : Identifier) (createdAt : Timestamp) (metadata : Fields) : Process LineageRelation := do
  let metadata ← Task.ofExcept (freezeFields "lineage metadata" metadata)
  let requested : LineageRelation :=
    ⟨relationType, subjectId, objectId, relationId, createdAt, metadata, none, none⟩
  match (← relations).find? (·.relationId = relationId) with
  | some existing =>
    if sameFact existing requested then return existing
    else throw ⟨.lineage, "deterministic lineage relation ID has conflicting semantics"⟩
  | none => addRelation requested

end ArtifactLineage
end Molly
