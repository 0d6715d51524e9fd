import Molly.File.Artifact
import Molly.Effect.Files

/-! The artifact store over a file system, one request for each of its steps that another
process can see. -/
namespace Molly
open Effect

/-- The places of a state root where files appear. -/
inductive Path where
  | object (digest : Digest)
  | metadata (digest : Digest)
  | job (key : Digest)
  | entry (digest : Digest)
  | body (digest : Digest)
  deriving DecidableEq

/-- A clock among the requests that go outside. -/
class Timed (E : Signature) where
  now : E.Op
  time : E.Reply now → Timestamp

/-- The requests of the store alone: the clock. -/
inductive StoreHost where
  | now

def storeHost : Signature := ⟨StoreHost, fun _ => Timestamp⟩

instance : Timed storeHost := ⟨.now, id⟩

namespace OnDisk

abbrev Process (E : Signature) (α : Type) : Type := Task (files Path Bytes E) Unit PyError α

section
variable {E : Signature}

def test (path : Path) : Process E Bool := Task.ask (S := files Path Bytes E) (.test path)

def readFile (path : Path) : Process E (Option Bytes) := Task.ask (S := files Path Bytes E) (.read path)

/-- `_publish_no_replace`: a complete temporary file, and one link. -/
def publishNoReplace (path : Path) (payload : Bytes) : Process E Bool :=
  Task.ask (S := files Path Bytes E) (.link path payload)

/-- A file that is looked for twice before it is read. -/
def readable (path : Path) (missing irregular vanished : PyError) (use : Bytes → Process E α) : Process E α := do
  if !(← test path) then throw missing
  else if !(← test path) then throw irregular
  else
    match ← readFile path with
    | none => throw vanished
    | some raw => use raw

def outside (op : E.Op) : Process E (E.Reply op) := Task.ask (S := files Path Bytes E) (.outside op)

def utcTimestamp [Timed E] : Process E Timestamp := do
  let reply ← outside (E := E) Timed.now
  return Timed.time reply

def fileNotFound : PyError := ⟨.osError, "No such file or directory"⟩

theorem only_readable {allowed : (files Path Bytes E).Op → Prop} {path : Path} {missing irregular vanished : PyError}
    {use : Bytes → Process E α} (tested : allowed (.test path)) (looked : allowed (.read path))
    (rest : ∀ raw, (use raw).Only allowed) : (readable path missing irregular vanished use).Only allowed := by
  refine Task.only_bind (Task.only_ask tested) fun found => ?_
  split
  · exact Task.only_throw _
  · refine Task.only_bind (Task.only_ask tested) fun found => ?_
    split
    · exact Task.only_throw _
    · refine Task.only_bind (Task.only_ask looked) fun reply => ?_
      cases reply with
      | none => exact Task.only_throw _
      | some raw => exact rest raw

/-- Where files stay, only a file that was not there may be missed. -/
theorem readable_endures {I : Interference (files Path Bytes E) (Disk Path Bytes E)}
    {outer : (op : E.Op) → E.Reply op → Prop} (preserving : Disk.Preserving I outer) {s : Disk Path Bytes E}
    {ensures : α → Unit → Disk Path Bytes E → Prop} {raises : PyError → Unit → Disk Path Bytes E → Prop} {path : Path}
    {missing irregular vanished : PyError} {use : Bytes → Process E α}
    (next : ∀ raw t, I.rely s t → I.inv t → t.content path = some raw → (∀ file, s.content path = some file → file = raw) →
      I.Endures ensures raises (use raw) () t)
    (absent : ∀ error t, I.rely s t → I.inv t → s.content path = none → raises error () t) :
    I.Endures ensures raises (readable path missing irregular vanished use) () s := by
  have unseen {found : Bool} (there : (s.content path).isSome = true → found = true) (absent : (!found) = true) :
      s.content path = none := by
    by_contra present
    rw [there (Option.isSome_iff_ne_none.mpr present)] at absent
    cases absent
  apply preserving.endures_test
  intro found t relied _ _ there
  split
  · rename_i gone
    exact Interference.endures_throw fun u later inv => absent _ u (I.trans relied later) inv (unseen there gone)
  · apply preserving.endures_test
    intro found u later _ _ still
    have relied := I.trans relied later
    split
    · rename_i gone
      refine Interference.endures_throw fun v last inv => absent _ v (I.trans relied last) inv (unseen (fun known => ?_) gone)
      exact still (by rw [(preserving.grows ‹I.rely s t›).isSome known, known])
    · apply preserving.endures_read
      intro reply v last inv kept there
      have whole := I.trans relied last
      have grown := preserving.grows relied
      cases reply with
      | none =>
        refine Interference.endures_throw fun w after inv => absent _ w (I.trans whole after) inv ?_
        by_contra present
        obtain ⟨file, known⟩ := Option.ne_none_iff_exists'.mp present
        cases there file (grown _ _ known)
      | some raw =>
        exact next raw v whole inv (kept raw rfl) fun file known =>
          Option.some.inj ((there file (grown _ _ known)).symm)

end

/-- The arguments of `put`. -/
structure PutRequest where
  content : Bytes
  mediaType : PyText
  schemaName : Option PyText
  schemaVersion : Option PyText
  storedAt : Option String

namespace ArtifactStore
variable {E : Signature} [Sha256] [PrintableText] [DecimalText]

omit [PrintableText] [DecimalText] in
/-- `_read_verified_bytes`. -/
def readVerifiedBytes (expected : Digest) : Process E Bytes := do
  if !(← test (.object expected)) then
    throw ⟨.artifactNotFound, "artifact object is missing: " ++ expected.text⟩
  else if !(← test (.object expected)) then
    throw ⟨.artifactIntegrity, "artifact object is not a regular file"⟩
  else
    match ← readFile (.object expected) with
    | none => throw fileNotFound
    | some payload =>
      let actual := sha256Bytes payload
      if actual ≠ expected then
        throw ⟨.artifactIntegrity, "artifact digest mismatch: expected " ++ expected.text ++ ", got " ++ actual.text⟩
      else return payload

omit [Sha256] in
/-- `_read_record`. -/
def readRecord (digest : Digest) : Process E StoredRecord := do
  if !(← test (.metadata digest)) then
    throw ⟨.artifactNotFound, "artifact metadata is missing: " ++ digest.text ++ ".json"⟩
  else if !(← test (.metadata digest)) then
    throw ⟨.artifactIntegrity, "artifact metadata is not a regular file"⟩
  else
    match ← readFile (.metadata digest) with
    | none => throw ⟨.artifactIntegrity, "artifact metadata is not valid UTF-8 JSON"⟩
    | some raw => Task.ofExcept (StoredRecord.decode raw)

/-- `_existing_record`. -/
def existingRecord (requested : StoredRecord) : Process E StoredRecord := do
  let existing ← readRecord requested.sha256
  Task.ofExcept (existing.assertCompatible requested)
  let existingPayload ← readVerifiedBytes requested.sha256
  if existing.sizeBytes ≠ existingPayload.length then
    throw ⟨.artifactIntegrity, "existing metadata size does not match artifact bytes"⟩
  else return existing

/-- `stored_at or utc_timestamp()`. -/
def storedAt [Timed E] (request : PutRequest) : Process E String :=
  match request.storedAt.filter (· ≠ "") with
  | some text => return text
  | none => do
    let now ← utcTimestamp
    return now.text

omit [PrintableText] [DecimalText] in
/-- The first half of `put`: the object is published unless it is there, and verified either way. -/
def publishObject (digest : Digest) (payload : Bytes) : Process E Bytes := do
  if ← test (.object digest) then readVerifiedBytes digest
  else
    let _ ← publishNoReplace (.object digest) payload
    readVerifiedBytes digest

/-- The second half of `put`, for the metadata. -/
def publishRecord (record : StoredRecord) : Process E StoredRecord := do
  if ← test (.metadata record.sha256) then existingRecord record
  else
    let payload ← Task.ofExcept (PyValue.obj record.toDict).canonicalBytes
    let _ ← publishNoReplace (.metadata record.sha256) (payload ++ [10])
    existingRecord record

/-- Publish exact bytes and intrinsic metadata, returning the first record. -/
def put [Timed E] (request : PutRequest) : Process E StoredRecord := do
  let digest := sha256Bytes request.content
  let storedAt ← storedAt request
  let record ← Task.ofExcept (StoredRecord.create ⟨digest⟩ request.mediaType request.schemaName request.schemaVersion
    request.content.length storedAt)
  let _ ← publishObject digest request.content
  publishRecord record

/-- Verify metadata and exact object bytes, returning the record. -/
def verify (artifactId : ArtifactId) : Process E StoredRecord := do
  let record ← readRecord artifactId.digest
  if record.artifactId ≠ artifactId then
    throw ⟨.artifactIntegrity, "metadata artifact identity does not match lookup key"⟩
  else
    let payload ← readVerifiedBytes artifactId.digest
    if payload.length ≠ record.sizeBytes then
      throw ⟨.artifactIntegrity, "artifact metadata size does not match object bytes"⟩
    else return record

/-- Read and verify one immutable artifact. -/
def read (artifactId : ArtifactId) : Process E Bytes := do
  let record ← verify artifactId
  readVerifiedBytes record.sha256

end ArtifactStore
end OnDisk
end Molly
