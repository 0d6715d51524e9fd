import Molly.Core.Lineage

/-! Records of content-addressed artifacts. -/
namespace Molly

/-- Immutable metadata of one exact byte sequence, whose digest is the identity. -/
structure ArtifactRecord where
  artifactId : ArtifactId
  mediaType : String
  schemaName : Option Identifier
  schemaVersion : Option Identifier
  sizeBytes : Nat
  storedAt : Timestamp
  described : strip mediaType.toList ≠ []
  clean : hasControl mediaType = false

namespace ArtifactRecord

theorem ext_iff {a b : ArtifactRecord} : a = b ↔ a.artifactId = b.artifactId ∧ a.mediaType = b.mediaType ∧
    a.schemaName = b.schemaName ∧ a.schemaVersion = b.schemaVersion ∧ a.sizeBytes = b.sizeBytes ∧ a.storedAt = b.storedAt := by
  cases a
  cases b
  simp

instance : DecidableEq ArtifactRecord := fun _ _ => decidable_of_iff _ ext_iff.symm

def sha256 (r : ArtifactRecord) : Digest := r.artifactId.digest

/-- The constructor, for the digest and size of given bytes. -/
def create (artifactId : ArtifactId) (mediaType : String) (schemaName schemaVersion : Option Identifier)
    (sizeBytes : Nat) (storedAt : Timestamp) : Except PyError ArtifactRecord :=
  if described : strip mediaType.toList = [] then .error ⟨.coreContract, "media_type is required"⟩
  else if clean : hasControl mediaType = false then
    .ok ⟨artifactId, mediaType, schemaName, schemaVersion, sizeBytes, storedAt, described, clean⟩
  else .error ⟨.coreContract, "media_type contains a control character"⟩

def conflicts [DecidableEq α] : Option α → Option α → Bool
  | some existing, some requested => existing ≠ requested
  | _, _ => false

/-- `_assert_compatible_intrinsic_metadata`. -/
def assertCompatible (existing requested : ArtifactRecord) : Except PyError Unit :=
  if existing.artifactId ≠ requested.artifactId then
    .error ⟨.artifactConflict, "existing metadata conflicts with artifact identity"⟩
  else if existing.mediaType ≠ requested.mediaType then
    .error ⟨.artifactConflict, "existing artifact metadata conflicts on media_type: '" ++
      existing.mediaType ++ "' != '" ++ requested.mediaType ++ "'"⟩
  else if conflicts existing.schemaName requested.schemaName then
    .error ⟨.artifactConflict, "existing artifact metadata conflicts on schema_name"⟩
  else if conflicts existing.schemaVersion requested.schemaVersion then
    .error ⟨.artifactConflict, "existing artifact metadata conflicts on schema_version"⟩
  else .ok ()

end ArtifactRecord

/-- The content of a metadata file: a record, or bytes that are not one. -/
inductive RecordFile where
  | record (value : ArtifactRecord)
  | malformed
  deriving DecidableEq

end Molly
