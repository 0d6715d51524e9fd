import Molly.File.Written

/-! The metadata file of an artifact: one canonical JSON object, and what is read of any
bytes that stand in its place. -/
namespace Molly

/-- An `ArtifactRecord` as its file holds it. -/
structure StoredRecord where
  artifactId : ArtifactId
  mediaType : PyText
  schemaName : Option Identifier
  schemaVersion : Option Identifier
  sizeBytes : Nat
  storedAt : Timestamp
  described : strip mediaType.display.toList ≠ []
  clean : hasControl mediaType.display = false

namespace StoredRecord

def sha256 (r : StoredRecord) : Digest := r.artifactId.digest

/-- The constructor, once the identity is known to embed the digest. -/
def create (artifactId : ArtifactId) (mediaType : PyText) (schemaName schemaVersion : Option PyText) (sizeBytes : Int)
    (storedAt : String) : Except PyError StoredRecord :=
  if described : strip mediaType.display.toList = [] then .error ⟨.coreContract, "media_type is required"⟩
  else if clean : hasControl mediaType.display = false then do
    let schemaName ← optionally (validateIdentifier "schema_name") schemaName
    let schemaVersion ← optionally (validateIdentifier "schema_version") schemaVersion
    let storedAt ← normalizeTimestamp "stored_at" storedAt
    if sizeBytes < 0 then throw ⟨.coreContract, "size_bytes must be a non-negative integer"⟩
    else return ⟨artifactId, mediaType, schemaName, schemaVersion, sizeBytes.toNat, storedAt, described, clean⟩
  else .error ⟨.coreContract, "media_type contains a control character"⟩

/-- What a record that is made has of the arguments. -/
theorem create_ok {id : ArtifactId} {record : StoredRecord} {size : Int} (made : create id media name version size moment = .ok record) :
    record.artifactId = id ∧ record.mediaType = media ∧
      optionally (validateIdentifier "schema_name") name = .ok record.schemaName ∧
      optionally (validateIdentifier "schema_version") version = .ok record.schemaVersion := by
  unfold create at made
  split at made
  · cases made
  · split at made
    · obtain ⟨_, first, made⟩ := bind_ok.mp made
      obtain ⟨_, second, made⟩ := bind_ok.mp made
      obtain ⟨_, _, made⟩ := bind_ok.mp made
      split at made
      · cases made
      · cases made
        exact ⟨rfl, rfl, first, second⟩
    · cases made

def entries (r : StoredRecord) : List (String × PyValue) :=
  [("artifact_id", .str (PyText.ofString r.artifactId.text)), ("sha256", .str (PyText.ofString r.sha256.text)),
    ("media_type", .str r.mediaType), ("schema_name", pyOptionalText Identifier.text r.schemaName),
    ("schema_version", pyOptionalText Identifier.text r.schemaVersion), ("size_bytes", .int r.sizeBytes),
    ("stored_at", .str (PyText.ofString r.storedAt.text))]

/-- `to_dict`. -/
def toDict (r : StoredRecord) : PyFields := r.entries.map fun f => (PyText.ofString f.1, f.2)

section
variable [PrintableText] [DecimalText]

/-- `value.get(key)`, or `value[other]` where that is nothing. -/
def itemOr (value : PyFields) (key other : String) : Except PyError PyValue :=
  match pyGet value key .null with
  | .null => pyItem value other
  | found => .ok found

/-- The guarded part of `from_dict`: the arguments, then the checks of the constructor. -/
def parse (value : PyFields) : Except PyError StoredRecord := do
  let text key := PyValue.toText <$> pyItem value key
  let digest ← itemOr value "sha256" "content_sha256"
  let size ← itemOr value "size_bytes" "size"
  let artifactId ← text "artifact_id"
  let mediaType ← text "media_type"
  let size ← size.toInt
  let storedAt ← text "stored_at"
  let artifactId ← validateArtifactId "artifact_id" artifactId.display
  let digest ← validateSha256 "sha256" digest.toText.display
  if artifactId.digest ≠ digest then throw ⟨.coreContract, "artifact_id must embed the record SHA-256"⟩
  else
    create artifactId mediaType (pyOptional value "schema_name") (pyOptional value "schema_version") size storedAt.display

/-- `from_dict`. -/
def fromDict : PyValue → Except PyError StoredRecord
  | .obj value => orMalformed (parse value) .artifactIntegrity "artifact metadata is malformed"
  | _ => .error ⟨.artifactIntegrity, "artifact metadata must be a JSON object"⟩

/-- The bytes of a metadata file, as `_read_record` takes them. -/
def decode (raw : Bytes) : Except PyError StoredRecord :=
  let invalid : PyError := ⟨.artifactIntegrity, "artifact metadata is not valid UTF-8 JSON"⟩
  match decodeUtf8 raw with
  | none => .error invalid
  | some text =>
    match loads text with
    | .error .decode => .error invalid
    | .error .digits => .error ⟨.valueError, "Exceeds the limit for integer string conversion"⟩
    | .ok value => fromDict value

end

/-- `_assert_compatible_intrinsic_metadata`. -/
def assertCompatible [PrintableText] (existing requested : StoredRecord) : Except PyError Unit :=
  let conflict (field : String) (a b : PyText) : PyError :=
    ⟨.artifactConflict, "existing artifact metadata conflicts on " ++ field ++ ": " ++ (reprText a).display ++ " != " ++
      (reprText b).display⟩
  let differ (a b : Option Identifier) : Option (PyText × PyText) :=
    match a, b with
    | some a, some b => if a = b then none else some (PyText.ofString a.text, PyText.ofString b.text)
    | _, _ => none
  if existing.artifactId ≠ requested.artifactId then
    .error ⟨.artifactConflict, "existing metadata conflicts with artifact identity"⟩
  else if existing.mediaType ≠ requested.mediaType then
    .error (conflict "media_type" existing.mediaType requested.mediaType)
  else
    match differ existing.schemaName requested.schemaName with
    | some (a, b) => .error (conflict "schema_name" a b)
    | none =>
      match differ existing.schemaVersion requested.schemaVersion with
      | some (a, b) => .error (conflict "schema_version" a b)
      | none => .ok ()

theorem assertCompatible_ok [PrintableText] {existing requested : StoredRecord}
    (compatible : existing.assertCompatible requested = .ok ()) : existing.artifactId = requested.artifactId := by
  by_contra different
  simp [assertCompatible, different] at compatible

/-! ### The file is read back -/

/-- The bytes of the metadata file. -/
def line (r : StoredRecord) : Except PyError Bytes := do
  let payload ← (PyValue.obj r.toDict).canonicalBytes
  return payload ++ [10]

theorem create_self (r : StoredRecord) :
    create r.artifactId r.mediaType (r.schemaName.map fun id => PyText.ofString id.text)
      (r.schemaVersion.map fun id => PyText.ofString id.text) r.sizeBytes r.storedAt.text = .ok r := by
  have read (label : String) (id : Option Identifier) :
      optionally (validateIdentifier label) (id.map fun id => PyText.ofString id.text) = .ok id := by
    cases id <;> simp [optionally]
  simp [create, r.described, r.clean, read, bind, Except.bind, pure, Except.pure]

variable [PrintableText] [DecimalText]

theorem parse_toDict (r : StoredRecord) : parse (PyValue.canonFields r.toDict) = .ok r := by
  have named (key : String) {v : PyValue} (listed : r.entries.lookup key = some v) (frozen : v.canon = v) :
      (PyValue.canonFields r.toDict).lookup (PyText.ofString key) = some v := by
    rw [toDict, canon_obj_entries, listed, Option.map_some, frozen]
  have optional (key : String) (id : Option Identifier)
      (listed : r.entries.lookup key = some (pyOptionalText Identifier.text id)) :
      pyOptional (PyValue.canonFields r.toDict) key = id.map fun id => PyText.ofString id.text := by
    have found := named key listed (StoredEvent.canon_pyOptionalText _ _)
    cases id <;> simp [pyOptional, found, pyOptionalText]
  have artifactId := named "artifact_id" rfl rfl
  have sha256 := named "sha256" rfl rfl
  have mediaType := named "media_type" rfl rfl
  have sizeBytes := named "size_bytes" rfl rfl
  have storedAt := named "stored_at" rfl rfl
  have made := create_self r
  unfold StoredRecord.sha256 at sha256
  simp [parse, itemOr, pyItem, pyGet, artifactId, sha256, mediaType, sizeBytes, storedAt, PyValue.toText, PyValue.toInt,
    optional "schema_name" _ rfl, optional "schema_version" _ rfl, made, bind, Except.bind, Functor.map, Except.map]

omit [PrintableText] [DecimalText] in
theorem toDict_writable (r : StoredRecord) (unpaired : r.mediaType.Unpaired) (small : intFits r.sizeBytes = true) :
    (PyValue.obj r.toDict).Writable := by
  have named : ∀ name ∈ r.entries.map Prod.fst, name ≠ "" ∧ sensitiveKey name = false := by
    have names : ∀ name ∈ ["artifact_id", "sha256", "media_type", "schema_name", "schema_version", "size_bytes",
      "stored_at"], name ≠ "" ∧ sensitiveKey name = false := by decide +kernel
    exact names
  refine .obj (fun f member => named f.1 (List.mem_map_of_mem member)) fun f member => ?_
  simp only [entries, List.mem_cons, List.not_mem_nil, or_false] at member
  rcases member with rfl | rfl | rfl | rfl | rfl | rfl | rfl
  · exact .text _
  · exact .text _
  · exact ⟨rfl, rfl, unpaired⟩
  · exact .optional _ _
  · exact .optional _ _
  · exact ⟨rfl, by simpa only [PyValue.fits] using small, trivial⟩
  · exact .text _

omit [PrintableText] [DecimalText] in
theorem fits_of_line {r : StoredRecord} (written : r.line = .ok raw) : intFits r.sizeBytes = true := by
  have listed : (PyText.ofString "size_bytes", PyValue.int r.sizeBytes) ∈ r.toDict := by simp [toDict, entries]
  obtain ⟨payload, encoded, _⟩ := bind_ok.mp written
  by_contra large
  have unfit : PyValue.fits (.obj r.toDict) = false := by
    rw [← Bool.not_eq_true, PyValue.fits, fitsFields_iff]
    intro each
    exact large (by simpa only [PyValue.fits] using each _ listed)
  unfold PyValue.canonicalBytes at encoded
  rw [unfit] at encoded
  split at encoded <;> cases encoded

/-- The metadata file of a record, unless its media type holds a surrogate pair, reads as the record. -/
theorem decode_line {r : StoredRecord} (unpaired : r.mediaType.Unpaired) (written : r.line = .ok raw) :
    decode raw = .ok r := by
  have writable := r.toDict_writable unpaired (fits_of_line written)
  obtain ⟨decoded, loaded⟩ := writable.loads_line
  rw [line, writable.canonicalBytes] at written
  obtain rfl := Except.ok.inj written
  simp only [decode, decoded, loaded]
  simp only [PyValue.canon, fromDict, parse_toDict, orMalformed_ok]

end StoredRecord
end Molly
