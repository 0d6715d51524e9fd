import Molly.File.Record

/-! The ledger file: one canonical JSON object a line, each bound to the line before it
by that line's digest. -/
namespace Molly

/-- A `LedgerEvent` as its file holds it. -/
structure StoredEvent where
  eventId : Identifier
  runId : Identifier
  eventType : Identifier
  stepId : Option Identifier
  status : Option Identifier
  toolName : Option Identifier
  toolVersion : Option Identifier
  inputArtifactIds : ArtifactIds
  outputArtifactIds : ArtifactIds
  modelProfile : PyMapping
  providerProfile : PyMapping
  promptDigest : Option DigestReference
  configDigest : Option DigestReference
  seedMetadata : PyMapping
  timestamp : Timestamp
  metadata : PyMapping
  previousEventSha256 : Option DigestReference
  eventSha256 : Option DigestReference

def Digest.reference (d : Digest) : DigestReference := ⟨d.text, by
  rw [removeSha256Prefix_digest]
  simpa using d.valid⟩

namespace StoredEvent

/-- The entries of `to_dict`, in its order. -/
def entries (e : StoredEvent) : List (String × PyValue) :=
  [("event_id", .str (PyText.ofString e.eventId.text)), ("run_id", .str (PyText.ofString e.runId.text)),
    ("step_id", pyOptionalText Identifier.text e.stepId),
    ("event_type", .str (PyText.ofString e.eventType.text)),
    ("status", pyOptionalText Identifier.text e.status),
    ("tool_name", pyOptionalText Identifier.text e.toolName),
    ("tool_version", pyOptionalText Identifier.text e.toolVersion),
    ("input_artifact_ids", pyArtifactIds e.inputArtifactIds),
    ("output_artifact_ids", pyArtifactIds e.outputArtifactIds),
    ("model_profile", e.modelProfile.toValue), ("provider_profile", e.providerProfile.toValue),
    ("prompt_digest", pyOptionalText DigestReference.text e.promptDigest),
    ("config_digest", pyOptionalText DigestReference.text e.configDigest),
    ("seed_metadata", e.seedMetadata.toValue),
    ("timestamp", .str (PyText.ofString e.timestamp.text)), ("metadata", e.metadata.toValue),
    ("previous_event_sha256", pyOptionalText DigestReference.text e.previousEventSha256)]

def digestEntry (e : StoredEvent) : String × PyValue :=
  ("event_sha256", pyOptionalText DigestReference.text e.eventSha256)

/-- `to_dict`. -/
def toDict (e : StoredEvent) (includeDigest : Bool) : PyFields :=
  (e.entries ++ if includeDigest then [e.digestEntry] else []).map fun f => (PyText.ofString f.1, f.2)

/-- `computed_sha256`. -/
def computedSha256 [Sha256] (e : StoredEvent) : Except PyError Digest :=
  match (PyValue.obj (e.toDict false)).canonicalBytes with
  | .error error => .error error
  | .ok bytes => .ok (sha256Bytes bytes)

/-- `canonical_bytes`. -/
def canonicalBytes (e : StoredEvent) : Except PyError Bytes := (PyValue.obj (e.toDict true)).canonicalBytes

/-- The event with its digest stored in it. -/
def withDigest (e : StoredEvent) (digest : Option DigestReference) : StoredEvent := { e with eventSha256 := digest }

/-- The guarded part of `from_dict`: the arguments, then the checks of the constructor. -/
def parse [PrintableText] (value : PyFields) : Except PyError StoredEvent := do
  let text key := PyValue.toText <$> pyItem value key
  let eventId ← text "event_id"
  let runId ← text "run_id"
  let eventType ← text "event_type"
  let modelProfile ← (pyGet value "model_profile" (.obj [])).toDict
  let providerProfile ← (pyGet value "provider_profile" (.obj [])).toDict
  let seedMetadata ← (pyGet value "seed_metadata" (.obj [])).toDict
  let timestamp ← text "timestamp"
  let metadata ← (pyGet value "metadata" (.obj [])).toDict
  let eventId ← validateIdentifier "event_id" eventId.display
  let runId ← validateIdentifier "run_id" runId.display
  let eventType ← validateIdentifier "event_type" eventType.display
  let stepId ← optionally (validateIdentifier "step_id") (pyOptional value "step_id")
  let toolName ← optionally (validateIdentifier "tool_name") (pyOptional value "tool_name")
  let toolVersion ← optionally (validateIdentifier "tool_version") (pyOptional value "tool_version")
  let status ← optionally (validateIdentifier "status") (pyOptional value "status")
  let inputArtifactIds ← artifactIdsOfValue "input_artifact_ids" (pyGet value "input_artifact_ids" (.arr []))
  let outputArtifactIds ← artifactIdsOfValue "output_artifact_ids" (pyGet value "output_artifact_ids" (.arr []))
  let modelProfile ← freezePyFields "model_profile" modelProfile
  let providerProfile ← freezePyFields "provider_profile" providerProfile
  let seedMetadata ← freezePyFields "seed_metadata" seedMetadata
  let metadata ← freezePyFields "metadata" metadata
  let promptDigest ← optionally (validateDigestText "prompt_digest") (pyOptional value "prompt_digest")
  let configDigest ← optionally (validateDigestText "config_digest") (pyOptional value "config_digest")
  let previousEventSha256 ← optionally (validateDigestText "previous_event_sha256")
    (pyOptional value "previous_event_sha256")
  let eventSha256 ← optionally (validateDigestText "event_sha256") (pyOptional value "event_sha256")
  let timestamp ← normalizeTimestamp "timestamp" timestamp.display
  return ⟨eventId, runId, eventType, stepId, status, toolName, toolVersion, inputArtifactIds, outputArtifactIds,
    modelProfile, providerProfile, promptDigest, configDigest, seedMetadata, timestamp, metadata,
    previousEventSha256, eventSha256⟩

/-- `from_dict`. -/
def fromDict [Sha256] [PrintableText] : PyValue → Except PyError StoredEvent
  | .obj value => do
    let event ← orMalformed (parse value) .ledgerCorruption "ledger event is malformed"
    match event.eventSha256 with
    | none => throw ⟨.ledgerCorruption, "persisted ledger event has no digest"⟩
    | some digest =>
      let computed ← event.computedSha256
      if computed.text ≠ digest.text then throw ⟨.ledgerCorruption, "ledger event digest mismatch"⟩
      else return event
  | _ => throw ⟨.ledgerCorruption, "ledger event must be a JSON object"⟩

/-! ### An event is read back from its dict -/

def mappings (e : StoredEvent) : List PyMapping := [e.modelProfile, e.providerProfile, e.seedMetadata, e.metadata]

theorem lookup_named (key : String) : ∀ entries : List (String × PyValue),
    (entries.map fun f => (PyText.ofString f.1, f.2)).lookup (PyText.ofString key) = entries.lookup key
  | [] => rfl
  | (name, value) :: entries => by
    rw [List.map_cons, Effect.SortedMap.lookup_cons, Effect.SortedMap.lookup_cons, lookup_named key entries]
    simp only [PyText.ofString_inj]

theorem lookup_toDict (e : StoredEvent) (included : Bool) (key : String) :
    (PyValue.canonFields (e.toDict included)).lookup (PyText.ofString key) =
      ((e.entries ++ if included then [e.digestEntry] else []).lookup key).map PyValue.canon := by
  rw [lookup_pyCanonFields, toDict, lookup_named]

@[simp] theorem toText_str [PrintableText] (text : PyText) : (PyValue.str text).toText = text := rfl

@[simp] theorem canon_pyOptionalText (text : α → String) (value : Option α) :
    (pyOptionalText text value).canon = pyOptionalText text value := by
  cases value <;> rfl

@[simp] theorem canon_pyArtifactIds (a : ArtifactIds) : (pyArtifactIds a).canon = pyArtifactIds a := by
  have items : ∀ ids : List ArtifactId, PyValue.canonItems (ids.map fun id => .str (PyText.ofString id.text)) =
      ids.map fun id => .str (PyText.ofString id.text) := by
    intro ids
    induction ids with
    | nil => rfl
    | cons id ids ih => simp [PyValue.canonItems, PyValue.canon, ih]
  simp [pyArtifactIds, PyValue.canon, items]

@[simp] theorem artifactIdsOfValue_pyArtifactIds (field : String) (a : ArtifactIds) :
    artifactIdsOfValue field (pyArtifactIds a) = .ok a := by
  have items : ∀ ids : List ArtifactId,
      (ids.map fun id => PyValue.str (PyText.ofString id.text)).mapM (artifactIdOfValue field) = .ok ids := by
    intro ids
    induction ids with
    | nil => rfl
    | cons id ids ih =>
      simp only [List.map_cons, List.mapM_cons, ih, artifactIdOfValue, PyText.display_ofString, validateArtifactId_text]
      rfl
  have unique := uniqueArtifactIds_ids a field
  simp only [artifactIdsOfValue, pyArtifactIds, PyValue.iterate, bind, Except.bind, items]
  exact unique

/-- An optional field is read back through its validator. -/
theorem optionally_pyOptional [PrintableText] {text : α → String} {validate : String → Except PyError α}
    (reads : ∀ a, validate (text a) = .ok a) {fields : PyFields} {key : String} {value : Option α}
    (found : fields.lookup (PyText.ofString key) = some (pyOptionalText text value)) :
    optionally validate (pyOptional fields key) = .ok value := by
  cases value with
  | none => simp [pyOptional, found, pyOptionalText, optionally]
  | some a => simp [pyOptional, found, pyOptionalText, optionally, reads]

/-- Reading the canonical dict of an event gives the event, up to the stored digest. -/
theorem parse_toDict [PrintableText] (e : StoredEvent) (included : Bool) (digest : Option DigestReference)
    (stored : optionally (validateDigestText "event_sha256")
      (pyOptional (PyValue.canonFields (e.toDict included)) "event_sha256") = .ok digest) :
    parse (PyValue.canonFields (e.toDict included)) = .ok (e.withDigest digest) := by
  have named (key : String) {v : PyValue} (listed : ∀ more, (e.entries ++ more).lookup key = some v)
      (frozen : v.canon = v) : (PyValue.canonFields (e.toDict included)).lookup (PyText.ofString key) = some v := by
    rw [lookup_toDict, listed, Option.map_some, frozen]
  have eventId := named "event_id" (fun _ => rfl) rfl
  have runId := named "run_id" (fun _ => rfl) rfl
  have eventType := named "event_type" (fun _ => rfl) rfl
  have timestamp := named "timestamp" (fun _ => rfl) rfl
  have stepId := optionally_pyOptional (validateIdentifier_text · "step_id")
    (named "step_id" (fun _ => rfl) (canon_pyOptionalText _ _))
  have status := optionally_pyOptional (validateIdentifier_text · "status")
    (named "status" (fun _ => rfl) (canon_pyOptionalText _ _))
  have toolName := optionally_pyOptional (validateIdentifier_text · "tool_name")
    (named "tool_name" (fun _ => rfl) (canon_pyOptionalText _ _))
  have toolVersion := optionally_pyOptional (validateIdentifier_text · "tool_version")
    (named "tool_version" (fun _ => rfl) (canon_pyOptionalText _ _))
  have promptDigest := optionally_pyOptional (validateDigestText_text · "prompt_digest")
    (named "prompt_digest" (fun _ => rfl) (canon_pyOptionalText _ _))
  have configDigest := optionally_pyOptional (validateDigestText_text · "config_digest")
    (named "config_digest" (fun _ => rfl) (canon_pyOptionalText _ _))
  have previous := optionally_pyOptional (validateDigestText_text · "previous_event_sha256")
    (named "previous_event_sha256" (fun _ => rfl) (canon_pyOptionalText _ _))
  have inputs := named "input_artifact_ids" (fun _ => rfl) (canon_pyArtifactIds _)
  have outputs := named "output_artifact_ids" (fun _ => rfl) (canon_pyArtifactIds _)
  have modelProfile := named "model_profile" (fun _ => rfl) (PyMapping.canon_toValue _)
  have providerProfile := named "provider_profile" (fun _ => rfl) (PyMapping.canon_toValue _)
  have seedMetadata := named "seed_metadata" (fun _ => rfl) (PyMapping.canon_toValue _)
  have metadata := named "metadata" (fun _ => rfl) (PyMapping.canon_toValue _)
  simp [parse, pyItem, pyGet, eventId, runId, eventType, timestamp, stepId, status, toolName, toolVersion,
    promptDigest, configDigest, previous, stored, inputs, outputs, modelProfile, providerProfile, seedMetadata,
    metadata, PyMapping.toValue, PyValue.toDict, withDigest, bind, Except.bind, Functor.map, Except.map, pure,
    Except.pure]

theorem parse_canon [PrintableText] (e : StoredEvent) : parse (PyValue.canonFields (e.toDict true)) = .ok e := by
  apply parse_toDict e true e.eventSha256
  apply optionally_pyOptional (validateDigestText_text · "event_sha256")
  rw [lookup_toDict]
  exact congrArg some (canon_pyOptionalText _ _)

/-- The body of an event determines everything but its stored digest. -/
theorem parse_body [PrintableText] (e : StoredEvent) :
    parse (PyValue.canonFields (e.toDict false)) = .ok (e.withDigest none) := by
  apply parse_toDict e false none
  have absent : (PyValue.canonFields (e.toDict false)).lookup (PyText.ofString "event_sha256") = none := by
    rw [lookup_toDict]
    rfl
  simp [pyOptional, absent, optionally]

/-- What the guarded part read of the event's mappings. -/
theorem parse_mappings [PrintableText] {value : PyFields} {e : StoredEvent} (clean : CleanFields value)
    (parsed : parse value = .ok e) : ∀ m ∈ e.mappings, CleanFields m.fields := by
  simp only [parse, bind_ok, pure, Except.pure, Except.ok.injEq] at parsed
  obtain ⟨_, _, _, _, _, _, modelFields, model, providerFields, provider, seedFields, seed, _, _, metaFields, metadata,
    _, _, _, _, _, _, _, _, _, _, _, _, _, _, _, _, _, _, modelProfile, frozenModel, providerProfile, frozenProvider,
    seedMetadata, frozenSeed, frozen, frozenMeta, _, _, _, _, _, _, _, _, _, _, rfl⟩ := parsed
  have kept (key : String) : (pyGet value key (.obj [])).Clean := clean_pyGet clean (clean_obj.mpr (by simp [CleanFields])) key
  intro m member
  simp only [mappings, List.mem_cons, List.not_mem_nil, or_false] at member
  rcases member with rfl | rfl | rfl | rfl
  · exact clean_freezePyFields (clean_toDict (kept _) model) frozenModel
  · exact clean_freezePyFields (clean_toDict (kept _) provider) frozenProvider
  · exact clean_freezePyFields (clean_toDict (kept _) seed) frozenSeed
  · exact clean_freezePyFields (clean_toDict (kept _) metadata) frozenMeta

/-! ### The canonical bytes of an event -/

theorem toDict_withDigest (e : StoredEvent) (digest : Option DigestReference) :
    (e.withDigest digest).toDict false = e.toDict false := rfl

/-- The digest of the body does not depend on the stored one. -/
theorem computedSha256_withDigest [Sha256] (e : StoredEvent) (digest : Option DigestReference) :
    (e.withDigest digest).computedSha256 = e.computedSha256 := by
  unfold computedSha256
  rw [toDict_withDigest]

/-- The strings of the event are sequences of Unicode scalar values. -/
def Scalar (e : StoredEvent) : Prop := ∀ m ∈ e.mappings, PyValue.ScalarFields m.fields

/-- Every mapping of the event has a text, and no surrogate pair stands in its strings. -/
def Settled (e : StoredEvent) : Prop :=
  ∀ m ∈ e.mappings, PyValue.fitsFields m.fields = true ∧ PyValue.UnpairedFields m.fields

def names : List String :=
  ["event_id", "run_id", "step_id", "event_type", "status", "tool_name", "tool_version", "input_artifact_ids",
    "output_artifact_ids", "model_profile", "provider_profile", "prompt_digest", "config_digest", "seed_metadata",
    "timestamp", "metadata", "previous_event_sha256", "event_sha256"]

theorem names_plain : ∀ key ∈ names, key ≠ "" ∧ sensitiveKey key = false := by decide +kernel

theorem entries_named (e : StoredEvent) : (e.entries ++ [e.digestEntry]).map Prod.fst = names := rfl

/-- An entry's value is accepted; it has a text, and no surrogate pair, when the event's
mappings have and have none. -/
theorem entry_value (e : StoredEvent) : ∀ f ∈ e.entries ++ [e.digestEntry],
    f.2.accepted = true ∧ (e.Settled → f.2.fits = true ∧ f.2.Unpaired) := by
  have text (s : String) : (PyValue.str (PyText.ofString s)).accepted = true ∧
      (e.Settled → (PyValue.str (PyText.ofString s)).fits = true ∧ (PyValue.str (PyText.ofString s)).Unpaired) :=
    ⟨rfl, fun _ => ⟨rfl, (PyText.ofString_scalar s).unpaired⟩⟩
  have optional {α : Type} (show' : α → String) (value : Option α) : (pyOptionalText show' value).accepted = true ∧
      (e.Settled → (pyOptionalText show' value).fits = true ∧ (pyOptionalText show' value).Unpaired) := by
    cases value with
    | none => exact ⟨rfl, fun _ => ⟨rfl, trivial⟩⟩
    | some a => exact text (show' a)
  have ids (a : ArtifactIds) : (pyArtifactIds a).accepted = true ∧
      (e.Settled → (pyArtifactIds a).fits = true ∧ (pyArtifactIds a).Unpaired) := by
    have items : ∀ ids : List ArtifactId, let values := ids.map fun id => PyValue.str (PyText.ofString id.text)
        PyValue.acceptedItems values = true ∧ PyValue.fitsItems values = true ∧ PyValue.UnpairedItems values := by
      intro ids
      induction ids with
      | nil => exact ⟨rfl, rfl, trivial⟩
      | cons id ids ih => exact ⟨ih.1, ih.2.1, (PyText.ofString_scalar id.text).unpaired, ih.2.2⟩
    obtain ⟨accepted, fits, unpaired⟩ := items a.ids
    exact ⟨accepted, fun _ => ⟨fits, unpaired⟩⟩
  have mapping {m : PyMapping} (member : m ∈ e.mappings) : m.toValue.accepted = true ∧
      (e.Settled → m.toValue.fits = true ∧ m.toValue.Unpaired) :=
    ⟨m.accepted_toValue, fun settled => settled m member⟩
  intro f member
  simp only [entries, digestEntry, List.cons_append, List.nil_append, List.mem_cons, List.not_mem_nil, or_false] at member
  rcases member with rfl | rfl | rfl | rfl | rfl | rfl | rfl | rfl | rfl | rfl | rfl | rfl | rfl | rfl | rfl | rfl |
    rfl | rfl
  · exact text _
  · exact text _
  · exact optional _ _
  · exact text _
  · exact optional _ _
  · exact optional _ _
  · exact optional _ _
  · exact ids _
  · exact ids _
  · exact mapping (by simp [mappings])
  · exact mapping (by simp [mappings])
  · exact optional _ _
  · exact optional _ _
  · exact mapping (by simp [mappings])
  · exact text _
  · exact mapping (by simp [mappings])
  · exact optional _ _
  · exact optional _ _

theorem mem_toDict {e : StoredEvent} {included : Bool} {f : PyText × PyValue} (member : f ∈ e.toDict included) :
    ∃ entry ∈ e.entries ++ [e.digestEntry], f = (PyText.ofString entry.1, entry.2) := by
  obtain ⟨entry, found, rfl⟩ := List.mem_map.mp member
  refine ⟨entry, ?_, rfl⟩
  cases included with
  | true => exact found
  | false => exact List.mem_append_left _ (by simpa using found)

theorem toDict_accepted (e : StoredEvent) (included : Bool) :
    (PyValue.obj (e.toDict included)).accepted = true := by
  refine acceptedFields_iff.mpr fun f member => ?_
  obtain ⟨entry, found, rfl⟩ := mem_toDict member
  have named : entry.1 ∈ names := by
    rw [← entries_named e]
    exact List.mem_map_of_mem found
  obtain ⟨nonempty, plain⟩ := names_plain _ named
  refine ⟨?_, by rwa [PyText.display_ofString], (e.entry_value entry found).1⟩
  intro empty
  exact nonempty (PyText.ofString_injective (empty.trans (by simp [PyText.ofString])))

theorem toDict_settled {e : StoredEvent} (settled : e.Settled) (included : Bool) :
    (PyValue.obj (e.toDict included)).fits = true ∧ (PyValue.obj (e.toDict included)).Unpaired := by
  refine ⟨fitsFields_iff.mpr fun f member => ?_, unpairedFields_iff.mpr fun f member => ?_⟩
  · obtain ⟨entry, found, rfl⟩ := mem_toDict member
    exact ((e.entry_value entry found).2 settled).1
  · obtain ⟨entry, found, rfl⟩ := mem_toDict member
    exact ⟨(PyText.ofString_scalar _).unpaired, ((e.entry_value entry found).2 settled).2⟩

theorem canonicalBytes_ok {v : PyValue} (accepted : v.accepted = true) :
    v.canonicalBytes = .ok bytes ↔ v.fits = true ∧ bytes = v.encode := by
  simp only [PyValue.canonicalBytes, (pyCheck_iff v _).mpr accepted]
  by_cases fits : v.fits = true
  · simp [fits, eq_comm]
  · simp [fits]

/-- The mappings of an event that has canonical bytes have texts. -/
theorem fits_of_canonicalBytes {e : StoredEvent} (encoded : e.canonicalBytes = .ok bytes) :
    ∀ m ∈ e.mappings, PyValue.fitsFields m.fields = true := by
  obtain ⟨fits, _⟩ := (canonicalBytes_ok (e.toDict_accepted true)).mp encoded
  have each := fitsFields_iff.mp fits
  have listed (name : String) (m : PyMapping) (found : (name, m.toValue) ∈ e.entries ++ [e.digestEntry]) :
      PyValue.fitsFields m.fields = true :=
    each (PyText.ofString name, m.toValue) (List.mem_map.mpr ⟨_, found, rfl⟩)
  intro m member
  simp only [mappings, List.mem_cons, List.not_mem_nil, or_false] at member
  rcases member with rfl | rfl | rfl | rfl
  · exact listed "model_profile" _ (by simp [entries])
  · exact listed "provider_profile" _ (by simp [entries])
  · exact listed "seed_metadata" _ (by simp [entries])
  · exact listed "metadata" _ (by simp [entries])

/-- The event's stored digest is the one of its body. -/
def Sealed [Sha256] (e : StoredEvent) : Prop :=
  ∃ digest, e.computedSha256 = .ok digest ∧ e.eventSha256 = some digest.reference

theorem fromDict_canon [Sha256] [PrintableText] {e : StoredEvent} (sealed : e.Sealed) :
    fromDict (PyValue.obj (e.toDict true)).canon = .ok e := by
  obtain ⟨digest, computed, stored⟩ := sealed
  simp [PyValue.canon, fromDict, parse_canon, stored, computed, bind, Except.bind, pure, Except.pure, Digest.reference]

end StoredEvent

/-- The lines of a binary file, each with its newline; only the last one may lack it. -/
def rawLines : Bytes → List Bytes
  | [] => []
  | b :: bs =>
    if b = 10 then [10] :: rawLines bs
    else
      match rawLines bs with
      | [] => [[b]]
      | line :: lines => (b :: line) :: lines

attribute [local simp] rawLines

namespace RunLedger
variable [Sha256] [PrintableText]

/-- One line of `_read_events`. -/
def readLine (number : Nat) (raw : Bytes) : Except PyError StoredEvent :=
  if raw.getLast? ≠ some 10 then
    .error ⟨.ledgerCorruption, "ledger line " ++ toString number ++ " is truncated"⟩
  else if raw.dropLast = [] then
    .error ⟨.ledgerCorruption, "ledger line " ++ toString number ++ " is empty"⟩
  else
    let invalid : PyError := ⟨.ledgerCorruption, "ledger line " ++ toString number ++ " is not valid JSON"⟩
    match decodeUtf8 raw.dropLast with
    | none => .error invalid
    | some text =>
      match loads text with
      | .error .decode => .error invalid
      | .error .digits => .error ⟨.valueError, "Exceeds the limit for integer string conversion"⟩
      | .ok value => StoredEvent.fromDict value

/-- The loop of `_read_events`. -/
def readLines (number : Nat) (previous : Option String) (seen : List Identifier) :
    List Bytes → Except PyError (List StoredEvent)
  | [] => .ok []
  | raw :: lines =>
    match readLine number raw with
    | .error e => .error e
    | .ok event =>
      if event.eventId ∈ seen then .error ⟨.ledgerCorruption, "ledger contains a duplicate event ID"⟩
      else if event.previousEventSha256.map (·.text) ≠ previous then
        .error ⟨.ledgerCorruption, "ledger event chain is discontinuous"⟩
      else
        match readLines (number + 1) (event.eventSha256.map (·.text)) (event.eventId :: seen) lines with
        | .error e => .error e
        | .ok events => .ok (event :: events)

/-- `_read_events`, on the bytes of the file; no file reads as an empty one. -/
def readEvents (file : Bytes) : Except PyError (List StoredEvent) := readLines 1 none [] (rawLines file)

/-- The locked section of `append`: the event it returns, and the line it writes. -/
def appendLine (file : Bytes) (event : StoredEvent) : Except PyError (StoredEvent × Bytes) :=
  match readEvents file with
  | .error e => .error e
  | .ok existing =>
    if existing.any (·.eventId = event.eventId) then
      .error ⟨.ledger, "duplicate ledger event ID: " ++ event.eventId.text⟩
    else
      let previous := existing.getLast?.bind (·.eventSha256)
      let prepared := { event with previousEventSha256 := previous, eventSha256 := none }
      match prepared.computedSha256 with
      | .error e => .error e
      | .ok digest =>
        let persisted := prepared.withDigest (some digest.reference)
        match persisted.canonicalBytes with
        | .error e => .error e
        | .ok bytes => .ok (persisted, bytes ++ [10])

/-! ### Reading back what was appended -/

omit [Sha256] [PrintableText] in
theorem rawLines_line (line rest : Bytes) (whole : (10 : UInt8) ∉ line) :
    rawLines (line ++ 10 :: rest) = (line ++ [10]) :: rawLines rest := by
  induction line with
  | nil => simp [rawLines]
  | cons b line ih =>
    simp only [List.mem_cons, not_or] at whole
    have other : b ≠ 10 := fun same => whole.1 same.symm
    simp [rawLines, other, ih whole.2]

/-- The file ends with a complete line. -/
def Complete (file : Bytes) : Prop := file = [] ∨ file.getLast? = some 10

omit [Sha256] [PrintableText] in
theorem rawLines_ne_nil {file : Bytes} (nonempty : file ≠ []) : rawLines file ≠ [] := by
  cases file with
  | nil => contradiction
  | cons b file =>
    simp only [rawLines]
    split
    · simp
    · split <;> simp

omit [Sha256] [PrintableText] in
/-- What follows a complete file is read on its own. -/
theorem rawLines_piece {file piece : Bytes} (complete : Complete file) (one : rawLines piece = [piece]) :
    rawLines (file ++ piece) = rawLines file ++ [piece] := by
  induction file with
  | nil => simpa [rawLines] using one
  | cons b file ih =>
    have ends : (b :: file).getLast? = some 10 := complete.resolve_left (by simp)
    by_cases empty : file = []
    · subst empty
      obtain rfl : b = 10 := by simpa using ends
      simpa [rawLines] using one
    · have tail := ih (Or.inr (by rwa [List.getLast?_cons_of_ne_nil empty] at ends))
      have some_line := rawLines_ne_nil empty
      by_cases newline : b = 10
      · simp [rawLines, newline, tail]
      · simp only [rawLines, newline, if_false, List.cons_append, tail]
        cases lines : rawLines file with
        | nil => contradiction
        | cons first lines => simp

omit [Sha256] [PrintableText] in
theorem rawLines_append {file line : Bytes} (complete : Complete file) (whole : (10 : UInt8) ∉ line) :
    rawLines (file ++ (line ++ [10])) = rawLines file ++ [line ++ [10]] :=
  rawLines_piece complete (by simpa [rawLines] using rawLines_line line [] whole)

theorem readLine_written {e : StoredEvent} (number : Nat) (settled : e.Settled) (sealed : e.Sealed)
    (encoded : e.canonicalBytes = .ok bytes) : readLine number (bytes ++ [10]) = .ok e := by
  obtain ⟨fits, unpaired⟩ := StoredEvent.toDict_settled settled true
  obtain ⟨_, rfl⟩ := (StoredEvent.canonicalBytes_ok (e.toDict_accepted true)).mp encoded
  obtain ⟨decoded, loaded⟩ := loads_encode (canon_settled _ (e.toDict_accepted true) fits unpaired)
  have nonempty : (PyValue.obj (e.toDict true)).encode ≠ [] := by
    simp [PyValue.encode, PyValue.canon, PyValue.dumps]
  simp [readLine, nonempty, decoded, loaded, StoredEvent.fromDict_canon sealed]

/-- One more line is read after the others, with the digest and the event IDs they leave. -/
theorem readLines_snoc {lines : List Bytes} {raw : Bytes} {events : List StoredEvent} {event : StoredEvent} :
    ∀ {number : Nat} {previous : Option String} {seen : List Identifier},
      readLines number previous seen lines = .ok events → (∀ n, readLine n raw = .ok event) →
      event.eventId ∉ seen → event.eventId ∉ events.map (·.eventId) →
      event.previousEventSha256.map (·.text) =
        (match events.getLast? with
          | some last => last.eventSha256.map (·.text)
          | none => previous) →
      readLines number previous seen (lines ++ [raw]) = .ok (events ++ [event]) := by
  induction lines generalizing events with
  | nil =>
    intro number previous seen read reads fresh _ linked
    cases read
    simp only [List.nil_append, readLines, reads, fresh, if_false]
    simp only [List.getLast?_nil] at linked
    simp [linked]
  | cons first lines ih =>
    intro number previous seen read reads fresh unused linked
    simp only [readLines] at read
    cases head : readLine number first with
    | error e => simp [head] at read
    | ok found =>
      simp only [head] at read
      split at read
      · contradiction
      · rename_i new
        split at read
        · contradiction
        · rename_i chained
          cases tail : readLines (number + 1) (found.eventSha256.map (·.text)) (found.eventId :: seen) lines with
          | error e => simp [tail] at read
          | ok more =>
            simp only [tail, Except.ok.injEq] at read
            subst read
            simp only [List.map_cons, List.mem_cons, not_or] at unused
            have extended := ih tail reads (by simp [unused.1, fresh]) unused.2 (by
              rw [linked]
              cases more with
              | nil => simp
              | cons next more =>
                rw [List.getLast?_cons_cons]
                cases last : (next :: more).getLast? with
                | none => simp at last
                | some event => rfl)
            simp [readLines, head, new, chained, extended]

/-! ### The closure of the ledger -/

/-- What the locked section of a successful append did. -/
theorem appendLine_ok {file : Bytes} {event persisted : StoredEvent} {line : Bytes}
    (appended : appendLine file event = .ok (persisted, line)) :
    ∃ existing digest bytes, readEvents file = .ok existing ∧ (∀ e ∈ existing, e.eventId ≠ event.eventId) ∧
      persisted = { event with
        previousEventSha256 := existing.getLast?.bind (·.eventSha256), eventSha256 := some digest.reference } ∧
      persisted.computedSha256 = .ok digest ∧ persisted.canonicalBytes = .ok bytes ∧ line = bytes ++ [10] := by
  unfold appendLine at appended
  cases read : readEvents file with
  | error e => simp [read] at appended
  | ok existing =>
    simp only [read] at appended
    split at appended
    · cases appended
    · rename_i fresh
      simp only [List.any_eq_true, decide_eq_true_eq, not_exists, not_and] at fresh
      split at appended
      · cases appended
      · rename_i digest computed
        split at appended
        · cases appended
        · rename_i bytes encoded
          obtain ⟨rfl, rfl⟩ := Prod.mk.inj (Except.ok.inj appended)
          refine ⟨existing, digest, bytes, rfl, fresh, rfl, ?_, encoded, rfl⟩
          rw [StoredEvent.computedSha256_withDigest]
          exact computed

/-- The appends to a ledger file, in the order of their locked sections, by any number of
writers, with the events that the successful ones returned. -/
inductive Appends : Bytes → List StoredEvent → Prop where
  | none : Appends [] []
  | append : Appends file events → event.Scalar → appendLine file event = .ok (persisted, line) →
      Appends (file ++ line) (events ++ [persisted])
  | refuse : Appends file events → appendLine file event = .error error → Appends file events

/-- A readable ledger file, and the events it holds. -/
structure Closed (file : Bytes) (events : List StoredEvent) : Prop where
  complete : Complete file
  reads : readEvents file = .ok events
  unique : (events.map (·.eventId)).Nodup
  sealed : ∀ e ∈ events, e.Sealed
  linked : ∀ before e after, events = before ++ e :: after →
    e.previousEventSha256 = before.getLast?.bind (·.eventSha256)

/-- The line of an append is read back after the lines that were there. -/
theorem readEvents_append {file : Bytes} {events : List StoredEvent} {event persisted : StoredEvent} {line : Bytes}
    (complete : Complete file) (reads : readEvents file = .ok events) (scalar : event.Scalar)
    (appended : appendLine file event = .ok (persisted, line)) :
    Complete (file ++ line) ∧ readEvents (file ++ line) = .ok (events ++ [persisted]) := by
  obtain ⟨existing, digest, bytes, read, fresh, made, computed, encoded, rfl⟩ := appendLine_ok appended
  obtain rfl : events = existing := Except.ok.inj (reads.symm.trans read)
  have same : persisted.eventId = event.eventId := by rw [made]
  have previous : persisted.previousEventSha256 = events.getLast?.bind (·.eventSha256) := by rw [made]
  have mappings : persisted.mappings = event.mappings := by rw [made]; rfl
  have sealed : persisted.Sealed := ⟨digest, computed, by rw [made]⟩
  have settled : persisted.Settled := fun m member =>
    ⟨StoredEvent.fits_of_canonicalBytes encoded m member,
      unpairedFields_of_scalar _ (scalar m (mappings ▸ member))⟩
  have unused : persisted.eventId ∉ events.map (·.eventId) := by
    rw [same]
    intro member
    obtain ⟨e, found, taken⟩ := List.mem_map.mp member
    exact fresh e found taken
  have whole : (10 : UInt8) ∉ bytes := by
    obtain ⟨_, rfl⟩ := (StoredEvent.canonicalBytes_ok (persisted.toDict_accepted true)).mp encoded
    exact newline_free _
  constructor
  · refine Or.inr ?_
    rw [← List.append_assoc]
    exact List.getLast?_concat
  · unfold readEvents
    rw [rawLines_append complete whole]
    refine readLines_snoc reads (fun n => readLine_written n settled sealed encoded) (by simp) unused ?_
    rw [previous]
    cases events.getLast? with
    | none => rfl
    | some last => rfl

theorem Closed.append {file : Bytes} {events : List StoredEvent} {event persisted : StoredEvent} {line : Bytes}
    (closed : Closed file events) (scalar : event.Scalar) (appended : appendLine file event = .ok (persisted, line)) :
    Closed (file ++ line) (events ++ [persisted]) := by
  obtain ⟨complete, reads⟩ := readEvents_append closed.complete closed.reads scalar appended
  obtain ⟨existing, digest, bytes, read, fresh, made, computed, _, rfl⟩ := appendLine_ok appended
  obtain rfl : events = existing := Except.ok.inj (closed.reads.symm.trans read)
  have previous : persisted.previousEventSha256 = events.getLast?.bind (·.eventSha256) := by rw [made]
  refine ⟨complete, reads, ?_, ?_, ?_⟩
  · rw [List.map_append]
    refine List.nodup_append.mpr ⟨closed.unique, by simp, ?_⟩
    rintro id member _ last rfl
    obtain rfl : id = persisted.eventId := by simpa using last
    obtain ⟨e, found, taken⟩ := List.mem_map.mp member
    exact fresh e found (taken.trans (by rw [made]))
  · intro e member
    rcases List.mem_append.mp member with member | member
    · exact closed.sealed e member
    · obtain rfl : e = persisted := by simpa using member
      exact ⟨digest, computed, by rw [made]⟩
  · intro before e after split
    rcases List.eq_nil_or_concat after with rfl | ⟨rest, last, rfl⟩
    · obtain ⟨rfl, last⟩ := List.append_inj' split rfl
      obtain rfl : persisted = e := by simpa using last
      exact previous
    · rw [List.concat_eq_append, ← List.cons_append, ← List.append_assoc] at split
      obtain ⟨shorter, _⟩ := List.append_inj' split rfl
      exact closed.linked before e rest shorter

theorem Appends.closed {file : Bytes} {events : List StoredEvent} (history : Appends file events) :
    Closed file events := by
  induction history with
  | none => exact ⟨Or.inl rfl, rfl, List.nodup_nil, by simp, by simp⟩
  | append _ scalar appended ih => exact ih.append scalar appended
  | refuse _ _ ih => exact ih

end RunLedger

/-- Whatever is appended to a ledger file by writers that take turns, the file reads as
the events that the appends returned, in order, with unique IDs and an unbroken chain. -/
theorem ledger_closure [Sha256] [PrintableText] {file : Bytes} {events : List StoredEvent}
    (history : RunLedger.Appends file events) :
    RunLedger.readEvents file = .ok events ∧ (events.map (·.eventId)).Nodup ∧
      (∀ e ∈ events, ∃ digest, e.computedSha256 = .ok digest ∧ e.eventSha256 = some digest.reference) ∧
      ∀ before e after, events = before ++ e :: after →
        e.previousEventSha256 = before.getLast?.bind (·.eventSha256) :=
  ⟨history.closed.reads, history.closed.unique, history.closed.sealed, history.closed.linked⟩

/-! ### A ledger of two lines -/

namespace Sample
attribute [local instance] standardSha256

/-- Only the ASCII characters are printable. -/
@[reducible] def asciiPrintable : PrintableText :=
  ⟨fun p => 32 ≤ p.val && p.val < 127, fun p surrogate => by
    simp only [CodePoint.isSurrogate, CodePoint.isHigh, CodePoint.isLow, Bool.or_eq_true, Bool.and_eq_true,
      decide_eq_true_eq] at surrogate
    simp only [Bool.and_eq_false_iff, decide_eq_false_iff_not]
    omega⟩

attribute [local instance] asciiPrintable

/-- A mapping whose text has a character beyond the basic plane. -/
def remark : PyMapping := ⟨[(PyText.ofString "note", .str [99, 128512])], by decide +kernel, rfl⟩

def emptyMapping : PyMapping := ⟨[], rfl, rfl⟩

def entry (text : String) (valid : isIdentifier text = true := by decide +kernel) : StoredEvent :=
  ⟨⟨text, valid⟩, ⟨"run_1", by decide +kernel⟩, ⟨"RUN_STARTED", by decide +kernel⟩, none, none, none, none, .none, .none, emptyMapping, emptyMapping, none, none,
    emptyMapping, ⟨2026, 1, 1, 12, 0, 0, 0, by decide⟩, remark, none, none⟩

theorem entry_scalar (text : String) (valid : isIdentifier text = true) : (entry text valid).Scalar := by
  intro m member
  simp only [StoredEvent.mappings, entry, List.mem_cons, List.not_mem_nil, or_false] at member
  rcases member with rfl | rfl | rfl | rfl
  · trivial
  · trivial
  · trivial
  · refine ⟨PyText.ofString_scalar _, ?_, trivial⟩
    intro p member
    simp only [List.mem_cons, List.not_mem_nil, or_false] at member
    rcases member with rfl | rfl <;> rfl

/-- Two appends to an empty file. -/
def twoLines : Except PyError (StoredEvent × StoredEvent × Bytes) := do
  let (first, line) ← RunLedger.appendLine [] (entry "evt_1")
  let (second, more) ← RunLedger.appendLine line (entry "evt_2")
  return (first, second, line ++ more)

theorem ledger_closure_two : ∃ file first second, RunLedger.readEvents file = .ok [first, second] ∧
    second.previousEventSha256 = first.eventSha256 := by
  have appended : twoLines.isOk = true := by decide +kernel
  match done : twoLines with
  | .error e => simp [done, Except.isOk, Except.toBool] at appended
  | .ok (first, second, file) =>
    obtain ⟨⟨p, line⟩, one, done⟩ := bind_ok.mp done
    obtain ⟨⟨q, more⟩, two, done⟩ := bind_ok.mp done
    cases done
    have history := (RunLedger.Appends.none.append (entry_scalar _ _) one).append (entry_scalar _ _) two
    obtain ⟨read, _, _, linked⟩ := ledger_closure history
    exact ⟨_, _, _, read, linked [first] second [] rfl⟩

end Sample
end Molly
