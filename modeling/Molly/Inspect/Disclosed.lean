import Molly.Effect.SortedMap
import Molly.Inspect.Collected
import Molly.Inspect.Trace

/-! What a trace shows once every digest and every list of artifact identities in it is put
out of sight, and which differences between two events still show. -/
namespace Molly
open AgentLoop RunInspector
open Effect (chars)

/-! ### Out of sight -/

def isArtifactText : Json → Bool
  | .str text =>
    match removeSha256Prefix (chars text) with
    | some rest => isSha256 (String.ofList rest)
    | none => false
  | _ => false

/-- A digest, or a list of artifact identities, is replaced by a mark that says no more. -/
def hide : Json → Json
  | .str text => if isSha256 text then .str "digest" else .str text
  | .arr items => if items.all isArtifactText then .str "artifacts" else .arr items
  | value => value

def hideFields (fields : Fields) : Fields := fields.map fun f => (f.1, hide f.2)

structure DisclosedEvent where
  name : Identifier
  timestamp : Timestamp
  attributes : Fields

structure DisclosedSpan where
  spanId : HexId 16
  parentSpanId : Option (HexId 16)
  name : Identifier
  startTime : Timestamp
  endTime : Option Timestamp
  attributes : Fields
  events : List DisclosedEvent

/-- A trace without its digests. -/
structure DisclosedTrace where
  traceId : HexId 32
  runId : Identifier
  status : RunStatus
  spans : List DisclosedSpan

def TraceEvent.disclosed (e : TraceEvent) : DisclosedEvent := ⟨e.name, e.timestamp, hideFields e.attributes.fields⟩

def TraceSpan.disclosed (s : TraceSpan) : DisclosedSpan :=
  ⟨s.spanId, s.parentSpanId, s.name, s.startTime, s.endTime, hideFields s.attributes.fields,
    s.events.map TraceEvent.disclosed⟩

def RunTrace.disclosed (t : RunTrace) : DisclosedTrace := ⟨t.traceId, t.runId, t.status, t.spans.map TraceSpan.disclosed⟩

theorem hide_digest (d : Digest) : hide (.str d.text) = .str "digest" := by
  simp [hide, d.valid]

theorem hide_artifacts (ids : List ArtifactId) : hide (artifactList ids) = .str "artifacts" := by
  have all : (ids.map fun id => Json.str id.text).all isArtifactText = true := by
    rw [List.all_eq_true]
    intro item member
    obtain ⟨id, -, rfl⟩ := List.mem_map.mp member
    simp [isArtifactText, ArtifactId.text, removeSha256Prefix, id.digest.valid]
  simp only [hide, artifactList, all, ↓reduceIte]

/-- Freezing and hiding do not depend on their order. -/
theorem hide_canon : ∀ value : Json, hide value.canon = (hide value).canon
  | .null | .bool _ | .int _ | .float _ | .obj _ => by simp [hide, Json.canon]
  | .str text => by
    simp only [hide, Json.canon]
    split <;> simp [Json.canon]
  | .arr items => by
    have same : ∀ items : List Json, (Json.canonItems items).all isArtifactText = items.all isArtifactText := by
      intro items
      induction items with
      | nil => simp [Json.canonItems]
      | cons item rest ih =>
        have head : isArtifactText item.canon = isArtifactText item := by
          cases item <;> simp [Json.canon, isArtifactText]
        simp [Json.canonItems, head, ih]
    simp only [hide, Json.canon, same]
    split <;> simp [Json.canon]

theorem hideFields_insertField (key : String) (value : Json) (fields : Fields) :
    hideFields (insertField key value fields) = insertField key (hide value) (hideFields fields) := by
  induction fields with
  | nil => rfl
  | cons field rest ih =>
    obtain ⟨k, v⟩ := field
    simp only [insertField, hideFields, List.map_cons] at ih ⊢
    split
    · rfl
    split
    · rfl
    · rw [List.map_cons, ih]

theorem hideFields_canonFields : ∀ fields : Fields,
    hideFields (Json.canonFields fields) = Json.canonFields (hideFields fields)
  | [] => by simp [hideFields, Json.canonFields]
  | (key, value) :: rest => by
    rw [Json.canonFields, hideFields_insertField, hideFields_canonFields rest, hide_canon]
    simp [hideFields, Json.canonFields]

theorem hideFields_append (left right : Fields) : hideFields (left ++ right) = hideFields left ++ hideFields right :=
  List.map_append

theorem hideFields_updated (fields more : Fields) :
    hideFields (updated fields more) = updated (hideFields fields) (hideFields more) := by
  induction more generalizing fields with
  | nil => rfl
  | cons field rest ih =>
    have step := ih (insertField field.1 field.2 fields)
    rw [hideFields_insertField] at step
    exact step

/-- Attributes that hide alike show alike. -/
theorem attributes_alike {field field' : String} {fields fields' : Fields} {m m' : JsonObject}
    (frozen : freezeFields field fields = .ok m) (frozen' : freezeFields field' fields' = .ok m')
    (same : hideFields fields = hideFields fields') : hideFields m.fields = hideFields m'.fields := by
  rw [(freezeFields_ok.mp frozen).2, (freezeFields_ok.mp frozen').2, hideFields_canonFields, hideFields_canonFields, same]

/-! ### Mappings in key order -/

def jsonKeyOrder : Effect.SortedMap.Ordering String := ⟨keyLt, keyLt_irrefl, keyLt_trans, keyLt_total _ _⟩

theorem insertField_eq (key : String) (value : Json) (fields : Fields) :
    insertField key value fields = Effect.SortedMap.insert jsonKeyOrder key value fields := by
  induction fields with
  | nil => rfl
  | cons field rest ih => simp only [insertField, Effect.SortedMap.insert, ih]; rfl

theorem canonFields_sorted : ∀ fields : Fields, Effect.SortedMap.Sorted jsonKeyOrder (Json.canonFields fields)
  | [] => by
    rw [Json.canonFields]
    exact List.Pairwise.nil
  | (key, value) :: rest => by
    rw [Json.canonFields, insertField_eq]
    exact Effect.SortedMap.insert_sorted (canonFields_sorted rest)

theorem JsonObject.sorted (m : JsonObject) : Effect.SortedMap.Sorted jsonKeyOrder m.fields := by
  rw [← m.frozen]
  exact canonFields_sorted m.fields

/-- What the filter of a mapping shows of one value. -/
def shownValue (key : String) (value : Json) : Option Json :=
  if isSafeKey key then value.scalars.map hide else none

theorem hideFields_safeMapping (m : JsonObject) :
    hideFields (safeMappingAttributes m) = Effect.SortedMap.filterValues shownValue m.fields := by
  rw [Effect.SortedMap.filterValues_eq, hideFields, safeMappingAttributes, List.map_filterMap]
  apply List.filterMap_congr
  intro f _
  unfold shownValue
  split
  · cases f.2.scalars <;> rfl
  · rfl

/-- Two mappings show the same when their values under each safe key do. -/
theorem safeMapping_alike {m m' : JsonObject}
    (same : ∀ key, isSafeKey key = true →
      ((m.get key).bind Json.scalars).map hide = ((m'.get key).bind Json.scalars).map hide) :
    hideFields (safeMappingAttributes m) = hideFields (safeMappingAttributes m') := by
  rw [hideFields_safeMapping, hideFields_safeMapping]
  refine Effect.SortedMap.ext_lookup (Effect.SortedMap.filterValues_sorted m.sorted)
    (Effect.SortedMap.filterValues_sorted m'.sorted) fun key => ?_
  rw [Effect.SortedMap.lookup_filterValues m.sorted, Effect.SortedMap.lookup_filterValues m'.sorted]
  by_cases safe : isSafeKey key = true
  · have here := same key safe
    have passed : shownValue key = fun value => value.scalars.map hide := by
      funext value
      simp [shownValue, safe]
    simpa [JsonObject.get, Option.map_bind, Function.comp_def, passed] using here
  · have blocked : shownValue key = fun _ => none := by
      funext value
      simp [shownValue, safe]
    simp [blocked]

/-! ### Events that differ in their payload -/

/-- The metadata keys that hold goals, arguments, reasons, intents and result data. -/
def payloadKeys : List String := ["request", "action", "materialized_call", "intent", "reason", "result_data", "approval"]

/-- The metadata keys that hold digests of these. -/
def derivedKeys : List String := ["request_digest", "tool_call_digest", "spec_digest", "intent_digest", "result_data_sha256"]

/-- An entry of the approval that an event records. -/
def approvalEntry (e : LedgerEvent) (key : String) : Option Json :=
  match e.metadata.get "approval" with
  | some (.obj approval) => approval.lookup key
  | _ => none

/-- Two events that differ in payload, in digests of payload, and in artifact identities only. -/
structure Alike (e f : LedgerEvent) : Prop where
  eventType : e.eventType = f.eventType
  stepId : e.stepId = f.stepId
  status : e.status = f.status
  toolName : e.toolName = f.toolName
  toolVersion : e.toolVersion = f.toolVersion
  timestamp : e.timestamp = f.timestamp
  modelProfile : e.modelProfile = f.modelProfile
  providerProfile : e.providerProfile = f.providerProfile
  promptDigest : e.promptDigest = f.promptDigest
  configDigest : e.configDigest = f.configDigest
  seedMetadata : e.seedMetadata = f.seedMetadata
  metadata : ∀ key, key ∉ payloadKeys → key ∉ derivedKeys → e.metadata.get key = f.metadata.get key
  approval : ∀ key, key ≠ "tool_call_digest" → approvalEntry e key = approvalEntry f key

/-- Whether an event of a type records a digest under a derived key. -/
def recordsDigest (eventType : EventType) (key : String) : Bool :=
  (key = "request_digest" && eventType = .runStarted) ||
    (key = "tool_call_digest" && (eventType.isCall || eventType = .runRejected)) ||
    (key ∈ ["spec_digest", "intent_digest"] && eventType = .intentFrozen) ||
    (key = "result_data_sha256" && eventType = .toolExecutionSucceeded)

/-- Under its derived keys an event holds digests, and nothing else. -/
def Digested (e : LedgerEvent) : Prop := ∀ key ∈ derivedKeys,
  e.metadata.get key = none ∧ recordsDigest e.eventType key = false ∨
    ∃ d : Digest, e.metadata.get key = some (.str d.text) ∧ recordsDigest e.eventType key = true

/-- Two such events of one type hold digests under the same keys. -/
theorem Digested.both {e f : LedgerEvent} (digested : Digested e) (digested' : Digested f)
    (same : e.eventType = f.eventType) {key : String} (derived : key ∈ derivedKeys) :
    e.metadata.get key = none ∧ f.metadata.get key = none ∨
      ∃ d d' : Digest, e.metadata.get key = some (.str d.text) ∧ f.metadata.get key = some (.str d'.text) := by
  rcases digested key derived with ⟨absent, holds⟩ | ⟨d, found, holds⟩ <;>
    rcases digested' key derived with ⟨absent', holds'⟩ | ⟨d', found', holds'⟩
  · exact Or.inl ⟨absent, absent'⟩
  · rw [same, holds'] at holds
    contradiction
  · rw [same, holds'] at holds
    contradiction
  · exact Or.inr ⟨d, d', found, found'⟩

/-- No key under which payload is written is safe. -/
theorem payload_refused : ∀ key ∈ payloadKeys, isSafeKey key = false := by decide +kernel

theorem Alike.shown {e f : LedgerEvent} (alike : Alike e f) (digested : Digested e) (digested' : Digested f) {key : String}
    (safe : isSafeKey key = true) :
    ((e.metadata.get key).bind Json.scalars).map hide = ((f.metadata.get key).bind Json.scalars).map hide := by
  by_cases payload : key ∈ payloadKeys
  · rw [payload_refused key payload] at safe
    contradiction
  by_cases derived : key ∈ derivedKeys
  · rcases digested.both digested' alike.eventType derived with ⟨absent, absent'⟩ | ⟨d, d', found, found'⟩
    · rw [absent, absent']
    · simp [found, found', Json.scalars, hide_digest]
  · rw [alike.metadata key payload derived]

theorem approvalAttributes_eq (e : LedgerEvent) : approvalAttributes e =
    textEntry (approvalEntry e "decision") "decision" ++ textEntry (approvalEntry e "reviewer_ref") "reviewer_ref" := by
  unfold approvalAttributes approvalEntry
  cases e.metadata.get "approval" with
  | none => rfl
  | some value => cases value <;> simp [textEntry]

/-- Events that differ in payload only have the same attributes, but for digests. -/
theorem eventAttributes_alike {e f : LedgerEvent} (alike : Alike e f) (digested : Digested e) (digested' : Digested f) :
    hideFields (eventAttributes e) = hideFields (eventAttributes f) := by
  have callId := alike.metadata "call_id" (by decide) (by decide)
  have digest : hideFields (textEntry (e.metadata.get "tool_call_digest") "tool_call_digest") =
      hideFields (textEntry (f.metadata.get "tool_call_digest") "tool_call_digest") := by
    have derived : "tool_call_digest" ∈ derivedKeys := by decide
    rcases digested.both digested' alike.eventType derived with ⟨absent, absent'⟩ | ⟨d, d', found, found'⟩
    · rw [absent, absent']
    · simp [found, found', textEntry, hideFields, hide_digest]
  have metadata := safeMapping_alike fun key safe => alike.shown digested digested' safe
  have approval : approvalAttributes e = approvalAttributes f := by
    rw [approvalAttributes_eq, approvalAttributes_eq, alike.approval "decision" (by decide),
      alike.approval "reviewer_ref" (by decide)]
  simp only [eventAttributes, hideFields_updated, hideFields_append, List.flatMap_cons, List.flatMap_nil, digest, metadata,
    approval, callId, alike.eventType, alike.status, alike.toolName, alike.toolVersion, alike.modelProfile,
    alike.providerProfile, alike.promptDigest, alike.configDigest, alike.seedMetadata]

theorem traceEvent_alike {e f : LedgerEvent} (alike : Alike e f) (digested : Digested e) (digested' : Digested f)
    {shown shown' : TraceEvent} (made : traceEvent e = .ok shown) (made' : traceEvent f = .ok shown') :
    shown.disclosed = shown'.disclosed := by
  simp only [traceEvent, bind_ok] at made made'
  obtain ⟨name, valid, m, frozen, result⟩ := made
  obtain ⟨name', valid', m', frozen', result'⟩ := made'
  cases result
  cases result'
  have names : name = name' := by
    rw [alike.eventType, valid'] at valid
    exact (Except.ok.inj valid).symm
  simp only [TraceEvent.disclosed, names, alike.timestamp,
    attributes_alike frozen frozen' (eventAttributes_alike alike digested digested')]

end Molly
