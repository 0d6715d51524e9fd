import Molly.Evidence.Review
import Molly.Evidence.Order
import Molly.Evidence.Bound
import Molly.File.Joined

/-! Which intake artifacts have canonical bytes: a report has them where its mapping has, and no record is
named like a credential. -/
namespace Molly

/-- The canonical bytes of the value are defined. -/
structure PyValue.Encodes (v : PyValue) : Prop where
  accepted : v.accepted = true
  fits : v.fits = true

namespace PyValue

theorem encodes_iff {v : PyValue} : v.Encodes ↔ ∃ bytes, v.canonicalBytes = .ok bytes := by
  constructor
  · intro encodes
    exact ⟨_, canonicalBytes_eq_ok.mpr ⟨encodes.accepted, encodes.fits, rfl⟩⟩
  · intro written
    obtain ⟨bytes, written⟩ := written
    obtain ⟨accepted, fits, _⟩ := canonicalBytes_eq_ok.mp written
    exact ⟨accepted, fits⟩

@[simp] theorem encodes_str (text : PyText) : (PyValue.str text).Encodes := ⟨rfl, rfl⟩
@[simp] theorem encodes_null : PyValue.null.Encodes := ⟨rfl, rfl⟩
@[simp] theorem encodes_bool (b : Bool) : (PyValue.bool b).Encodes := ⟨rfl, rfl⟩
@[simp] theorem encodes_float (x : FiniteFloat) : (PyValue.float x).Encodes := ⟨rfl, rfl⟩

@[simp] theorem encodes_arr {items : List PyValue} : (PyValue.arr items).Encodes ↔ ∀ v ∈ items, v.Encodes := by
  induction items with
  | nil => exact ⟨fun _ v member => (by cases member), fun _ => ⟨rfl, rfl⟩⟩
  | cons item rest ih =>
    rw [List.forall_mem_cons, ← ih]
    constructor
    · intro encodes
      have accepted := Bool.and_eq_true_iff.mp encodes.accepted
      have fits := Bool.and_eq_true_iff.mp encodes.fits
      exact ⟨⟨accepted.1, fits.1⟩, ⟨accepted.2, fits.2⟩⟩
    · intro both
      obtain ⟨first, later⟩ := both
      exact ⟨Bool.and_eq_true_iff.mpr ⟨first.accepted, later.accepted⟩, Bool.and_eq_true_iff.mpr ⟨first.fits, later.fits⟩⟩

theorem acceptsKey_iff (key : String) :
    acceptsKey key = true ↔ PyText.ofString key ≠ [] ∧ sensitiveKey (PyText.ofString key).display = false := by
  have empty : PyText.ofString key = [] ↔ key = "" := by
    constructor
    · intro none
      exact PyText.ofString_injective (t := "") none
    · rintro rfl
      rfl
  rw [PyText.display_ofString, ne_eq, empty, acceptsKey, Bool.and_eq_true, Bool.not_eq_true', decide_eq_true_eq]

theorem accepted_named {entries : List (String × PyValue)} :
    (PyValue.named entries).accepted = true ↔ ∀ f ∈ entries, acceptsKey f.1 = true ∧ f.2.accepted = true := by
  rw [PyValue.named, PyValue.accepted, acceptedFields_iff, List.forall_mem_map]
  simp only [acceptsKey_iff, and_assoc]

theorem encodes_named {entries : List (String × PyValue)} :
    (PyValue.named entries).Encodes ↔ ∀ f ∈ entries, acceptsKey f.1 = true ∧ f.2.Encodes := by
  constructor
  · intro encodes f member
    have accepted := accepted_named.mp encodes.accepted f member
    have fits := fitsFields_iff.mp encodes.fits _ (List.mem_map_of_mem member)
    exact ⟨accepted.1, accepted.2, fits⟩
  · intro each
    refine ⟨accepted_named.mpr fun f member => ⟨(each f member).1, (each f member).2.accepted⟩, fitsFields_iff.mpr ?_⟩
    intro f member
    obtain ⟨entry, found, rfl⟩ := List.mem_map.mp member
    exact (each entry found).2.fits

theorem encodes_of {entries : List (String × PyValue)} (keys : List String) (listed : entries.map Prod.fst = keys)
    (plain : keys.all acceptsKey = true) (each : ∀ f ∈ entries, f.2.Encodes) : (PyValue.named entries).Encodes := by
  rw [encodes_named]
  intro f member
  refine ⟨List.all_eq_true.mp plain f.1 ?_, each f member⟩
  rw [← listed]
  exact List.mem_map_of_mem member

theorem encodes_lookup {entries : List (String × PyValue)} (encodes : (PyValue.named entries).Encodes) {key : String} {v : PyValue}
    (found : entries.lookup key = some v) : v.Encodes := by
  obtain ⟨before, after, split, _⟩ := List.lookup_eq_some_iff.mp found
  have member : (key, v) ∈ entries := by
    rw [split]
    exact List.mem_append_right _ List.mem_cons_self
  exact (encodes_named.mp encodes _ member).2

@[simp] theorem encodes_pyTextOrNull (text : Option PyText) : (pyTextOrNull text).Encodes := by
  cases text <;> simp [pyTextOrNull]

@[simp] theorem encodes_optional (shown : α → String) (value : Option α) : (pyOptionalText shown value).Encodes := by
  cases value <;> simp [pyOptionalText]

@[simp] theorem encodes_artifactIds (ids : ArtifactIds) : (pyArtifactIds ids).Encodes := by
  rw [pyArtifactIds, encodes_arr]
  intro v member
  obtain ⟨id, _, rfl⟩ := List.mem_map.mp member
  exact encodes_str _

theorem encodes_texts (texts : List PyText) : (PyValue.arr (texts.map PyValue.str)).Encodes := by
  rw [encodes_arr]
  intro v member
  obtain ⟨t, _, rfl⟩ := List.mem_map.mp member
  exact encodes_str t

/-- The identity of an artifact is defined where its bytes are. -/
theorem encodes_artifactId [Sha256] {v : PyValue} : v.Encodes ↔ ∃ id, v.artifactId = .ok id := by
  rw [encodes_iff, PyValue.artifactId, PyValue.digest]
  cases v.canonicalBytes with
  | error e => exact ⟨fun made => (by obtain ⟨_, made⟩ := made; cases made), fun made => (by obtain ⟨_, made⟩ := made; cases made)⟩
  | ok bytes => exact ⟨fun _ => ⟨_, rfl⟩, fun _ => ⟨bytes, rfl⟩⟩

end PyValue

/-- `list(dict.fromkeys(values))` holds each value once. -/
theorem nodup_eraseDups {α : Type} [BEq α] [LawfulBEq α] (values : List α) : values.eraseDups.Nodup := by
  induction h : values.length using Nat.strong_induction_on generalizing values with
  | _ n ih =>
    cases values with
    | nil => exact List.nodup_nil
    | cons a rest =>
      rw [List.eraseDups_cons, List.nodup_cons]
      constructor
      · rw [List.mem_eraseDups]
        simp
      · refine ih _ ?_ _ rfl
        rw [← h, List.length_cons]
        exact Nat.lt_succ_of_le (List.length_filter_le _ _)

/-! ### Records -/

theorem OledMappingRecord.encodes_parts {r : OledMappingRecord} (encodes : r.toDict.Encodes) :
    r.moleculeIdentity.toDict.Encodes ∧ r.property.toDict.Encodes ∧ r.measurementCondition.toDict.Encodes ∧
      (PyValue.arr (r.evidence.map OledEvidenceRef.toDict)).Encodes := by
  have found : r.entries.lookup "molecule_identity" = some r.moleculeIdentity.toDict ∧
      r.entries.lookup "property" = some r.property.toDict ∧
      r.entries.lookup "measurement_condition" = some r.measurementCondition.toDict ∧
      r.entries.lookup "evidence" = some (.arr (r.evidence.map OledEvidenceRef.toDict)) := ⟨rfl, rfl, rfl, rfl⟩
  exact ⟨PyValue.encodes_lookup encodes found.1, PyValue.encodes_lookup encodes found.2.1,
    PyValue.encodes_lookup encodes found.2.2.1, PyValue.encodes_lookup encodes found.2.2.2⟩

/-- A published result has canonical bytes for each of its records. -/
theorem OledMappingResult.encodes_records [Sha256] {r : OledMappingResult} {id : ArtifactId} (published : r.artifactId = .ok id) :
    ∀ record ∈ r.records, record.toDict.Encodes := by
  unfold artifactId toDict at published
  obtain ⟨value, dict, _⟩ := bind_ok.mp published
  obtain ⟨digest, hashed, _⟩ := bind_ok.mp dict
  have body : (PyValue.named r.body).Encodes := by
    rw [computedResponseDigest, PyValue.digest] at hashed
    obtain ⟨bytes, written, _⟩ := map_ok.mp hashed
    exact PyValue.encodes_iff.mpr ⟨bytes, written⟩
  have listed : r.body.lookup "records" = some (.arr (r.records.map OledMappingRecord.toDict)) := rfl
  intro record member
  exact PyValue.encodes_arr.mp (PyValue.encodes_lookup body listed) _ (List.mem_map_of_mem member)

/-- The parts of a record that validation does not change have canonical bytes. -/
structure OledRecord.PartsEncode (v : OledRecord) : Prop where
  identity : v.moleculeIdentity.toDict.Encodes
  property : v.property.toDict.Encodes
  condition : v.measurementCondition.toDict.Encodes
  evidence : (PyValue.arr (v.evidence.map OledEvidenceRef.toDict)).Encodes

theorem OledRecord.encodes_revised {v : OledRecord} (parts : v.PartsEncode) (status : OledValidationStatus) (group : Identifier) :
    (v.revised status group).toDict.Encodes := by
  apply PyValue.encodes_of ["record_id", "canonical_document_artifact_id", "source_artifact_id", "molecule_identity", "property",
    "measurement_condition", "evidence", "claim_level", "validation_status", "candidate_bundle_artifact_id",
    "mapping_artifact_id", "mapping_request_digest", "duplicate_group", "relation"] rfl (by decide +kernel)
  intro f member
  simp only [entries, revised, List.mem_cons, List.not_mem_nil, or_false] at member
  rcases member with rfl | rfl | rfl | rfl | rfl | rfl | rfl | rfl | rfl | rfl | rfl | rfl | rfl | rfl
  all_goals
    first
      | exact parts.identity
      | exact parts.property
      | exact parts.condition
      | exact parts.evidence
      | exact PyValue.encodes_str _
      | exact PyValue.encodes_optional _ _
      | exact PyValue.encodes_pyTextOrNull _

/-! ### Validation results -/

theorem encodes_freezePyFields {field : String} {entries : List (String × PyValue)} {m : PyMapping}
    (clean : ∀ f ∈ entries, f.2.Clean) (frozen : freezePyFields field (entries.map fun f => (PyText.ofString f.1, f.2)) = .ok m) :
    m.toValue.Encodes := by
  have kept : CleanFields m.fields := by
    apply clean_freezePyFields _ frozen
    intro f member
    obtain ⟨entry, found, rfl⟩ := List.mem_map.mp member
    exact ⟨(PyText.ofString_scalar _).unpaired, clean entry found⟩
  exact ⟨m.accepted, fitsFields_iff.mpr fun f member => (kept f member).2.1⟩

theorem Identifier.reference_injective {a b : Identifier} (same : a.reference = b.reference) : a = b :=
  Identifier.ext (congrArg Reference.text same)

theorem ValidationResult.encodes {v : ValidationResult} (metadata : v.metadata.toValue.Encodes) : v.toDict.Encodes := by
  apply PyValue.encodes_of ["validator_id", "validator_version", "scope", "subject_ids", "status", "reason", "message",
    "evidence_artifact_ids", "source_references", "timestamp", "metadata"] rfl (by decide +kernel)
  have references (rs : List Reference) : (PyValue.arr (rs.map fun s => .str (PyText.ofString s.text))).Encodes := by
    rw [PyValue.encodes_arr]
    intro value member
    obtain ⟨s, _, rfl⟩ := List.mem_map.mp member
    exact PyValue.encodes_str _
  intro f member
  simp only [entries, List.mem_cons, List.not_mem_nil, or_false] at member
  rcases member with rfl | rfl | rfl | rfl | rfl | rfl | rfl | rfl | rfl | rfl | rfl
  all_goals
    first
      | exact metadata
      | exact references _
      | exact PyValue.encodes_artifactIds _
      | exact PyValue.encodes_str _

/-- A result for distinct subjects is made, where its metadata has canonical bytes and is clean. -/
theorem validation_total {config : OledValidationConfig} {subjects : List Identifier} (filled : subjects ≠ [])
    (distinct : subjects.Nodup) (status : ValidationStatus) (reason : PyText) (evidence : List ArtifactId)
    (sources : List Identifier) {metadata : List (String × PyValue)} (accepted : (PyValue.named metadata).Encodes)
    (clean : ∀ f ∈ metadata, f.2.Clean) :
    ∃ v, validation config subjects status reason evidence sources metadata = .ok v ∧ v.toDict.Encodes := by
  have named : (subjects.map Identifier.reference).Nodup := distinct.map fun _ _ => Identifier.reference_injective
  have cited : (sources.eraseDups.map Identifier.reference).Nodup :=
    (nodup_eraseDups sources).map fun _ _ => Identifier.reference_injective
  obtain ⟨m, frozen⟩ : ∃ m, freezePyFields "validation metadata" (metadata.map fun f => (PyText.ofString f.1, f.2)) = .ok m :=
    ⟨⟨_, acceptedFields_pyCanon accepted.accepted, pyCanonFields_canonFields _⟩, freezePyFields_ok.mpr ⟨accepted.accepted, rfl⟩⟩
  unfold validation
  rw [dif_pos ⟨by simpa using filled, named⟩, uniqueArtifactIds, dif_pos (nodup_eraseDups evidence)]
  dsimp only [bind, Except.bind]
  rw [dif_pos cited, frozen]
  exact ⟨_, rfl, ValidationResult.encodes (encodes_freezePyFields clean frozen)⟩

/-! ### Groups and reports -/

/-- A group's dict has its record identities for keys. -/
theorem DuplicateGroup.encodes_iff {g : DuplicateGroup} :
    g.toDict.Encodes ↔ ∀ id ∈ g.recordIds, sensitiveKey id.text = false := by
  have named : (PyValue.named (g.members.map fun m => (m.1.text, .str (PyText.ofString m.2.text)))).Encodes ↔
      ∀ id ∈ g.recordIds, sensitiveKey id.text = false := by
    rw [PyValue.encodes_named, recordIds, List.forall_mem_map, List.forall_mem_map]
    apply forall₂_congr
    intro m _
    have filled : m.1.text ≠ "" := by
      intro empty
      have valid := m.1.valid
      rw [empty] at valid
      cases valid
    simp [acceptsKey, filled]
  rw [← named]
  constructor
  · intro encodes
    have found : g.entries.lookup "classifications" =
        some (.named (g.members.map fun m => (m.1.text, .str (PyText.ofString m.2.text)))) := rfl
    exact PyValue.encodes_lookup encodes found
  · intro classifications
    apply PyValue.encodes_of ["group_id", "comparison_key", "record_ids", "classifications", "status"] rfl (by decide +kernel)
    intro f member
    simp only [entries, List.mem_cons, List.not_mem_nil, or_false] at member
    rcases member with rfl | rfl | rfl | rfl | rfl
    · exact PyValue.encodes_str _
    · exact PyValue.encodes_str _
    · rw [PyValue.encodes_arr]
      intro v listed
      obtain ⟨id, _, rfl⟩ := List.mem_map.mp listed
      exact PyValue.encodes_str _
    · exact classifications
    · exact PyValue.encodes_str _

/-- A report has canonical bytes exactly where its lists have. -/
theorem OledValidationReport.encodes_iff {r : OledValidationReport} : r.toDict.Encodes ↔
    (∀ v ∈ r.records, v.toDict.Encodes) ∧ (∀ v ∈ r.validationResults, v.toDict.Encodes) ∧
      ∀ g ∈ r.duplicateGroups, g.toDict.Encodes := by
  have each {α : Type} (dict : α → PyValue) (items : List α) :
      (PyValue.arr (items.map dict)).Encodes ↔ ∀ x ∈ items, (dict x).Encodes := by
    rw [PyValue.encodes_arr, List.forall_mem_map]
  rw [← each, ← each, ← each]
  constructor
  · intro encodes
    have found : r.entries.lookup "records" = some (.arr (r.records.map OledRecord.toDict)) ∧
        r.entries.lookup "validation_results" = some (.arr (r.validationResults.map ValidationResult.toDict)) ∧
        r.entries.lookup "duplicate_groups" = some (.arr (r.duplicateGroups.map DuplicateGroup.toDict)) := ⟨rfl, rfl, rfl⟩
    exact ⟨PyValue.encodes_lookup encodes found.1, PyValue.encodes_lookup encodes found.2.1,
      PyValue.encodes_lookup encodes found.2.2⟩
  · intro parts
    obtain ⟨records, results, groups⟩ := parts
    apply PyValue.encodes_of ["schema_name", "schema_version", "candidate_bundle_artifact_id", "mapping_artifact_id", "records",
      "validation_results", "duplicate_groups", "blocking_issues", "validation_config_digest"] rfl (by decide +kernel)
    intro f member
    simp only [entries, List.mem_cons, List.not_mem_nil, or_false] at member
    rcases member with rfl | rfl | rfl | rfl | rfl | rfl | rfl | rfl | rfl
    all_goals
      first
        | exact records
        | exact results
        | exact groups
        | exact PyValue.encodes_str _
        | exact PyValue.encodes_texts _

end Molly
