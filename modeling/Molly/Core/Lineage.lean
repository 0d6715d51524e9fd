import Molly.Core.Ledger

/-! Artifact lineage: relations, the identities an instance knows, and the locked
append section. -/
namespace Molly

inductive RelationType where
  | consumedBy | producedBy | derivedFrom | supportedBy
  deriving DecidableEq, Repr

def RelationType.value : RelationType → String
  | .consumedBy => "CONSUMED_BY"
  | .producedBy => "PRODUCED_BY"
  | .derivedFrom => "DERIVED_FROM"
  | .supportedBy => "SUPPORTED_BY"

/-- One immutable subject/object provenance relation. -/
structure LineageRelation where
  relationType : RelationType
  subjectId : Reference
  objectId : Reference
  relationId : Identifier
  createdAt : Timestamp
  metadata : JsonObject
  previousRelationSha256 : Option Digest
  relationSha256 : Option Digest
  deriving DecidableEq

namespace LineageRelation

def toDict (r : LineageRelation) (includeDigest : Bool) : Fields :=
  [("relation_type", .str r.relationType.value), ("subject_id", .str r.subjectId.text),
    ("object_id", .str r.objectId.text), ("relation_id", .str r.relationId.text),
    ("created_at", .str r.createdAt.text), ("metadata", r.metadata.toJson),
    ("previous_relation_sha256", optionalText Digest.text r.previousRelationSha256)] ++
  if includeDigest then [("relation_sha256", optionalText Digest.text r.relationSha256)] else []

def computedSha256 [Sha256] (r : LineageRelation) : Digest := sha256Bytes (Json.obj (r.toDict false)).encode

end LineageRelation

/-- What an `ArtifactLineage` instance keeps in memory: the identities it knows, and
whether it refuses the others. -/
structure LineageMemory where
  knownIds : List Reference
  strict : Bool
  deriving DecidableEq

namespace LineageMemory

/-- A new instance over a file. -/
def fresh : LineageMemory := ⟨[], false⟩

def knows (m : LineageMemory) (subject object : Reference) : Bool :=
  !m.strict || (subject ∈ m.knownIds && object ∈ m.knownIds)

/-- `_check_known`. -/
def checkKnown (m : LineageMemory) (subject object : Reference) : Except PyError Unit :=
  if m.knows subject object then .ok ()
  else .error ⟨.lineage, "lineage relation references an unknown identity"⟩

/-- The identities of a file's relations, remembered before strict mode starts. -/
def hydrate (m : LineageMemory) (relations : List LineageRelation) : LineageMemory :=
  { m with knownIds := relations.foldl (fun known r => r.objectId :: r.subjectId :: known) m.knownIds }

def register (m : LineageMemory) (id : Reference) : LineageMemory := ⟨id :: m.knownIds, true⟩

def checkAll (m : LineageMemory) : List LineageRelation → Except PyError Unit
  | [] => .ok ()
  | r :: rs =>
    match m.checkKnown r.subjectId r.objectId with
    | .error e => .error e
    | .ok () => m.checkAll rs

/-- `_read_relations`: every relation of the file must be known. -/
def readRelations (m : LineageMemory) (relations : List LineageRelation) :
    Except PyError (List LineageRelation) := do
  m.checkAll relations
  return relations

end LineageMemory

namespace ArtifactLineage

def chain [Sha256] (existing : List LineageRelation) (candidate : LineageRelation) : LineageRelation :=
  let previous := existing.getLast?.bind (·.relationSha256)
  let prepared := { candidate with previousRelationSha256 := previous }
  { prepared with relationSha256 := some prepared.computedSha256 }

/-- The locked section of `add_relation`. -/
def append [Sha256] (memory : LineageMemory) (existing : List LineageRelation)
    (candidate : LineageRelation) : Except PyError LineageRelation := do
  let existing ← memory.readRelations existing
  if existing.any (·.relationId = candidate.relationId) then
    throw ⟨.lineage, "duplicate lineage relation ID"⟩
  return chain existing candidate

/-- Whether an existing relation states what was requested, its links aside. -/
def sameFact (existing requested : LineageRelation) : Bool :=
  existing.relationType = requested.relationType && existing.subjectId = requested.subjectId &&
    existing.objectId = requested.objectId && existing.createdAt = requested.createdAt &&
    existing.metadata.toJson.identified = requested.metadata.toJson.identified

end ArtifactLineage

/-! ### What strict reading admits -/

namespace LineageMemory

def Covers (m : LineageMemory) (relations : List LineageRelation) : Prop :=
  ∀ r ∈ relations, m.knows r.subjectId r.objectId = true

theorem checkAll_ok {m : LineageMemory} {relations : List LineageRelation} :
    m.checkAll relations = .ok () ↔ m.Covers relations := by
  induction relations with
  | nil => simp [checkAll, Covers]
  | cons r rs ih =>
    simp only [Covers] at ih
    by_cases known : m.knows r.subjectId r.objectId = true
    · simp [checkAll, checkKnown, known, Covers, ih]
    · simp [checkAll, checkKnown, known, Covers]

theorem readRelations_ok {m : LineageMemory} {relations read : List LineageRelation} :
    m.readRelations relations = .ok read ↔ m.Covers relations ∧ read = relations := by
  rw [← checkAll_ok]
  unfold readRelations
  cases checked : m.checkAll relations with
  | error e => simp [bind, Except.bind]
  | ok =>
    simp only [bind, Except.bind, pure, Except.pure, Except.ok.injEq, true_and]
    exact eq_comm

theorem mem_hydrate {m : LineageMemory} {relations : List LineageRelation} {id : Reference} :
    id ∈ (m.hydrate relations).knownIds ↔
      id ∈ m.knownIds ∨ ∃ r ∈ relations, id = r.subjectId ∨ id = r.objectId := by
  simp only [hydrate]
  induction relations generalizing m with
  | nil => simp
  | cons r rs ih =>
    have step := ih (m := ⟨r.objectId :: r.subjectId :: m.knownIds, m.strict⟩)
    simp only [List.foldl_cons, step, List.mem_cons, exists_eq_or_imp]
    grind

@[simp] theorem knows_register_self {m : LineageMemory} {id other : Reference} :
    (m.register id).knows id other = true ↔ other = id ∨ other ∈ m.knownIds := by
  simp [register, knows]

end LineageMemory

theorem lineage_append_ok [Sha256] {memory : LineageMemory} {existing : List LineageRelation}
    {candidate persisted : LineageRelation} :
    ArtifactLineage.append memory existing candidate = .ok persisted ↔
      memory.Covers existing ∧ (∀ r ∈ existing, r.relationId ≠ candidate.relationId) ∧
        persisted = ArtifactLineage.chain existing candidate := by
  unfold ArtifactLineage.append
  cases read : memory.readRelations existing with
  | error e =>
    have uncovered : ¬ memory.Covers existing := fun covers => by
      rw [LineageMemory.readRelations_ok.mpr ⟨covers, rfl⟩] at read
      contradiction
    simp [bind, Except.bind, uncovered]
  | ok relations =>
    obtain ⟨covers, rfl⟩ := LineageMemory.readRelations_ok.mp read
    by_cases taken : relations.any (·.relationId = candidate.relationId) = true
    · have : ¬ ∀ r ∈ relations, r.relationId ≠ candidate.relationId := by
        simpa using taken
      simp [bind, Except.bind, taken, this, throw, throwThe, MonadExceptOf.throw]
    · have free : ∀ r ∈ relations, r.relationId ≠ candidate.relationId := by
        simpa using taken
      simp only [bind, Except.bind, taken, Bool.false_eq_true, ↓reduceIte, pure, Except.pure,
        Except.ok.injEq, covers, true_and]
      exact ⟨fun same => ⟨free, same.symm⟩, fun both => both.2.symm⟩

end Molly
