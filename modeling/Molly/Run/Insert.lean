import Molly.Run.World
import Molly.Effect.Pair

/-! Two idempotent insertions under one identity, by two instances over one lineage file. -/
namespace Molly
open Effect

/-- A call of `add_relation_idempotent`: the instance that makes it, its arguments, and what its
clock says. -/
structure InsertCall where
  memory : LineageMemory
  relationType : RelationType
  subjectId : Reference
  objectId : Reference
  relationId : Identifier
  createdAt : Option Timestamp
  metadata : JsonObject
  now : Timestamp

namespace InsertCall

/-- `created_at or utc_timestamp()`. -/
def timestamp (c : InsertCall) : Timestamp := c.createdAt.getD c.now

/-- The relation the call asks for, its links aside. -/
def relation (c : InsertCall) : LineageRelation :=
  ⟨c.relationType, c.subjectId, c.objectId, c.relationId, c.timestamp, c.metadata, none, none⟩

def code (c : InsertCall) : Prog host (Except PyError LineageRelation × LineageMemory) :=
  ArtifactLineage.addRelationIdempotent c.relationType c.subjectId c.objectId c.relationId c.timestamp
    c.metadata.fields c.memory

/-- The instance knows the identities of the call, and all those in the file. -/
structure Ready (c : InsertCall) (file : List LineageRelation) : Prop where
  knows : c.memory.knows c.subjectId c.objectId = true
  covers : c.memory.Covers file

/-- What is left of the call when it has looked the identity up. -/
def rest (c : InsertCall) (file : List LineageRelation) : Prog host (Except PyError LineageRelation × LineageMemory) :=
  match c.memory.readRelations file with
  | .error e => .ret (.error e, c.memory)
  | .ok relations =>
    match relations.find? (·.relationId = c.relationId) with
    | some existing =>
      if ArtifactLineage.sameFact existing c.relation then .ret (.ok existing, c.memory)
      else .ret (.error ⟨.lineage, "deterministic lineage relation ID has conflicting semantics"⟩, c.memory)
    | none =>
      match c.memory.checkKnown c.subjectId c.objectId with
      | .error e => .ret (.error e, c.memory)
      | .ok () => .call (.appendRelation c.memory c.relation) fun persisted => .ret (persisted, c.memory)

theorem code_eq (c : InsertCall) : c.code = .call .readRelations c.rest := by
  unfold code ArtifactLineage.addRelationIdempotent
  rw [freezeFields_object]
  refine congrArg (Prog.call (S := host) Op.readRelations) (funext fun file => ?_)
  unfold rest
  change Prog.bind (Task.ofExcept (c.memory.readRelations file) c.memory) _ = _
  cases c.memory.readRelations file with
  | error e => rfl
  | ok relations =>
    change (match relations.find? (·.relationId = c.relationId) with
      | some existing => if ArtifactLineage.sameFact existing c.relation then pure existing else
          throw ⟨.lineage, "deterministic lineage relation ID has conflicting semantics"⟩
      | none => ArtifactLineage.addRelation c.relation : Process LineageRelation) c.memory = _
    cases found : relations.find? (·.relationId = c.relationId) with
    | some existing =>
      simp only [found]
      split <;> rfl
    | none =>
      simp only [found]
      change Prog.bind (Task.ofExcept (c.memory.checkKnown c.subjectId c.objectId) c.memory) _ = _
      cases known : c.memory.checkKnown c.subjectId c.objectId with
      | error e => rfl
      | ok =>
        simp only []
        refine congrArg (Prog.call (S := host) (Op.appendRelation c.memory c.relation)) (funext fun reply => ?_)
        cases reply <;> rfl

variable {c : InsertCall} {file : List LineageRelation} {p : LineageRelation}

/-- An identity that is free is appended. -/
theorem rest_free (ready : c.Ready file) (free : ∀ r ∈ file, r.relationId ≠ c.relationId) :
    c.rest file = .call (.appendRelation c.memory c.relation) fun persisted => .ret (persisted, c.memory) := by
  have absent : file.find? (·.relationId = c.relationId) = none := by simpa using free
  simp only [rest, LineageMemory.readRelations_ok.mpr ⟨ready.covers, rfl⟩, absent, LineageMemory.checkKnown, ready.knows,
    if_true]

/-- What a call comes to that finds a relation under its identity. -/
def Finds (c : InsertCall) (p : LineageRelation) (reply : Except PyError LineageRelation) : Prop :=
  (ArtifactLineage.sameFact p c.relation = true → reply = .ok p) ∧
    (ArtifactLineage.sameFact p c.relation = false → ∃ e, reply = .error e)

theorem rest_taken (ready : c.Ready file) (free : ∀ r ∈ file, r.relationId ≠ c.relationId)
    (taken : p.relationId = c.relationId) : ∃ reply, c.rest (file ++ [p]) = .ret (reply, c.memory) ∧ c.Finds p reply := by
  have found : (file ++ [p]).find? (·.relationId = c.relationId) = some p := by
    have absent : file.find? (·.relationId = c.relationId) = none := by simpa using free
    rw [List.find?_append, absent]
    simp [taken]
  cases read : c.memory.readRelations (file ++ [p]) with
  | error e =>
    refine ⟨.error e, by simp only [rest, read], fun same => ?_, fun _ => ⟨e, rfl⟩⟩
    have covers : c.memory.Covers (file ++ [p]) := by
      intro r member
      rcases List.mem_append.mp member with member | member
      · exact ready.covers r member
      · obtain rfl : r = p := by simpa using member
        simp only [ArtifactLineage.sameFact, Bool.and_eq_true, decide_eq_true_eq, and_assoc] at same
        obtain ⟨_, subject, object, _⟩ := same
        rw [subject, object]
        exact ready.knows
    rw [LineageMemory.readRelations_ok.mpr ⟨covers, rfl⟩] at read
    cases read
  | ok relations =>
    obtain ⟨_, rfl⟩ := LineageMemory.readRelations_ok.mp read
    by_cases same : ArtifactLineage.sameFact p c.relation = true
    · exact ⟨.ok p, by simp only [rest, read, found, same, if_true], fun _ => rfl, fun other => by simp [same] at other⟩
    · exact ⟨.error _, by simp only [rest, read, found, if_neg same]; rfl, fun also => absurd also same, fun _ => ⟨_, rfl⟩⟩

variable [Sha256]

/-- The relation that a call persists. -/
def persisted (c : InsertCall) (file : List LineageRelation) : LineageRelation := ArtifactLineage.chain file c.relation

theorem append_free (ready : c.Ready file) (free : ∀ r ∈ file, r.relationId ≠ c.relationId) :
    ArtifactLineage.append c.memory file c.relation = .ok (c.persisted file) :=
  lineage_append_ok.mpr ⟨ready.covers, free, rfl⟩

theorem append_taken (taken : p.relationId = c.relationId) :
    ∃ e, ArtifactLineage.append c.memory (file ++ [p]) c.relation = .error e := by
  cases appended : ArtifactLineage.append c.memory (file ++ [p]) c.relation with
  | error e => exact ⟨e, rfl⟩
  | ok r =>
    obtain ⟨_, free, _⟩ := lineage_append_ok.mp appended
    exact absurd taken (free p (by simp))

/-- The world after the call has appended its relation. -/
def after (c : InsertCall) (w : World) : World := { w with lineage := w.lineage ++ [c.persisted w.lineage] }

/-! #### One step of a call on the left -/

variable {w t : World} {q : Prog host (Except PyError LineageRelation × LineageMemory)} {moves : List (Side × host.Op)}
  {ra rb : Except PyError LineageRelation × LineageMemory}

theorem looks (both : Both World.machine (c.rest w.lineage) q w moves ra rb t) :
    Both World.machine c.code q w ((.left, .readRelations) :: moves) ra rb t := by
  rw [code_eq]
  exact .left ⟨rfl, rfl⟩ both

theorem adds (ready : c.Ready w.lineage) (free : ∀ r ∈ w.lineage, r.relationId ≠ c.relationId)
    (both : Both World.machine (.ret (.ok (c.persisted w.lineage), c.memory)) q (c.after w) moves ra rb t) :
    Both World.machine (c.rest w.lineage) q w ((.left, .appendRelation c.memory c.relation) :: moves) ra rb t := by
  rw [rest_free ready free]
  have acted : World.machine.act (.appendRelation c.memory c.relation) w (.ok (c.persisted w.lineage)) (c.after w) := by
    rw [← append_free ready free]
    exact ⟨rfl, by rw [append_free ready free]; rfl⟩
  exact .left acted both

/-- The append of a call that looked before the file grew by a relation of its identity. -/
theorem refuses (ready : c.Ready file) (free : ∀ r ∈ file, r.relationId ≠ c.relationId)
    (refused : ArtifactLineage.append c.memory w.lineage c.relation = .error e) :
    Both World.machine (c.rest file) (.ret ra) w [(.left, .appendRelation c.memory c.relation)] (.error e, c.memory) ra w := by
  rw [rest_free ready free]
  have acted : World.machine.act (.appendRelation c.memory c.relation) w (.error e) w := by
    rw [← refused]
    exact ⟨rfl, by rw [refused]; simp [appended]⟩
  exact .left acted .done

end InsertCall

def Op.appends : Op → Bool
  | .appendRelation _ _ => true
  | _ => false

/-- Both calls look the identity up before either of them appends. -/
def Overlap (moves : List (Side × host.Op)) : Prop :=
  ∀ side, (side, Op.readRelations) ∈ moves.takeWhile fun move => !Op.appends move.2

/-- The call appends its relation, and nothing else is appended. -/
def InsertCall.Wins [Sha256] (c : InsertCall) (w : World) (reply : Except PyError LineageRelation) (t : World) : Prop :=
  reply = .ok (c.persisted w.lineage) ∧ t.lineage = w.lineage ++ [c.persisted w.lineage]

section
variable [Sha256] {a b : InsertCall} {w t : World} {moves : List (Side × host.Op)}
  {ra rb : Except PyError LineageRelation × LineageMemory}

/-- The two ends that a run of two calls can have: one call appends and the other finds its
relation, or both looked first and the later append is refused. -/
inductive Ended (a b : InsertCall) (w : World) (overlap : Prop) (ra rb : Except PyError LineageRelation) (t : World) : Prop
  | found : ¬ overlap → a.Wins w ra t → b.Finds (a.persisted w.lineage) rb → Ended a b w overlap ra rb t
  | refused : overlap → a.Wins w ra t → rb = .error e → Ended a b w overlap ra rb t

theorem ended_left (named : a.relationId = b.relationId) (readyA : a.Ready w.lineage) (readyB : b.Ready w.lineage)
    (free : ∀ r ∈ w.lineage, r.relationId ≠ a.relationId)
    (both : Both World.machine (a.rest w.lineage) b.code w moves ra rb t) :
    Ended a b w (Overlap ((.left, .readRelations) :: moves)) ra.1 rb.1 t ∨
      Ended b a w (Overlap ((.left, .readRelations) :: moves)) rb.1 ra.1 t := by
  have free' : ∀ r ∈ w.lineage, r.relationId ≠ b.relationId := named ▸ free
  rw [InsertCall.rest_free readyA free, InsertCall.code_eq] at both
  cases both with
  | left acted both =>
    obtain ⟨rfl, rfl⟩ := acted
    rw [InsertCall.append_free readyA free] at both
    cases both with
    | right acted both =>
      obtain ⟨rfl, rfl⟩ := acted
      have taken : (a.persisted w.lineage).relationId = b.relationId := named
      obtain ⟨reply, returned, finds⟩ := InsertCall.rest_taken readyB free' taken
      simp only [appended] at both
      rw [returned] at both
      cases both
      refine Or.inl (.found ?_ ⟨rfl, rfl⟩ finds)
      intro overlap
      have looked : (Side.right, Op.readRelations) ∈ [(Side.left, Op.readRelations)] := overlap .right
      cases looked with
      | tail _ none => cases none
  | right acted both =>
    obtain ⟨rfl, rfl⟩ := acted
    have overlap (rest : List (Side × host.Op)) :
        Overlap ((.left, .readRelations) :: (.right, .readRelations) :: rest) := by
      intro side
      cases side with
      | left => exact List.mem_cons_self
      | right => exact List.mem_cons_of_mem _ List.mem_cons_self
    rw [InsertCall.rest_free readyB free'] at both
    cases both with
    | left acted both =>
      obtain ⟨rfl, rfl⟩ := acted
      rw [InsertCall.append_free readyA free] at both
      cases both with
      | right acted both =>
        obtain ⟨rfl, rfl⟩ := acted
        obtain ⟨e, refused⟩ := InsertCall.append_taken (c := b) (p := a.persisted _) named
        simp only [appended] at both
        rw [refused] at both
        cases both
        exact Or.inl (.refused (overlap _) ⟨rfl, by simp⟩ rfl)
    | right acted both =>
      obtain ⟨rfl, rfl⟩ := acted
      rw [InsertCall.append_free readyB free'] at both
      cases both with
      | left acted both =>
        obtain ⟨rfl, rfl⟩ := acted
        obtain ⟨e, refused⟩ := InsertCall.append_taken (c := a) (p := b.persisted _) named.symm
        simp only [appended] at both
        rw [refused] at both
        cases both
        exact Or.inr (.refused (overlap _) ⟨rfl, by simp⟩ rfl)

omit [Sha256] in
theorem Overlap.swap (moves : List (Side × host.Op)) : Overlap (moves.map fun move => (move.1.other, move.2)) ↔ Overlap moves := by
  have mapped : (moves.map fun move => (move.1.other, move.2)).takeWhile (fun move => !Op.appends move.2) =
      (moves.takeWhile fun move => !Op.appends move.2).map fun move => (move.1.other, move.2) := by
    rw [List.takeWhile_map]
    rfl
  unfold Overlap
  rw [mapped]
  constructor
  · intro both side
    obtain ⟨⟨found, op⟩, member, same⟩ := List.mem_map.mp (both side.other)
    cases side <;> cases found <;> cases same <;> exact member
  · intro both side
    cases side
    · exact List.mem_map.mpr ⟨_, both .right, rfl⟩
    · exact List.mem_map.mpr ⟨_, both .left, rfl⟩

omit [Sha256] in
theorem overlap_turned : Overlap ((.left, .readRelations) :: moves.map fun move => (move.1.other, move.2)) ↔
    Overlap ((.right, .readRelations) :: moves) := Overlap.swap ((.right, .readRelations) :: moves)

theorem ended (named : a.relationId = b.relationId) (readyA : a.Ready w.lineage) (readyB : b.Ready w.lineage)
    (free : ∀ r ∈ w.lineage, r.relationId ≠ a.relationId) (both : Both World.machine a.code b.code w moves ra rb t) :
    Ended a b w (Overlap moves) ra.1 rb.1 t ∨ Ended b a w (Overlap moves) rb.1 ra.1 t := by
  rw [InsertCall.code_eq a, InsertCall.code_eq b] at both
  cases both with
  | left acted rest =>
    obtain ⟨rfl, rfl⟩ := acted
    rw [← InsertCall.code_eq b] at rest
    exact ended_left named readyA readyB free rest
  | right acted rest =>
    obtain ⟨rfl, rfl⟩ := acted
    rw [← InsertCall.code_eq a] at rest
    have turned := ended_left named.symm readyB readyA (named ▸ free) rest.swap
    rw [overlap_turned] at turned
    exact turned.symm

omit [Sha256] in
theorem sameFact_comm (r s : LineageRelation) : ArtifactLineage.sameFact r s = ArtifactLineage.sameFact s r := by
  simp only [ArtifactLineage.sameFact, eq_comm]

/-- Of one fact, both calls return the relation that one of them appended; of two facts, one call
succeeds and the other raises. -/
def FactOnce (a b : InsertCall) (w : World) (ra rb : Except PyError LineageRelation) (t : World) : Prop :=
  (ArtifactLineage.sameFact a.relation b.relation = true →
    ∃ r, ra = .ok r ∧ rb = .ok r ∧ t.lineage = w.lineage ++ [r]) ∧
  (ArtifactLineage.sameFact a.relation b.relation = false →
    (∃ r e, ra = .ok r ∧ rb = .error e) ∨ ∃ e r, ra = .error e ∧ rb = .ok r)

theorem factOnce_iff (named : a.relationId = b.relationId) (readyA : a.Ready w.lineage) (readyB : b.Ready w.lineage)
    (free : ∀ r ∈ w.lineage, r.relationId ≠ a.relationId) (both : Both World.machine a.code b.code w moves ra rb t) :
    FactOnce a b w ra.1 rb.1 t ↔ (ArtifactLineage.sameFact a.relation b.relation = true → ¬ Overlap moves) := by
  have comm := sameFact_comm a.relation b.relation
  have finds {c d : InsertCall} {reply : Except PyError LineageRelation} (found : d.Finds (c.persisted w.lineage) reply) :
      (ArtifactLineage.sameFact c.relation d.relation = true → reply = .ok (c.persisted w.lineage)) ∧
        (ArtifactLineage.sameFact c.relation d.relation = false → ∃ e, reply = .error e) := found
  rcases ended named readyA readyB free both with ended | ended
  · cases ended with
    | found apart wins found =>
      obtain ⟨same, other⟩ := finds found
      refine iff_of_true ⟨fun equal => ⟨_, wins.1, same equal, wins.2⟩, fun different => Or.inl ?_⟩ fun _ => apart
      obtain ⟨e, refused⟩ := other different
      exact ⟨_, e, wins.1, refused⟩
    | @refused e overlap wins refused =>
      constructor
      · rintro ⟨one, _⟩ equal
        obtain ⟨r, _, returned, _⟩ := one equal
        cases returned.symm.trans refused
      · intro apart
        refine ⟨fun equal => absurd overlap (apart equal), fun _ => Or.inl ⟨_, e, wins.1, refused⟩⟩
  · cases ended with
    | found apart wins found =>
      obtain ⟨same, other⟩ := finds found
      rw [← comm] at same other
      refine iff_of_true ⟨fun equal => ⟨_, same equal, wins.1, wins.2⟩, fun different => Or.inr ?_⟩ fun _ => apart
      obtain ⟨e, refused⟩ := other different
      exact ⟨e, _, refused, wins.1⟩
    | @refused e overlap wins refused =>
      constructor
      · rintro ⟨one, _⟩ equal
        obtain ⟨r, returned, _⟩ := one equal
        cases returned.symm.trans refused
      · intro apart
        refine ⟨fun equal => absurd overlap (apart equal), fun _ => Or.inr ⟨e, _, refused, wins.1⟩⟩

/-- The two calls have the same arguments; a `created_at` that both leave out is the same argument. -/
def SameArguments (a b : InsertCall) : Prop :=
  a.relationType = b.relationType ∧ a.subjectId = b.subjectId ∧ a.objectId = b.objectId ∧ a.createdAt = b.createdAt ∧
    a.metadata.toJson.identified = b.metadata.toJson.identified

/-- What an idempotent insertion promises of two calls: with the same arguments, both return the
relation that one of them appended; with another type, subject, object, timestamp or metadata, one
succeeds and the other raises. -/
def InsertedOnce (a b : InsertCall) (w : World) (ra rb : Except PyError LineageRelation) (t : World) : Prop :=
  (SameArguments a b → ∃ r, ra = .ok r ∧ rb = .ok r ∧ t.lineage = w.lineage ++ [r]) ∧
  (ArtifactLineage.sameFact a.relation b.relation = false →
    (∃ r e, ra = .ok r ∧ rb = .error e) ∨ ∃ e r, ra = .error e ∧ rb = .ok r)

omit [Sha256] in
theorem sameFact_arguments (same : SameArguments a b) :
    ArtifactLineage.sameFact a.relation b.relation = decide (a.timestamp = b.timestamp) := by
  obtain ⟨type, subject, object, _, metadata⟩ := same
  simp [ArtifactLineage.sameFact, InsertCall.relation, type, subject, object, metadata]

/-- Two insertions under one free identity, interleaved in any way: they end as promised exactly
when calls with the same arguments have the same timestamp and do not both look the identity up
before either appends. -/
theorem insert_idempotent (named : a.relationId = b.relationId) (readyA : a.Ready w.lineage) (readyB : b.Ready w.lineage)
    (free : ∀ r ∈ w.lineage, r.relationId ≠ a.relationId) (both : Both World.machine a.code b.code w moves ra rb t) :
    InsertedOnce a b w ra.1 rb.1 t ↔ (SameArguments a b → a.timestamp = b.timestamp ∧ ¬ Overlap moves) := by
  have facts := factOnce_iff named readyA readyB free both
  constructor
  · rintro ⟨once, differ⟩ same
    obtain ⟨r, left, right, grown⟩ := once same
    have stamps : a.timestamp = b.timestamp := by
      by_contra later
      rcases differ (by simp [sameFact_arguments same, later]) with ⟨_, e, _, refused⟩ | ⟨e, _, refused, _⟩
      · cases right.symm.trans refused
      · cases left.symm.trans refused
    have equal : ArtifactLineage.sameFact a.relation b.relation = true := by simp [sameFact_arguments same, stamps]
    have fact : FactOnce a b w ra.1 rb.1 t := ⟨fun _ => ⟨r, left, right, grown⟩, differ⟩
    exact ⟨stamps, facts.mp fact equal⟩
  · intro apart
    by_cases same : SameArguments a b
    · obtain ⟨stamps, apart⟩ := apart same
      obtain ⟨once, differ⟩ := facts.mpr fun _ => apart
      exact ⟨fun _ => once (by simp [sameFact_arguments same, stamps]), differ⟩
    · refine ⟨fun also => absurd also same, fun different => ?_⟩
      have fact : FactOnce a b w ra.1 rb.1 t := facts.mpr fun equal => by simp [different] at equal
      exact fact.2 different

end

/-! ### Two calls that race -/

namespace Sample
attribute [local instance] standardSha256

def insertion : InsertCall :=
  ⟨.fresh, .derivedFrom, (word "a").reference, (word "b").reference, word "rel_1", some ⟨2026, 1, 3, 12, 0, 0, 0, by decide⟩,
    .empty, ⟨2026, 1, 3, 12, 0, 0, 0, by decide⟩⟩

def bare : World := ⟨[], [], fun _ => none, fun _ => none, []⟩

theorem insertion_ready : insertion.Ready bare.lineage := ⟨rfl, fun _ absent => by cases absent⟩

/-- One call after the other. -/
theorem insert_idempotent_apart : ∃ moves ra rb t, Both World.machine insertion.code insertion.code bare moves ra rb t ∧
    (InsertedOnce insertion insertion bare ra.1 rb.1 t ↔
      (SameArguments insertion insertion → insertion.timestamp = insertion.timestamp ∧ ¬ Overlap moves)) := by
  have free : ∀ r ∈ bare.lineage, r.relationId ≠ insertion.relationId := fun _ absent => by cases absent
  obtain ⟨reply, returned, _⟩ := InsertCall.rest_taken (p := insertion.persisted bare.lineage) insertion_ready free rfl
  let first : Except PyError LineageRelation × LineageMemory := (.ok (insertion.persisted bare.lineage), insertion.memory)
  have second : Both World.machine (insertion.rest (insertion.after bare).lineage) (.ret first) (insertion.after bare) []
      (reply, insertion.memory) first (insertion.after bare) := by
    rw [InsertCall.after, returned]
    exact .done
  have both := InsertCall.looks (InsertCall.adds insertion_ready free (InsertCall.looks second).swap)
  exact ⟨_, _, _, _, both, insert_idempotent rfl insertion_ready insertion_ready free both⟩

/-- Both calls look first: the second append is refused as a duplicate. -/
theorem insert_idempotent_fails : ¬ ∀ (a b : InsertCall) (w t : World) (moves : List (Side × host.Op)) ra rb,
    a.relationId = b.relationId → a.Ready w.lineage → b.Ready w.lineage →
    (∀ r ∈ w.lineage, r.relationId ≠ a.relationId) → Both World.machine a.code b.code w moves ra rb t →
    InsertedOnce a b w ra.1 rb.1 t := by
  intro once
  have free : ∀ r ∈ bare.lineage, r.relationId ≠ insertion.relationId := fun _ absent => by cases absent
  obtain ⟨e, refused⟩ := @InsertCall.append_taken insertion bare.lineage
    (insertion.persisted bare.lineage) _ rfl
  have both := InsertCall.looks (InsertCall.looks (InsertCall.adds insertion_ready free
    (InsertCall.refuses (w := insertion.after bare) insertion_ready free refused).swap)).swap
  obtain ⟨same, _⟩ := once _ _ _ _ _ _ _ rfl insertion_ready insertion_ready free both
  obtain ⟨r, returned, other, _⟩ := same ⟨rfl, rfl, rfl, rfl, rfl⟩
  cases other
  cases returned

end Sample
end Molly
