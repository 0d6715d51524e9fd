import Molly.Run.Custody

/-! Projecting and reconciling successes: what the lineage operations read and append. -/
namespace Molly
open Effect AgentLoop

section
variable [Sha256]
variable {request : RunRequest} {D : Discipline host World} {w : World} {memory : LineageMemory} {e : LedgerEvent}

theorem custody_reading (holds : Custody request w) : Reading (custody request) w := by
  refine ⟨id, ?_, holds⟩
  intro op reads
  cases op <;> trivial

/-! ### Identities -/

/-- A memory that covers the file and knows more than another. -/
structure Learned (w : World) (memory : LineageMemory) (ids : List Reference) (m : LineageMemory) : Prop where
  covers : m.Covers w.lineage
  strict : m.strict = true
  kept : memory.knownIds ⊆ m.knownIds
  learned : ids ⊆ m.knownIds

omit [Sha256] in
theorem Learned.knows {ids : List Reference} {m : LineageMemory} {subject object : Reference}
    (learned : Learned w memory ids m) (left : subject ∈ ids) (right : object ∈ ids) : m.knows subject object = true := by
  simp [LineageMemory.knows, learned.learned left, learned.learned right]

omit [Sha256] in
theorem LineageMemory.Covers.register {relations : List LineageRelation} (covers : memory.Covers relations)
    (strict : memory.strict = true) (id : Reference) : (memory.register id).Covers relations := by
  intro r member
  have known := covers r member
  simp only [LineageMemory.knows, strict, Bool.not_true, Bool.false_or, Bool.and_eq_true, decide_eq_true_eq] at known
  simp [LineageMemory.knows, LineageMemory.register, known]

omit [Sha256] in
/-- The first registration remembers what the file holds. -/
theorem LineageMemory.covers_hydrate (memory : LineageMemory) (relations : List LineageRelation) (id : Reference) :
    ((memory.hydrate relations).register id).Covers relations := by
  intro r member
  have subject : r.subjectId ∈ (memory.hydrate relations).knownIds :=
    LineageMemory.mem_hydrate.mpr (Or.inr ⟨r, member, Or.inl rfl⟩)
  have object : r.objectId ∈ (memory.hydrate relations).knownIds :=
    LineageMemory.mem_hydrate.mpr (Or.inr ⟨r, member, Or.inr rfl⟩)
  simp [LineageMemory.knows, LineageMemory.register, subject, object]

theorem Reading.registerIdentity (reading : Reading D w) (covers : memory.Covers w.lineage) (id : Reference) :
    D.Runs (fun _ m t => t = w ∧ Learned w memory [id] m) (fun _ _ _ => False)
      (ArtifactLineage.registerIdentity id) memory w := by
  apply Discipline.runs_bind
  apply Discipline.runs_bind
  rw [Discipline.runs_memory]
  by_cases strict : memory.strict = true
  · simp only [strict, ↓reduceIte]
    refine ⟨rfl, covers.register strict id, rfl, ?_, ?_⟩
    · exact List.subset_cons_self _ _
    · simp [LineageMemory.register]
  · simp only [strict, Bool.false_eq_true, ↓reduceIte]
    apply Discipline.runs_bind
    refine reading.ask (by trivial) ?_
    rintro relations ⟨rfl, -⟩
    refine ⟨rfl, memory.covers_hydrate w.lineage id, rfl, ?_, ?_⟩
    · intro other known
      exact List.mem_cons_of_mem _ (LineageMemory.mem_hydrate.mpr (Or.inl known))
    · simp [LineageMemory.register]

theorem Reading.registerArtifacts (reading : Reading D w) : ∀ {ids : List ArtifactId} {memory : LineageMemory},
    memory.Covers w.lineage → memory.strict = true →
    D.Runs (fun _ m t => t = w ∧ Learned w memory (ids.map ArtifactId.reference) m)
      (fun _ m t => t = w ∧ m.Covers w.lineage ∧ ∃ id ∈ ids, ¬ w.Stored id) (registerArtifacts ids) memory w := by
  intro ids
  induction ids with
  | nil =>
    intro memory covers strict
    exact ⟨rfl, covers, strict, List.Subset.refl _, List.nil_subset _⟩
  | cons id ids ih =>
    intro memory covers strict
    apply Discipline.runs_bind
    apply Discipline.runs_tryCatch
    apply Discipline.runs_bind
    refine Discipline.runs_mono _ (reading.verify id) ?_ ?_
    · rintro record _ _ ⟨⟨rfl, rfl⟩, -⟩
      apply Discipline.runs_bind
      refine Discipline.runs_mono _ (reading.registerIdentity covers id.reference) ?_ fun _ _ _ impossible => impossible.elim
      rintro _ m _ ⟨rfl, here⟩
      refine Discipline.runs_mono _ (ih here.covers here.strict) ?_ ?_
      · rintro _ n _ ⟨rfl, rest⟩
        refine ⟨rfl, rest.covers, rest.strict, fun _ known => rest.kept (here.kept known), ?_⟩
        rintro other member
        rcases List.mem_cons.mp member with rfl | member
        · exact rest.kept (here.learned (List.mem_singleton_self _))
        · exact rest.learned member
      · rintro error m _ ⟨rfl, covers, other, member, unstored⟩
        exact ⟨rfl, covers, other, List.mem_cons_of_mem _ member, unstored⟩
    · rintro error _ _ ⟨⟨rfl, rfl⟩, unstored⟩
      exact ⟨rfl, covers, id, List.mem_cons_self, unstored⟩

/-! ### Facts -/

theorem Reading.relations (reading : Reading D w) (covers : memory.Covers w.lineage) :
    D.Runs (fun relations m t => Unmoved w memory m t ∧ relations = w.lineage) (fun _ _ _ => False)
      ArtifactLineage.relations memory w := by
  apply Discipline.runs_bind
  rw [Discipline.runs_memory]
  apply Discipline.runs_bind
  refine reading.ask (by trivial) ?_
  rintro file ⟨rfl, -⟩
  rw [LineageMemory.readRelations_ok.mpr ⟨covers, rfl⟩]
  exact ⟨⟨rfl, rfl⟩, rfl⟩

/-- Adding one fact: it is found, or appended, or its identifier is taken by another. -/
theorem Reading.addFact (reading : Reading D w) (covers : memory.Covers w.lineage) {callId : String} {fact : Fact}
    {ensures : Unit → LineageMemory → World → Prop} {raises : PyError → LineageMemory → World → Prop}
    (named : e.metadataCallId = some callId) (known : memory.knows fact.2.1 fact.2.2 = true)
    (found : ∀ r ∈ w.lineage, Expresses e r fact → ensures () memory w)
    (taken : ∀ r ∈ w.lineage, r.relationId = executionRelationId e.eventId fact.1 fact.2.1 fact.2.2 →
      ¬ Expresses e r fact → ∀ error, raises error memory w)
    (added : (∀ r ∈ w.lineage, r.relationId ≠ executionRelationId e.eventId fact.1 fact.2.1 fact.2.2) →
      D.may (.appendRelation memory (factRelation e callId fact)) w ∧ ∀ persisted,
        ArtifactLineage.append memory w.lineage (factRelation e callId fact) = .ok persisted →
        Expresses e persisted fact → D.inv { w with lineage := w.lineage ++ [persisted] } ∧
          ensures () memory { w with lineage := w.lineage ++ [persisted] }) :
    D.Runs ensures raises (addFact e callId fact) memory w := by
  apply Discipline.runs_tryCatch
  apply Discipline.runs_bind
  unfold ArtifactLineage.addRelationIdempotent
  simp only [freezeFields_factMetadata]
  apply Discipline.runs_bind
  refine (Discipline.runs_ofExcept _).mpr ⟨fun metadata same => ?_, fun _ impossible => by contradiction⟩
  obtain rfl : factObject e callId = metadata := Except.ok.inj same
  apply Discipline.runs_bind
  refine Discipline.runs_mono _ (reading.relations covers) ?_ fun _ _ _ impossible => impossible.elim
  rintro relations m t ⟨⟨same, kept⟩, rfl⟩
  subst t m
  split
  · rename_i existing located
    have member := List.mem_of_find?_eq_some located
    have identified : existing.relationId = executionRelationId e.eventId fact.1 fact.2.1 fact.2.2 := by
      simpa using List.find?_some located
    have states : ArtifactLineage.sameFact existing (factRelation e callId fact) = true ↔
        Expresses e existing fact := by
      rw [sameFact_iff (by exact identified)]
      refine ⟨fun same => ⟨callId, named, same⟩, ?_⟩
      rintro ⟨other, known, same⟩
      rw [named, Option.some.injEq] at known
      rw [known]
      exact same
    change Discipline.Runs _ _ _ (if ArtifactLineage.sameFact existing (factRelation e callId fact) = true then _ else _) _ _
    by_cases same : ArtifactLineage.sameFact existing (factRelation e callId fact) = true
    · rw [if_pos same]
      exact found existing member (states.mp same)
    · rw [if_neg same]
      have other : ¬ Expresses e existing fact := fun expresses => same (states.mpr expresses)
      rw [Discipline.runs_throw]
      split <;> exact taken existing member identified other _
  · rename_i absent
    have free : ∀ r ∈ w.lineage, r.relationId ≠ executionRelationId e.eventId fact.1 fact.2.1 fact.2.2 := by
      simpa using absent
    obtain ⟨may, kept⟩ := added free
    apply Discipline.runs_bind
    rw [Discipline.runs_memory]
    apply Discipline.runs_bind
    refine (Discipline.runs_ofExcept _).mpr ⟨fun _ _ => ?_, fun error refused => ?_⟩
    · apply Discipline.runs_bind
      apply Discipline.runs_ask _ may
      intro reply t acted
      obtain ⟨rfl, rfl⟩ := reading.act acted
      have written : ArtifactLineage.append memory w.lineage (factRelation e callId fact) =
          .ok (ArtifactLineage.chain w.lineage (factRelation e callId fact)) :=
        lineage_append_ok.mpr ⟨covers, free, rfl⟩
      have states : Expresses e (ArtifactLineage.chain w.lineage (factRelation e callId fact)) fact :=
        ⟨callId, named, rfl⟩
      obtain ⟨holds, done⟩ := kept _ written states
      rw [written]
      exact ⟨holds, done⟩
    · simp [LineageMemory.checkKnown, known] at refused

/-! ### One success -/

/-- A success event that can be projected from a world. -/
structure Projectable (w : World) (e : LedgerEvent) : Prop where
  success : e.eventType = .toolExecutionSucceeded
  valid : ∃ read, validatedSuccessResultData e = .ok read
  step : e.stepId.isSome = true
  call : e.metadataCallId.isSome = true
  stored : ∀ id ∈ e.artifacts, w.Stored id

omit [Sha256] in
/-- The facts of an event relate its artifacts and its step. -/
theorem executionFacts_known {stepId : Identifier} {fact : Fact} (member : fact ∈ executionFacts e stepId) :
    fact.2.1 ∈ e.artifacts.map ArtifactId.reference ∧
      fact.2.2 ∈ stepId.reference :: e.artifacts.map ArtifactId.reference := by
  simp only [executionFacts, List.mem_append, List.mem_flatMap, List.mem_cons, List.mem_map] at member
  rcases member with ⟨output, there, rfl | ⟨input, here, rfl⟩⟩ | ⟨input, here, rfl⟩
  · simp only [LedgerEvent.artifacts, List.map_append, List.mem_append, List.mem_map, List.mem_cons, true_or, and_true]
    exact Or.inr ⟨output, there, rfl⟩
  · simp only [LedgerEvent.artifacts, List.map_append, List.mem_append, List.mem_map, List.mem_cons]
    exact ⟨Or.inr ⟨output, there, rfl⟩, Or.inr (Or.inl ⟨input, here, rfl⟩)⟩
  · simp only [LedgerEvent.artifacts, List.map_append, List.mem_append, List.mem_map, List.mem_cons, true_or, and_true]
    exact Or.inl ⟨input, here, rfl⟩

/-- Projecting a success: its checks, its identities, then its facts. -/
theorem Reading.projectSuccess (reading : Reading D w) (covers : memory.Covers w.lineage)
    {ensures : Unit → LineageMemory → World → Prop} {raises : PyError → LineageMemory → World → Prop}
    (refused : ¬ Projectable w e → ∀ error m, m.Covers w.lineage → raises error m w)
    (facts : ∀ callId m, e.metadataCallId = some callId → m.Covers w.lineage →
      (∀ fact ∈ factsOf e, m.knows fact.2.1 fact.2.2 = true) →
      D.Runs ensures raises (addFacts e callId (factsOf e)) m w) :
    D.Runs ensures raises (projectSuccess e) memory w := by
  unfold AgentLoop.projectSuccess
  split
  · rename_i other
    exact refused (fun able => other able.success) _ _ covers
  · apply Discipline.runs_bind
    refine (Discipline.runs_ofExcept _).mpr ⟨fun read valid => ?_, fun error invalid => ?_⟩
    · split
      · rename_i missing
        exact refused (fun able => by simpa [missing] using able.step) _ _ covers
      · rename_i missing
        exact refused (fun able => by simpa [missing] using able.call) _ _ covers
      · rename_i stepId callId step call
        have stated : factsOf e = executionFacts e stepId := by simp [factsOf, step]
        apply Discipline.runs_bind
        refine Discipline.runs_mono _ (reading.registerIdentity covers stepId.reference) ?_
          fun _ _ _ impossible => impossible.elim
        rintro _ m t ⟨same, first⟩
        subst t
        apply Discipline.runs_bind
        refine Discipline.runs_mono _ (reading.registerArtifacts first.covers first.strict) ?_ ?_
        · rintro _ n t ⟨same, rest⟩
          subst t
          rw [← stated]
          apply facts callId n call rest.covers
          intro fact member
          rw [stated] at member
          obtain ⟨subject, object⟩ := executionFacts_known member
          have known : stepId.reference :: e.artifacts.map ArtifactId.reference ⊆ n.knownIds := by
            apply List.cons_subset.mpr
            exact ⟨rest.kept (first.learned (List.mem_singleton_self _)), rest.learned⟩
          simp [LineageMemory.knows, known (List.mem_cons_of_mem _ subject), known object]
        · rintro error n t ⟨same, covers, id, member, unstored⟩
          subst t
          exact refused (fun able => unstored (able.stored id member)) _ _ covers
    · refine refused (fun able => ?_) _ _ covers
      obtain ⟨read, valid⟩ := able.valid
      rw [valid] at invalid
      contradiction

/-! ### Successes that are projected already -/

/-- What is recorded is found again, and nothing is added. -/
theorem Reading.addFacts_again (reading : Reading D w) (unique : (w.lineage.map (·.relationId)).Nodup)
    (covers : memory.Covers w.lineage) {callId : String} (named : e.metadataCallId = some callId) :
    ∀ {facts : List Fact}, (∀ fact ∈ facts, memory.knows fact.2.1 fact.2.2 = true) →
      (∀ fact ∈ facts, ∃ r ∈ w.lineage, Expresses e r fact) →
      D.Runs (fun _ m t => Unmoved w memory m t) (fun _ _ _ => False) (addFacts e callId facts) memory w := by
  intro facts
  induction facts with
  | nil => exact fun _ _ => ⟨rfl, rfl⟩
  | cons fact facts ih =>
    intro known recorded
    obtain ⟨r, there, expresses⟩ := recorded fact List.mem_cons_self
    apply Discipline.runs_bind
    apply reading.addFact covers named (known fact List.mem_cons_self)
    · intro _ _ _
      exact ih (fun other member => known other (List.mem_cons_of_mem _ member))
        (fun other member => recorded other (List.mem_cons_of_mem _ member))
    · intro other here identified different error
      have same : other = r :=
        List.inj_on_of_nodup_map unique here there (identified.trans expresses.relationId.symm)
      exact different (same ▸ expresses)
    · intro free
      exact absurd expresses.relationId (free r there)

theorem Reading.reconcile_again (reading : Reading D w) (unique : (w.lineage.map (·.relationId)).Nodup) :
    ∀ {events : List LedgerEvent} {memory : LineageMemory}, memory.Covers w.lineage →
      (∀ e ∈ events, e.eventType = .toolExecutionSucceeded → Projectable w e ∧ Projected w.lineage e) →
      D.Runs (fun _ m t => t = w ∧ m.Covers w.lineage) (fun _ _ _ => False)
        (reconcileSuccessLineage events) memory w := by
  intro events
  induction events with
  | nil => exact fun covers _ => ⟨rfl, covers⟩
  | cons e events ih =>
    intro memory covers projected
    have rest := fun other member => projected other (List.mem_cons_of_mem _ member)
    unfold reconcileSuccessLineage
    split
    · rename_i success
      obtain ⟨able, recorded⟩ := projected e List.mem_cons_self success
      apply Discipline.runs_bind
      apply reading.projectSuccess covers (fun refused => absurd able refused)
      intro callId m named covers known
      refine Discipline.runs_mono _ (reading.addFacts_again unique covers named known recorded) ?_
        fun _ _ _ impossible => impossible
      rintro _ n t ⟨same, kept⟩
      subst t n
      exact ih covers rest
    · exact ih covers rest

/-! ### Successes under the discipline -/

/-- The lineage and the store have grown; the ledger is as it was. -/
structure Extends (w t : World) : Prop where
  ledger : t.ledger = w.ledger
  lineage : w.lineage ⊆ t.lineage
  grows : w.Grows t

omit [Sha256] in
theorem Extends.refl (w : World) : Extends w w := ⟨rfl, List.Subset.refl _, .refl w⟩

omit [Sha256] in
theorem Extends.trans {w t u : World} (first : Extends w t) (second : Extends t u) : Extends w u :=
  ⟨second.ledger.trans first.ledger, List.Subset.trans first.lineage second.lineage, first.grows.trans second.grows⟩

theorem addFacts_custody {callId : String} (named : e.metadataCallId = some callId) :
    ∀ {facts : List Fact} {memory : LineageMemory} {w : World}, facts ⊆ factsOf e → e ∈ w.events request →
      Custody request w → memory.Covers w.lineage → (∀ fact ∈ facts, memory.knows fact.2.1 fact.2.2 = true) →
      (custody request).Runs (fun _ m t => Custody request t ∧ Extends w t ∧ m.Covers t.lineage ∧
          ∀ fact ∈ facts, ∃ r ∈ t.lineage, Expresses e r fact)
        (fun _ m t => Extends w t ∧ m.Covers t.lineage) (addFacts e callId facts) memory w := by
  intro facts
  induction facts with
  | nil =>
    intro memory w _ _ holds covers _
    exact ⟨holds, .refl w, covers, by simp⟩
  | cons first facts ih =>
    intro memory w stated member holds covers known
    -- the rest, from a world that records the first fact
    have onward : ∀ t, Extends w t → Custody request t → memory.Covers t.lineage →
        (∃ r ∈ t.lineage, Expresses e r first) →
        (custody request).Runs (fun _ m u => Custody request u ∧ Extends w u ∧ m.Covers u.lineage ∧
            ∀ fact ∈ first :: facts, ∃ r ∈ u.lineage, Expresses e r fact)
          (fun _ m u => Extends w u ∧ m.Covers u.lineage) (addFacts e callId facts) memory t := by
      intro t grown holds covers recorded
      have there : e ∈ t.events request := by
        simp only [World.events, grown.ledger]
        exact member
      refine Discipline.runs_mono _ (ih (List.subset_of_cons_subset stated) there holds covers
        fun other found => known other (List.mem_cons_of_mem _ found)) ?_ ?_
      · rintro _ m u ⟨kept, more, covers, rest⟩
        refine ⟨kept, grown.trans more, covers, List.forall_mem_cons.mpr ⟨?_, rest⟩⟩
        obtain ⟨r, found, expresses⟩ := recorded
        exact ⟨r, more.lineage found, expresses⟩
      · rintro error m u ⟨more, covers⟩
        exact ⟨grown.trans more, covers⟩
    apply Discipline.runs_bind
    apply (custody_reading holds).addFact covers named (known first List.mem_cons_self)
    · intro r found expresses
      exact onward w (.refl w) holds covers ⟨r, found, expresses⟩
    · intro _ _ _ _ _
      exact ⟨.refl w, covers⟩
    · intro _
      have states : Expresses e (factRelation e callId first) first := ⟨callId, named, rfl⟩
      refine ⟨⟨e, member, first, stated List.mem_cons_self, states⟩, ?_⟩
      intro persisted written expresses
      have kept := holds.relate member (stated List.mem_cons_self) states written
      have grown : Extends w { w with lineage := w.lineage ++ [persisted] } :=
        ⟨rfl, List.subset_append_left _ _, ⟨fun _ _ same => same, fun _ _ same => same⟩⟩
      refine ⟨kept, onward _ grown kept ?_ ⟨persisted, by simp, expresses⟩⟩
      apply forall_snoc covers
      obtain ⟨_, _, rfl⟩ := lineage_append_ok.mp written
      exact known first List.mem_cons_self

theorem projectSuccess_custody (holds : Custody request w) (member : e ∈ w.events request)
    (covers : memory.Covers w.lineage) :
    (custody request).Runs (fun _ m t => Custody request t ∧ Extends w t ∧ m.Covers t.lineage ∧ Projected t.lineage e)
      (fun _ m t => Extends w t ∧ m.Covers t.lineage) (projectSuccess e) memory w := by
  apply (custody_reading holds).projectSuccess covers
  · intro _ _ m covers
    exact ⟨.refl w, covers⟩
  · intro callId m named covers known
    exact addFacts_custody named (List.Subset.refl _) member holds covers known

/-- Reconciliation projects every success it is given. -/
theorem reconcile_custody : ∀ {events : List LedgerEvent} {memory : LineageMemory} {w : World},
    events ⊆ w.events request → Custody request w → memory.Covers w.lineage →
    (custody request).Runs (fun _ m t => Custody request t ∧ Extends w t ∧ m.Covers t.lineage ∧
        ∀ e ∈ events, e.eventType = .toolExecutionSucceeded → Projected t.lineage e)
      (fun _ m t => Extends w t ∧ m.Covers t.lineage) (reconcileSuccessLineage events) memory w := by
  intro events
  induction events with
  | nil =>
    intro memory w _ holds covers
    exact ⟨holds, .refl w, covers, by simp⟩
  | cons e events ih =>
    intro memory w sub holds covers
    have rest := List.subset_of_cons_subset sub
    unfold reconcileSuccessLineage
    split
    · apply Discipline.runs_bind
      refine Discipline.runs_mono _ (projectSuccess_custody holds (sub List.mem_cons_self) covers) ?_
        fun _ _ _ kept => kept
      rintro _ m t ⟨holds, grown, covers, projected⟩
      have there : events ⊆ t.events request := by
        simp only [World.events, grown.ledger]
        exact rest
      refine Discipline.runs_mono _ (ih there holds covers) ?_ ?_
      · rintro _ n u ⟨holds, more, covers, others⟩
        refine ⟨holds, grown.trans more, covers, List.forall_mem_cons.mpr ⟨?_, others⟩⟩
        intro _
        exact projected.mono more.lineage
      · rintro error n u ⟨more, covers⟩
        exact ⟨grown.trans more, covers⟩
    · rename_i other
      refine Discipline.runs_mono _ (ih rest holds covers) ?_ fun _ _ _ kept => kept
      rintro _ n u ⟨holds, more, covers, others⟩
      refine ⟨holds, more, covers, List.forall_mem_cons.mpr ⟨?_, others⟩⟩
      intro success
      exact absurd success other

end
end Molly
