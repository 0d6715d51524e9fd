import Molly.Run.Footprint

/-! What the store's operations find. An artifact is stored when its metadata and its
exact bytes are there; verification returns exactly on stored artifacts. -/
namespace Molly
open Effect

/-- Requests that only read, or draw a time or an identifier. -/
def Op.Reads : Op → Prop
  | .snapshot | .readEvents | .readRelations | .readObject _ | .readRecord _ | .now | .newId _ _ => True
  | _ => False

section
variable [Sha256]

/-- Metadata and exact bytes of an artifact. -/
def World.Stored (w : World) (id : ArtifactId) : Prop :=
  ∃ record payload, w.records id.digest = some (.record record) ∧ record.artifactId = id ∧
    w.objects id.digest = some payload ∧ sha256Bytes payload = id.digest ∧ payload.length = record.sizeBytes

theorem World.Grows.stored {w t : World} (grows : w.Grows t) {id : ArtifactId} (stored : w.Stored id) :
    t.Stored id := by
  obtain ⟨record, payload, known, same, bytes, digest, size⟩ := stored
  exact ⟨record, payload, grows.records _ _ known, same, grows.objects _ _ bytes, digest, size⟩

theorem World.act_reads {op : Op} {w t : World} {reply : op.Reply} (reads : op.Reads)
    (acted : World.act op w reply t) : t = w := by
  cases op with
  | snapshot | readEvents | readRelations | readObject | readRecord => exact acted.2
  | now => exact acted
  | newId => exact acted.2.2
  | appendEvent | appendRelation | linkObject | linkRecord | nextAction | execute => exact reads.elim

/-- Reads are free in a world under a discipline. -/
structure Reading (D : Discipline host World) (w : World) : Prop where
  act : ∀ {op reply t}, D.act op w reply t → World.act op w reply t
  may : ∀ op, op.Reads → D.may op w
  holds : D.inv w

/-- The discipline of programs that leave a world as it is. -/
def still (w : World) : Discipline host World where
  act := World.act
  inv t := t = w
  may op _ := op.Reads

theorem still_reading (w : World) : Reading (still w) w := ⟨id, fun _ reads => reads, rfl⟩

/-- Nothing has changed, neither in the world nor in the lineage's memory. -/
def Unmoved (w : World) (memory : LineageMemory) (m : LineageMemory) (t : World) : Prop := t = w ∧ m = memory

namespace Reading
variable {D : Discipline host World} {w : World} {memory : LineageMemory}

theorem ask {op : Op} {ensures : op.Reply → LineageMemory → World → Prop}
    {raises : PyError → LineageMemory → World → Prop} (reading : Reading D w) (reads : op.Reads)
    (returned : ∀ reply, World.act op w reply w → ensures reply memory w) :
    D.Runs ensures raises (request op) memory w := by
  apply Discipline.runs_ask _ (reading.may op reads)
  intro reply t acted
  have did := reading.act acted
  obtain rfl := World.act_reads reads did
  exact ⟨reading.holds, returned reply did⟩

theorem readVerifiedBytes (reading : Reading D w) (digest : Digest) :
    D.Runs (fun payload m t => Unmoved w memory m t ∧ w.objects digest = some payload ∧ sha256Bytes payload = digest)
      (fun _ m t => Unmoved w memory m t ∧ ∀ payload, w.objects digest = some payload → sha256Bytes payload ≠ digest)
      (ArtifactStore.readVerifiedBytes digest) memory w := by
  apply Discipline.runs_bind
  refine reading.ask (by trivial) ?_
  rintro reply ⟨rfl, -⟩
  cases found : w.objects digest with
  | none => exact ⟨⟨rfl, rfl⟩, fun _ impossible => by contradiction⟩
  | some payload =>
    by_cases same : sha256Bytes payload = digest
    · simp only [same, ne_eq, not_true_eq_false, ↓reduceIte]
      exact ⟨⟨rfl, rfl⟩, rfl, same⟩
    · simp only [ne_eq, same, not_false_eq_true, ↓reduceIte]
      refine ⟨⟨rfl, rfl⟩, ?_⟩
      intro other known
      cases known
      exact same

theorem verify (reading : Reading D w) (id : ArtifactId) :
    D.Runs (fun record m t => Unmoved w memory m t ∧ record.artifactId = id ∧ w.Stored id)
      (fun _ m t => Unmoved w memory m t ∧ ¬ w.Stored id) (ArtifactStore.verify id) memory w := by
  have unstored (absent : ∀ record, w.records id.digest = some (.record record) → record.artifactId ≠ id) :
      ¬ w.Stored id := fun ⟨record, _, known, same, _⟩ => absent record known same
  apply Discipline.runs_bind
  apply Discipline.runs_bind
  refine reading.ask (by trivial) ?_
  rintro reply ⟨rfl, -⟩
  rcases found : w.records id.digest with _ | (record | _)
  · exact ⟨⟨rfl, rfl⟩, unstored fun _ known => by simp [found] at known⟩
  · dsimp only
    rw [Discipline.runs_pure]
    by_cases same : record.artifactId = id
    · simp only [same, ne_eq, not_true_eq_false, ↓reduceIte]
      apply Discipline.runs_bind
      refine Discipline.runs_mono _ (reading.readVerifiedBytes id.digest) ?_ ?_
      · rintro payload m t ⟨⟨rfl, rfl⟩, bytes, digest⟩
        by_cases size : payload.length = record.sizeBytes
        · simp only [size, not_true_eq_false, ↓reduceIte]
          exact ⟨⟨rfl, rfl⟩, same, record, payload, found, same, bytes, digest, size⟩
        · simp only [size, not_false_eq_true, ↓reduceIte]
          refine ⟨⟨rfl, rfl⟩, ?_⟩
          rintro ⟨other, stored, known, _, kept, _, fits⟩
          rw [found, Option.some.injEq, RecordFile.record.injEq] at known
          rw [bytes, Option.some.injEq] at kept
          subst known kept
          exact size fits
      · rintro error m t ⟨unmoved, corrupt⟩
        refine ⟨unmoved, ?_⟩
        rintro ⟨_, payload, _, _, kept, digest, _⟩
        exact corrupt payload kept digest
    · simp only [ne_eq, same, not_false_eq_true, ↓reduceIte]
      refine ⟨⟨rfl, rfl⟩, unstored ?_⟩
      intro other known
      rw [found, Option.some.injEq, RecordFile.record.injEq] at known
      exact known ▸ same
  · exact ⟨⟨rfl, rfl⟩, unstored fun _ known => by simp [found] at known⟩

theorem verifyAll (reading : Reading D w) (ids : List ArtifactId) :
    D.Runs (fun _ m t => Unmoved w memory m t ∧ ∀ id ∈ ids, w.Stored id)
      (fun _ m t => Unmoved w memory m t ∧ ∃ id ∈ ids, ¬ w.Stored id) (ArtifactStore.verifyAll ids) memory w := by
  induction ids with
  | nil => exact ⟨⟨rfl, rfl⟩, by simp⟩
  | cons id ids ih =>
    apply Discipline.runs_bind
    refine Discipline.runs_mono _ (reading.verify id) ?_ ?_
    · rintro record m t ⟨⟨rfl, rfl⟩, _, stored⟩
      refine Discipline.runs_mono _ ih ?_ ?_
      · rintro _ m u ⟨unmoved, rest⟩
        exact ⟨unmoved, List.forall_mem_cons.mpr ⟨stored, rest⟩⟩
      · rintro _ m u ⟨unmoved, other, member, unstored⟩
        exact ⟨unmoved, other, List.mem_cons_of_mem _ member, unstored⟩
    · rintro error m t ⟨unmoved, unstored⟩
      exact ⟨unmoved, id, List.mem_cons_self, unstored⟩

/-- What is read of an artifact is the bytes that its identity names. -/
theorem read (reading : Reading D w) (id : ArtifactId) :
    D.Runs (fun payload m t => Unmoved w memory m t ∧ w.objects id.digest = some payload ∧
        sha256Bytes payload = id.digest)
      (fun _ _ _ => True) (ArtifactStore.read id) memory w := by
  apply Discipline.runs_bind
  refine Discipline.runs_mono _ (reading.verify id) ?_ fun _ _ _ _ => trivial
  rintro record m t ⟨⟨rfl, rfl⟩, same, _⟩
  have digest : record.sha256 = id.digest := by rw [ArtifactRecord.sha256, same]
  rw [digest]
  exact Discipline.runs_mono _ (reading.readVerifiedBytes id.digest) (fun _ _ _ kept => kept) fun _ _ _ _ => trivial

/-- A tool reads the stored bytes of an input that its call declares. -/
theorem readArtifact (reading : Reading D w) (context : ToolExecutionContext) (artifactId : String) :
    D.Runs (fun payload m t => Unmoved w memory m t ∧ ∃ id ∈ context.inputArtifactIds.ids, id.text = artifactId ∧
        w.objects id.digest = some payload ∧ sha256Bytes payload = id.digest)
      (fun _ _ _ => True) (context.readArtifact artifactId) memory w := by
  apply Discipline.runs_bind
  refine (Discipline.runs_ofExcept _).mpr ⟨fun _ _ => ?_, fun _ _ => trivial⟩
  split
  · exact trivial
  · rename_i declared found
    refine Discipline.runs_mono _ (reading.read declared) ?_ fun _ _ _ _ => trivial
    rintro payload m t ⟨unmoved, bytes, digest⟩
    have named := List.find?_some found
    exact ⟨unmoved, declared, List.mem_of_find?_eq_some found, of_decide_eq_true named, bytes, digest⟩

end Reading

/-! ### Publishing -/

/-- Requests of the store, and a clock. -/
def Op.Stores : Op → Prop
  | .readObject _ | .linkObject _ _ | .readRecord _ | .linkRecord _ _ | .now => True
  | _ => False

/-- Only the store has changed, and it has grown. -/
structure Restocked (w t : World) : Prop where
  ledger : t.ledger = w.ledger
  lineage : t.lineage = w.lineage
  log : t.log = w.log
  grows : w.Grows t

omit [Sha256] in
theorem Restocked.refl (w : World) : Restocked w w := ⟨rfl, rfl, rfl, .refl w⟩

omit [Sha256] in
theorem Restocked.trans {w t u : World} (first : Restocked w t) (second : Restocked t u) : Restocked w u :=
  ⟨second.ledger.trans first.ledger, second.lineage.trans first.lineage, second.log.trans first.log,
    first.grows.trans second.grows⟩

/-- The record that a draft asks for. -/
def ArtifactDraft.record (draft : ArtifactDraft) (storedAt : Timestamp) : Except PyError ArtifactRecord :=
  ArtifactRecord.create ⟨sha256Bytes draft.content⟩ draft.mediaType draft.schemaName draft.schemaVersion
    draft.content.length storedAt

/-- The store after an object and its metadata have been linked where they were missing. -/
def World.shelve (w : World) (digest : Digest) (payload : Bytes) (record : ArtifactRecord) : World :=
  { w with
    objects := fun k => if k = digest then some ((w.objects digest).getD payload) else w.objects k
    records := fun k => if k = digest then some ((w.records digest).getD (.record record)) else w.records k }

/-- The store takes a draft: what is there, or will be, is the draft's. -/
def World.Accepts (w : World) (draft : ArtifactDraft) (record : ArtifactRecord) : Prop :=
  sha256Bytes ((w.objects (sha256Bytes draft.content)).getD draft.content) = sha256Bytes draft.content ∧
  ∃ existing, (w.records (sha256Bytes draft.content)).getD (.record record) = .record existing ∧
    existing.assertCompatible record = .ok () ∧
    existing.sizeBytes = ((w.objects (sha256Bytes draft.content)).getD draft.content).length

/-- Reads and publications are free in a world, and stay so. -/
structure Storing (D : Discipline host World) (w : World) : Prop where
  act : ∀ {op t reply u}, D.act op t reply u → World.act op t reply u
  may : ∀ op t, op.Stores → Restocked w t → D.may op t
  holds : ∀ t, Restocked w t → D.inv t

theorem restocked_of_act {op : Op} {w t : World} {reply : op.Reply} (stores : op.Stores)
    (acted : World.act op w reply t) : Restocked w t := by
  cases op with
  | readObject | readRecord =>
    obtain ⟨_, rfl⟩ := acted
    exact .refl _
  | now =>
    cases acted
    exact .refl _
  | linkObject d payload =>
    obtain ⟨_, rfl⟩ := acted
    refine ⟨rfl, rfl, rfl, fun k bytes same => ?_, fun _ _ same => same⟩
    by_cases here : k = d
    · subst here
      simp [same]
    · simp [here, same]
  | linkRecord d record =>
    obtain ⟨_, rfl⟩ := acted
    refine ⟨rfl, rfl, rfl, fun _ _ same => same, fun k file same => ?_⟩
    by_cases here : k = d
    · subst here
      simp [same]
    · simp [here, same]
  | snapshot | readEvents | appendEvent | readRelations | appendRelation | newId | nextAction | execute =>
    exact stores.elim

namespace Storing
variable {D : Discipline host World} {w : World} {memory : LineageMemory}

theorem after (storing : Storing D w) {t : World} (restocked : Restocked w t) : Storing D t :=
  ⟨storing.act, fun op u stores more => storing.may op u stores (restocked.trans more),
    fun u more => storing.holds u (restocked.trans more)⟩

theorem ask {op : Op} {ensures : op.Reply → LineageMemory → World → Prop}
    {raises : PyError → LineageMemory → World → Prop} (storing : Storing D w) (stores : op.Stores)
    (returned : ∀ reply t, World.act op w reply t → Restocked w t → ensures reply memory t) :
    D.Runs ensures raises (request op) memory w := by
  apply Discipline.runs_ask _ (storing.may op w stores (.refl w))
  intro reply t acted
  have did := storing.act acted
  have restocked := restocked_of_act stores did
  exact ⟨storing.holds t restocked, returned reply t did restocked⟩

theorem readVerifiedBytes (storing : Storing D w) (digest : Digest) {payload : Bytes}
    (there : w.objects digest = some payload) :
    D.Runs (fun bytes m t => Unmoved w memory m t ∧ bytes = payload ∧ sha256Bytes payload = digest)
      (fun _ m t => Unmoved w memory m t ∧ sha256Bytes payload ≠ digest)
      (ArtifactStore.readVerifiedBytes digest) memory w := by
  apply Discipline.runs_bind
  refine storing.ask (by trivial) ?_
  rintro reply t ⟨rfl, rfl⟩ _
  rw [there]
  by_cases same : sha256Bytes payload = digest
  · simp only [same, ne_eq, not_true_eq_false, ↓reduceIte]
    exact ⟨⟨rfl, rfl⟩, rfl, trivial⟩
  · simp only [ne_eq, same, not_false_eq_true, ↓reduceIte]
    exact ⟨⟨rfl, rfl⟩, trivial⟩

/-- What `_existing_record` checks, on the object and the metadata it finds. -/
theorem existingRecord (storing : Storing D w) {requested : ArtifactRecord} {payload : Bytes} {file : RecordFile}
    (object : w.objects requested.sha256 = some payload) (metadata : w.records requested.sha256 = some file) :
    D.Runs (fun existing m t => Unmoved w memory m t ∧ file = .record existing ∧
        existing.assertCompatible requested = .ok () ∧ existing.sizeBytes = payload.length ∧
        sha256Bytes payload = requested.sha256)
      (fun _ m t => Unmoved w memory m t ∧ ∀ existing, file = .record existing →
        sha256Bytes payload = requested.sha256 → existing.assertCompatible requested = .ok () →
        existing.sizeBytes ≠ payload.length) (ArtifactStore.existingRecord requested) memory w := by
  apply Discipline.runs_bind
  apply Discipline.runs_bind
  refine storing.ask (by trivial) ?_
  rintro reply t ⟨rfl, rfl⟩ _
  rw [metadata]
  cases file with
  | malformed => exact ⟨⟨rfl, rfl⟩, fun _ impossible => by contradiction⟩
  | record existing =>
    dsimp only
    rw [Discipline.runs_pure]
    apply Discipline.runs_bind
    refine (Discipline.runs_ofExcept _).mpr ⟨fun _ compatible => ?_, fun error conflict => ?_⟩
    · apply Discipline.runs_bind
      refine Discipline.runs_mono _ (storing.readVerifiedBytes _ object) ?_ ?_
      · rintro bytes m t ⟨⟨rfl, rfl⟩, rfl, digest⟩
        by_cases size : existing.sizeBytes = bytes.length
        · simp only [size, ne_eq, not_true_eq_false, ↓reduceIte]
          exact ⟨⟨rfl, rfl⟩, rfl, compatible, size, digest⟩
        · simp only [ne_eq, size, not_false_eq_true, ↓reduceIte]
          refine ⟨⟨rfl, rfl⟩, ?_⟩
          rintro other same _ _
          cases same
          exact size
      · rintro error m t ⟨unmoved, corrupt⟩
        exact ⟨unmoved, fun _ _ digest => absurd digest corrupt⟩
    · refine ⟨⟨rfl, rfl⟩, ?_⟩
      rintro other same _ compatible
      cases same
      rw [compatible] at conflict
      contradiction

/-- The object is there, or is linked; then it is verified. -/
theorem publishObject (storing : Storing D w) (payload : Bytes) {digest : Digest} (named : sha256Bytes payload = digest) :
    D.Runs (fun _ m t => m = memory ∧ Restocked w t ∧ t.records = w.records ∧
        t.objects = (fun k => if k = digest then some ((w.objects digest).getD payload) else w.objects k) ∧
        sha256Bytes ((w.objects digest).getD payload) = digest)
      (fun _ m t => m = memory ∧ Restocked w t ∧ sha256Bytes ((w.objects digest).getD payload) ≠ digest)
      (ArtifactStore.publishObject digest payload) memory w := by
  apply Discipline.runs_bind
  refine storing.ask (by trivial) ?_
  rintro reply t ⟨rfl, rfl⟩ _
  cases there : t.objects digest with
  | some bytes =>
    refine Discipline.runs_mono _ (storing.readVerifiedBytes digest there) ?_ ?_
    · rintro _ m u ⟨⟨rfl, rfl⟩, rfl, same⟩
      refine ⟨rfl, .refl _, rfl, ?_, same⟩
      funext k
      by_cases here : k = digest
      · simp [here, there]
      · simp [here]
    · rintro error m u ⟨⟨rfl, rfl⟩, corrupt⟩
      exact ⟨rfl, .refl _, corrupt⟩
  | none =>
    apply Discipline.runs_bind
    refine storing.ask (by trivial) ?_
    rintro reply u ⟨_, rfl⟩ linked
    have placed : (if digest = digest then some ((t.objects digest).getD payload) else t.objects digest) = some payload := by
      simp [there]
    refine Discipline.runs_mono _ ((storing.after linked).readVerifiedBytes digest placed) ?_ ?_
    · rintro _ m v ⟨⟨rfl, rfl⟩, _, same⟩
      exact ⟨rfl, linked, rfl, by simp [there], by simpa using same⟩
    · rintro error m v ⟨_, corrupt⟩
      exact absurd named corrupt

/-- Publishing a draft: the store takes it exactly when it accepts it. -/
theorem put (storing : Storing D w) (draft : ArtifactDraft) :
    D.Runs (fun record m t => m = memory ∧ Restocked w t ∧ record.artifactId = ⟨sha256Bytes draft.content⟩ ∧
        t.Stored record.artifactId ∧ ∃ storedAt requested, draft.record storedAt = .ok requested ∧
          w.Accepts draft requested ∧ t.objects = (w.shelve (sha256Bytes draft.content) draft.content requested).objects ∧
          t.records = (w.shelve (sha256Bytes draft.content) draft.content requested).records)
      (fun _ m t => m = memory ∧ Restocked w t ∧
        ∃ storedAt, ∀ requested, draft.record storedAt = .ok requested → ¬ w.Accepts draft requested)
      (ArtifactStore.put draft) memory w := by
  apply Discipline.runs_bind
  refine storing.ask (by trivial) ?_
  rintro storedAt t rfl _
  apply Discipline.runs_bind
  refine (Discipline.runs_ofExcept _).mpr ⟨fun requested made => ?_, fun error failed => ?_⟩
  · have identity : requested.artifactId = ⟨sha256Bytes draft.content⟩ := by
      unfold ArtifactRecord.create at made
      split at made
      · contradiction
      · split at made
        · cases made
          rfl
        · contradiction
    have digest : requested.sha256 = sha256Bytes draft.content := by rw [ArtifactRecord.sha256, identity]
    have only : ∀ other, draft.record storedAt = .ok other → other = requested := by
      intro other known
      exact Except.ok.inj (known.symm.trans made)
    apply Discipline.runs_bind
    refine Discipline.runs_mono _ (storing.publishObject draft.content rfl) ?_ ?_
    · rintro _ m u ⟨same, restocked, records, objects, intact⟩
      subst m
      -- the metadata that is there once it has been linked where it was missing
      have settle : ∀ v, Restocked t v → v.objects = u.objects →
          v.records = (t.shelve (sha256Bytes draft.content) draft.content requested).records →
          D.Runs (fun record m v => m = memory ∧ Restocked t v ∧ record.artifactId = ⟨sha256Bytes draft.content⟩ ∧
              v.Stored record.artifactId ∧ ∃ storedAt requested, draft.record storedAt = .ok requested ∧
                t.Accepts draft requested ∧
                v.objects = (t.shelve (sha256Bytes draft.content) draft.content requested).objects ∧
                v.records = (t.shelve (sha256Bytes draft.content) draft.content requested).records)
            (fun _ m v => m = memory ∧ Restocked t v ∧
              ∃ storedAt, ∀ requested, draft.record storedAt = .ok requested → ¬ t.Accepts draft requested)
            (ArtifactStore.existingRecord requested) memory v := by
        intro v shelved sameObjects sameRecords
        have object : v.objects requested.sha256 = some ((t.objects (sha256Bytes draft.content)).getD draft.content) := by
          simp [sameObjects, objects, digest]
        have metadata : v.records requested.sha256 =
            some ((t.records (sha256Bytes draft.content)).getD (.record requested)) := by
          simp [sameRecords, World.shelve, digest]
        refine Discipline.runs_mono _ ((storing.after shelved).existingRecord object metadata) ?_ ?_
        · rintro existing m v ⟨⟨rfl, rfl⟩, found, compatible, size, same⟩
          have identified : existing.artifactId = requested.artifactId := by
            by_contra different
            simp [ArtifactRecord.assertCompatible, different] at compatible
          refine ⟨rfl, shelved, identified.trans identity, ?_, storedAt, requested, made, ?_, ?_, sameRecords⟩
          · rw [identified, identity]
            rw [digest] at object metadata
            exact ⟨existing, _, by rw [metadata, found], identified.trans identity, object, intact, size.symm⟩
          · exact ⟨intact, existing, found, compatible, size⟩
          · rw [sameObjects, objects]
            rfl
        · rintro error m v ⟨⟨rfl, rfl⟩, refused⟩
          refine ⟨rfl, shelved, storedAt, ?_⟩
          rintro other known ⟨_, existing, found, compatible, size⟩
          obtain rfl := only other known
          exact refused existing found (by rw [digest]; exact intact) compatible size
      apply Discipline.runs_bind
      refine (storing.after restocked).ask (by trivial) ?_
      rintro reply v ⟨rfl, rfl⟩ _
      cases there : v.records (sha256Bytes draft.content) with
      | some file =>
        apply settle v restocked rfl
        funext k
        have before : t.records (sha256Bytes draft.content) = some file := by rw [← records, there]
        by_cases here : k = sha256Bytes draft.content
        · simp [World.shelve, here, before, there]
        · simp [World.shelve, here, records]
      | none =>
        apply Discipline.runs_bind
        refine (storing.after restocked).ask (by trivial) ?_
        rintro reply x ⟨_, rfl⟩ linked
        apply settle _ (restocked.trans linked) rfl
        funext k
        by_cases here : k = sha256Bytes draft.content
        · simp [World.shelve, here, records]
        · simp [World.shelve, here, records]
    · rintro error m u ⟨rfl, restocked, corrupt⟩
      refine ⟨rfl, restocked, storedAt, ?_⟩
      rintro _ _ ⟨intact, _⟩
      exact corrupt intact
  · refine ⟨rfl, .refl _, storedAt, ?_⟩
    intro requested made
    cases failed.symm.trans made

theorem putAll (storing : Storing D w) (drafts : List ArtifactDraft) :
    D.Runs (fun records m t => m = memory ∧ Restocked w t ∧ ∀ r ∈ records, t.Stored r.artifactId)
      (fun _ m t => m = memory ∧ Restocked w t) (ArtifactStore.putAll drafts) memory w := by
  induction drafts generalizing w with
  | nil => exact ⟨rfl, .refl w, by simp⟩
  | cons draft drafts ih =>
    apply Discipline.runs_bind
    refine Discipline.runs_mono _ (storing.put draft) ?_ ?_
    · rintro record m t ⟨rfl, restocked, _, stored, _⟩
      apply Discipline.runs_bind
      refine Discipline.runs_mono _ (ih (storing.after restocked)) ?_ ?_
      · rintro records m u ⟨rfl, more, rest⟩
        exact ⟨rfl, restocked.trans more, List.forall_mem_cons.mpr ⟨more.grows.stored stored, rest⟩⟩
      · rintro error m u ⟨rfl, more⟩
        exact ⟨rfl, restocked.trans more⟩
    · rintro error m t ⟨rfl, restocked, _⟩
      exact ⟨rfl, restocked⟩

end Storing
end
end Molly
