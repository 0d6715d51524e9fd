import Molly.Disk.Compute
import Molly.Disk.Linearize

/-! Submissions under concurrency: one link decides who runs the job, and the handle it
carries stays in the state file whatever becomes of the job. -/
namespace Molly
open Effect

namespace OnDisk.ComputeBackend
variable [Sha256] [PrintableText] [DecimalText]

abbrev JobDisk := Disk Path Bytes computeHost

/-- The state file of a key carries this handle. -/
def Persisted (d : JobDisk) (key : Digest) (handle : JobHandle) : Prop :=
  ∃ record : JobRecord, d.content (.job key) = some record.line ∧ record.handle = handle

omit [Sha256] [DecimalText] in
theorem Persisted.unique {d : JobDisk} {key : Digest} {handle handle' : JobHandle} (persisted : Persisted d key handle)
    (persisted' : Persisted d key handle') : handle = handle' := by
  obtain ⟨record, found, rfl⟩ := persisted
  obtain ⟨record', found', rfl⟩ := persisted'
  exact JobRecord.line_injective (Option.some.inj (found.symm.trans found'))

/-- The reference an output is published under. -/
def outputRef (output : ComputeOutput) : ComputeOutputRef := ⟨output.name, ⟨sha256Bytes output.content⟩⟩

/-- The runner was invoked for this key and returned these outputs, which were accepted. -/
def Invoked (d : JobDisk) (key : Digest) (outputs : List ComputeOutput) : Prop :=
  ∃ task profile jobId items, (⟨ComputeHost.run key task profile jobId, RunnerReply.returned items⟩ :
    (op : computeHost.Op) × computeHost.Reply op) ∈ d.log ∧ acceptOutputs items = .ok outputs

/-- A success is one of an invocation. -/
def Earned (d : JobDisk) (key : Digest) (record : JobRecord) : Prop :=
  record.state = .succeeded → ∃ outputs, Invoked d key outputs ∧ record.outputs = outputs.map outputRef

omit [Sha256] [PrintableText] [DecimalText] in
theorem Invoked.later {d t : JobDisk} {key : Digest} {outputs : List ComputeOutput} (invoked : Invoked d key outputs)
    (more : d.log <+: t.log) : Invoked t key outputs := by
  obtain ⟨task, profile, jobId, items, member, accepted⟩ := invoked
  exact ⟨task, profile, jobId, items, more.subset member, accepted⟩

omit [PrintableText] [DecimalText] in
theorem Earned.later {d t : JobDisk} {key : Digest} {record : JobRecord} (earned : Earned d key record)
    (more : d.log <+: t.log) : Earned t key record := by
  intro succeeded
  obtain ⟨outputs, invoked, same⟩ := earned succeeded
  exact ⟨outputs, invoked.later more, same⟩

/-- A state file may be replaced only by one with its handle, and by a success only once
the outputs are there. -/
def mayReplace (d : JobDisk) (key : Digest) (payload : Bytes) : Prop :=
  ∃ record : JobRecord, payload = record.line ∧ Persisted d key record.handle ∧ Earned d key record ∧
    record.handle.idempotencyKey = key

/-- What the backend's processes may assume of each other. -/
def office (outer : (op : computeHost.Op) → computeHost.Reply op → Prop) :
    Interference (files Path Bytes computeHost) JobDisk where
  act := Disk.act outer
  inv d := ∀ key payload, d.content (.job key) = some payload →
    ∃ record : JobRecord, payload = record.line ∧ record.handle.idempotencyKey = key ∧ Earned d key record
  may
    | .link (.job key) payload, _ => ∃ handle : JobHandle, payload = (JobRecord.create handle).line ∧ handle.idempotencyKey = key
    | .replace (.job key) payload, d => mayReplace d key payload
    | .replace _ _, _ => False
    | _, _ => True
  rely d t := (∀ key handle, Persisted d key handle → Persisted t key handle) ∧ d.log <+: t.log
  refl _ := ⟨fun _ _ => id, List.prefix_refl _⟩
  trans one two := ⟨fun key handle persisted => two.1 key handle (one.1 key handle persisted), one.2.trans two.2⟩
  keeps := by
    intro op d reply t holds may acted
    cases op with
    | test | read =>
      obtain ⟨_, rfl⟩ := acted
      exact ⟨holds, fun _ _ => id, List.prefix_refl _⟩
    | link path file =>
      obtain ⟨_, rfl⟩ := acted
      refine ⟨fun key payload found => ?_, fun key handle ⟨record, found, same⟩ =>
        ⟨record, Disk.link_grows d path file _ _ found, same⟩, List.prefix_refl _⟩
      by_cases here : Path.job key = path
      · subst here
        rw [Disk.link_there, Option.some.injEq] at found
        cases there : d.content (.job key) with
        | none =>
          simp only [there, Option.getD_none] at found
          obtain ⟨handle, line, same⟩ := may
          exact ⟨.create handle, found ▸ line, same, nofun⟩
        | some old =>
          simp only [there, Option.getD_some] at found
          exact holds key payload (found ▸ there)
      · rw [Disk.link_other d file here] at found
        exact holds key payload found
    | replace path file =>
      obtain rfl := acted
      cases path with
      | job key =>
        obtain ⟨record, line, persisted, earned, same⟩ := may
        have here : (d.replace (.job key) file).content (.job key) = some record.line := by simp [Disk.replace, line]
        refine ⟨fun other payload found => ?_, fun other handle was => ?_, List.prefix_refl _⟩
        · by_cases eq : other = key
          · subst eq
            exact ⟨record, (Option.some.inj (here.symm.trans found)).symm, same, earned⟩
          · have kept : (d.replace (.job key) file).content (.job other) = d.content (.job other) := by
              simp [Disk.replace, eq]
            exact holds other payload (kept ▸ found)
        · by_cases eq : other = key
          · subst eq
            exact ⟨record, here, persisted.unique was⟩
          · obtain ⟨record', found, rfl⟩ := was
            refine ⟨record', ?_, rfl⟩
            simpa [Disk.replace, eq] using found
      | object | metadata | entry | body => exact may.elim
    | outside op =>
      obtain ⟨_, rfl⟩ := acted
      have more : d.log <+: d.log ++ [⟨op, reply⟩] := List.prefix_append _ _
      refine ⟨fun key payload found => ?_, fun _ _ => id, more⟩
      obtain ⟨record, line, same, earned⟩ := holds key payload found
      exact ⟨record, line, same, earned.later more⟩

variable {outer : (op : computeHost.Op) → computeHost.Reply op → Prop} {s : JobDisk}

/-- An invocation of the runner for this key. -/
def invokes (key : Digest) : ComputeHost → Bool
  | .run other _ _ _ => other = key
  | _ => false

/-- A request that leaves the job files and the runner alone. -/
def Quiet : (files Path Bytes computeHost).Op → Prop
  | .link (.job _) _ | .replace _ _ => False
  | .outside op => ∀ key, invokes key op = false
  | _ => True

omit [DecimalText] in
theorem office_quiet (op : (files Path Bytes computeHost).Op) (t : JobDisk) (quiet : Quiet op) : (office outer).may op t := by
  unfold Quiet at quiet
  split at quiet
  · exact quiet.elim
  · exact quiet.elim
  · trivial
  · rename_i linked replaced other
    cases op with
    | link path file =>
      cases path with
      | job key => exact (linked key file rfl).elim
      | object | metadata | entry | body => trivial
    | replace path file => exact (replaced path file rfl).elim
    | outside op => exact (other op rfl).elim
    | test | read => trivial

omit [DecimalText] in
/-- Whatever a quiet program returns, it leaves everything known as it is. -/
theorem endures_quiet {m : JobProcess α} (quiet : m.Only Quiet) :
    (office outer).Endures (fun _ _ _ => True) (fun _ _ _ => True) m () s :=
  Interference.endures_of_only quiet (fun op t quiet _ => office_quiet op t quiet) (fun _ _ _ _ => trivial)
    fun _ _ _ _ => trivial

/-! ### What leaves the job files alone -/

attribute [local irreducible] PyValue.canonicalBytes StoredRecord.create JobRecord.frozen JobRecord.line

omit [PrintableText] [DecimalText] in
theorem readVerifiedBytes_quiet (digest : Digest) : (ArtifactStore.readVerifiedBytes (E := computeHost) digest).Only Quiet :=
  only_readable trivial trivial fun payload => by
    dsimp only
    split
    · exact Task.only_throw _
    · exact Task.only_pure _

omit [Sha256] in
theorem readRecord_quiet (digest : Digest) : (ArtifactStore.readRecord (E := computeHost) digest).Only Quiet :=
  only_readable trivial trivial fun _ => Task.only_ofExcept _

theorem existingRecord_quiet (requested : StoredRecord) : (ArtifactStore.existingRecord (E := computeHost) requested).Only Quiet := by
  refine Task.only_bind (readRecord_quiet _) fun existing => Task.only_bind (Task.only_ofExcept _) fun _ =>
    Task.only_bind (readVerifiedBytes_quiet _) fun payload => ?_
  split
  · exact Task.only_throw _
  · exact Task.only_pure _

omit [PrintableText] [DecimalText] in
theorem publishObject_quiet (digest : Digest) (payload : Bytes) :
    (ArtifactStore.publishObject (E := computeHost) digest payload).Only Quiet := by
  refine Task.only_bind (Task.only_ask trivial) fun found => ?_
  split
  · exact readVerifiedBytes_quiet _
  · exact Task.only_bind (Task.only_ask trivial) fun _ => readVerifiedBytes_quiet _

theorem publishRecord_quiet (record : StoredRecord) : (ArtifactStore.publishRecord (E := computeHost) record).Only Quiet := by
  refine Task.only_bind (Task.only_ask trivial) fun found => ?_
  split
  · exact existingRecord_quiet _
  · exact Task.only_bind (Task.only_ofExcept _) fun _ => Task.only_bind (Task.only_ask trivial) fun _ => existingRecord_quiet _

omit [Sha256] [PrintableText] [DecimalText] in
theorem storedAt_quiet (request : PutRequest) : (ArtifactStore.storedAt (E := computeHost) request).Only Quiet := by
  unfold ArtifactStore.storedAt
  split
  · exact Task.only_pure _
  · exact Task.only_bind (Task.only_bind (Task.only_ask fun _ => rfl) fun _ => Task.only_pure _) fun _ => Task.only_pure _

theorem put_quiet (request : PutRequest) : (ArtifactStore.put (E := computeHost) request).Only Quiet :=
  Task.only_bind (storedAt_quiet _) fun _ => Task.only_bind (Task.only_ofExcept _) fun _ =>
    Task.only_bind (publishObject_quiet _ _) fun _ => publishRecord_quiet _

theorem verify_quiet (id : ArtifactId) : (ArtifactStore.verify (E := computeHost) id).Only Quiet := by
  refine Task.only_bind (readRecord_quiet _) fun record => ?_
  split
  · exact Task.only_throw _
  · refine Task.only_bind (readVerifiedBytes_quiet _) fun payload => ?_
    split
    · exact Task.only_throw _
    · exact Task.only_pure _

theorem read_quiet (id : ArtifactId) : (ArtifactStore.read (E := computeHost) id).Only Quiet :=
  Task.only_bind (verify_quiet _) fun _ => readVerifiedBytes_quiet _

theorem manifestEntries_quiet : ∀ references : List ComputeOutputRef, (manifestEntries references).Only Quiet
  | [] => Task.only_pure _
  | _ :: references => Task.only_bind (verify_quiet _) fun _ =>
      Task.only_bind (manifestEntries_quiet references) fun _ => Task.only_pure _

theorem manifestRef_quiet (entry : PyValue) : (manifestRef entry).Only Quiet := by
  unfold manifestRef
  split
  · refine Task.only_bind (Task.only_ofExcept _) fun ⟨reference, digest, size⟩ => ?_
    dsimp only
    split
    · exact Task.only_throw _
    · refine Task.only_bind (Task.only_tryCatch (verify_quiet _) fun _ => Task.only_throw _) fun record => ?_
      split
      · exact Task.only_throw _
      · exact Task.only_pure _
  · exact Task.only_throw _

theorem manifestRefs_quiet (entries : List PyValue) : (manifestRefs entries).Only Quiet := by
  induction entries with
  | nil => exact Task.only_pure _
  | cons entry entries ih => exact Task.only_bind (manifestRef_quiet entry) fun _ => Task.only_bind ih fun _ => Task.only_pure _

/-! ### The operations one by one -/

/-- A record that `put` returns names the content. -/
theorem put_artifactId (request : PutRequest) (holds : (office outer).inv s) :
    (office outer).Endures (fun record _ _ => record.artifactId = ⟨sha256Bytes request.content⟩) (fun _ _ _ => True)
      (ArtifactStore.put request) () s := by
  have raised : ∀ (_ : PyError) (_ : Unit) (t : JobDisk), (office outer).inv t → True →
      ∀ u, (office outer).rely t u → (office outer).inv u → True := fun _ _ _ _ _ _ _ _ => trivial
  have existing (record : StoredRecord) (named : record.artifactId = ⟨sha256Bytes request.content⟩) (t : JobDisk)
      (inv : (office outer).inv t) : (office outer).Endures
        (fun record _ _ => record.artifactId = ⟨sha256Bytes request.content⟩) (fun _ _ _ => True)
        (ArtifactStore.existingRecord record) () t := by
    refine Interference.endures_bind inv (Interference.endures_mono (endures_quiet (readRecord_quiet _)) ?_ raised)
    intro existing _ u inv _
    refine Interference.endures_bind inv (Interference.endures_ofExcept ?_ fun _ _ _ _ _ _ _ _ => trivial)
    intro _ v compatible _ inv
    have same := StoredRecord.assertCompatible_ok compatible
    refine Interference.endures_bind inv (Interference.endures_mono (endures_quiet (readVerifiedBytes_quiet _)) ?_ raised)
    intro payload _ w _ _
    split
    · exact Interference.endures_throw fun _ _ _ => trivial
    · exact Interference.endures_pure fun _ _ _ => same.trans named
  refine Interference.endures_bind holds (Interference.endures_mono (endures_quiet (storedAt_quiet request)) ?_ raised)
  intro storedAt _ t inv _
  refine Interference.endures_bind inv (Interference.endures_ofExcept ?_ fun _ _ _ _ _ _ _ _ => trivial)
  intro record u made _ inv
  have named := (StoredRecord.create_ok made).1
  refine Interference.endures_bind inv (Interference.endures_mono (endures_quiet (publishObject_quiet _ _)) ?_ raised)
  intro _ _ v inv _
  apply Interference.endures_ask
  intro w _ _
  refine ⟨office_quiet _ _ trivial, fun found x _ inv _ => ?_⟩
  split
  · exact existing record named x inv
  · refine Interference.endures_bind inv (Interference.endures_ofExcept ?_ fun _ _ _ _ _ _ _ _ => trivial)
    intro payload y _ _ inv
    apply Interference.endures_ask
    intro z _ _
    exact ⟨office_quiet _ _ trivial, fun _ x _ inv _ => existing record named x inv⟩

theorem publishOutputs_refs : ∀ (outputs : List ComputeOutput) {s : JobDisk}, (office outer).inv s →
    (office outer).Endures (fun references _ _ => references = outputs.map outputRef) (fun _ _ _ => True)
      (publishOutputs outputs) () s
  | [], _, _ => Interference.endures_pure fun _ _ _ => rfl
  | output :: outputs, s, holds => by
    refine Interference.endures_bind holds (Interference.endures_mono (put_artifactId _ holds) ?_ fun _ _ _ _ _ _ _ _ => trivial)
    intro record _ t inv named
    refine Interference.endures_bind inv (Interference.endures_mono (publishOutputs_refs outputs inv) ?_ fun _ _ _ _ _ _ _ _ => trivial)
    rintro references _ u _ rfl
    refine Interference.endures_pure fun _ _ _ => ?_
    rw [named]
    rfl

omit [DecimalText] in
/-- A state that the job's own handle is in may be written. -/
theorem writeState_endures (key : Digest) (record : JobRecord) (persisted : Persisted s key record.handle)
    (same : record.handle.idempotencyKey = key) (earned : Earned s key record) (holds : (office outer).inv s) :
    (office outer).Endures (fun _ _ _ => True) (fun _ _ _ => True) (writeState key record) () s := by
  refine Interference.endures_bind holds (Interference.endures_ofExcept ?_ fun _ _ _ _ _ _ _ _ => trivial)
  intro payload t encoded relied inv
  obtain rfl : record.line = payload := Except.ok.inj (record.payload_eq.symm.trans encoded)
  intro u later _
  have whole := (office outer).trans relied later
  exact ⟨⟨record, rfl, whole.1 _ _ persisted, earned.later whole.2, same⟩, fun _ _ _ _ _ _ => trivial⟩

/-- A success is recorded once the outputs of the invocation are published. -/
theorem succeed_endures (key : Digest) (handle : JobHandle) (outputs : List ComputeOutput)
    (persisted : Persisted s key handle) (same : handle.idempotencyKey = key) (invoked : Invoked s key outputs)
    (holds : (office outer).inv s) :
    (office outer).Endures (fun _ _ _ => True) (fun _ _ _ => True) (succeed key handle outputs) () s := by
  have raised : ∀ (_ : PyError) (_ : Unit) (t : JobDisk), (office outer).inv t → (office outer).rely s t ∧ True →
      ∀ u, (office outer).rely t u → (office outer).inv u → True := fun _ _ _ _ _ _ _ _ => trivial
  refine Interference.endures_bind holds (Interference.endures_mono
    (Interference.endures_rely (publishOutputs_refs outputs holds)) ?_ raised)
  rintro references _ t inv ⟨relied, rfl⟩
  refine Interference.endures_bind inv (Interference.endures_mono
    (Interference.endures_rely (endures_quiet (manifestEntries_quiet _))) ?_ fun _ _ _ _ _ _ _ _ => trivial)
  rintro entries _ u inv ⟨later, _⟩
  refine Interference.endures_bind inv (Interference.endures_ofExcept ?_ fun _ _ _ _ _ _ _ _ => trivial)
  intro content v _ after inv
  refine Interference.endures_bind inv (Interference.endures_mono (Interference.endures_rely (put_artifactId _ inv)) ?_
    fun _ _ _ _ _ _ _ _ => trivial)
  rintro manifest _ w inv ⟨last, _⟩
  have whole := (office outer).trans relied ((office outer).trans later ((office outer).trans after last))
  exact writeState_endures key _ (whole.1 _ _ persisted) same (fun _ => ⟨outputs, invoked.later whole.2, rfl⟩) inv

/-- The guarded part neither loses the handle nor records a success that was not earned. -/
theorem execute_endures (key : Digest) (task : PyFields) (profile : ComputeProfile) (handle : JobHandle)
    (persisted : Persisted s key handle) (same : handle.idempotencyKey = key) :
    (office outer).Endures (fun _ _ _ => True) (fun _ _ _ => True) (execute key task profile handle) () s := by
  refine Interference.endures_ask fun t relied _ => ⟨trivial, fun reply u acted inv moved => ?_⟩
  obtain ⟨_, rfl⟩ := acted
  cases reply with
  | raised exception => exact Interference.endures_pure fun _ _ _ => trivial
  | returned items =>
    dsimp only
    split
    · exact Interference.endures_pure fun _ _ _ => trivial
    · rename_i outputs accepted
      have invoked : Invoked { t with log := t.log ++ [⟨.run key task profile handle.jobId, .returned items⟩] } key outputs :=
        ⟨task, profile, handle.jobId, items, List.mem_append_right _ (List.mem_singleton_self _), accepted⟩
      have whole := (office outer).trans relied moved
      refine Interference.endures_tryCatch inv ?_
      refine Interference.endures_bind inv (Interference.endures_mono
        (succeed_endures key handle outputs (whole.1 _ _ persisted) same invoked inv) ?_ ?_)
      · exact fun _ _ _ _ _ => Interference.endures_pure fun _ _ _ _ _ _ => trivial
      · exact fun _ _ _ _ _ _ _ _ => Interference.endures_pure fun _ _ _ => trivial

theorem drive_endures (backend : ComputeBackend) (task : PyFields) (key : Digest) (handle : JobHandle)
    (persisted : Persisted s key handle) (same : handle.idempotencyKey = key) (holds : (office outer).inv s) :
    (office outer).Endures (fun returned _ t => returned = handle ∧ Persisted t key handle) (fun _ _ _ => True)
      (drive backend task key handle) () s := by
  refine Interference.endures_bind holds (Interference.endures_mono (Interference.endures_rely
    (writeState_endures key _ persisted same nofun holds)) ?_ fun _ _ _ _ _ _ _ _ => trivial)
  rintro _ _ t inv ⟨relied, _⟩
  refine Interference.endures_bind inv (Interference.endures_mono (Interference.endures_rely
    (execute_endures key task backend.profile handle (relied.1 _ _ persisted) same)) ?_ fun _ _ _ _ _ _ _ _ => trivial)
  rintro outcome _ u inv ⟨later, _⟩
  have there : Persisted u key handle := ((office outer).trans relied later).1 _ _ persisted
  cases outcome with
  | ok =>
    exact Interference.endures_pure fun v after _ => ⟨rfl, after.1 _ _ there⟩
  | error exception =>
    refine Interference.endures_bind inv (Interference.endures_mono (writeState_endures key _ there same nofun inv) ?_
      fun _ _ _ _ _ _ _ _ => trivial)
    intro _ _ v _ _
    split
    · exact Interference.endures_throw fun _ _ _ => trivial
    · exact Interference.endures_throw fun _ _ _ => trivial

/-! ### What is read of a state file -/

/-- A state that was read is that of a record with the handle that stays. -/
def Held (t : JobDisk) (key : Digest) (state : PyFields) : Prop :=
  ∃ record : JobRecord, state = record.frozen ∧ Persisted t key record.handle ∧ record.handle.idempotencyKey = key ∧
    Earned t key record

omit [DecimalText] in
theorem readJson_endures (key : Digest) :
    (office outer).Endures (fun state _ t => Held t key state) (fun _ _ _ => True) (readJson key) () s := by
  refine Interference.endures_ask fun t relied _ => ⟨trivial, fun found u _ _ _ => ?_⟩
  split
  · exact Interference.endures_throw fun _ _ _ => trivial
  · refine Interference.endures_ask fun t relied _ => ⟨trivial, fun found u _ _ _ => ?_⟩
    split
    · exact Interference.endures_throw fun _ _ _ => trivial
    · refine Interference.endures_ask fun t relied inv => ⟨trivial, fun reply u acted holds _ => ?_⟩
      obtain ⟨rfl, rfl⟩ := acted
      cases content : u.content (.job key) with
      | none => exact Interference.endures_throw fun _ _ _ => trivial
      | some raw =>
        obtain ⟨record, rfl, same, earned⟩ := inv key raw content
        refine Interference.endures_bind holds (Interference.endures_ofExcept ?_ fun _ _ _ _ _ _ _ _ => trivial)
        intro state v decoded later inv
        rw [record.decodeState_line, Except.ok.injEq] at decoded
        subst decoded
        refine Interference.endures_ask fun w after _ => ⟨trivial, fun reply x acted inv _ => ?_⟩
        obtain ⟨rfl, rfl⟩ := acted
        have whole := (office outer).trans later after
        cases again : x.content (.job key) with
        | none => exact Interference.endures_throw fun _ _ _ => trivial
        | some bytes =>
          refine Interference.endures_bind inv (Interference.endures_ofExcept ?_ fun _ _ _ _ _ _ _ _ => trivial)
          intro _ y _ more _
          refine Interference.endures_pure fun z last _ => ⟨record, rfl, ?_, same, ?_⟩
          · exact ((office outer).trans whole ((office outer).trans more last)).1 _ _ ⟨record, content, rfl⟩
          · exact earned.later ((office outer).trans whole ((office outer).trans more last)).2

omit [DecimalText] in
theorem loadExistingOrNone_endures (key : Digest) (handle : JobHandle) :
    (office outer).Endures
      (fun reply _ t => ∀ existing, reply = some existing → Persisted t key existing ∧ existing.sameJob handle = true)
      (fun _ _ _ => True) (loadExistingOrNone key handle) () s := by
  refine Interference.endures_ask fun t _ _ => ⟨trivial, fun found u _ inv _ => ?_⟩
  split
  · exact Interference.endures_pure fun _ _ _ => nofun
  · refine Interference.endures_bind inv (Interference.endures_mono (readJson_endures key) ?_ fun _ _ _ _ _ _ _ _ => trivial)
    rintro state _ v inv ⟨record, rfl, persisted, _, _⟩
    refine Interference.endures_bind inv (Interference.endures_ofExcept ?_ fun _ _ _ _ _ _ _ _ => trivial)
    intro existing w read later _
    rw [record.stateHandle_frozen, Except.ok.injEq] at read
    subst read
    split
    · exact Interference.endures_throw fun _ _ _ => trivial
    · rename_i same
      refine Interference.endures_pure fun x after _ existing returned => ?_
      obtain rfl := Option.some.inj returned
      refine ⟨after.1 _ _ (later.1 _ _ persisted), ?_⟩
      simp only [Bool.or_eq_true, Bool.not_eq_true', not_or, Bool.not_eq_false] at same
      exact same.1

omit [DecimalText] in
theorem newHandle_ok {backend : ComputeBackend} {task : PyFields} {key : Digest} {make : String → Except PyError JobHandle}
    {submittedAt : String} {handle : JobHandle} (prepared : newHandle backend task key = .ok make)
    (made : make submittedAt = .ok handle) : handle.idempotencyKey = key ∧ taskDigest task = .ok handle.taskDigest ∧
      backend.profile.digest = .ok handle.profileDigest := by
  obtain ⟨digest, digested, prepared⟩ := bind_ok.mp prepared
  obtain ⟨_, _, prepared⟩ := bind_ok.mp prepared
  obtain ⟨_, _, prepared⟩ := bind_ok.mp prepared
  obtain ⟨profileDigest, profiled, prepared⟩ := bind_ok.mp prepared
  obtain ⟨_, _, prepared⟩ := bind_ok.mp prepared
  cases prepared
  obtain ⟨_, _, made⟩ := bind_ok.mp made
  cases made
  exact ⟨rfl, digested, profiled⟩

omit [Sha256] [PrintableText] [DecimalText] in
theorem sameJob_ok {a b : JobHandle} (same : a.sameJob b = true) : a.idempotencyKey = b.idempotencyKey ∧
    a.taskDigest = b.taskDigest ∧ a.profileDigest = b.profileDigest := by
  simp only [JobHandle.sameJob, Bool.and_eq_true, decide_eq_true_eq] at same
  exact ⟨same.1.1.2, same.1.1.1.2, same.1.1.1.1.2⟩

/-- The handle a submission returns is the one that stays, of its own task and profile. -/
def Own (t : JobDisk) (backend : ComputeBackend) (task : PyFields) (idempotencyKey : String) (handle : JobHandle) : Prop :=
  validateDigestReference "idempotency_key" idempotencyKey = .ok handle.idempotencyKey ∧
    Persisted t handle.idempotencyKey handle ∧ taskDigest task = .ok handle.taskDigest ∧
    backend.profile.digest = .ok handle.profileDigest

theorem submit_endures (backend : ComputeBackend) (task : PyFields) (idempotencyKey : String) (holds : (office outer).inv s) :
    (office outer).Endures (fun handle _ t => Own t backend task idempotencyKey handle) (fun _ _ _ => True)
      (submit backend task idempotencyKey) () s := by
  refine Interference.endures_bind holds (Interference.endures_ofExcept ?_ fun _ _ _ _ _ _ _ _ => trivial)
  intro key t validated _ inv
  refine Interference.endures_bind inv (Interference.endures_ofExcept ?_ fun _ _ _ _ _ _ _ _ => trivial)
  intro make u prepared _ inv
  refine Interference.endures_bind inv (Interference.endures_mono (endures_quiet (Task.only_ask fun _ => rfl)) ?_
    fun _ _ _ _ _ _ _ _ => trivial)
  intro submittedAt _ v inv _
  refine Interference.endures_bind inv (Interference.endures_ofExcept ?_ fun _ _ _ _ _ _ _ _ => trivial)
  intro handle w made _ inv
  obtain ⟨rfl, ownTask, ownProfile⟩ := newHandle_ok prepared made
  -- a handle that was found shares the key, the task and the profile
  have adopted {t : JobDisk} {existing : JobHandle} (persisted : Persisted t handle.idempotencyKey existing)
      (same : existing.sameJob handle = true) : Own t backend task idempotencyKey existing := by
    obtain ⟨key, digest, profile⟩ := sameJob_ok same
    rw [Own, key, digest, profile]
    exact ⟨validated, persisted, ownTask, ownProfile⟩
  refine Interference.endures_bind inv (Interference.endures_mono (loadExistingOrNone_endures _ handle) ?_
    fun _ _ _ _ _ _ _ _ => trivial)
  intro found _ x inv exists'
  cases found with
  | some existing =>
    obtain ⟨persisted, same⟩ := exists' existing rfl
    exact Interference.endures_pure fun y later _ => adopted (later.1 _ _ persisted) same
  | none =>
    dsimp only
    split
    · exact Interference.endures_throw fun _ _ _ => trivial
    · refine Interference.endures_bind inv (Interference.endures_ofExcept ?_ fun _ _ _ _ _ _ _ _ => trivial)
      intro payload y encoded _ _
      obtain rfl : (JobRecord.create handle).line = payload :=
        Except.ok.inj ((JobRecord.create handle).payload_eq.symm.trans encoded)
      refine Interference.endures_ask fun z _ _ => ⟨⟨handle, rfl, rfl⟩, fun linked t acted inv _ => ?_⟩
      obtain ⟨rfl, rfl⟩ := acted
      split
      · rename_i absent
        have persisted : Persisted (z.link (.job handle.idempotencyKey) (JobRecord.create handle).line)
            handle.idempotencyKey handle := by
          refine ⟨.create handle, ?_, rfl⟩
          rw [Disk.link_there, Option.isNone_iff_eq_none.mp absent]
          rfl
        refine Interference.endures_mono (drive_endures backend task _ handle persisted rfl inv) ?_ fun _ _ _ _ _ => trivial
        rintro _ _ u _ ⟨rfl, there⟩
        exact ⟨validated, there, ownTask, ownProfile⟩
      · refine Interference.endures_bind inv (Interference.endures_mono (loadExistingOrNone_endures _ handle) ?_
          fun _ _ _ _ _ _ _ _ => trivial)
        intro found _ u inv exists'
        cases found with
        | some existing =>
          obtain ⟨persisted, same⟩ := exists' existing rfl
          exact Interference.endures_pure fun v later _ => adopted (later.1 _ _ persisted) same
        | none => exact Interference.endures_throw fun _ _ _ => trivial

/-! ### Collection -/

omit [Sha256] [PrintableText] [DecimalText] in
theorem state_frozen {record : JobRecord} {state : JobState}
    (reached : (pyGet record.frozen "state" .null).equal (.str (PyText.ofString state.value)) = true) : record.state = state := by
  have found := record.lookup_frozen "state" rfl
  rw [pyGet, found, Option.getD_some] at reached
  simp only [PyValue.canon, PyValue.equal, beq_iff_eq] at reached
  have values := PyText.ofString_injective reached
  generalize record.state = other at values ⊢
  cases other <;> cases state <;> first
    | rfl
    | exact absurd values (by decide)

/-- What `collect` returns is what one invocation for the handle's key returned. -/
def Collected (t : JobDisk) (handle : JobHandle) (bundle : ArtifactBundle) : Prop :=
  ∃ outputs, Invoked t handle.idempotencyKey outputs ∧ bundle.outputs = outputs.map outputRef ∧
    Persisted t handle.idempotencyKey handle

omit [DecimalText] in
theorem stateForHandle_endures (backend : ComputeBackend) (handle : JobHandle) (holds : (office outer).inv s) :
    (office outer).Endures (fun state _ t => ∃ record : JobRecord, state = record.frozen ∧
      Persisted t handle.idempotencyKey handle ∧ Earned t handle.idempotencyKey record) (fun _ _ _ => True)
      (stateForHandle backend handle) () s := by
  unfold stateForHandle
  dsimp only
  split
  · exact Interference.endures_throw fun _ _ _ => trivial
  · refine Interference.endures_bind holds (Interference.endures_ofExcept ?_ fun _ _ _ _ _ _ _ _ => trivial)
    intro digest t _ _ inv
    split
    · exact Interference.endures_throw fun _ _ _ => trivial
    · refine Interference.endures_bind inv (Interference.endures_mono (readJson_endures _) ?_ fun _ _ _ _ _ _ _ _ => trivial)
      rintro state _ u inv ⟨record, rfl, persisted, _, earned⟩
      refine Interference.endures_bind inv (Interference.endures_ofExcept ?_ fun _ _ _ _ _ _ _ _ => trivial)
      intro existing v read later _
      rw [record.stateHandle_frozen, Except.ok.injEq] at read
      subst read
      split
      · exact Interference.endures_throw fun _ _ _ => trivial
      · rename_i same
        rw [ne_eq, Decidable.not_not] at same
        split
        · exact Interference.endures_throw fun _ _ _ => trivial
        · refine Interference.endures_pure fun w after _ => ⟨record, rfl, ?_, ?_⟩
          · have persisted := after.1 _ _ (later.1 _ _ persisted)
            rwa [same] at persisted
          · exact earned.later (later.2.trans after.2)

theorem collect_endures (backend : ComputeBackend) (handle : JobHandle) (holds : (office outer).inv s) :
    (office outer).Endures (fun bundle _ t => Collected t handle bundle) (fun _ _ _ => True) (collect backend handle) () s := by
  refine Interference.endures_bind holds (Interference.endures_mono (stateForHandle_endures backend handle holds) ?_
    fun _ _ _ _ _ _ _ _ => trivial)
  rintro state _ t inv ⟨record, rfl, persisted, earned⟩
  dsimp only
  split
  · exact Interference.endures_throw fun _ _ _ => trivial
  · rename_i reached
    simp only [Bool.not_eq_true', Bool.not_eq_false] at reached
    obtain ⟨outputs, invoked, own⟩ := earned (state_frozen reached)
    refine Interference.endures_bind inv (Interference.endures_ofExcept ?_ fun _ _ _ _ _ _ _ _ => trivial)
    intro refs u read relied inv
    obtain rfl := record.outputRefs_frozen read
    have done (t : JobDisk) (relied' : (office outer).rely u t) (bundle : ArtifactBundle) (same : bundle.outputs = record.outputs) :
        Collected t handle bundle := by
      have whole := (office outer).trans relied relied'
      exact ⟨outputs, invoked.later whole.2, same.trans own, whole.1 _ _ persisted⟩
    split
    · refine Interference.endures_bind inv (Interference.endures_mono (Interference.endures_rely (endures_quiet
        (Task.only_tryCatch (Task.only_bind (Task.only_ofExcept _) fun _ => verify_quiet _) fun _ => Task.only_throw _))) ?_
        fun _ _ _ _ _ _ _ _ => trivial)
      rintro manifest _ v inv ⟨later, _⟩
      split
      · exact Interference.endures_throw fun _ _ _ => trivial
      · refine Interference.endures_bind inv (Interference.endures_mono (Interference.endures_rely
          (endures_quiet (read_quiet _))) ?_ fun _ _ _ _ _ _ _ _ => trivial)
        rintro raw _ w inv ⟨after, _⟩
        refine Interference.endures_bind inv (Interference.endures_ofExcept ?_ fun _ _ _ _ _ _ _ _ => trivial)
        intro fields x _ more inv
        split
        · exact Interference.endures_throw fun _ _ _ => trivial
        · split
          · refine Interference.endures_bind inv (Interference.endures_mono (Interference.endures_rely
              (endures_quiet (manifestRefs_quiet _))) ?_ fun _ _ _ _ _ _ _ _ => trivial)
            rintro refs _ y _ ⟨last, _⟩
            split
            · exact Interference.endures_throw fun _ _ _ => trivial
            · refine Interference.endures_pure fun z final _ => done z ?_ _ rfl
              exact (office outer).trans later ((office outer).trans after ((office outer).trans more
                ((office outer).trans last final)))
          · exact Interference.endures_throw fun _ _ _ => trivial
    · exact Interference.endures_throw fun _ _ _ => trivial

/-! ### One invocation for a key -/

/-- The link of a key's state file permits one invocation of the runner for it. -/
def runPermit (key : Digest) : Permit (files Path Bytes computeHost) where
  grants
    | .link path _, linked => decide (path = .job key) && linked
    | _, _ => false
  uses
    | .outside op => invokes key op
    | _ => false

omit [Sha256] [PrintableText] [DecimalText] in
theorem neutral_of_quiet {key : Digest} {op : (files Path Bytes computeHost).Op} (quiet : Quiet op) :
    (runPermit key).Neutral op := by
  cases op with
  | test | read => exact ⟨rfl, fun _ => rfl⟩
  | link path file =>
    refine ⟨rfl, fun linked => ?_⟩
    cases path with
    | job other => exact quiet.elim
    | object | metadata | entry | body =>
      simp only [runPermit]
      rw [decide_eq_false nofun]
      rfl
  | replace => exact quiet.elim
  | outside op => exact ⟨quiet key, fun _ => rfl⟩

variable {key other : Digest}

omit [Sha256] [PrintableText] [DecimalText] in
/-- A quiet program has no use for the permit. -/
theorem obeys_quiet {ensures : α → Bool → Prop} {held : Bool} {m : JobProcess α} (quiet : m.Only Quiet)
    (anything : ∀ value, ensures value held) : (runPermit key).Obeys ensures held m :=
  Permit.obeys_of_only (Task.only_weaken (fun _ => neutral_of_quiet) quiet) anything

omit [Sha256] [PrintableText] [DecimalText] in
theorem readJson_quiet : (readJson other).Only Quiet :=
  only_readable trivial trivial fun raw => Task.only_bind (Task.only_ofExcept _) fun value =>
    Task.only_bind (Task.only_ask trivial) fun again => by
      cases again with
      | none => exact Task.only_throw _
      | some again => exact Task.only_bind (Task.only_ofExcept _) fun _ => Task.only_pure _

omit [Sha256] [DecimalText] in
theorem loadExistingOrNone_quiet (handle : JobHandle) : (loadExistingOrNone other handle).Only Quiet := by
  refine Task.only_bind (Task.only_ask trivial) fun found => ?_
  split
  · exact Task.only_pure _
  · refine Task.only_bind readJson_quiet fun state => Task.only_bind (Task.only_ofExcept _) fun persisted => ?_
    split
    · exact Task.only_throw _
    · exact Task.only_pure _

omit [Sha256] [PrintableText] [DecimalText] in
theorem writeState_neutral (record : JobRecord) : (writeState other record).Only (runPermit key).Neutral :=
  Task.only_bind (Task.only_ofExcept _) fun _ => Task.only_ask ⟨rfl, fun _ => rfl⟩

theorem publishOutputs_quiet : ∀ outputs : List ComputeOutput, (publishOutputs outputs).Only Quiet
  | [] => Task.only_pure _
  | _ :: outputs => Task.only_bind (put_quiet _) fun _ =>
      Task.only_bind (publishOutputs_quiet outputs) fun _ => Task.only_pure _

theorem succeed_neutral (handle : JobHandle) (outputs : List ComputeOutput) :
    (succeed other handle outputs).Only (runPermit key).Neutral := by
  have quiet {α : Type} {m : JobProcess α} (only : m.Only Quiet) : m.Only (runPermit key).Neutral :=
    Task.only_weaken (fun _ => neutral_of_quiet) only
  exact Task.only_bind (quiet (publishOutputs_quiet _)) fun _ => Task.only_bind (quiet (manifestEntries_quiet _)) fun _ =>
    Task.only_bind (Task.only_ofExcept _) fun _ => Task.only_bind (quiet (put_quiet _)) fun _ => writeState_neutral _

theorem execute_obeys (task : PyFields) (profile : ComputeProfile) (handle : JobHandle) (held : Bool)
    (permitted : other = key → held = true) :
    (runPermit key).Obeys (fun _ _ => True) held (execute other task profile handle) := by
  refine Permit.obeys_ask (fun used => permitted (of_decide_eq_true used)) fun reply => ?_
  cases reply with
  | raised exception => exact Permit.obeys_pure trivial
  | returned items =>
    dsimp only
    split
    · exact Permit.obeys_pure trivial
    · exact Permit.obeys_tryCatch (Permit.obeys_bind (Permit.obeys_of_only (succeed_neutral _ _) fun _ =>
        Permit.obeys_pure trivial)) fun _ _ => Permit.obeys_pure trivial

/-- The winner of the link invokes the runner once. -/
theorem drive_obeys (backend : ComputeBackend) (task : PyFields) (handle : JobHandle) (held : Bool)
    (permitted : other = key → held = true) :
    (runPermit key).Obeys (fun _ _ => True) held (drive backend task other handle) := by
  refine Permit.obeys_bind (Permit.obeys_of_only (writeState_neutral _) fun _ => ?_)
  refine Permit.obeys_bind (Permit.obeys_mono (execute_obeys task backend.profile handle held permitted) ?_)
  intro outcome held _
  cases outcome with
  | ok => exact Permit.obeys_pure trivial
  | error exception =>
    refine Permit.obeys_of_only (Task.only_bind (writeState_neutral _) fun _ => ?_) fun _ => trivial
    split
    · exact Task.only_throw _
    · exact Task.only_throw _

theorem submit_obeys (backend : ComputeBackend) (task : PyFields) (idempotencyKey : String) :
    (runPermit key).Obeys (fun _ _ => True) false (submit backend task idempotencyKey) := by
  refine Permit.obeys_bind (obeys_quiet (Task.only_ofExcept _) fun other => ?_)
  refine Permit.obeys_bind (obeys_quiet (Task.only_ofExcept _) fun make => ?_)
  refine Permit.obeys_bind (obeys_quiet (Task.only_ask fun _ => rfl) fun submittedAt => ?_)
  refine Permit.obeys_bind (obeys_quiet (Task.only_ofExcept _) fun handle => ?_)
  refine Permit.obeys_bind (obeys_quiet (loadExistingOrNone_quiet handle) fun found => ?_)
  cases found with
  | some existing => exact Permit.obeys_pure trivial
  | none =>
    dsimp only
    split
    · exact Permit.obeys_throw
    · refine Permit.obeys_bind (obeys_quiet (Task.only_ofExcept _) fun payload => ?_)
      refine Permit.obeys_ask (fun used => by cases used) fun linked => ?_
      split
      · rename_i won
        exact drive_obeys backend task handle _ fun same => by simp [runPermit, same, won]
      · refine Permit.obeys_bind (obeys_quiet (loadExistingOrNone_quiet handle) fun found => ?_)
        cases found with
        | some existing => exact Permit.obeys_pure trivial
        | none => exact Permit.obeys_throw

theorem collect_quiet (backend : ComputeBackend) (handle : JobHandle) : (collect backend handle).Only Quiet := by
  refine Task.only_bind ?_ fun state => ?_
  · unfold stateForHandle
    dsimp only
    split
    · exact Task.only_throw _
    · refine Task.only_bind (Task.only_ofExcept _) fun digest => ?_
      split
      · exact Task.only_throw _
      · refine Task.only_bind readJson_quiet fun state => Task.only_bind (Task.only_ofExcept _) fun persisted => ?_
        split
        · exact Task.only_throw _
        · split
          · exact Task.only_throw _
          · exact Task.only_pure _
  · dsimp only
    split
    · exact Task.only_throw _
    · refine Task.only_bind (Task.only_ofExcept _) fun refs => ?_
      split
      · refine Task.only_bind (Task.only_tryCatch (Task.only_bind (Task.only_ofExcept _) fun _ => verify_quiet _) fun _ =>
          Task.only_throw _) fun record => ?_
        split
        · exact Task.only_throw _
        · refine Task.only_bind (read_quiet _) fun raw => Task.only_bind (Task.only_ofExcept _) fun manifest => ?_
          split
          · exact Task.only_throw _
          · split
            · refine Task.only_bind (manifestRefs_quiet _) fun refs => ?_
              split
              · exact Task.only_throw _
              · exact Task.only_pure _
            · exact Task.only_throw _
      · exact Task.only_throw _

/-! ### Calls of the backend -/

inductive JobCall where
  | submit (backend : ComputeBackend) (task : PyFields) (idempotencyKey : String)
  | collect (backend : ComputeBackend) (handle : JobHandle)

inductive JobReply where
  | handle (handle : JobHandle)
  | bundle (bundle : ArtifactBundle)

def JobCall.process : JobCall → JobProcess JobReply
  | .submit backend task idempotencyKey => do return .handle (← ComputeBackend.submit backend task idempotencyKey)
  | .collect backend handle => do return .bundle (← ComputeBackend.collect backend handle)

def JobCall.code (call : JobCall) : Prog (files Path Bytes computeHost) (Except PyError JobReply × Unit) := call.process ()

abbrev JobRun := Pool (files Path Bytes computeHost) JobCall (Except PyError JobReply × Unit) JobDisk

/-- A history of the backend's processes, whatever the clocks say and the runner does. -/
abbrev JobRun.Reach (P Q : JobRun) : Prop := Pool.Reach (Disk.machine fun _ _ => True) JobCall.code P Q

/-- What a call knows from its return on. -/
def JobCall.Known (t : JobDisk) : JobCall → JobReply → Prop
  | .submit backend task idempotencyKey, .handle handle => Own t backend task idempotencyKey handle
  | .collect _ handle, .bundle bundle => Collected t handle bundle
  | _, _ => False

/-- The invocations of the runner for a key. -/
def invocations (d : JobDisk) (key : Digest) : List ((op : computeHost.Op) × computeHost.Reply op) :=
  d.log.filter fun entry => invokes key entry.1

abbrev lawless : (op : computeHost.Op) → computeHost.Reply op → Prop := fun _ _ => True

theorem JobCall.endures (call : JobCall) {s : JobDisk} (holds : (office lawless).inv s) :
    (office lawless).Endures (fun reply _ t => call.Known t reply) (fun _ _ _ => True) call.process () s := by
  cases call with
  | submit backend task idempotencyKey =>
    refine Interference.endures_bind holds (Interference.endures_mono (submit_endures backend task idempotencyKey holds) ?_
      fun _ _ _ _ _ _ _ _ => trivial)
    rintro handle _ t _ ⟨validated, persisted, ownTask, ownProfile⟩
    exact Interference.endures_pure fun u later _ => ⟨validated, later.1 _ _ persisted, ownTask, ownProfile⟩
  | collect backend handle =>
    refine Interference.endures_bind holds (Interference.endures_mono (collect_endures backend handle holds) ?_
      fun _ _ _ _ _ _ _ _ => trivial)
    rintro bundle _ t _ ⟨outputs, invoked, same, persisted⟩
    exact Interference.endures_pure fun u later _ => ⟨outputs, invoked.later later.2, same, later.1 _ _ persisted⟩

theorem JobCall.obeys (call : JobCall) (key : Digest) : (runPermit key).Honours (fun _ _ => True) false call.code := by
  have task {m : JobProcess JobReply} (obeys : (runPermit key).Obeys (fun _ _ => True) false m) :
      (runPermit key).Honours (fun _ _ => True) false (m ()) := Permit.honours_mono (fun _ _ _ => trivial) (obeys ())
  cases call with
  | submit backend task' idempotencyKey =>
    refine task (Permit.obeys_bind ?_)
    intro memory
    exact Permit.honours_mono (fun _ _ _ _ _ => Permit.obeys_pure trivial) (submit_obeys backend task' idempotencyKey memory)
  | collect backend handle =>
    exact task (obeys_quiet (Task.only_bind (collect_quiet backend handle) fun _ => Task.only_pure _) fun _ => trivial)

/-- A root without jobs. -/
def Unused (d : JobDisk) : Prop := ∀ key, d.content (.job key) = none ∧ invocations d key = []

omit [Sha256] [PrintableText] [DecimalText] in
/-- A step that invokes the runner for the key, or links its state file, takes a permit. -/
theorem invocations_balance {key : Digest} {op : (files Path Bytes computeHost).Op} {s t : JobDisk}
    {reply : (files Path Bytes computeHost).Reply op} (acted : Disk.act lawless op s reply t) :
    (invocations t key).length + ((t.content (.job key)).isNone).toNat + ((runPermit key).grants op reply).toNat ≤
      (invocations s key).length + ((s.content (.job key)).isNone).toNat + ((runPermit key).uses op).toNat := by
  cases op with
  | test | read =>
    obtain ⟨_, rfl⟩ := acted
    exact Nat.le_refl _
  | link path file =>
    obtain ⟨rfl, rfl⟩ := acted
    by_cases here : path = .job key
    · subst here
      simp [runPermit, invocations, Disk.link]
    · have other : ¬ Path.job key = path := fun same => here same.symm
      simp [runPermit, invocations, here, Disk.link, other]
  | replace path file =>
    obtain rfl := acted
    by_cases here : path = .job key
    · subst here
      simp [runPermit, invocations, Disk.replace]
    · have other : ¬ Path.job key = path := fun same => here same.symm
      simp [runPermit, invocations, Disk.replace, other]
  | outside op =>
    obtain ⟨_, rfl⟩ := acted
    cases used : invokes key op
    · simp [runPermit, invocations, used]
    · simp [runPermit, invocations, used]
      omega

theorem invoked_once {d : JobDisk} {Q : JobRun} (unused : Unused d) (reach : JobRun.Reach (Pool.start d) Q) (key : Digest) :
    (invocations Q.state key).length ≤ 1 := by
  have bound := Permit.balance (T := runPermit key) (fun d => ((d.content (.job key)).isNone).toNat)
    (fun d => (invocations d key).length) (fun acted => invocations_balance acted) (fun call => call.obeys key) reach
  obtain ⟨absent, none⟩ := unused key
  simp only [absent, none, List.length_nil, Option.isNone_none, Bool.toNat_true] at bound
  omega

/-- What the calls of a backend know together. -/
theorem JobRun.known {d : JobDisk} {P Q : JobRun} (unused : Unused d) (before : JobRun.Reach (Pool.start d) P)
    (after : JobRun.Reach P Q) : (∀ key handle, Persisted P.state key handle → Persisted Q.state key handle) ∧
      ∀ i call reply, Q.Returned i call (.ok reply, ()) → call.Known Q.state reply := by
  have fresh : (office lawless).inv d := fun key payload found => by
    rw [(unused key).1] at found
    cases found
  let post (_ : Nat) (call : JobCall) := Task.outcome (fun reply (_ : Unit) (t : JobDisk) => call.Known t reply)
    fun (_ : PyError) _ _ => True
  obtain ⟨holds, _, kept⟩ := (office lawless).pool post before fresh
    (fun _ _ absent => by simp [Pool.start] at absent) fun i call s _ _ _ inv => call.endures inv
  obtain ⟨inv, relied, each⟩ := (office lawless).pool post after holds kept fun i call s _ _ _ inv => call.endures inv
  exact ⟨relied.1, fun i call reply returned => each i _ returned _ ((office lawless).refl _) inv⟩

end OnDisk.ComputeBackend

open OnDisk.ComputeBackend in
/-- Whatever submissions and collections run together over one root, wherever they are
interrupted and whatever the runner does: it is invoked at most once for a key, every handle
that is returned is the one in the state file, of the caller's own task and profile, and
only outputs of that invocation are collected. -/
theorem jobs_run_once [Sha256] [PrintableText] [DecimalText] {d : JobDisk} {P Q : JobRun} (unused : Unused d)
    (before : JobRun.Reach (Pool.start d) P) (after : JobRun.Reach P Q) :
    (∀ key, (invocations Q.state key).length ≤ 1) ∧
    (∀ key handle, Persisted P.state key handle → Persisted Q.state key handle) ∧
    (∀ i backend task idempotencyKey handle, P.Returned i (.submit backend task idempotencyKey) (.ok (.handle handle), ()) →
      validateDigestReference "idempotency_key" idempotencyKey = .ok handle.idempotencyKey ∧
      Persisted P.state handle.idempotencyKey handle ∧ taskDigest task = .ok handle.taskDigest ∧
      backend.profile.digest = .ok handle.profileDigest) ∧
    (∀ i backend task idempotencyKey key persisted value, validateDigestReference "idempotency_key" idempotencyKey = .ok key →
      Persisted Q.state key persisted →
      taskDigest task ≠ .ok persisted.taskDigest ∨ backend.profile.digest ≠ .ok persisted.profileDigest →
      Q.Returned i (.submit backend task idempotencyKey) value → ∃ error, value = (.error error, ())) ∧
    ∀ i backend handle bundle, Q.Returned i (.collect backend handle) (.ok (.bundle bundle), ()) →
      Persisted Q.state handle.idempotencyKey handle ∧ ∃ task profile jobId items outputs,
        invocations Q.state handle.idempotencyKey = [⟨.run handle.idempotencyKey task profile jobId, .returned items⟩] ∧
        acceptOutputs items = .ok outputs ∧ bundle.outputs = outputs.map outputRef := by
  obtain ⟨kept, known⟩ := JobRun.known unused before after
  have once := invoked_once unused (before.trans after)
  refine ⟨once, kept, fun i backend task idempotencyKey handle returned => ?_,
    fun i backend task idempotencyKey key persisted value validated held differs returned => ?_,
    fun i backend handle bundle returned => ?_⟩
  · exact (JobRun.known unused before .refl).2 i _ _ returned
  · rcases value with ⟨error | reply, _⟩
    · exact ⟨error, rfl⟩
    · have own := known i _ reply returned
      cases reply with
      | bundle => exact own.elim
      | handle handle =>
        obtain ⟨validated', held', ownTask, ownProfile⟩ := own
        obtain rfl := Except.ok.inj (validated.symm.trans validated')
        obtain rfl := held.unique held'
        rcases differs with task | profile
        · exact absurd ownTask task
        · exact absurd ownProfile profile
  · obtain ⟨outputs, ⟨task, profile, jobId, items, member, accepted⟩, same, persisted⟩ := known i _ _ returned
    refine ⟨persisted, task, profile, jobId, items, outputs, ?_, accepted, same⟩
    have listed : (⟨.run handle.idempotencyKey task profile jobId, .returned items⟩ :
        (op : computeHost.Op) × computeHost.Reply op) ∈ invocations Q.state handle.idempotencyKey :=
      List.mem_filter.mpr ⟨member, by simp [invokes]⟩
    have bound := once handle.idempotencyKey
    match only : invocations Q.state handle.idempotencyKey with
    | [] => simp [only] at listed
    | [entry] =>
      rw [only, List.mem_singleton] at listed
      rw [listed]
    | _ :: _ :: _ => simp [only] at bound

/-! ### A race of two submissions -/

namespace Sample
attribute [local instance] standardSha256 asciiPrintable asciiDecimal

open OnDisk OnDisk.ComputeBackend

def profile : ComputeProfile :=
  ⟨⟨"br1", by decide⟩, ⟨"1", isIdentifier_one⟩, .local, PyText.ofString "local", PyText.ofString "worker:br1",
    PyText.ofString "environment:br1", emptyMapping, none⟩

def backend : ComputeBackend := ⟨profile, true⟩

def jobTask (stage : String) : PyFields := [(PyText.ofString "stage", .str (PyText.ofString stage))]

def jobKey : String := (sha256Bytes [3]).text

def submission (stage : String) : JobCall := .submit backend (jobTask stage) jobKey

def sampleReply : (op : computeHost.Op) → computeHost.Reply op
  | .now => epoch
  | .clock => "2024-01-01T00:00:00Z"
  | .run _ _ _ _ => .returned [.output ⟨⟨"model", by decide⟩, [4, 5], PyText.ofString "text/plain", none, none⟩]

/-- Both find no state file; the first one links it, and a third asks for another task. -/
def rivals : List (Pool.Turn JobCall) :=
  [.start (submission "train"), .start (submission "train"), .start (submission "predict")] ++ moves 0 2 ++ moves 1 2 ++
    moves 0 1 ++ moves 1 1 ++ moves 0 37 ++ moves 1 5 ++ moves 2 6

def thenCollect (handle : JobHandle) : List (Pool.Turn JobCall) := .start (.collect backend handle) :: moves 3 25

def playJobs (turns : List (Pool.Turn JobCall)) (P : JobRun) : Option JobRun :=
  Pool.play (Disk.answer sampleReply) JobCall.code turns P

theorem reach_of_playJobs {turns : List (Pool.Turn JobCall)} {P Q : JobRun} (played : playJobs turns P = some Q) :
    JobRun.Reach P Q :=
  Pool.reach_of_play (Disk.act_of_answer fun _ => trivial) played

/-- What the call of this number returned. -/
def outcomeAt (P : JobRun) (i : Nat) : Option (Except PyError JobReply) :=
  match P.threads[i]? with
  | some ⟨_, .ret (value, _)⟩ => some value
  | _ => none

theorem returned_of_outcomeAt (call : JobCall) {P : JobRun} {i : Nat} {value : Except PyError JobReply}
    (outcome : outcomeAt P i = some value) (label : (P.threads.map Thread.label)[i]? = some call) :
    P.Returned i call (value, ()) := by
  obtain ⟨thread, found, rfl⟩ := Option.map_eq_some_iff.mp (List.getElem?_map .. ▸ label)
  unfold outcomeAt at outcome
  split at outcome
  · rename_i found'
    obtain rfl := Option.some.inj (found.symm.trans found')
    cases outcome
    exact found
  · cases outcome

def handleAt (P : JobRun) (i : Nat) : Option JobHandle :=
  match outcomeAt P i with
  | some (.ok (.handle handle)) => some handle
  | _ => none

theorem outcomeAt_of_handleAt {P : JobRun} {i : Nat} {handle : JobHandle} (found : handleAt P i = some handle) :
    outcomeAt P i = some (.ok (.handle handle)) := by
  unfold handleAt at found
  split at found
  · rename_i same
    cases found
    exact same
  · cases found

def bundleAt (P : JobRun) (i : Nat) : Option ArtifactBundle :=
  match outcomeAt P i with
  | some (.ok (.bundle bundle)) => some bundle
  | _ => none

theorem outcomeAt_of_bundleAt {P : JobRun} {i : Nat} {bundle : ArtifactBundle} (found : bundleAt P i = some bundle) :
    outcomeAt P i = some (.ok (.bundle bundle)) := by
  unfold bundleAt at found
  split at found
  · rename_i same
    cases found
    exact same
  · cases found

/-- Both get the one handle, and its outputs are those of the one invocation. -/
theorem jobs_run_once_raced : ∃ P Q : JobRun, ∃ handle bundle invocation, JobRun.Reach (Pool.start Disk.empty) P ∧
    JobRun.Reach P Q ∧ P.Returned 0 (submission "train") (.ok (.handle handle), ()) ∧
    P.Returned 1 (submission "train") (.ok (.handle handle), ()) ∧
    Q.Returned 3 (.collect backend handle) (.ok (.bundle bundle), ()) ∧
    invocations Q.state handle.idempotencyKey = [invocation] ∧ bundle.outputs.map (·.name.text) = ["model"] := by
  have checked : ((playJobs rivals (Pool.start Disk.empty)).bind fun P => (handleAt P 0).bind fun handle =>
      (playJobs (thenCollect handle) P).bind fun Q => (bundleAt Q 3).map fun bundle =>
        (decide (handleAt P 1 = some handle), bundle.outputs.map (·.name.text))) = some (true, ["model"]) := by
    decide +kernel
  obtain ⟨P, played, checked⟩ := Option.bind_eq_some_iff.mp checked
  obtain ⟨handle, first, checked⟩ := Option.bind_eq_some_iff.mp checked
  obtain ⟨Q, playedOn, checked⟩ := Option.bind_eq_some_iff.mp checked
  obtain ⟨bundle, collected, checked⟩ := Option.map_eq_some_iff.mp checked
  obtain ⟨second, names⟩ := Prod.mk.inj checked
  have labels := Pool.labels_of_play played
  have labelsOn := Pool.labels_of_play playedOn
  rw [labels] at labelsOn
  have before := reach_of_playJobs played
  have after := reach_of_playJobs playedOn
  have returned := returned_of_outcomeAt (submission "train") (outcomeAt_of_handleAt first) (by rw [labels]; rfl)
  have returned' := returned_of_outcomeAt (submission "train")
    (outcomeAt_of_handleAt (of_decide_eq_true second)) (by rw [labels]; rfl)
  have bundled := returned_of_outcomeAt (.collect backend handle) (outcomeAt_of_bundleAt collected)
    (by rw [labelsOn]; rfl)
  obtain ⟨_, _, _, _, collects⟩ := jobs_run_once (fun _ => ⟨rfl, rfl⟩) before after
  obtain ⟨_, task, profile, jobId, items, _, only, _, _⟩ := collects 3 _ _ _ bundled
  exact ⟨P, Q, handle, bundle, _, before, after, returned, returned', bundled, only, names⟩

end Sample
end Molly
