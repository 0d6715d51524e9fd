import Molly.Disk.JobsOnce
import Molly.Oled.Texts

/-! The state writes of `submit` where any of them may raise, before or after its rename took effect,
and `inspect` of what they leave. -/
namespace Molly

/-! ### Inspection -/

structure JobStatus where
  handle : JobHandle
  state : JobState
  outputs : List ComputeOutputRef
  manifestArtifactId : Option ArtifactId
  errorType : Option Identifier

/-- `_state`. -/
def jobStateOf [CaseText] [PrintableText] (text : PyText) : Except PyError JobState :=
  match [JobState.submitted, .running, .succeeded, .failed, .interrupted].find? fun s => PyText.ofString s.value = text.strip.upper with
  | some state => .ok state
  | none => .error ⟨.compute, "unknown job state: " ++ (reprText text).display⟩

/-- `None` stays `None`; a text is checked, and nothing else is accepted. -/
def optionalOf (validate : String → Except PyError α) (other : PyError) : PyValue → Except PyError (Option α)
  | .null => .ok none
  | .str text => some <$> validate text.display
  | _ => .error other

namespace OnDisk.ComputeBackend
variable [Sha256] [PrintableText] [CaseText]

/-- `inspect`, of a state file that stays the same while it is read. -/
def inspect (backend : ComputeBackend) (handle : JobHandle) (raw : Bytes) : Except PyError JobStatus := do
  let unbound : PyError := ⟨.computeConflict, "JobHandle is bound to another compute profile"⟩
  ensure (handle.profileId = backend.profile.profileId) unbound
  let digest ← backend.profile.digest
  ensure (handle.profileDigest = digest) unbound
  let state ← decodeState raw
  assertCanonicalState state raw
  let persisted ← stateHandle state "durable state has malformed JobHandle"
  ensure (persisted = handle) ⟨.computeConflict, "JobHandle fields do not match durable state"⟩
  ensure (!otherTask state handle) ⟨.computeIntegrity, "durable task digest disagrees with JobHandle"⟩
  let reached ← pyItem state "state"
  let outputs ← outputRefs (pyGet state "outputs" (.arr [])) true
  let reached ← jobStateOf reached.toText
  let manifest ← optionalOf (validateArtifactId "artifact_id") ⟨.coreContract, "artifact_id must use the sha256:<digest> form"⟩
    (pyGet state "manifest_artifact_id" .null)
  let errorType ← optionalOf (validateIdentifier "error_type") ⟨.coreContract, "error_type must be a bounded identifier"⟩
    (pyGet state "error_type" .null)
  return ⟨handle, reached, outputs, manifest, errorType⟩

/-- The handle is bound to the backend's profile. -/
def OfBackend (backend : ComputeBackend) (handle : JobHandle) : Prop :=
  handle.profileId = backend.profile.profileId ∧ backend.profile.digest = .ok handle.profileDigest

omit [Sha256] in
theorem jobStateOf_value (state : JobState) : jobStateOf (PyText.ofString state.value) = .ok state := by
  have shape : ∀ word ∈ ["SUBMITTED", "RUNNING", "SUCCEEDED", "FAILED", "INTERRUPTED"],
      (PyText.ofString word).strip = PyText.ofString word ∧
        ((PyText.ofString word).all fun p => p.val < 128 && !(97 ≤ p.val && p.val ≤ 122)) = true := by decide +kernel
  obtain ⟨stripped, plain⟩ := shape state.value (by cases state <;> decide)
  rw [jobStateOf, stripped, PyText.upper_ascii plain]
  cases state <;> rfl

/-- A state file is inspected when no output name is there twice and the error type is an identifier. -/
theorem inspect_line {backend : ComputeBackend} {r : JobRecord} (own : OfBackend backend r.handle) {status : JobStatus} :
    inspect backend r.handle r.line = .ok status ↔ (r.outputs.map (·.name)).Nodup ∧
      ∃ errorType : Option Identifier, r.errorType = errorType.map Identifier.text ∧
        status = ⟨r.handle, r.state, r.outputs, r.manifestArtifactId, errorType⟩ := by
  have task : otherTask r.frozen r.handle = false := by
    have found := r.lookup_frozen "task_digest" rfl
    simp [otherTask, pyGet, found, PyValue.canon, PyValue.equal]
  have state : pyItem r.frozen "state" = .ok (.str (PyText.ofString r.state.value)) := by
    rw [pyItem, r.lookup_frozen "state" rfl]
    rfl
  have manifest : optionalOf (validateArtifactId "artifact_id") ⟨.coreContract, "artifact_id must use the sha256:<digest> form"⟩
      (pyGet r.frozen "manifest_artifact_id" .null) = .ok r.manifestArtifactId := by
    rw [pyGet, r.lookup_frozen "manifest_artifact_id" rfl, Option.getD_some, StoredEvent.canon_pyOptionalText]
    cases r.manifestArtifactId with
    | none => rfl
    | some id => simp [pyOptionalText, optionalOf, validateArtifactId_text, Functor.map, Except.map]
  have errorType (read : Option Identifier) : optionalOf (validateIdentifier "error_type")
      ⟨.coreContract, "error_type must be a bounded identifier"⟩ (pyGet r.frozen "error_type" .null) = .ok read ↔
        r.errorType = read.map Identifier.text := by
    rw [pyGet, r.lookup_frozen "error_type" rfl, Option.getD_some, StoredEvent.canon_pyOptionalText]
    cases r.errorType with
    | none => cases read <;> simp [pyOptionalText, optionalOf]
    | some name =>
      simp only [pyOptionalText, optionalOf, id, PyText.display_ofString, validateIdentifier]
      by_cases valid : isIdentifier name = true
      · cases read with
        | none => simp [valid, Functor.map, Except.map]
        | some other =>
          obtain ⟨text, ok⟩ := other
          simp [valid, Functor.map, Except.map]
      · cases read with
        | none => simp [valid, Functor.map, Except.map]
        | some other =>
          simp only [valid, Functor.map, Except.map, Option.map_some, Option.some.injEq]
          constructor
          · intro impossible
            cases impossible
          · rintro rfl
            exact absurd other.valid valid
  have passed (e : PyError) : ensure true e = .ok () := rfl
  simp only [inspect, own.1, own.2, bind, Except.bind, decide_true, passed, r.decodeState_line, r.assertCanonical_line,
    r.stateHandle_frozen, task, Bool.not_false, state, PyValue.toText, jobStateOf_value, manifest, r.outputRefs_line,
    Bool.not_true, Bool.false_and, Bool.false_or]
  by_cases distinct : (r.outputs.map (·.name)).Nodup
  · simp only [distinct, decide_true, Bool.not_true, Bool.false_eq_true, if_false, true_and]
    generalize optionalOf (validateIdentifier "error_type") _ _ = read at errorType
    cases read with
    | error e =>
      simp only [reduceCtorEq, false_iff]
      rintro ⟨name, listed, -⟩
      cases (errorType name).mpr listed
    | ok name =>
      simp only [pure, Except.pure, Except.ok.injEq]
      constructor
      · rintro rfl
        exact ⟨name, (errorType name).mp rfl, rfl⟩
      · rintro ⟨other, listed, rfl⟩
        cases (errorType other).mpr listed
        rfl
  · simp [distinct]

/-! ### Writes that may raise -/

/-- How a state write ends. An exception is known by the name of its type. -/
inductive Written where
  | done
  /-- It raised before the file was there. -/
  | lost (typeName : String)
  /-- It raised when the file was there already. -/
  | shown (typeName : String)

/-- The file after a write over it. -/
def Written.leaves (w : Written) (file : Option JobRecord) (record : JobRecord) : Option JobRecord :=
  match w with
  | .lost _ => file
  | .done | .shown _ => some record

/-- What comes of publishing the accepted outputs and their manifest. -/
inductive Publication where
  | published (manifest : ArtifactId)
  | raised (typeName : String)

/-- The guarded part of `submit` up to its state write: the references and the manifest, or the name of
the exception's type. -/
def guarded (reply : RunnerReply) (publication : Publication) : Except String (List ComputeOutputRef × ArtifactId) :=
  match reply with
  | .raised exception => .error exception.typeName
  | .returned items =>
    match acceptOutputs items with
    | .error exception => .error exception.typeName
    | .ok outputs =>
      match publication with
      | .raised typeName => .error typeName
      | .published manifest => .ok (outputs.map fun o => ⟨o.name, ⟨sha256Bytes o.content⟩⟩, manifest)

/-- What the `except` clause writes: the state is updated, and keeps the outputs and the manifest that it had. -/
def failedRecord (handle : JobHandle) (outputs : List ComputeOutputRef) (manifest : Option ArtifactId) (typeName : String) :
    JobRecord :=
  ⟨handle, .failed, outputs, manifest, some (if isErrorType typeName then typeName else "ComputeError")⟩

/-! ### One call -/

/-- What a call of `submit` does next. -/
inductive Phase where
  | looking (hasRunner : Bool) (handle : JobHandle)
  | linking (handle : JobHandle)
  /-- The state file is linked; the state RUNNING is written next. -/
  | starting (handle : JobHandle)
  | working (handle : JobHandle)
  | succeeding (handle : JobHandle) (outputs : List ComputeOutputRef) (manifest : ArtifactId)
  /-- The `except` clause; a manifest is there when the write of the state SUCCEEDED raised. -/
  | failing (handle : JobHandle) (outputs : List ComputeOutputRef) (manifest : Option ArtifactId) (typeName : String)
  | returned

/-- What a call meets outside. -/
inductive Reaction where
  | looked
  | wrote (written : Written)
  /-- The runner answered, and what it returned was published or not. -/
  | worked (reply : RunnerReply) (publication : Publication)
  /-- The process dies, or an exception ends the call outside the guarded part. -/
  | ended

/-- The next step of a call, and the state file after it. -/
def advance (file : Option JobRecord) : Phase → Reaction → Option (Phase × Option JobRecord)
  | .returned, _ => none
  | _, .ended => some (.returned, file)
  | .looking hasRunner handle, .looked => some (if file.isNone && hasRunner then .linking handle else .returned, file)
  | .linking handle, .wrote w =>
    -- a link over a file raises, and the existing job is read
    if file.isSome then some (.returned, file)
    else
      match w with
      | .done => some (.starting handle, some (JobRecord.create handle))
      | .shown _ => some (.returned, some (JobRecord.create handle))
      | .lost _ => some (.returned, file)
  | .starting handle, .wrote w =>
    some (match w with | .done => .working handle | _ => .returned, w.leaves file ⟨handle, .running, [], none, none⟩)
  | .working handle, .worked reply publication =>
    match guarded reply publication with
    | .error typeName => some (.failing handle [] none typeName, file)
    | .ok (outputs, manifest) => some (.succeeding handle outputs manifest, file)
  | .succeeding handle outputs manifest, .wrote w =>
    some (match w with
      | .done => .returned
      | .lost typeName | .shown typeName => .failing handle outputs (some manifest) typeName,
      w.leaves file ⟨handle, .succeeded, outputs, some manifest, none⟩)
  | .failing handle outputs manifest typeName, .wrote w => some (.returned, w.leaves file (failedRecord handle outputs manifest typeName))
  | _, _ => none

/-! ### Any number of calls -/

def Phase.handle : Phase → Option JobHandle
  | .looking _ handle | .linking handle | .starting handle | .working handle | .succeeding handle _ _ | .failing handle _ _ _ =>
    some handle
  | .returned => none

/-- The state files, each with the record its line is made of, and the calls of `submit`. -/
structure Jobs where
  file : Digest → Option JobRecord
  calls : List Phase

def Jobs.empty : Jobs := ⟨fun _ => none, []⟩

inductive JobEvent where
  | submit (backend : ComputeBackend) (task : PyFields) (idempotencyKey submittedAt : String)
  | move (i : Nat) (reaction : Reaction)

/-- The handle that a call of `submit` makes. -/
def handleOf (backend : ComputeBackend) (task : PyFields) (idempotencyKey submittedAt : String) : Except PyError JobHandle := do
  let key ← validateDigestReference "idempotency_key" idempotencyKey
  let make ← newHandle backend task key
  make submittedAt

def Jobs.step (s : Jobs) : JobEvent → Option Jobs
  | .submit backend task idempotencyKey submittedAt =>
    match handleOf backend task idempotencyKey submittedAt with
    | .error _ => some s
    | .ok handle => some { s with calls := s.calls ++ [.looking backend.hasRunner handle] }
  | .move i reaction =>
    match s.calls[i]? with
    | none => none
    | some phase =>
      match phase.handle with
      | none => none
      | some handle =>
        match advance (s.file handle.idempotencyKey) phase reaction with
        | none => none
        | some (phase', file') =>
          some ⟨fun key => if key = handle.idempotencyKey then file' else s.file key, s.calls.set i phase'⟩

def Jobs.run : Jobs → List JobEvent → Option Jobs
  | s, [] => some s
  | s, e :: events =>
    match s.step e with
    | none => none
    | some t => t.run events

attribute [local simp] Jobs.run

/-! ### What every step keeps -/

/-- The call has linked the state file of its job, and has not ended. -/
def Phase.drives : Phase → Bool
  | .starting _ | .working _ | .succeeding _ _ _ | .failing _ _ _ _ => true
  | _ => false

/-- What the state file of a driven job has in it. -/
def Phase.Left (file : Option JobRecord) : Phase → Prop
  | .starting handle => file = some (JobRecord.create handle)
  | .working handle => file = some ⟨handle, .running, [], none, none⟩
  | .succeeding handle outputs _ => file = some ⟨handle, .running, [], none, none⟩ ∧ (outputs.map (·.name)).Nodup
  | .failing handle outputs none _ => file = some ⟨handle, .running, [], none, none⟩ ∧ outputs = []
  | .failing handle outputs (some manifest) _ => (outputs.map (·.name)).Nodup ∧
      (file = some ⟨handle, .running, [], none, none⟩ ∨ file = some ⟨handle, .succeeded, outputs, some manifest, none⟩)
  | _ => True

/-- One call at most drives a job, and it knows what is in its state file. -/
structure Jobs.Ordered (s : Jobs) : Prop where
  own : ∀ phase ∈ s.calls, ∀ handle, phase.handle = some handle → ∃ backend, OfBackend backend handle
  left : ∀ phase ∈ s.calls, ∀ handle, phase.handle = some handle → phase.Left (s.file handle.idempotencyKey)
  once : ∀ (i j : Nat) (a b : Phase) (h h' : JobHandle), s.calls[i]? = some a → s.calls[j]? = some b → a.drives = true → b.drives = true →
    a.handle = some h → b.handle = some h' → h.idempotencyKey = h'.idempotencyKey → i = j

omit [Sha256] [PrintableText] [CaseText] in
theorem Phase.Left.isSome {phase : Phase} {file : Option JobRecord} (left : phase.Left file) (drives : phase.drives = true) :
    file.isSome = true := by
  cases phase with
  | starting handle => rw [left]; rfl
  | working handle => rw [left]; rfl
  | succeeding handle outputs manifest => rw [left.1]; rfl
  | failing handle outputs manifest typeName =>
    cases manifest with
    | none => rw [left.1]; rfl
    | some manifest =>
      rcases left.2 with same | same <;> rw [same] <;> rfl
  | looking | linking | returned => cases drives

omit [PrintableText] [CaseText] in
/-- The references of accepted outputs have a name each. -/
theorem guarded_nodup {reply : RunnerReply} {publication : Publication} {outputs : List ComputeOutputRef} {manifest : ArtifactId}
    (done : guarded reply publication = .ok (outputs, manifest)) : (outputs.map (·.name)).Nodup := by
  unfold guarded at done
  split at done
  · cases done
  · split at done
    · cases done
    · rename_i accepted
      split at done
      · cases done
      · cases done
        rw [List.map_map]
        unfold acceptOutputs at accepted
        dsimp only at accepted
        split at accepted
        · cases accepted
        · split at accepted
          · cases accepted
          · split at accepted
            · cases accepted
            · split at accepted
              · cases accepted
                assumption
              · cases accepted

variable {phase phase' : Phase} {file file' : Option JobRecord} {reaction : Reaction}

omit [PrintableText] [CaseText] in
/-- A step keeps the handle and what the call knows of its file; a call drives a job when it drove it before, or
when there was none; and the file of a job that the call does not drive is not written over. -/
theorem advance_keeps (moved : advance file phase reaction = some (phase', file')) (left : phase.Left file) :
    (∀ handle, phase'.handle = some handle → phase.handle = some handle) ∧ phase'.Left file' ∧
      (phase'.drives = true → phase.drives = true ∨ file = none) ∧ (phase.drives = false → file = none ∨ file' = file) := by
  unfold advance at moved
  split at moved
  · cases moved
  · cases moved
    exact ⟨nofun, trivial, nofun, fun _ => .inr rfl⟩
  · cases moved
    split
    · exact ⟨fun _ same => same, trivial, nofun, fun _ => .inr rfl⟩
    · exact ⟨nofun, trivial, nofun, fun _ => .inr rfl⟩
  · split at moved
    · cases moved
      exact ⟨nofun, trivial, nofun, fun _ => .inr rfl⟩
    · rename_i empty
      simp only [Bool.not_eq_true, Option.isSome_eq_false_iff, Option.isNone_iff_eq_none] at empty
      split at moved <;> cases moved
      · exact ⟨fun _ same => same, rfl, fun _ => .inr empty, fun _ => .inl empty⟩
      · exact ⟨nofun, trivial, nofun, fun _ => .inl empty⟩
      · exact ⟨nofun, trivial, nofun, fun _ => .inr rfl⟩
  · cases moved
    split
    · exact ⟨fun _ same => same, rfl, fun _ => .inl rfl, nofun⟩
    · exact ⟨nofun, trivial, nofun, nofun⟩
  · split at moved <;> cases moved
    · exact ⟨fun _ same => same, ⟨left, rfl⟩, fun _ => .inl rfl, nofun⟩
    · rename_i done
      exact ⟨fun _ same => same, ⟨left, guarded_nodup done⟩, fun _ => .inl rfl, nofun⟩
  · rename_i w
    cases moved
    cases w with
    | done => exact ⟨nofun, trivial, nofun, nofun⟩
    | lost typeName => exact ⟨fun _ same => same, ⟨left.2, .inl left.1⟩, fun _ => .inl rfl, nofun⟩
    | shown typeName => exact ⟨fun _ same => same, ⟨left.2, .inr rfl⟩, fun _ => .inl rfl, nofun⟩
  · cases moved
    exact ⟨nofun, trivial, nofun, nofun⟩
  · cases moved

omit [Sha256] [PrintableText] [CaseText] in
theorem Phase.left_of_idle (idle : phase.drives = false) (file : Option JobRecord) : phase.Left file := by
  cases phase with
  | looking | linking | returned => trivial
  | starting | working | succeeding | failing => cases idle

omit [CaseText] in
theorem handleOf_backend {backend : ComputeBackend} {handle : JobHandle}
    (made : handleOf backend task idempotencyKey submittedAt = .ok handle) : OfBackend backend handle := by
  obtain ⟨key, _, made⟩ := bind_ok.mp made
  obtain ⟨make, prepared, made⟩ := bind_ok.mp made
  obtain ⟨_, _, prepared⟩ := bind_ok.mp prepared
  obtain ⟨_, _, prepared⟩ := bind_ok.mp prepared
  obtain ⟨_, _, prepared⟩ := bind_ok.mp prepared
  obtain ⟨profileDigest, profiled, prepared⟩ := bind_ok.mp prepared
  obtain ⟨_, _, prepared⟩ := bind_ok.mp prepared
  cases prepared
  obtain ⟨_, _, made⟩ := bind_ok.mp made
  cases made
  exact ⟨rfl, profiled⟩

variable {s t : Jobs} {e : JobEvent}

omit [CaseText] in
/-- What a move of a call does. -/
theorem Jobs.step_move {i : Nat} (stepped : s.step (.move i reaction) = some t) :
    ∃ phase handle phase' file', s.calls[i]? = some phase ∧ phase.handle = some handle ∧
      advance (s.file handle.idempotencyKey) phase reaction = some (phase', file') ∧
      t = ⟨fun key => if key = handle.idempotencyKey then file' else s.file key, s.calls.set i phase'⟩ := by
  unfold step at stepped
  dsimp only at stepped
  split at stepped
  · cases stepped
  · rename_i phase called
    split at stepped
    · cases stepped
    · rename_i handle handled
      split at stepped
      · cases stepped
      · rename_i phase' file' moved
        exact ⟨phase, handle, phase', file', called, handled, moved, (Option.some.inj stepped).symm⟩

omit [CaseText] in
theorem Jobs.step_submit {backend : ComputeBackend} (stepped : s.step (.submit backend task idempotencyKey submittedAt) = some t) :
    t = s ∨ ∃ handle, OfBackend backend handle ∧ t = { s with calls := s.calls ++ [.looking backend.hasRunner handle] } := by
  unfold step at stepped
  dsimp only at stepped
  split at stepped
  · exact .inl (Option.some.inj stepped).symm
  · rename_i handle made
    exact .inr ⟨handle, handleOf_backend made, (Option.some.inj stepped).symm⟩

omit [CaseText] in
theorem Jobs.Ordered.step (ordered : s.Ordered) (stepped : s.step e = some t) : t.Ordered := by
  cases e with
  | submit backend task idempotencyKey submittedAt =>
    rcases Jobs.step_submit stepped with rfl | ⟨handle, own, rfl⟩
    · exact ordered
    · have idle {i : Nat} {a : Phase} (called : (s.calls ++ [.looking backend.hasRunner handle])[i]? = some a)
          (drives : a.drives = true) : s.calls[i]? = some a := by
        rw [List.getElem?_append] at called
        split at called
        · exact called
        · have last := List.mem_of_getElem? called
          rw [List.mem_singleton] at last
          subst last
          cases drives
      constructor
      · intro phase member handle' handled
        rcases List.mem_append.mp member with before | last
        · exact ordered.own phase before handle' handled
        · rw [List.mem_singleton] at last
          subst last
          cases handled
          exact ⟨backend, own⟩
      · intro phase member handle' handled
        rcases List.mem_append.mp member with before | last
        · exact ordered.left phase before handle' handled
        · rw [List.mem_singleton] at last
          subst last
          trivial
      · intro i j a b h h' left right driven driven' handled handled' same
        exact ordered.once i j a b h h' (idle left driven) (idle right driven') driven driven' handled handled' same
  | move i reaction =>
    obtain ⟨phase, handle, phase', file', called, handled, moved, rfl⟩ := Jobs.step_move stepped
    have member := List.mem_of_getElem? called
    obtain ⟨kept, left, drives, idle⟩ := advance_keeps moved (ordered.left phase member handle handled)
    -- a call that is not the moving one, and drives the job of the moving one
    have rival {j : Nat} {b : Phase} {h : JobHandle} (other : i ≠ j) (called' : s.calls[j]? = some b)
        (driven : b.drives = true) (handled' : b.handle = some h) (same : h.idempotencyKey = handle.idempotencyKey) :
        phase.drives = false ∧ (s.file handle.idempotencyKey).isSome = true := by
      have there := ordered.left b (List.mem_of_getElem? called') h handled'
      rw [same] at there
      refine ⟨?_, there.isSome driven⟩
      by_contra moving
      exact other (ordered.once i j phase b handle h called called' (by simpa using moving) driven handled handled' same.symm)
    have ofSet {j : Nat} {b : Phase} (at_j : (s.calls.set i phase')[j]? = some b) :
        i = j ∧ b = phase' ∨ i ≠ j ∧ s.calls[j]? = some b := by
      rw [List.getElem?_set] at at_j
      split at at_j
      · rename_i same
        split at at_j
        · exact .inl ⟨same, (Option.some.inj at_j).symm⟩
        · cases at_j
      · rename_i other
        exact .inr ⟨other, at_j⟩
    constructor
    · intro b inSet h handled'
      rcases List.mem_or_eq_of_mem_set inSet with before | rfl
      · exact ordered.own b before h handled'
      · exact ordered.own phase member h (kept h handled')
    · intro b inSet h handled'
      obtain ⟨j, at_j⟩ := List.mem_iff_getElem?.mp inSet
      dsimp only
      rcases ofSet at_j with ⟨-, rfl⟩ | ⟨other, called'⟩
      · have same := Option.some.inj (handled.symm.trans (kept h handled'))
        rw [← same, if_pos rfl]
        exact left
      · have before := ordered.left b (List.mem_of_getElem? called') h handled'
        by_cases same : h.idempotencyKey = handle.idempotencyKey
        · rw [if_pos same]
          by_cases driven : b.drives = true
          · obtain ⟨resting, there⟩ := rival other called' driven handled' same
            rcases idle resting with gone | unchanged
            · rw [gone] at there
              cases there
            · rw [unchanged, ← same]
              exact before
          · exact Phase.left_of_idle (by simpa using driven) _
        · rw [if_neg same]
          exact before
    · intro j k a b h h' at_j at_k driven driven' handled' handled'' same
      rcases ofSet at_j with ⟨rfl, rfl⟩ | ⟨other, called'⟩ <;> rcases ofSet at_k with ⟨rfl, rfl⟩ | ⟨other', called''⟩
      · rfl
      · have own := Option.some.inj (handled.symm.trans (kept h handled'))
        subst own
        obtain ⟨resting, there⟩ := rival other' called'' driven' handled'' same.symm
        rcases drives driven with moving | gone
        · rw [resting] at moving
          cases moving
        · rw [gone] at there
          cases there
      · have own := Option.some.inj (handled.symm.trans (kept h' handled''))
        subst own
        obtain ⟨resting, there⟩ := rival other called' driven handled' same
        rcases drives driven' with moving | gone
        · rw [resting] at moving
          cases moving
        · rw [gone] at there
          cases there
      · exact ordered.once j k a b h h' called' called'' driven driven' handled' handled'' same

/-! ### Runs -/

omit [CaseText] in
theorem Jobs.run_append {events more : List JobEvent} : s.run (events ++ more) = (s.run events).bind (·.run more) := by
  induction events generalizing s with
  | nil => rfl
  | cons e events ih =>
    rw [List.cons_append, run, run]
    cases s.step e with
    | none => rfl
    | some u => exact ih

omit [CaseText] in
theorem Jobs.run_snoc {events : List JobEvent} : s.run (events ++ [e]) = (s.run events).bind (·.step e) := by
  rw [Jobs.run_append]
  cases s.run events with
  | none => rfl
  | some u =>
    rw [Option.bind_some, Option.bind_some, run]
    cases u.step e <;> rfl

omit [PrintableText] [CaseText] in
theorem Jobs.ordered_empty : Jobs.empty.Ordered := by
  constructor
  · simp [Jobs.empty]
  · simp [Jobs.empty]
  · simp [Jobs.empty]

omit [CaseText] in
theorem Jobs.Ordered.run {events : List JobEvent} (ordered : s.Ordered) (ran : s.run events = some t) : t.Ordered := by
  induction events generalizing s with
  | nil =>
    cases ran
    exact ordered
  | cons e events ih =>
    rw [Jobs.run] at ran
    cases stepped : s.step e with
    | none =>
      rw [stepped] at ran
      cases ran
    | some u =>
      rw [stepped] at ran
      exact ih (ordered.step stepped) ran

def JobState.isTerminal (state : JobState) : Bool := state = .succeeded || state = .failed

/-- A backend of the job's profile inspects the state, and sees nothing of a failed job. -/
def Readable (r : JobRecord) : Prop :=
  ∀ backend, OfBackend backend r.handle → ∃ status, inspect backend r.handle r.line = .ok status ∧ status.state = r.state ∧
    (status.state = .failed → status.outputs = [] ∧ status.manifestArtifactId = none)

/-- Every state file is readable at any time, and one with a terminal state stays as it is. -/
structure DurableStates (events : List JobEvent) : Prop where
  readable : ∀ before after s key r, events = before ++ after → Jobs.empty.run before = some s → s.file key = some r → Readable r
  final : ∀ before middle after s t key r, events = before ++ middle ++ after → Jobs.empty.run before = some s →
    Jobs.empty.run (before ++ middle) = some t → s.file key = some r → JobState.isTerminal r.state = true → t.file key = some r

/-- A name that the filter for error types lets through begins with a letter or a digit. -/
def PlainName (typeName : String) : Prop := isErrorType typeName = true → ∀ c ∈ typeName.toList.head?, c.isAlphanum = true

/-- Where the `except` clause writes the state FAILED and the file is there: the exception is not one of the write
of the state SUCCEEDED, and its type has a plain name. -/
def Meets (s : Jobs) : JobEvent → Prop
  | .move i (.wrote w) => ∀ handle outputs manifest typeName, s.calls[i]? = some (.failing handle outputs manifest typeName) →
      (∀ name, w ≠ .lost name) → manifest = none ∧ PlainName typeName
  | _ => True

omit [Sha256] [PrintableText] [CaseText] in
theorem isIdentifier_errorType {typeName : String} : PlainName typeName ↔
    isIdentifier (if isErrorType typeName then typeName else "ComputeError") = true := by
  unfold PlainName
  by_cases valid : isErrorType typeName = true
  · rw [if_pos valid]
    simp only [valid, true_implies]
    unfold isErrorType at valid
    unfold isIdentifier
    rw [Effect.chars_eq]
    simp only [Bool.and_eq_true, decide_eq_true_eq, List.all_eq_true, Bool.or_eq_true] at valid
    obtain ⟨⟨filled, short⟩, plain⟩ := valid
    cases shown : typeName.toList with
    | nil => exact absurd shown filled
    | cons c cs =>
      rw [shown] at short plain
      rw [List.length_cons] at short
      have rest : cs.all isIdentifierChar = true := by
        rw [List.all_eq_true]
        intro d member
        have at_d := plain d (List.mem_cons_of_mem c member)
        unfold isIdentifierChar
        simp only [List.mem_cons, List.not_mem_nil, or_false, Bool.or_eq_true, decide_eq_true_eq] at at_d ⊢
        tauto
      have fits : cs.length ≤ 127 := by omega
      simp [rest, fits]
  · rw [if_neg valid]
    exact ⟨fun _ => by decide, fun _ passes => absurd passes valid⟩

/-- What makes a state readable. -/
structure Sane (r : JobRecord) : Prop where
  distinct : (r.outputs.map (·.name)).Nodup
  named : ∀ name, r.errorType = some name → isIdentifier name = true
  bare : r.state = .failed → r.outputs = [] ∧ r.manifestArtifactId = none

theorem Sane.readable {r : JobRecord} (sane : Sane r) : Readable r := by
  intro backend own
  cases named : r.errorType with
  | none => exact ⟨_, (inspect_line own).mpr ⟨sane.distinct, none, named, rfl⟩, rfl, sane.bare⟩
  | some name =>
    exact ⟨_, (inspect_line own).mpr ⟨sane.distinct, some ⟨name, sane.named name named⟩, named, rfl⟩, rfl, sane.bare⟩

omit [PrintableText] [CaseText] in
/-- A step that meets the condition leaves a file as it was, or writes a readable state over one that is not terminal. -/
theorem advance_sane {i : Nat} (called : s.calls[i]? = some phase) (meets : Meets s (.move i reaction)) (left : phase.Left file)
    (moved : advance file phase reaction = some (phase', file')) :
    file' = file ∨ (∃ r, file' = some r ∧ Sane r) ∧ ∀ r, file = some r → JobState.isTerminal r.state = false := by
  have resting {r : JobRecord} (same : file = some r) (resting : JobState.isTerminal r.state = false) :
      ∀ r', file = some r' → JobState.isTerminal r'.state = false := by
    intro r' other
    rw [same] at other
    cases other
    exact resting
  unfold advance at moved
  split at moved
  · cases moved
  · cases moved
    exact .inl rfl
  · cases moved
    exact .inl rfl
  · split at moved
    · cases moved
      exact .inl rfl
    · rename_i empty
      simp only [Bool.not_eq_true, Option.isSome_eq_false_iff, Option.isNone_iff_eq_none] at empty
      have fresh : ∀ handle : JobHandle, (∃ r, some (JobRecord.create handle) = some r ∧ Sane r) ∧
          ∀ r, file = some r → JobState.isTerminal r.state = false := by
        intro handle
        refine ⟨⟨_, rfl, List.nodup_nil, nofun, nofun⟩, ?_⟩
        rw [empty]
        nofun
      split at moved <;> cases moved
      · exact .inr (fresh _)
      · exact .inr (fresh _)
      · exact .inl rfl
  · rename_i handle w
    cases moved
    have running : Sane ⟨handle, .running, [], none, none⟩ := ⟨List.nodup_nil, nofun, nofun⟩
    cases w with
    | lost typeName => exact .inl rfl
    | done => exact .inr ⟨⟨_, rfl, running⟩, resting left rfl⟩
    | shown typeName => exact .inr ⟨⟨_, rfl, running⟩, resting left rfl⟩
  · split at moved <;> cases moved <;> exact .inl rfl
  · rename_i handle outputs manifest w
    cases moved
    have succeeded : Sane ⟨handle, .succeeded, outputs, some manifest, none⟩ := ⟨left.2, nofun, nofun⟩
    cases w with
    | lost typeName => exact .inl rfl
    | done => exact .inr ⟨⟨_, rfl, succeeded⟩, resting left.1 rfl⟩
    | shown typeName => exact .inr ⟨⟨_, rfl, succeeded⟩, resting left.1 rfl⟩
  · rename_i handle outputs manifest typeName w
    cases moved
    have written (notLost : ∀ name, w ≠ .lost name) : (∃ r, some (failedRecord handle outputs manifest typeName) = some r ∧ Sane r) ∧
        ∀ r, file = some r → JobState.isTerminal r.state = false := by
      obtain ⟨rfl, plain⟩ := meets handle outputs manifest typeName called notLost
      obtain ⟨at_file, rfl⟩ := left
      refine ⟨⟨_, rfl, List.nodup_nil, ?_, fun _ => ⟨rfl, rfl⟩⟩, resting at_file rfl⟩
      intro name named
      rw [← Option.some.inj named]
      exact isIdentifier_errorType.mp plain
    cases w with
    | lost name => exact .inl rfl
    | done => exact .inr (written nofun)
    | shown name => exact .inr (written nofun)
  · cases moved

omit [CaseText] in
theorem Jobs.step_sane (ordered : s.Ordered) (meets : Meets s e) (stepped : s.step e = some t) (key : Digest) :
    t.file key = s.file key ∨ (∃ r, t.file key = some r ∧ Sane r) ∧
      ∀ r, s.file key = some r → JobState.isTerminal r.state = false := by
  cases e with
  | submit backend task idempotencyKey submittedAt =>
    rcases Jobs.step_submit stepped with rfl | ⟨handle, own, rfl⟩ <;> exact .inl rfl
  | move i reaction =>
    obtain ⟨phase, handle, phase', file', called, handled, moved, rfl⟩ := Jobs.step_move stepped
    dsimp only
    by_cases same : key = handle.idempotencyKey
    · rw [if_pos same, same]
      exact advance_sane called meets (ordered.left phase (List.mem_of_getElem? called) handle handled) moved
    · rw [if_neg same]
      exact .inl rfl

/-- Each event meets the condition in the state that the events before it lead to. -/
def MeetsAll (events : List JobEvent) : Prop :=
  ∀ before e after s, events = before ++ e :: after → Jobs.empty.run before = some s → Meets s e

omit [CaseText] in
theorem MeetsAll.sane {events : List JobEvent} (meets : MeetsAll events) : ∀ before after s key r, events = before ++ after →
    Jobs.empty.run before = some s → s.file key = some r → Sane r := by
  intro before
  induction before using List.reverseRecOn with
  | nil =>
    intro after s key r _ ran found
    cases ran
    cases found
  | append_singleton before e ih =>
    intro after s key r split ran found
    rw [Jobs.run_snoc] at ran
    obtain ⟨u, ranBefore, stepped⟩ := Option.bind_eq_some_iff.mp ran
    have here : events = before ++ e :: after := by simpa using split
    rcases Jobs.step_sane (Jobs.ordered_empty.run ranBefore) (meets _ _ _ _ here ranBefore) stepped key with same | ⟨⟨r', wrote, sane⟩, -⟩
    · rw [same] at found
      exact ih _ u key r here ranBefore found
    · rw [wrote] at found
      cases found
      exact sane

omit [CaseText] in
theorem MeetsAll.final {events : List JobEvent} (meets : MeetsAll events) : ∀ middle before after s t key r,
    events = before ++ middle ++ after → Jobs.empty.run before = some s → Jobs.empty.run (before ++ middle) = some t →
    s.file key = some r → JobState.isTerminal r.state = true → t.file key = some r := by
  intro middle
  induction middle using List.reverseRecOn with
  | nil =>
    intro before after s t key r _ ran ran' found _
    rw [List.append_nil] at ran'
    rw [ran] at ran'
    cases ran'
    exact found
  | append_singleton middle e ih =>
    intro before after s t key r split ran ran' found terminal
    rw [← List.append_assoc, Jobs.run_snoc] at ran'
    obtain ⟨u, ranBefore, stepped⟩ := Option.bind_eq_some_iff.mp ran'
    have here : events = before ++ middle ++ e :: after := by simpa using split
    have kept := ih before _ s u key r here ran ranBefore found terminal
    rcases Jobs.step_sane (Jobs.ordered_empty.run ranBefore) (meets _ _ _ _ here ranBefore) stepped key with same | ⟨-, resting⟩
    · rw [same]
      exact kept
    · have open' := resting r kept
      rw [terminal] at open'
      cases open'

/-- In every run, every state that is left is readable and terminal states are final if and only if no state FAILED
is written after the write of the state SUCCEEDED raised, or with a type name that is no identifier. -/
theorem durable_states {events : List JobEvent} (ran : Jobs.empty.run events = some t) :
    DurableStates events ↔ MeetsAll events := by
  constructor
  · intro durable before e after s split ranBefore
    unfold Meets
    split
    · rename_i i w
      intro handle outputs manifest typeName called notLost
      rw [split, Jobs.run_append, ranBefore, Option.bind_some, Jobs.run] at ran
      cases stepped : s.step (.move i (.wrote w)) with
      | none =>
        rw [stepped] at ran
        cases ran
      | some u =>
        obtain ⟨phase, own, phase', file', called', handled, moved, rfl⟩ := Jobs.step_move stepped
        rw [called] at called'
        cases called'
        cases handled
        have written : file' = some (failedRecord handle outputs manifest typeName) := by
          cases moved
          cases w with
          | lost name => exact absurd rfl (notLost name)
          | done => rfl
          | shown name => rfl
        have reached : Jobs.empty.run (before ++ [.move i (.wrote w)]) = s.step (.move i (.wrote w)) := by
          rw [Jobs.run_snoc, ranBefore]
          rfl
        have readable := durable.readable (before ++ [.move i (.wrote w)]) after _ handle.idempotencyKey
          (failedRecord handle outputs manifest typeName) (by simpa using split) (reached.trans stepped)
          ((if_pos rfl).trans written)
        obtain ⟨backend, own⟩ := (Jobs.ordered_empty.run ranBefore).own _ (List.mem_of_getElem? called) handle rfl
        obtain ⟨status, inspected, state, bare⟩ := readable backend own
        obtain ⟨-, errorType, listed, rfl⟩ := (inspect_line own).mp inspected
        refine ⟨(bare rfl).2, isIdentifier_errorType.mpr ?_⟩
        cases errorType with
        | none => cases listed
        | some name =>
          rw [Option.some.inj listed]
          exact name.valid
    · trivial
  · intro meets
    exact ⟨fun before after s key r split ranBefore found => (meets.sane before after s key r split ranBefore found).readable,
      fun before middle after s t key r => meets.final middle before after s t key r⟩

end OnDisk.ComputeBackend

/-! ### A terminal write that raises after its rename -/

namespace Sample
open OnDisk.ComputeBackend
attribute [local instance] standardSha256 asciiPrintable asciiDecimal asciiCase

def jobOutput : ComputeOutput := ⟨⟨"weights", by decide⟩, [1], PyText.ofString "application/octet-stream", none, none⟩

/-- A submission whose runner succeeds, up to its last state write, which raises when the file is there. -/
def finished : List JobEvent :=
  [.submit backend (jobTask "train") jobKey "2026-01-01T00:00:00Z", .move 0 .looked, .move 0 (.wrote .done), .move 0 (.wrote .done),
    .move 0 (.worked (.returned [.output jobOutput]) (.published ⟨sha256Bytes [2]⟩)), .move 0 (.wrote (.shown "OSError"))]

/-- The handler of that exception writes the state FAILED. -/
def thenFailed : List JobEvent := finished ++ [.move 0 (.wrote .done)]

def stateAfter (events : List JobEvent) : Option JobState :=
  (Jobs.empty.run events).bind fun s => (s.file (sha256Bytes [3])).map JobRecord.state

theorem durable_states_failed : ∃ t, Jobs.empty.run thenFailed = some t ∧ (DurableStates thenFailed ↔ MeetsAll thenFailed) := by
  have ends : (Jobs.empty.run thenFailed).isSome = true := by decide +kernel
  obtain ⟨t, ran⟩ := Option.isSome_iff_exists.mp ends
  exact ⟨t, ran, durable_states ran⟩

theorem file_of_stateAfter {events : List JobEvent} {state : JobState} (after : stateAfter events = some state) :
    ∃ s r, Jobs.empty.run events = some s ∧ s.file (sha256Bytes [3]) = some r ∧ r.state = state := by
  obtain ⟨s, ran, found⟩ := Option.bind_eq_some_iff.mp after
  obtain ⟨r, file, same⟩ := Option.map_eq_some_iff.mp found
  exact ⟨s, r, ran, file, same⟩

/-- The state SUCCEEDED that was visible is gone. -/
theorem durable_states_fails : ¬∀ events t, Jobs.empty.run events = some t → DurableStates events := by
  intro always
  have first : stateAfter finished = some .succeeded := by decide +kernel
  have second : stateAfter thenFailed = some .failed := by decide +kernel
  obtain ⟨s, r, ran, found, succeeded⟩ := file_of_stateAfter first
  obtain ⟨t, r', ran', found', failed⟩ := file_of_stateAfter second
  have kept := (always thenFailed t ran').final finished [.move 0 (.wrote .done)] [] s t _ r (by simp [thenFailed]) ran ran' found
    (by rw [succeeded]; rfl)
  rw [kept] at found'
  cases found'
  rw [succeeded] at failed
  cases failed

end Sample
end Molly
