import Molly.Disk.Store
import Molly.File.Tamper

/-! The store under concurrent publication: the first record of a content is the one that
every later reader finds, whoever is interrupted where. -/
namespace Molly
open Effect

namespace OnDisk

/-- Metadata that names the artifact, and its exact bytes. -/
def Shelved [Sha256] [PrintableText] [DecimalText] (d : Disk Path Bytes E) (id : ArtifactId) (record : StoredRecord)
    (payload : Bytes) : Prop :=
  (∃ raw, d.content (.metadata id.digest) = some raw ∧ StoredRecord.decode raw = .ok record) ∧
    record.artifactId = id ∧ d.content (.object id.digest) = some payload ∧ sha256Bytes payload = id.digest ∧
    payload.length = record.sizeBytes

section
variable {E : Signature} [Sha256] [PrintableText] [DecimalText] {d t : Disk Path Bytes E} {id : ArtifactId}
  {record record' : StoredRecord} {payload payload' : Bytes}

theorem Shelved.later (shelved : Shelved d id record payload) (grows : d.Grows t) : Shelved t id record payload := by
  obtain ⟨⟨raw, found, decoded⟩, same, there, digest, size⟩ := shelved
  exact ⟨⟨raw, grows _ _ found, decoded⟩, same, grows _ _ there, digest, size⟩

theorem Shelved.unique (shelved : Shelved d id record payload) (shelved' : Shelved d id record' payload') :
    record = record' ∧ payload = payload' := by
  obtain ⟨⟨raw, found, decoded⟩, _, there, _⟩ := shelved
  obtain ⟨⟨raw', found', decoded'⟩, _, there', _⟩ := shelved'
  obtain rfl := Option.some.inj (found.symm.trans found')
  exact ⟨Except.ok.inj (decoded.symm.trans decoded'), Option.some.inj (there.symm.trans there')⟩

end

/-- What the store's processes may assume of each other: objects hold contents that were
given to the store, under their own digests, and no file is ever replaced. -/
def shelf (E : Signature) [Sha256] (contents : List Bytes) (outer : (op : E.Op) → E.Reply op → Prop) :
    Interference (files Path Bytes E) (Disk Path Bytes E) where
  act := Disk.act outer
  inv d := ∀ digest payload, d.content (.object digest) = some payload →
    payload ∈ contents ∧ sha256Bytes payload = digest
  may
    | .link (.object digest) payload, _ => payload ∈ contents ∧ sha256Bytes payload = digest
    | .replace _ _, _ => False
    | _, _ => True
  rely := Disk.Grows
  refl := .refl
  trans := .trans
  keeps := by
    intro op d reply t holds may acted
    cases op with
    | test | read =>
      obtain ⟨_, rfl⟩ := acted
      exact ⟨holds, .refl _⟩
    | link path file =>
      obtain ⟨_, rfl⟩ := acted
      refine ⟨fun digest payload found => ?_, Disk.link_grows d path file⟩
      by_cases here : Path.object digest = path
      · subst here
        rw [Disk.link_there, Option.some.injEq] at found
        cases there : d.content (.object digest) with
        | none =>
          simp only [there, Option.getD_none] at found
          exact found ▸ may
        | some old =>
          simp only [there, Option.getD_some] at found
          exact holds digest payload (found ▸ there)
      · rw [Disk.link_other d file here] at found
        exact holds digest payload found
    | replace => exact may.elim
    | outside =>
      obtain ⟨_, rfl⟩ := acted
      exact ⟨holds, fun _ _ same => same⟩

variable {E : Signature} [Sha256] {contents : List Bytes} {outer : (op : E.Op) → E.Reply op → Prop}

theorem shelf_preserving : Disk.Preserving (shelf E contents outer) outer :=
  ⟨id, fun _ _ => trivial, fun _ _ => trivial, fun _ _ => trivial, id⟩

theorem shelf_object {payload : Bytes} (given : payload ∈ contents) (t : Disk Path Bytes E) :
    (shelf E contents outer).may (.link (.object (sha256Bytes payload)) payload) t := ⟨given, rfl⟩

theorem shelf_metadata (digest : Digest) (file : Bytes) (t : Disk Path Bytes E) :
    (shelf E contents outer).may (.link (.metadata digest) file) t := trivial

namespace ArtifactStore
variable {s : Disk Path Bytes E}

theorem readVerifiedBytes_endures (digest : Digest) :
    (shelf E contents outer).Endures
      (fun payload _ t => t.content (.object digest) = some payload ∧ sha256Bytes payload = digest)
      (fun _ _ _ => ∀ payload, s.content (.object digest) = some payload → sha256Bytes payload ≠ digest)
      (readVerifiedBytes digest) () s := by
  have missed {found : Bool} {t : Disk Path Bytes E} (there : (t.content (.object digest)).isSome = true → found = true)
      (relied : s.Grows t) (absent : (!found) = true) {payload : Bytes}
      (known : s.content (.object digest) = some payload) : sha256Bytes payload ≠ digest := by
    rw [there (by rw [relied _ _ known]; rfl)] at absent
    cases absent
  apply shelf_preserving.endures_test
  intro found t relied _ _ there
  split
  · rename_i absent
    exact Interference.endures_throw fun _ _ _ _ known => missed (fun _ => there (by rw [known]; rfl)) (.refl s) absent known
  · apply shelf_preserving.endures_test
    intro found u later _ _ there
    split
    · rename_i absent
      exact Interference.endures_throw fun _ _ _ _ known => missed there relied absent known
    · apply shelf_preserving.endures_read
      intro reply v last _ kept there
      have whole : s.Grows v := relied.trans (later.trans last)
      cases reply with
      | none =>
        refine Interference.endures_throw fun _ _ _ payload known => ?_
        cases there payload (later _ _ (relied _ _ known))
      | some payload =>
        dsimp only
        split
        · rename_i corrupt
          refine Interference.endures_throw fun _ _ _ other known => ?_
          obtain rfl : payload = other := Option.some.inj ((kept payload rfl).symm.trans (whole _ _ known))
          exact corrupt
        · rename_i intact
          rw [ne_eq, Decidable.not_not] at intact
          exact Interference.endures_pure fun w after _ => ⟨after _ _ (kept payload rfl), intact⟩

variable [PrintableText] [DecimalText]

omit [Sha256] in
/-- A metadata file that reads as a record. -/
def Recorded (d : Disk Path Bytes E) (digest : Digest) (record : StoredRecord) : Prop :=
  ∃ raw, d.content (.metadata digest) = some raw ∧ StoredRecord.decode raw = .ok record

omit [Sha256] in
theorem Recorded.later {d t : Disk Path Bytes E} {digest : Digest} {record : StoredRecord}
    (recorded : Recorded d digest record) (grows : d.Grows t) : Recorded t digest record := by
  obtain ⟨raw, found, decoded⟩ := recorded
  exact ⟨raw, grows _ _ found, decoded⟩

theorem readRecord_endures (digest : Digest) :
    (shelf E contents outer).Endures (fun record _ t => Recorded t digest record)
      (fun _ _ _ => ∀ record, ¬ Recorded s digest record) (readRecord digest) () s := by
  have missed {found : Bool} {t : Disk Path Bytes E} (there : (t.content (.metadata digest)).isSome = true → found = true)
      (relied : s.Grows t) (absent : (!found) = true) (record : StoredRecord) : ¬ Recorded s digest record := by
    rintro ⟨raw, known, _⟩
    rw [there (by rw [relied _ _ known]; rfl)] at absent
    cases absent
  apply shelf_preserving.endures_test
  intro found t relied _ _ there
  split
  · rename_i absent
    exact Interference.endures_throw fun _ _ _ => missed there (.refl s) absent
  · apply shelf_preserving.endures_test
    intro found u later _ _ there
    split
    · rename_i absent
      exact Interference.endures_throw fun _ _ _ => missed there relied absent
    · apply shelf_preserving.endures_read
      intro reply v last _ kept there
      have whole : s.Grows v := relied.trans (later.trans last)
      cases reply with
      | none =>
        refine Interference.endures_throw fun _ _ _ record recorded => ?_
        obtain ⟨raw, known, _⟩ := recorded
        cases there raw (later _ _ (relied _ _ known))
      | some raw =>
        apply Interference.endures_ofExcept
        · intro record w decoded after _
          exact ⟨raw, after _ _ (kept raw rfl), decoded⟩
        · rintro error w failed _ _ record ⟨other, known, decoded⟩
          obtain rfl : raw = other := Option.some.inj ((kept raw rfl).symm.trans (whole _ _ known))
          cases failed.symm.trans decoded

/-- What `_existing_record` returns is shelved. -/
theorem existingRecord_endures (requested : StoredRecord) (holds : (shelf E contents outer).inv s) :
    (shelf E contents outer).Endures
      (fun record _ t => ∃ payload, Shelved t requested.artifactId record payload) (fun _ _ _ => True)
      (existingRecord requested) () s := by
  apply Interference.endures_bind holds
  refine Interference.endures_mono (readRecord_endures requested.sha256) ?_ fun _ _ _ _ _ _ _ _ => trivial
  intro existing _ t inv recorded
  apply Interference.endures_bind inv
  apply Interference.endures_ofExcept
  · intro _ u compatible relied inv
    have same := StoredRecord.assertCompatible_ok compatible
    have recorded := recorded.later relied
    apply Interference.endures_bind inv
    refine Interference.endures_mono (Interference.endures_rely (readVerifiedBytes_endures requested.sha256)) ?_
      fun _ _ _ _ _ _ _ _ => trivial
    rintro payload _ v _ ⟨relied, there, digest⟩
    split
    · exact Interference.endures_throw fun _ _ _ => trivial
    · rename_i size
      rw [ne_eq, Decidable.not_not] at size
      have whole : Shelved v requested.artifactId existing payload := ⟨recorded.later relied, same, there, digest, size.symm⟩
      exact Interference.endures_pure fun w after _ => ⟨payload, whole.later after⟩
  · exact fun _ _ _ _ _ _ _ _ => trivial

omit [PrintableText] [DecimalText] in
theorem publishObject_endures (payload : Bytes) (given : payload ∈ contents) :
    (shelf E contents outer).Endures (fun _ _ _ => True) (fun _ _ _ => True)
      (publishObject (sha256Bytes payload) payload) () s := by
  have verified (t : Disk Path Bytes E) : (shelf E contents outer).Endures (fun _ _ _ => True) (fun _ _ _ => True)
      (readVerifiedBytes (sha256Bytes payload)) () t :=
    Interference.endures_mono (readVerifiedBytes_endures _) (fun _ _ _ _ _ => trivial) fun _ _ _ _ _ => trivial
  apply shelf_preserving.endures_test
  intro found t _ _ _ _
  split
  · exact verified t
  · apply shelf_preserving.endures_link (shelf_object given)
    exact fun _ u _ _ _ _ => verified u

attribute [local irreducible] PyValue.canonicalBytes StoredRecord.create

theorem publishRecord_endures (record : StoredRecord) :
    (shelf E contents outer).Endures
      (fun returned _ t => ∃ payload, Shelved t record.artifactId returned payload) (fun _ _ _ => True)
      (publishRecord record) () s := by
  apply shelf_preserving.endures_test
  intro found t _ inv _ _
  split
  · exact existingRecord_endures record inv
  · refine Interference.endures_bind inv (Interference.endures_ofExcept ?_ ?_)
    · intro bytes u _ _ inv
      apply shelf_preserving.endures_link (shelf_metadata record.sha256 _)
      exact fun _ v _ inv _ _ => existingRecord_endures record inv
    · exact fun _ _ _ _ _ _ _ _ => trivial

/-- What `put` returns names the content, and is shelved. -/
theorem put_endures [Timed E] (request : PutRequest) (given : request.content ∈ contents)
    (holds : (shelf E contents outer).inv s) :
    (shelf E contents outer).Endures
      (fun record _ t => ∃ payload, Shelved t ⟨sha256Bytes request.content⟩ record payload) (fun _ _ _ => True)
      (put request) () s := by
  have published (storedAt : String) (t : Disk Path Bytes E) (inv : (shelf E contents outer).inv t) :
      (shelf E contents outer).Endures
        (fun record _ t => ∃ payload, Shelved t ⟨sha256Bytes request.content⟩ record payload) (fun _ _ _ => True)
        (do
          let record ← Task.ofExcept (StoredRecord.create ⟨sha256Bytes request.content⟩ request.mediaType request.schemaName
            request.schemaVersion request.content.length storedAt)
          let _ ← publishObject (sha256Bytes request.content) request.content
          publishRecord record) () t := by
    apply Interference.endures_bind inv
    apply Interference.endures_ofExcept
    · intro record u made _ inv
      apply Interference.endures_bind inv
      refine Interference.endures_mono (publishObject_endures request.content given) ?_ fun _ _ _ _ _ _ _ _ => trivial
      intro _ _ v inv _
      have named := (StoredRecord.create_ok made).1
      rw [← named]
      exact publishRecord_endures record
    · exact fun _ _ _ _ _ _ _ _ => trivial
  apply Interference.endures_bind holds
  unfold storedAt
  split
  · exact Interference.endures_pure fun t _ inv => published _ t inv
  · apply Interference.endures_bind holds
    apply shelf_preserving.endures_outside
    intro reply t _ _ _
    exact Interference.endures_pure fun u _ _ => Interference.endures_pure fun v _ inv => published _ v inv

/-- What is verified is shelved, and what is shelved is verified. -/
theorem verify_endures (id : ArtifactId) (holds : (shelf E contents outer).inv s) :
    (shelf E contents outer).Endures (fun record _ t => ∃ payload, Shelved t id record payload)
      (fun _ _ _ => ∀ record payload, ¬ Shelved s id record payload) (verify id) () s := by
  apply Interference.endures_bind holds
  refine Interference.endures_mono (Interference.endures_rely (readRecord_endures id.digest)) ?_ ?_
  · rintro record _ t inv ⟨relied, recorded⟩
    have only {other : StoredRecord} {payload : Bytes} (shelved : Shelved s id other payload) :
        other = record ∧ t.content (.object id.digest) = some payload := by
      obtain ⟨⟨raw, found, decoded⟩, same, there, _⟩ := shelved
      obtain ⟨raw', found', decoded'⟩ := recorded
      obtain rfl := Option.some.inj ((relied _ _ found).symm.trans found')
      exact ⟨Except.ok.inj (decoded.symm.trans decoded'), relied _ _ there⟩
    split
    · rename_i other
      refine Interference.endures_throw fun _ _ _ record' payload shelved => ?_
      obtain ⟨rfl, _⟩ := only shelved
      exact other shelved.2.1
    · rename_i named
      rw [ne_eq, Decidable.not_not] at named
      apply Interference.endures_bind inv
      refine Interference.endures_mono (Interference.endures_rely (readVerifiedBytes_endures id.digest)) ?_ ?_
      · rintro payload _ u _ ⟨later, there, digest⟩
        split
        · rename_i size
          refine Interference.endures_throw fun _ _ _ record' payload' shelved => ?_
          obtain ⟨rfl, found⟩ := only shelved
          obtain rfl := Option.some.inj (there.symm.trans (later _ _ found))
          exact size shelved.2.2.2.2
        · rename_i size
          rw [ne_eq, Decidable.not_not] at size
          have whole : Shelved u id record payload := ⟨recorded.later later, named, there, digest, size⟩
          exact Interference.endures_pure fun w after _ => ⟨payload, whole.later after⟩
      · rintro error _ u _ ⟨_, corrupt⟩ _ _ _ record' payload shelved
        exact corrupt payload (only shelved).2 shelved.2.2.2.1
  · rintro error _ t _ ⟨_, unrecorded⟩ _ _ _ record payload shelved
    exact unrecorded record shelved.1

theorem read_endures (id : ArtifactId) (holds : (shelf E contents outer).inv s) :
    (shelf E contents outer).Endures (fun payload _ t => ∃ record, Shelved t id record payload)
      (fun _ _ _ => ∀ record payload, ¬ Shelved s id record payload) (read id) () s := by
  apply Interference.endures_bind holds
  refine Interference.endures_mono (Interference.endures_rely (verify_endures id holds)) ?_ ?_
  · rintro record _ t inv ⟨_, payload, shelved⟩
    have digest : record.sha256 = id.digest := by rw [StoredRecord.sha256, shelved.2.1]
    rw [digest]
    refine Interference.endures_mono (Interference.endures_rely (readVerifiedBytes_endures id.digest)) ?_ ?_
    · rintro bytes _ u _ ⟨later, there, _⟩
      have same := shelved.later later
      obtain rfl := Option.some.inj (there.symm.trans same.2.2.1)
      exact ⟨record, same⟩
    · rintro error _ u _ ⟨_, corrupt⟩
      exact absurd shelved.2.2.2.1 (corrupt payload shelved.2.2.1)
  · rintro error _ t _ ⟨_, unshelved⟩ _ _ _
    exact unshelved

end ArtifactStore

/-! ### Processes of one store -/

/-- A call of the store. -/
inductive StoreCall where
  | put (request : PutRequest)
  | verify (artifactId : ArtifactId)
  | read (artifactId : ArtifactId)

inductive StoreReply where
  | record (value : StoredRecord)
  | bytes (payload : Bytes)

section
variable [PrintableText] [DecimalText]

def StoreCall.process : StoreCall → Process storeHost StoreReply
  | .put request => do return .record (← ArtifactStore.put request)
  | .verify artifactId => do return .record (← ArtifactStore.verify artifactId)
  | .read artifactId => do return .bytes (← ArtifactStore.read artifactId)

def StoreCall.code (call : StoreCall) : Prog (files Path Bytes storeHost) (Except PyError StoreReply × Unit) :=
  call.process ()

/-- The artifact a call is about. -/
def StoreCall.artifactId : StoreCall → ArtifactId
  | .put request => ⟨sha256Bytes request.content⟩
  | .verify artifactId | .read artifactId => artifactId

/-- The reply of a successful call, when the artifact has this record and these bytes. -/
def StoreCall.answer (record : StoredRecord) (payload : Bytes) : StoreCall → StoreReply
  | .put _ | .verify _ => .record record
  | .read _ => .bytes payload

omit [PrintableText] [DecimalText] in
/-- The content given to `put`. -/
def StoreCall.content : StoreCall → Option Bytes
  | .put request => some request.content
  | _ => none

/-- The processes of a store. -/
abbrev StoreRun := Pool (files Path Bytes storeHost) StoreCall (Except PyError StoreReply × Unit) (Disk Path Bytes storeHost)

/-- Everything that has been given to the store. -/
def given (P : StoreRun) : List Bytes := P.threads.filterMap (·.label.content)

omit [Sha256] [PrintableText] [DecimalText] in
theorem mem_given {P : StoreRun} {call : StoreCall} (named : P.Named call) {content : Bytes}
    (holds : call.content = some content) : content ∈ given P := by
  obtain ⟨thread, member, rfl⟩ := named
  exact List.mem_filterMap.mpr ⟨thread, member, holds⟩

/-- A history of the store, whose clocks may say anything. -/
abbrev StoreRun.Reach (P Q : StoreRun) : Prop := Pool.Reach (Disk.machine fun _ _ => True) StoreCall.code P Q

/-- The store with these contents, whatever the clocks say. -/
abbrev timedShelf (contents : List Bytes) : Interference (files Path Bytes storeHost) (Disk Path Bytes storeHost) :=
  shelf storeHost contents fun _ _ => True

/-- What a call that succeeds knows from then on; a reader of a shelved artifact succeeds. -/
theorem StoreCall.endures (call : StoreCall) {contents : List Bytes} {s : Disk Path Bytes storeHost}
    (given : ∀ content, call.content = some content → content ∈ contents)
    (holds : (timedShelf contents).inv s) :
    (timedShelf contents).Endures
      (fun reply _ t => ∃ record payload, Shelved t call.artifactId record payload ∧ reply = call.answer record payload)
      (fun _ _ _ => ∀ record payload, Shelved s call.artifactId record payload → call.content ≠ none) call.process () s := by
  cases call with
  | put request =>
    apply Interference.endures_bind holds
    refine Interference.endures_mono (ArtifactStore.put_endures request (given _ rfl) holds) ?_ ?_
    · rintro record _ t _ ⟨payload, shelved⟩
      exact Interference.endures_pure fun u later _ => ⟨record, payload, shelved.later later, rfl⟩
    · exact fun _ _ _ _ _ _ _ _ _ _ _ impossible => by cases impossible
  | verify id =>
    apply Interference.endures_bind holds
    refine Interference.endures_mono (ArtifactStore.verify_endures id holds) ?_ ?_
    · rintro record _ t _ ⟨payload, shelved⟩
      exact Interference.endures_pure fun u later _ => ⟨record, payload, shelved.later later, rfl⟩
    · exact fun _ _ _ _ unshelved _ _ _ record payload shelved => absurd shelved (unshelved record payload)
  | read id =>
    apply Interference.endures_bind holds
    refine Interference.endures_mono (ArtifactStore.read_endures id holds) ?_ ?_
    · rintro payload _ t _ ⟨record, shelved⟩
      exact Interference.endures_pure fun u later _ => ⟨record, payload, shelved.later later, rfl⟩
    · exact fun _ _ _ _ unshelved _ _ _ record payload shelved => absurd shelved (unshelved record payload)

/-- What the calls of a store know together: what a successful one found is shelved, and a
reader that starts when its artifact is shelved succeeds. -/
theorem StoreRun.known {P Q : StoreRun} (before : StoreRun.Reach (Pool.start Disk.empty) P) (after : StoreRun.Reach P Q) :
    (timedShelf (given Q)).inv Q.state ∧ P.state.Grows Q.state ∧
      (∀ i call reply, Q.Returned i call (.ok reply, ()) → ∃ record payload,
        Shelved Q.state call.artifactId record payload ∧ reply = call.answer record payload) ∧
      ∀ i call error, P.threads.length ≤ i → Q.Returned i call (.error error, ()) →
        ∀ record payload, Shelved P.state call.artifactId record payload → call.content ≠ none := by
  let finds (call : StoreCall) (reply : StoreReply) (_ : Unit) (t : Disk Path Bytes storeHost) : Prop :=
    ∃ record payload, Shelved t call.artifactId record payload ∧ reply = call.answer record payload
  let misses (i : Nat) (call : StoreCall) : Prop := P.threads.length ≤ i →
    ∀ record payload, Shelved P.state call.artifactId record payload → call.content ≠ none
  have content {call : StoreCall} (named : Q.Named call) (content : Bytes) (holds : call.content = some content) :
      content ∈ given Q := mem_given named holds
  obtain ⟨holds, _, kept⟩ := (timedShelf (given Q)).pool
    (fun _ call => Task.outcome (finds call) fun (_ : PyError) _ _ => True) before
    (fun _ _ absent => by cases absent) (fun _ _ absent => by simp [Pool.start] at absent) fun i call s _ named _ inv =>
      Interference.endures_mono (call.endures (content (named.later after)) inv) (fun _ _ _ _ known => known)
        fun _ _ _ _ _ => trivial
  obtain ⟨inv, grows, each⟩ := (timedShelf (given Q)).pool
    (fun i call => Task.outcome (finds call) fun (_ : PyError) _ _ => misses i call) after holds
    (fun i thread found => by
      obtain ⟨inside, _⟩ := List.getElem?_eq_some_iff.mp found
      refine Interference.survives_mono ?_ (kept i thread found)
      rintro ⟨_ | reply, _⟩ t _ known
      · exact fun new => absurd inside (Nat.not_lt.mpr new)
      · exact known) fun i call s _ named relied inv =>
      Interference.endures_mono (call.endures (content named) inv) (fun _ _ _ _ known => known)
        fun _ _ _ _ missed _ record payload shelved => missed record payload (shelved.later relied)
  refine ⟨inv, grows, fun i call reply returned => ?_, fun i call error new returned => ?_⟩
  · exact each i _ returned _ (.refl _) inv
  · exact each i _ returned _ (.refl _) inv new

/-- Some moment. -/
def epoch : Timestamp := ⟨1970, 1, 1, 0, 0, 0, 0, isMoment_epoch⟩

/-- A reader that starts when its artifact is shelved returns what is shelved. -/
theorem StoreRun.reader {P Q : StoreRun} (before : StoreRun.Reach (Pool.start Disk.empty) P) (after : StoreRun.Reach P Q)
    (call : StoreCall) {record : StoredRecord} {payload : Bytes} (shelved : Shelved P.state call.artifactId record payload)
    (reads : call.content = none) {j : Nat} (new : P.threads.length ≤ j) {value : Except PyError StoreReply × Unit}
    (returned : Q.Returned j call value) : value = (.ok (call.answer record payload), ()) := by
  obtain ⟨_, grows, finds, misses⟩ := StoreRun.known before after
  rcases value with ⟨error | reply, _⟩
  · exact absurd reads (misses j call error new returned record payload shelved)
  · obtain ⟨record', payload', found, rfl⟩ := finds j call reply returned
    obtain ⟨rfl, rfl⟩ := found.unique (shelved.later grows)
    rfl

/-- Left to run alone, a reader does return. -/
theorem StoreRun.completes {P Q : StoreRun} (before : StoreRun.Reach (Pool.start Disk.empty) P) (after : StoreRun.Reach P Q)
    (call : StoreCall) {record : StoredRecord} {payload : Bytes} (shelved : Shelved P.state call.artifactId record payload)
    (reads : call.content = none) : ∃ R, StoreRun.Reach Q R ∧
      R.Returned Q.threads.length call (.ok (call.answer record payload), ()) := by
  let started : StoreRun := ⟨Q.state, Q.threads ++ [⟨call, call.code⟩]⟩
  have step : StoreRun.Reach Q started := .single (.start call)
  obtain ⟨R, value, finished, returned⟩ := Pool.finishes (M := Disk.machine fun _ _ => True)
    (Disk.machine_total fun _ => ⟨epoch, trivial⟩) call.code started Q.threads.length call (by simp [started])
  have whole := step.trans finished
  have new := StoreRun.reader before (after.trans whole) call shelved reads (Pool.length_le after) returned
  exact ⟨R, whole, new ▸ returned⟩

end
end OnDisk

open OnDisk in
/-- Whatever calls of the store run together, and wherever they are interrupted: no
metadata is ever changed, publications of one content agree on its record, and what one
call has found is what every later reader finds. -/
theorem store_linearizable [Sha256] [PrintableText] [DecimalText] {P Q : StoreRun}
    (before : StoreRun.Reach (Pool.start Disk.empty) P) (after : StoreRun.Reach P Q) (free : CollisionFree (given Q)) :
    (∀ digest raw raw', P.state.content (.metadata digest) = some raw → Q.state.content (.metadata digest) = some raw' →
      raw = raw') ∧
    (∀ i j request request' reply reply', Q.Returned i (.put request) (.ok reply, ()) →
      Q.Returned j (.put request') (.ok reply', ()) → request.content = request'.content → reply = reply') ∧
    ∀ i call reply, P.Returned i call (.ok reply, ()) → ∃ record payload, reply = call.answer record payload ∧
      (∀ content, call.content = some content → payload = content) ∧
      (∀ j value, P.threads.length ≤ j → Q.Returned j (.verify call.artifactId) value →
        value = (.ok (.record record), ())) ∧
      (∀ j value, P.threads.length ≤ j → Q.Returned j (.read call.artifactId) value →
        value = (.ok (.bytes payload), ())) ∧
      (∃ R, StoreRun.Reach Q R ∧ R.Returned Q.threads.length (.verify call.artifactId) (.ok (.record record), ())) ∧
      ∃ R, StoreRun.Reach Q R ∧ R.Returned Q.threads.length (.read call.artifactId) (.ok (.bytes payload), ()) := by
  obtain ⟨inv, grows, finds, _⟩ := StoreRun.known before after
  refine ⟨fun digest raw raw' found found' => ?_, fun i j request request' reply reply' one other same => ?_,
    fun i call reply returned => ?_⟩
  · exact Option.some.inj ((grows _ _ found).symm.trans found')
  · obtain ⟨record, payload, shelved, rfl⟩ := finds i _ reply one
    obtain ⟨record', payload', shelved', rfl⟩ := finds j _ reply' other
    simp only [StoreCall.artifactId, same] at shelved shelved'
    obtain ⟨rfl, _⟩ := shelved.unique shelved'
    rfl
  · obtain ⟨holds, _, found, _⟩ := StoreRun.known before (.refl : StoreRun.Reach P P)
    obtain ⟨record, payload, shelved, rfl⟩ := found i call reply returned
    refine ⟨record, payload, rfl, fun content given => ?_, ?_, ?_, ?_, ?_⟩
    · have named : Q.Named call :=
        Pool.Named.later after ⟨_, List.mem_of_getElem? returned, rfl⟩
      obtain ⟨listed, digest⟩ := inv _ _ (grows _ _ shelved.2.2.1)
      refine free payload listed content (mem_given named given) (digest.trans ?_)
      cases call with
      | put request =>
        cases given
        rfl
      | verify | read => cases given
    · exact fun j value new done => StoreRun.reader before after (.verify call.artifactId) shelved rfl new done
    · exact fun j value new done => StoreRun.reader before after (.read call.artifactId) shelved rfl new done
    · exact StoreRun.completes before after (.verify call.artifactId) shelved rfl
    · exact StoreRun.completes before after (.read call.artifactId) shelved rfl

/-! ### A race of two publications -/

namespace Sample
attribute [local instance] standardSha256 asciiPrintable

/-- Only the ASCII digits are decimal. -/
@[reducible] def asciiDecimal : DecimalText := ⟨fun p => if 48 ≤ p.val ∧ p.val ≤ 57 then some (p.val - 48) else none⟩

attribute [local instance] asciiDecimal

open OnDisk

def publication (mediaType : String) : StoreCall := .put ⟨[1, 2, 3], PyText.ofString mediaType, none, none, none⟩

def moves (i count : Nat) : List (Pool.Turn ι) := List.replicate count (.move i)

/-- The first publication links the object, the second one the metadata, which the first
one then finds. -/
def race : List (Pool.Turn StoreCall) :=
  [.start (publication "text/plain"), .start (publication "text/html")] ++ moves 0 5 ++ moves 1 13 ++ moves 0 5

def thenRead : List (Pool.Turn StoreCall) :=
  [.start (.verify ⟨sha256Bytes [1, 2, 3]⟩), .start (.read ⟨sha256Bytes [1, 2, 3]⟩)] ++ moves 3 9 ++ moves 2 6

def playStore (turns : List (Pool.Turn StoreCall)) (P : StoreRun) : Option StoreRun :=
  Pool.play (Disk.answer fun _ => epoch) StoreCall.code turns P

theorem reach_of_playStore {turns : List (Pool.Turn StoreCall)} {P Q : StoreRun} (played : playStore turns P = some Q) :
    StoreRun.Reach P Q :=
  Pool.reach_of_play (Disk.act_of_answer fun _ => trivial) played

/-- The programs that have returned, and whether they raised. -/
def outcomes (P : StoreRun) : List (Option Bool) := P.threads.map fun thread =>
  match thread.rest with
  | .ret (.ok _, _) => some true
  | .ret (.error _, _) => some false
  | .call _ _ => none

theorem returned_of_outcomes {P : StoreRun} {i : Nat} {call : StoreCall} (outcome : (outcomes P)[i]? = some (some true))
    (label : (P.threads.map Thread.label)[i]? = some call) : ∃ reply, P.Returned i call (.ok reply, ()) := by
  simp only [outcomes, List.getElem?_map, Option.map_eq_some_iff] at outcome label
  obtain ⟨thread, found, outcome⟩ := outcome
  obtain ⟨same, found', label⟩ := label
  obtain rfl := Option.some.inj (found.symm.trans found')
  obtain ⟨name, rest⟩ := thread
  subst label
  split at outcome
  · rename_i reply _ returned
    cases returned
    exact ⟨reply, found⟩
  · cases outcome
  · cases outcome

/-- One publication is refused, and the reader finds the other. -/
theorem store_linearizable_raced : ∃ P Q : StoreRun, ∃ record, StoreRun.Reach (Pool.start Disk.empty) P ∧
    StoreRun.Reach P Q ∧ P.Returned 1 (publication "text/html") (.ok (.record record), ()) ∧
    Q.Returned 3 (.read ⟨sha256Bytes [1, 2, 3]⟩) (.ok (.bytes [1, 2, 3]), ()) := by
  have checked : ((playStore race (Pool.start Disk.empty)).map fun P => (outcomes P, (playStore thenRead P).map outcomes)) =
      some ([some false, some true], some [some false, some true, some true, some true]) := by decide +kernel
  obtain ⟨P, played, outcome⟩ := Option.map_eq_some_iff.mp checked
  obtain ⟨first, second⟩ := Prod.mk.inj outcome
  obtain ⟨Q, playedOn, then'⟩ := Option.map_eq_some_iff.mp second
  have labels := Pool.labels_of_play played
  have labelsOn := Pool.labels_of_play playedOn
  rw [labels] at labelsOn
  have before := reach_of_playStore played
  have after := reach_of_playStore playedOn
  have only : ∀ content ∈ given Q, content = [1, 2, 3] := by
    have contents : given Q = (Q.threads.map Thread.label).filterMap StoreCall.content := by
      rw [given, List.filterMap_map]
      rfl
    rw [contents, labelsOn]
    intro content member
    simpa [labels, race, thenRead, moves, publication, Pool.start, Pool.Turn.label, StoreCall.content] using member
  have free : CollisionFree (given Q) := fun a left b right _ => by rw [only a left, only b right]
  obtain ⟨reply, returned⟩ := returned_of_outcomes (i := 1) (by rw [first]; rfl) (by rw [labels]; rfl)
  obtain ⟨bytes, read⟩ := returned_of_outcomes (i := 3) (by rw [then']; rfl) (by rw [labelsOn]; rfl)
  obtain ⟨_, _, finds⟩ := store_linearizable before after free
  obtain ⟨record, payload, rfl, exactly, _, reads, _⟩ := finds 1 _ reply returned
  obtain rfl := exactly [1, 2, 3] rfl
  have size : P.threads.length = 2 := by simpa [outcomes] using congrArg List.length first
  have found := reads 3 _ (by omega) read
  exact ⟨P, Q, record, before, after, returned, found ▸ read⟩

end Sample
end Molly
