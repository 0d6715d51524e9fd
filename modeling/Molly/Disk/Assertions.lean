import Molly.Disk.Linearize

/-! The schema fields that calls of `put` assert about one content, one call after another. -/
namespace Molly
open Effect

namespace OnDisk

/-- The optional fields of a record that later publications are compared on. -/
inductive SchemaField where
  | schemaName | schemaVersion

def PutRequest.supplied (request : PutRequest) : SchemaField → Option PyText
  | .schemaName => request.schemaName
  | .schemaVersion => request.schemaVersion

end OnDisk

def StoredRecord.carried (record : StoredRecord) : OnDisk.SchemaField → Option Identifier
  | .schemaName => record.schemaName
  | .schemaVersion => record.schemaVersion

namespace OnDisk

/-- A call of `put`, and what its clock says. -/
structure PutCall where
  request : PutRequest
  now : Timestamp

namespace PutCall
variable [Sha256]

/-- The record that the call asks for. -/
def record (c : PutCall) : Except PyError StoredRecord :=
  StoredRecord.create ⟨sha256Bytes c.request.content⟩ c.request.mediaType c.request.schemaName c.request.schemaVersion
    c.request.content.length ((c.request.storedAt.filter (· ≠ "")).getD c.now.text)

/-- The metadata file that the call writes where there is none. -/
def line (c : PutCall) : Except PyError Bytes := c.record >>= StoredRecord.line

/-- What `_existing_record` asks of the record that is there. -/
def AnsweredBy [PrintableText] (c : PutCall) (existing : StoredRecord) : Prop :=
  ∃ requested, c.record = .ok requested ∧ existing.assertCompatible requested = .ok () ∧
    existing.sizeBytes = c.request.content.length

end PutCall

section
variable [Sha256] [PrintableText] [DecimalText]

/-- The store alone with one process whose clock says `now`. -/
def alone (now : Timestamp) : Discipline (files Path Bytes storeHost) (Disk Path Bytes storeHost) :=
  { Disk.machine (fun _ => Eq now) with
    inv := fun _ => True
    may := fun _ _ => True }

/-- Calls one after the other, each with what it returned or raised. -/
inductive Puts : Disk Path Bytes storeHost → List (PutCall × Except PyError StoredRecord) → Disk Path Bytes storeHost → Prop
  | nil : Puts d [] d
  | cons {c reply calls d t u} : Steps (alone c.now).toMachine (ArtifactStore.put c.request ()) d (.ret (reply, ())) t →
      Puts t calls u → Puts d ((c, reply) :: calls) u

/-! ### One call -/

/-- What a call returns or raises where this metadata file is. -/
def PutCall.reply (c : PutCall) (line : Bytes) : Except PyError StoredRecord := do
  let requested ← c.record
  let existing ← StoredRecord.decode line
  existing.assertCompatible requested
  if existing.sizeBytes ≠ c.request.content.length then
    .error ⟨.artifactIntegrity, "existing metadata size does not match artifact bytes"⟩
  else .ok existing

/-- The content is published, under the record of this metadata file. -/
def Published (content line : Bytes) (d : Disk Path Bytes storeHost) : Prop :=
  d.content (.metadata (sha256Bytes content)) = some line ∧ d.content (.object (sha256Bytes content)) = some content

/-- No record of the content is there, and nothing but the content stands in its place. -/
def Unpublished (content : Bytes) (d : Disk Path Bytes storeHost) : Prop :=
  d.content (.metadata (sha256Bytes content)) = none ∧
    ∀ payload, d.content (.object (sha256Bytes content)) = some payload → payload = content

/-- What a call leaves where no record is there. -/
def Publishes (c : PutCall) (reply : Except PyError StoredRecord) (t : Disk Path Bytes storeHost) : Prop :=
  match c.line with
  | .error e => reply = .error e ∧ Unpublished c.request.content t
  | .ok line => reply = c.reply line ∧ Published c.request.content line t

section
variable {now : Timestamp} {d : Disk Path Bytes storeHost} {ensures : β → Unit → Disk Path Bytes storeHost → Prop}
  {raises : PyError → Unit → Disk Path Bytes storeHost → Prop}

omit [Sha256] [PrintableText] [DecimalText] in
theorem alone_test {path : Path} {f : Bool → Process storeHost β}
    (next : (alone now).Runs ensures raises (f (d.content path).isSome) () d) :
    (alone now).Runs ensures raises (test path >>= f) () d := by
  apply Discipline.runs_bind
  refine Discipline.runs_ask _ trivial fun reply t acted => ?_
  obtain ⟨rfl, rfl⟩ := acted
  exact ⟨trivial, next⟩

omit [Sha256] [PrintableText] [DecimalText] in
theorem alone_read {path : Path} {f : Option Bytes → Process storeHost β}
    (next : (alone now).Runs ensures raises (f (d.content path)) () d) :
    (alone now).Runs ensures raises (readFile path >>= f) () d := by
  apply Discipline.runs_bind
  refine Discipline.runs_ask _ trivial fun reply t acted => ?_
  obtain ⟨rfl, rfl⟩ := acted
  exact ⟨trivial, next⟩

omit [Sha256] [PrintableText] [DecimalText] in
theorem alone_link {path : Path} {file : Bytes} {f : Bool → Process storeHost β}
    (next : (alone now).Runs ensures raises (f (d.content path).isNone) () (d.link path file)) :
    (alone now).Runs ensures raises (publishNoReplace path file >>= f) () d := by
  apply Discipline.runs_bind
  refine Discipline.runs_ask _ trivial fun reply t acted => ?_
  obtain ⟨rfl, rfl⟩ := acted
  exact ⟨trivial, next⟩

omit [PrintableText] [DecimalText] in
/-- An object that is there, with the bytes its digest names, is read. -/
theorem readVerified_runs {content : Bytes} (there : d.content (.object (sha256Bytes content)) = some content) :
    (alone now).Runs (fun payload _ t => payload = content ∧ t = d) (fun _ _ _ => False)
      (ArtifactStore.readVerifiedBytes (E := storeHost) (sha256Bytes content)) () d := by
  apply alone_test
  rw [there]
  apply alone_test
  rw [there]
  apply alone_read
  simp [there]

omit [PrintableText] [DecimalText] in
theorem alone_readVerified {content : Bytes} {f : Bytes → Process storeHost β}
    (there : d.content (.object (sha256Bytes content)) = some content)
    (next : (alone now).Runs ensures raises (f content) () d) :
    (alone now).Runs ensures raises (ArtifactStore.readVerifiedBytes (sha256Bytes content) >>= f) () d := by
  apply Discipline.runs_bind
  refine Discipline.runs_mono _ (readVerified_runs there) ?_ fun _ _ _ impossible => impossible.elim
  rintro payload _ t ⟨rfl, rfl⟩
  exact next

/-- Both ways out of a task with one statement. -/
def Ends (now : Timestamp) (post : Except PyError β → Disk Path Bytes storeHost → Prop) (m : Process storeHost β)
    (d : Disk Path Bytes storeHost) : Prop :=
  (alone now).Runs (fun value _ t => post (.ok value) t) (fun error _ t => post (.error error) t) m () d

variable {c : PutCall} {requested : StoredRecord} {line : Bytes}

omit [PrintableText] [DecimalText] in
theorem PutCall.record_sha256 (asked : c.record = .ok requested) : requested.sha256 = sha256Bytes c.request.content := by
  rw [StoredRecord.sha256, (StoredRecord.create_ok asked).1]

/-- The record that is there is read, compared and returned. -/
theorem alone_existing (asked : c.record = .ok requested) (published : Published c.request.content line d) :
    Ends now (fun reply t => reply = c.reply line ∧ t = d) (ArtifactStore.existingRecord requested) d := by
  have named := PutCall.record_sha256 asked
  obtain ⟨there, object⟩ := published
  have read : (alone now).Runs (fun existing _ t => StoredRecord.decode line = .ok existing ∧ t = d)
      (fun error _ t => StoredRecord.decode line = .error error ∧ t = d)
      (ArtifactStore.readRecord (E := storeHost) requested.sha256) () d := by
    rw [named]
    apply alone_test
    rw [there]
    apply alone_test
    rw [there]
    apply alone_read
    rw [there]
    exact (Discipline.runs_ofExcept _).mpr ⟨fun _ decoded => ⟨decoded, rfl⟩, fun _ failed => ⟨failed, rfl⟩⟩
  unfold Ends
  apply Discipline.runs_bind
  refine Discipline.runs_mono _ read ?_ ?_
  · rintro existing _ t ⟨decoded, rfl⟩
    apply Discipline.runs_bind
    refine (Discipline.runs_ofExcept _).mpr ⟨fun _ compatible => ?_, fun error conflict => ?_⟩
    · rw [named]
      apply alone_readVerified object
      split
      · rename_i size
        rw [Discipline.runs_throw]
        exact ⟨by simp [PutCall.reply, asked, decoded, compatible, size, bind, Except.bind], rfl⟩
      · rename_i size
        rw [Discipline.runs_pure]
        exact ⟨by simp [PutCall.reply, asked, decoded, compatible, size, bind, Except.bind], rfl⟩
    · exact ⟨by simp [PutCall.reply, asked, decoded, conflict, bind, Except.bind], rfl⟩
  · rintro error _ t ⟨failed, rfl⟩
    exact ⟨by simp [PutCall.reply, asked, failed, bind, Except.bind], rfl⟩

omit [PrintableText] [DecimalText] in
/-- The object stands after the first half of `put`, and only it may be new. -/
theorem publishObject_runs {content : Bytes} (d : Disk Path Bytes storeHost)
    (intact : ∀ payload, d.content (.object (sha256Bytes content)) = some payload → payload = content) :
    (alone now).Runs (fun _ _ t => t.content (.object (sha256Bytes content)) = some content ∧
        t.content (.metadata (sha256Bytes content)) = d.content (.metadata (sha256Bytes content))) (fun _ _ _ => False)
      (ArtifactStore.publishObject (E := storeHost) (sha256Bytes content) content) () d := by
  have verified {t : Disk Path Bytes storeHost} (there : t.content (.object (sha256Bytes content)) = some content)
      (same : t.content (.metadata (sha256Bytes content)) = d.content (.metadata (sha256Bytes content))) :
      (alone now).Runs (fun _ _ t => t.content (.object (sha256Bytes content)) = some content ∧
          t.content (.metadata (sha256Bytes content)) = d.content (.metadata (sha256Bytes content))) (fun _ _ _ => False)
        (ArtifactStore.readVerifiedBytes (E := storeHost) (sha256Bytes content)) () t := by
    refine Discipline.runs_mono _ (readVerified_runs there) ?_ fun _ _ _ impossible => impossible
    rintro _ _ _ ⟨_, rfl⟩
    exact ⟨there, same⟩
  apply alone_test
  cases found : d.content (.object (sha256Bytes content)) with
  | some payload =>
    obtain rfl := intact payload found
    exact verified found rfl
  | none =>
    apply alone_link
    exact verified (by simp [Disk.link_there, found]) (Disk.link_other d content (by simp))

attribute [local irreducible] PyValue.canonicalBytes StoredRecord.create

/-- The first half of `put`: the requested record is made, and the object published. -/
theorem put_runs {post : Except PyError StoredRecord → Disk Path Bytes storeHost → Prop}
    (intact : ∀ payload, d.content (.object (sha256Bytes c.request.content)) = some payload → payload = c.request.content)
    (refused : ∀ error t, c.record = .error error → t.content = d.content → post (.error error) t)
    (rest : ∀ requested t, c.record = .ok requested →
      t.content (.object (sha256Bytes c.request.content)) = some c.request.content →
      t.content (.metadata (sha256Bytes c.request.content)) = d.content (.metadata (sha256Bytes c.request.content)) →
      Ends c.now post (ArtifactStore.publishRecord requested) t) :
    Ends c.now post (ArtifactStore.put c.request) d := by
  have clocked : (alone c.now).Runs (fun text _ t => text = (c.request.storedAt.filter (· ≠ "")).getD c.now.text ∧
      t.content = d.content) (fun _ _ _ => False) (ArtifactStore.storedAt (E := storeHost) c.request) () d := by
    unfold ArtifactStore.storedAt
    split
    · rename_i given
      rw [given]
      exact ⟨rfl, rfl⟩
    · rename_i absent
      apply Discipline.runs_bind
      apply Discipline.runs_bind
      refine Discipline.runs_ask _ trivial fun reply t acted => ?_
      obtain ⟨rfl, rfl⟩ := acted
      rw [absent]
      exact ⟨trivial, rfl, rfl⟩
  unfold Ends
  apply Discipline.runs_bind
  refine Discipline.runs_mono _ clocked ?_ fun _ _ _ impossible => impossible.elim
  rintro text _ t ⟨rfl, same⟩
  apply Discipline.runs_bind
  refine (Discipline.runs_ofExcept _).mpr ⟨fun requested asked => ?_, fun error failed => refused error t failed same⟩
  apply Discipline.runs_bind
  refine Discipline.runs_mono _ (publishObject_runs t (by rw [same]; exact intact)) ?_ fun _ _ _ impossible => impossible.elim
  rintro _ _ u ⟨object, metadata⟩
  exact rest requested u asked object (by rw [metadata, same])

/-- A call where the record is there changes nothing and answers with it. -/
theorem put_published (published : Published c.request.content line d) :
    Ends c.now (fun reply t => reply = c.reply line ∧ Published c.request.content line t) (ArtifactStore.put c.request) d := by
  obtain ⟨there, object⟩ := published
  apply put_runs
  · intro payload found
    exact Option.some.inj (found.symm.trans object)
  · intro error t failed same
    refine ⟨by simp [PutCall.reply, failed, bind, Except.bind], ?_⟩
    rw [Published, same]
    exact ⟨there, object⟩
  · intro requested t asked object metadata
    have published : Published c.request.content line t := ⟨metadata.trans there, object⟩
    unfold Ends ArtifactStore.publishRecord
    apply alone_test
    rw [PutCall.record_sha256 asked, published.1]
    refine Discipline.runs_mono _ (alone_existing asked published) ?_ ?_
    · rintro _ _ _ ⟨same, rfl⟩
      exact ⟨same, published⟩
    · rintro _ _ _ ⟨same, rfl⟩
      exact ⟨same, published⟩

/-- The first call whose record has a text writes it. -/
theorem put_unpublished (unpublished : Unpublished c.request.content d) :
    Ends c.now (Publishes c) (ArtifactStore.put c.request) d := by
  obtain ⟨absent, intact⟩ := unpublished
  apply put_runs intact
  · intro error t failed same
    simp only [Publishes, PutCall.line, failed, bind, Except.bind]
    refine ⟨trivial, ?_⟩
    rw [Unpublished, same]
    exact ⟨absent, intact⟩
  · intro requested t asked object metadata
    have named := PutCall.record_sha256 asked
    have still : Unpublished c.request.content t :=
      ⟨metadata.trans absent, fun payload found => Option.some.inj (found.symm.trans object)⟩
    unfold Ends ArtifactStore.publishRecord
    apply alone_test
    rw [named, still.1]
    apply Discipline.runs_bind
    refine (Discipline.runs_ofExcept _).mpr ⟨fun payload encoded => ?_, fun error failed => ?_⟩
    · have line : c.line = .ok (payload ++ [10]) := by
        simp [PutCall.line, asked, StoredRecord.line, encoded, bind, Except.bind, pure, Except.pure]
      apply alone_link
      have published : Published c.request.content (payload ++ [10])
          (t.link (.metadata (sha256Bytes c.request.content)) (payload ++ [10])) :=
        ⟨by simp [Disk.link_there, still.1], (Disk.link_other t _ (by simp)).trans object⟩
      refine Discipline.runs_mono _ (alone_existing asked published) ?_ ?_
      · rintro _ _ _ ⟨same, rfl⟩
        simp only [Publishes, line]
        exact ⟨same, published⟩
      · rintro _ _ _ ⟨same, rfl⟩
        simp only [Publishes, line]
        exact ⟨same, published⟩
    · have line : c.line = .error error := by
        simp [PutCall.line, asked, StoredRecord.line, failed, bind, Except.bind]
      rw [Publishes, line]
      exact ⟨rfl, still⟩

omit [Sha256] [PrintableText] [DecimalText] in
/-- What a call that came back leaves. -/
theorem Ends.steps {post : Except PyError β → Disk Path Bytes storeHost → Prop} {m : Process storeHost β}
    (ends : Ends now post m d) (steps : Steps (alone now).toMachine (m ()) d (.ret (reply, ())) t) : post reply t := by
  have done := (alone now).keeps_returns steps trivial ends
  cases reply <;> exact done

end

/-! ### The fields of a record -/

omit [Sha256] [PrintableText] [DecimalText] in
theorem optionally_identifier {label : String} {text : Option PyText} {id : Option Identifier}
    (read : optionally (validateIdentifier label) text = .ok id) : id.map (fun id => PyText.ofString id.text) = text := by
  cases text with
  | none =>
    cases read
    rfl
  | some text =>
    simp only [optionally, validateIdentifier] at read
    split at read
    · cases read
    · rename_i value valid
      split at valid
      · rename_i shown
        cases valid
        cases read
        have plain : ∀ c ∈ text.display.toList, c ≠ '\uFFFD' := by
          rintro c member rfl
          exact absurd (isIdentifier_chars shown _ member) (by decide)
        rw [Option.map_some, PyText.ofString_display plain]
      · cases valid

variable {c : PutCall} {requested existing : StoredRecord}

omit [PrintableText] [DecimalText] in
/-- A record carries what the call that asks for it supplies. -/
theorem PutCall.record_carried (asked : c.record = .ok requested) (field : SchemaField) :
    (requested.carried field).map (fun id => PyText.ofString id.text) = c.request.supplied field := by
  obtain ⟨_, _, name, version⟩ := StoredRecord.create_ok asked
  cases field with
  | schemaName => exact optionally_identifier name
  | schemaVersion => exact optionally_identifier version

omit [Sha256] [DecimalText] in
theorem compatible_carried (compatible : existing.assertCompatible requested = .ok ()) {field : SchemaField}
    {a b : Identifier} (here : existing.carried field = some a) (there : requested.carried field = some b) : a = b := by
  by_contra different
  unfold StoredRecord.assertCompatible at compatible
  dsimp only at compatible
  split at compatible
  · cases compatible
  · split at compatible
    · cases compatible
    · cases field with
      | schemaName =>
        simp only [StoredRecord.carried] at here there
        simp [here, there, different] at compatible
      | schemaVersion =>
        simp only [StoredRecord.carried] at here there
        simp only [here, there, different, if_false] at compatible
        split at compatible
        · cases compatible
        · cases compatible

theorem PutCall.reply_ok {line : Bytes} :
    c.reply line = .ok existing ↔ StoredRecord.decode line = .ok existing ∧ c.AnsweredBy existing := by
  simp only [PutCall.reply, PutCall.AnsweredBy, bind_ok]
  constructor
  · rintro ⟨requested, asked, found, decoded, _, compatible, rest⟩
    split at rest
    · cases rest
    · rename_i size
      cases rest
      exact ⟨decoded, requested, asked, compatible, by simpa using size⟩
  · rintro ⟨decoded, requested, asked, compatible, size⟩
    exact ⟨requested, asked, existing, decoded, (), compatible, by simp [size]⟩

omit [DecimalText] in
/-- The record that is there carries what a call it answers supplies, if it carries the field at all. -/
theorem PutCall.AnsweredBy.carried (answered : c.AnsweredBy existing) {field : SchemaField} {text : PyText}
    (supplied : c.request.supplied field = some text) (there : (existing.carried field).isSome = true) :
    (existing.carried field).map (fun id => PyText.ofString id.text) = some text := by
  obtain ⟨requested, asked, compatible, _⟩ := answered
  obtain ⟨id, found⟩ := Option.isSome_iff_exists.mp there
  have asked := PutCall.record_carried asked field
  rw [supplied] at asked
  obtain ⟨id', found', shown⟩ := Option.map_eq_some_iff.mp asked
  obtain rfl := compatible_carried compatible found found'
  rw [found, Option.map_some, shown]

/-- The record that a call writes carries what the call supplies, and nothing else. -/
theorem PutCall.written_carried {file : Bytes} (written : c.line = .ok file) (unpaired : c.request.mediaType.Unpaired) :
    ∃ existing, StoredRecord.decode file = .ok existing ∧
      ∀ field, (existing.carried field).map (fun id => PyText.ofString id.text) = c.request.supplied field := by
  obtain ⟨requested, asked, written⟩ := bind_ok.mp written
  have plain : requested.mediaType.Unpaired := by rwa [(StoredRecord.create_ok asked).2.1]
  exact ⟨requested, StoredRecord.decode_line plain written, PutCall.record_carried asked⟩

/-! ### Any number of calls -/

/-- Contradictory assertions never both succeed, and one that succeeds is in the record returned. -/
def Truthful (calls : List (PutCall × Except PyError StoredRecord)) : Prop :=
  (∀ c ∈ calls, ∀ d ∈ calls, ∀ record record' field a b, c.2 = .ok record → d.2 = .ok record' →
    c.1.request.supplied field = some a → d.1.request.supplied field = some b → a = b) ∧
  ∀ c ∈ calls, ∀ record field a, c.2 = .ok record → c.1.request.supplied field = some a →
    (record.carried field).map (fun id => PyText.ofString id.text) = some a

/-- The record that the first writing call leaves carries every field that a call it answers supplies. -/
def Anticipated : List PutCall → Prop
  | [] => True
  | c :: calls =>
    match c.line with
    | .error _ => Anticipated calls
    | .ok line => ∀ existing, StoredRecord.decode line = .ok existing → ∀ later ∈ c :: calls, later.AnsweredBy existing →
        ∀ field, (later.request.supplied field).isSome = true → (existing.carried field).isSome = true

variable {calls : List (PutCall × Except PyError StoredRecord)} {d t : Disk Path Bytes storeHost} {line : Bytes}

/-- Once the record is there, every call is answered with it. -/
theorem Puts.replies {content : Bytes} (puts : Puts d calls t) (published : Published content line d)
    (same : ∀ c ∈ calls, c.1.request.content = content) : ∀ c ∈ calls, c.2 = c.1.reply line := by
  induction puts with
  | nil => simp
  | @cons c reply calls d t u steps _ ih =>
    have here := same _ List.mem_cons_self
    obtain rfl := here
    obtain ⟨replied, later⟩ := (put_published published).steps steps
    intro call member
    rcases List.mem_cons.mp member with rfl | member
    · exact replied
    · exact ih later (fun c found => same c (List.mem_cons_of_mem _ found)) call member

/-- Calls that one record answers are truthful when it carries all that they supply. -/
theorem truthful_answered (replies : ∀ c ∈ calls, c.2 = c.1.reply line) : Truthful calls ↔
    ∀ existing, StoredRecord.decode line = .ok existing → ∀ c ∈ calls, c.1.AnsweredBy existing →
      ∀ field, (c.1.request.supplied field).isSome = true → (existing.carried field).isSome = true := by
  have answered {c : PutCall × Except PyError StoredRecord} (member : c ∈ calls) {record : StoredRecord}
      (returned : c.2 = .ok record) : StoredRecord.decode line = .ok record ∧ c.1.AnsweredBy record :=
    PutCall.reply_ok.mp ((replies c member).symm.trans returned)
  constructor
  · rintro ⟨_, recorded⟩ existing decoded c member answers field supplied
    obtain ⟨text, given⟩ := Option.isSome_iff_exists.mp supplied
    have returned := (replies c member).trans (PutCall.reply_ok.mpr ⟨decoded, answers⟩)
    have carried := recorded c member existing field text returned given
    cases found : existing.carried field with
    | none => simp [found] at carried
    | some id => rfl
  · intro complete
    have recorded (c) (member : c ∈ calls) (record field text) (returned : c.2 = .ok record)
        (supplied : c.1.request.supplied field = some text) :
        (record.carried field).map (fun id => PyText.ofString id.text) = some text := by
      obtain ⟨decoded, answers⟩ := answered member returned
      exact answers.carried supplied (complete record decoded c member answers field (by rw [supplied]; rfl))
    refine ⟨fun c member d member' record record' field a b returned returned' supplied supplied' => ?_, recorded⟩
    have one := recorded c member record field a returned supplied
    have other := recorded d member' record' field b returned' supplied'
    have same : record = record' := Except.ok.inj ((answered member returned).1.symm.trans (answered member' returned').1)
    rw [same, other] at one
    exact (Option.some.inj one).symm

omit [Sha256] [PrintableText] [DecimalText] in
/-- A call that raises asserts nothing. -/
theorem truthful_raised (c : PutCall) (error : PyError) : Truthful ((c, .error error) :: calls) ↔ Truthful calls := by
  constructor
  · rintro ⟨agree, recorded⟩
    exact ⟨fun c member d member' => agree c (List.mem_cons_of_mem _ member) d (List.mem_cons_of_mem _ member'),
      fun c member => recorded c (List.mem_cons_of_mem _ member)⟩
  · rintro ⟨agree, recorded⟩
    constructor
    · intro c member d member' record record' field a b returned returned'
      rcases List.mem_cons.mp member with rfl | member
      · cases returned
      rcases List.mem_cons.mp member' with rfl | member'
      · cases returned'
      exact agree c member d member' record record' field a b returned returned'
    · intro c member record field a returned
      rcases List.mem_cons.mp member with rfl | member
      · cases returned
      exact recorded c member record field a returned

/-- In every sequence of calls on one content that the store does not hold yet: the assertions that
succeed agree, and are recorded, exactly when the record of the first call that writes one carries
every field that the calls it answers supply. -/
theorem schema_assertions {content : Bytes} (puts : Puts d calls t) (unpublished : Unpublished content d)
    (same : ∀ c ∈ calls, c.1.request.content = content) : Truthful calls ↔ Anticipated (calls.map Prod.fst) := by
  induction puts with
  | nil => simp [Truthful, Anticipated]
  | @cons c reply calls d t u steps rest ih =>
    obtain rfl : c.request.content = content := same (c, reply) List.mem_cons_self
    have later : ∀ c ∈ calls, c.1.request.content = _ := fun c found => same c (List.mem_cons_of_mem _ found)
    have left := (put_unpublished unpublished).steps steps
    cases written : c.line with
    | error e =>
      simp only [Publishes, written] at left
      obtain ⟨rfl, still⟩ := left
      simp only [truthful_raised, ih still later, List.map_cons, Anticipated, written]
    | ok line =>
      simp only [Publishes, written] at left
      obtain ⟨replied, published⟩ := left
      have replies : ∀ call ∈ (c, reply) :: calls, call.2 = call.1.reply line := by
        intro call member
        rcases List.mem_cons.mp member with rfl | member
        · exact replied
        · exact rest.replies published later call member
      rw [truthful_answered replies]
      simp only [List.map_cons, Anticipated, written]
      simp only [List.forall_mem_cons, List.forall_mem_map]

end

end OnDisk

/-! ### Assertions that the first record leaves out -/

namespace Sample
attribute [local instance] standardSha256 asciiPrintable asciiDecimal

open OnDisk

def asserting (name : Option String) : PutCall :=
  ⟨⟨[1, 2, 3], PyText.ofString "text/plain", name.map PyText.ofString, none, none⟩, epoch⟩

def playPuts : List PutCall → Disk Path Bytes storeHost →
    Option (List (PutCall × Except PyError StoredRecord) × Disk Path Bytes storeHost)
  | [], d => some ([], d)
  | c :: calls, d =>
    match (OnDisk.ArtifactStore.put c.request ()).run (Disk.answer fun _ => c.now) d with
    | none => none
    | some ((reply, _), t) => (playPuts calls t).map fun played => ((c, reply) :: played.1, played.2)

theorem puts_of_play : ∀ {calls : List PutCall} {d t : Disk Path Bytes storeHost}, playPuts calls d = some (replies, t) →
    Puts d replies t ∧ replies.map Prod.fst = calls
  | [], _, _, played => by
    cases played
    exact ⟨.nil, rfl⟩
  | c :: calls, d, t, played => by
    simp only [playPuts] at played
    split at played
    · cases played
    · rename_i reply _ u ran
      obtain ⟨⟨rest, v⟩, later, same⟩ := Option.map_eq_some_iff.mp played
      cases same
      obtain ⟨puts, labels⟩ := puts_of_play later
      have steps : Steps (alone c.now).toMachine (OnDisk.ArtifactStore.put c.request ()) d (.ret (reply, ())) u :=
        steps_of_run (Disk.act_of_answer fun _ => rfl) ran
      exact ⟨.cons steps puts, by rw [List.map_cons, labels]⟩

theorem unpublished_empty (content : Bytes) : Unpublished content Disk.empty := ⟨rfl, fun _ absent => by cases absent⟩

/-- A publication without a schema name, and two that give it different names. -/
def contradicting : List PutCall := [asserting none, asserting (some "a"), asserting (some "b")]

theorem contradicting_content : ∀ c ∈ contradicting, c.request.content = [1, 2, 3] := by
  simp [contradicting, asserting]

/-- All three succeed. -/
theorem schema_assertions_fails : ¬ ∀ (content : Bytes) (d t : Disk Path Bytes storeHost)
    (calls : List (PutCall × Except PyError StoredRecord)), Unpublished content d → Puts d calls t →
    (∀ c ∈ calls, c.1.request.content = content) → Truthful calls := by
  intro truthful
  have checked : ((playPuts contradicting Disk.empty).map fun played =>
      played.1.map fun c => (c.1.request.supplied .schemaName, c.2.isOk)) =
      some [(none, true), (some (PyText.ofString "a"), true), (some (PyText.ofString "b"), true)] := by decide +kernel
  obtain ⟨⟨replies, t⟩, played, each⟩ := Option.map_eq_some_iff.mp checked
  obtain ⟨puts, labels⟩ := puts_of_play played
  obtain ⟨agree, _⟩ := truthful [1, 2, 3] _ _ _ (unpublished_empty _) puts fun c member =>
    contradicting_content c.1 (labels ▸ List.mem_map_of_mem member)
  have succeeded (name : Option PyText) (listed : (name, true) ∈ replies.map fun c =>
      (c.1.request.supplied .schemaName, c.2.isOk)) :
      ∃ c ∈ replies, c.1.request.supplied .schemaName = name ∧ ∃ record, c.2 = .ok record := by
    obtain ⟨⟨c, reply⟩, member, same⟩ := List.mem_map.mp listed
    obtain ⟨supplied, returned⟩ := Prod.mk.inj same
    cases reply with
    | ok record => exact ⟨_, member, supplied, record, rfl⟩
    | error => cases returned
  obtain ⟨c, member, supplied, record, returned⟩ := succeeded (some (PyText.ofString "a")) (by rw [each]; simp)
  obtain ⟨c', member', supplied', record', returned'⟩ := succeeded (some (PyText.ofString "b")) (by rw [each]; simp)
  have same := agree c member c' member' record record' .schemaName _ _ returned returned' supplied supplied'
  exact absurd (PyText.ofString_injective same) (by decide)

/-- Calls that repeat the name of the first. -/
theorem schema_assertions_repeated : ∃ replies t, Puts Disk.empty replies t ∧
    replies.map Prod.fst = [asserting (some "a"), asserting none, asserting (some "a")] ∧
    (Truthful replies ↔ Anticipated [asserting (some "a"), asserting none, asserting (some "a")]) := by
  have checked : (playPuts [asserting (some "a"), asserting none, asserting (some "a")] Disk.empty).isSome = true := by
    decide +kernel
  obtain ⟨⟨replies, t⟩, played⟩ := Option.isSome_iff_exists.mp checked
  obtain ⟨puts, labels⟩ := puts_of_play played
  have same : ∀ c ∈ replies, c.1.request.content = [1, 2, 3] := by
    intro c member
    have asked := List.mem_map_of_mem member (f := Prod.fst)
    rw [labels] at asked
    simp only [List.mem_cons, List.not_mem_nil, or_false] at asked
    rcases asked with asked | asked | asked <;> rw [asked] <;> rfl
  exact ⟨replies, t, puts, labels, labels ▸ schema_assertions puts (unpublished_empty _) same⟩

end Sample
end Molly
