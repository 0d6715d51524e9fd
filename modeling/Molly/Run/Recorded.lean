import Molly.Run.Calls
import Molly.Run.Store
import Molly.Run.System
import Molly.Effect.Logged

/-! What executing a call leaves in the ledger, for any executor, any result and any store. -/
namespace Molly
open Effect AgentLoop

section
variable [Sha256] {loop : AgentLoop} {request : RunRequest} {call : MaterializedToolCall} {w : World} {memory : LineageMemory}

/-! ### A process alone -/

/-- The host answers one process, which may ask for anything. -/
def alone : Discipline host World := { World.machine with inv := fun _ => True, may := fun _ _ => True }

theorem storing_alone (w : World) : Storing alone w := ⟨id, fun _ _ _ _ => trivial, fun _ _ => trivial⟩

/-- A program that is quiet leaves the ledger as it is. -/
theorem quiet_ledger {p : Prog host α} (quiet : p.Only Op.Quiet) : alone.Keeps (fun _ t => t.ledger = w.ledger) p w := by
  suffices each : ∀ (p : Prog host α) (u : World), p.Only Op.Quiet → u.ledger = w.ledger →
      alone.Keeps (fun _ t => t.ledger = w.ledger) p u from each p w quiet rfl
  intro p
  induction p with
  | ret value => exact fun u _ same => same
  | call op next ih =>
    intro u quiet same
    refine ⟨trivial, fun reply t acted => ⟨trivial, ih reply t (quiet.2 reply) ?_⟩⟩
    rw [← same]
    cases op with
    | snapshot | appendEvent | nextAction | execute => exact absurd quiet.1 id
    | readEvents | readRelations | readObject | readRecord =>
      obtain ⟨_, rfl⟩ := acted
      rfl
    | appendRelation | linkObject | linkRecord =>
      obtain ⟨_, rfl⟩ := acted
      rfl
    | newId =>
      obtain ⟨_, _, rfl⟩ := acted
      rfl
    | now =>
      cases acted
      rfl

/-- An acceptable draft becomes the next line; any other raises, and nothing is written. -/
theorem append_alone (draft : EventDraft) :
    alone.Runs (fun e _ t => Drafted request draft e ∧ t = { w with ledger := w.ledger ++ [e] } ∧ draft.Acceptable)
      (fun _ _ t => t = w ∧ ¬draft.Acceptable) (append request draft) memory w := by
  refine Discipline.runs_bind _ (Discipline.runs_bind _ (Discipline.runs_ask _ trivial ?_))
  rintro _ _ ⟨rfl, rfl⟩
  refine ⟨trivial, Discipline.runs_ask _ trivial ?_⟩
  rintro eventId t ⟨_, fresh, rfl⟩
  refine ⟨trivial, Discipline.runs_bind _ (Discipline.runs_ask _ trivial ?_)⟩
  rintro timestamp u rfl
  refine ⟨trivial, Discipline.runs_bind _ ((Discipline.runs_ofExcept _).mpr ⟨fun event made => ?_, fun error failed => ?_⟩)⟩
  · have free : ∀ e ∈ u.ledger, e.eventId ≠ event.eventId := by
      intro e member same
      refine fresh (List.mem_map.mpr ⟨e, member, ?_⟩)
      rw [same, (create_ok made).1]
    have persisted : RunLedger.append u.ledger event = .ok (RunLedger.chain u.ledger event) := append_ok.mpr ⟨free, rfl⟩
    refine Discipline.runs_bind _ (Discipline.runs_ask _ trivial ?_)
    rintro reply t ⟨rfl, rfl⟩
    refine ⟨trivial, (Discipline.runs_ofExcept _).mpr ⟨fun e same => ?_, fun error same => ?_⟩⟩
    · rw [persisted, Except.ok.injEq] at same
      subst same
      exact ⟨Drafted.chained made u.ledger, by rw [persisted]; rfl, create_isOk.mp ⟨event, made⟩⟩
    · rw [persisted] at same
      contradiction
  · refine ⟨rfl, fun acceptable => ?_⟩
    obtain ⟨e, made⟩ : ∃ e, LedgerEvent.create eventId request.runId timestamp draft = .ok e := create_isOk.mpr acceptable
    rw [made] at failed
    contradiction

/-! ### A list of drafts -/

/-- The store takes each draft, in order. -/
inductive World.TakesAll : World → List ArtifactDraft → Prop
  | nil : TakesAll before []
  | cons : draft.record storedAt = .ok requested → before.Accepts draft requested →
      TakesAll (before.shelve (sha256Bytes draft.content) draft.content requested) rest → TakesAll before (draft :: rest)

/-- What the store compares of a metadata file, which is all but its time. -/
def RecordFile.facts : RecordFile → Option (ArtifactId × String × Option Identifier × Option Identifier × Nat)
  | .malformed => none
  | .record r => some (r.artifactId, r.mediaType, r.schemaName, r.schemaVersion, r.sizeBytes)

/-- Two stores that differ in times only. -/
structure World.Alike (w v : World) : Prop where
  objects : w.objects = v.objects
  records : ∀ d, (w.records d).map RecordFile.facts = (v.records d).map RecordFile.facts

omit [Sha256] in
theorem facts_record {f : RecordFile} {r : ArtifactRecord} (same : f.facts = (RecordFile.record r).facts) :
    ∃ s : ArtifactRecord, f = .record s ∧ s.artifactId = r.artifactId ∧ s.mediaType = r.mediaType ∧
      s.schemaName = r.schemaName ∧ s.schemaVersion = r.schemaVersion ∧ s.sizeBytes = r.sizeBytes := by
  cases f with
  | malformed => cases same
  | record s =>
    simp only [RecordFile.facts, Option.some.injEq, Prod.mk.injEq] at same
    exact ⟨s, rfl, same⟩

omit [Sha256] in
theorem compatible_alike {a a' b b' : ArtifactRecord} (left : (RecordFile.record a).facts = (RecordFile.record a').facts)
    (right : (RecordFile.record b).facts = (RecordFile.record b').facts) (compatible : a.assertCompatible b = .ok ()) :
    a'.assertCompatible b' = .ok () := by
  simp only [RecordFile.facts, Option.some.injEq, Prod.mk.injEq] at left right
  obtain ⟨id, media, name, version, _⟩ := left
  obtain ⟨id', media', name', version', _⟩ := right
  unfold ArtifactRecord.assertCompatible at compatible ⊢
  rw [← id, ← media, ← name, ← version, ← id', ← media', ← name', ← version']
  exact compatible

/-- The record that a draft asks for at another time. -/
theorem record_again {draft : ArtifactDraft} {first : Timestamp} {requested : ArtifactRecord} (made : draft.record first = .ok requested)
    (second : Timestamp) : ∃ again, draft.record second = .ok again ∧
      (RecordFile.record requested).facts = (RecordFile.record again).facts := by
  unfold ArtifactDraft.record ArtifactRecord.create at made ⊢
  split at made
  · cases made
  · split at made
    · cases made
      rename_i described clean
      rw [dif_neg described, dif_pos clean]
      exact ⟨_, rfl, rfl⟩
    · cases made

theorem accepts_alike {v : World} {draft : ArtifactDraft} {first second : ArtifactRecord} (alike : w.Alike v)
    (same : (RecordFile.record first).facts = (RecordFile.record second).facts) (accepted : w.Accepts draft first) :
    v.Accepts draft second := by
  obtain ⟨intact, existing, found, compatible, size⟩ := accepted
  have there := alike.records (sha256Bytes draft.content)
  rw [alike.objects] at intact size
  refine ⟨intact, ?_⟩
  have facts : ((v.records (sha256Bytes draft.content)).getD (.record second)).facts = (RecordFile.record existing).facts := by
    cases left : w.records (sha256Bytes draft.content) with
    | none =>
      rw [left] at found there
      have missing : v.records (sha256Bytes draft.content) = none := by
        cases right : v.records (sha256Bytes draft.content) with
        | none => rfl
        | some f =>
          rw [right] at there
          cases there
      rw [missing, Option.getD_none, ← same]
      rw [Option.getD_none] at found
      rw [found]
    | some f =>
      rw [left] at found there
      cases right : v.records (sha256Bytes draft.content) with
      | none =>
        rw [right] at there
        cases there
      | some g =>
        rw [right, Option.map_some, Option.map_some, Option.some.injEq] at there
        rw [Option.getD_some] at found ⊢
        rw [← there, found]
  obtain ⟨other, placed, id, media, name, version, bytes⟩ := facts_record facts
  refine ⟨other, placed, compatible_alike ?_ same compatible, by rw [bytes]; exact size⟩
  simp [RecordFile.facts, id, media, name, version, bytes]

omit [Sha256] in
theorem shelve_alike {v : World} {digest : Digest} {payload : Bytes} {first second : ArtifactRecord} (alike : w.Alike v)
    (same : (RecordFile.record first).facts = (RecordFile.record second).facts) :
    (w.shelve digest payload first).Alike (v.shelve digest payload second) := by
  constructor
  · simp only [World.shelve, alike.objects]
  · intro d
    have there := alike.records digest
    by_cases here : d = digest
    · simp only [World.shelve, here, if_true, Option.map_some, Option.some.injEq]
      cases left : w.records digest with
      | none =>
        cases right : v.records digest with
        | none => exact same
        | some f =>
          rw [left, right] at there
          cases there
      | some f =>
        cases right : v.records digest with
        | none =>
          rw [left, right] at there
          cases there
        | some g =>
          rw [left, right, Option.map_some, Option.map_some, Option.some.injEq] at there
          exact there
    · simpa only [World.shelve, here, if_false] using alike.records d

theorem takesAll_alike {drafts : List ArtifactDraft} (taken : w.TakesAll drafts) : ∀ {v : World}, w.Alike v → v.TakesAll drafts := by
  induction taken with
  | nil => exact fun _ => .nil
  | cons made accepted _ ih =>
    exact fun alike => .cons made (accepts_alike alike rfl accepted) (ih (shelve_alike alike rfl))

/-- A draft that is taken at one time is taken at any. -/
theorem takesAll_cons {draft : ArtifactDraft} {rest : List ArtifactDraft} (taken : w.TakesAll (draft :: rest)) (storedAt : Timestamp) :
    ∃ requested, draft.record storedAt = .ok requested ∧ w.Accepts draft requested ∧
      (w.shelve (sha256Bytes draft.content) draft.content requested).TakesAll rest := by
  cases taken with
  | cons made accepted later =>
    obtain ⟨requested, made', same⟩ := record_again made storedAt
    have alike : w.Alike w := ⟨rfl, fun _ => rfl⟩
    exact ⟨requested, made', accepts_alike alike same accepted, takesAll_alike later (shelve_alike alike same)⟩

/-- Drafts are published exactly where the store takes them all, under the digests of their contents. -/
theorem putAll_alone (drafts : List ArtifactDraft) :
    alone.Runs (fun records _ t => Restocked w t ∧ w.TakesAll drafts ∧
        records.map ArtifactRecord.artifactId = drafts.map fun d => ⟨sha256Bytes d.content⟩)
      (fun _ _ t => Restocked w t ∧ ¬w.TakesAll drafts) (ArtifactStore.putAll drafts) memory w := by
  induction drafts generalizing w memory with
  | nil => exact ⟨.refl w, .nil, rfl⟩
  | cons draft rest ih =>
    refine Discipline.runs_bind _ (Discipline.runs_mono _ ((storing_alone w).put draft) ?_ ?_)
    · rintro record m t ⟨_, restocked, named, _, storedAt, requested, made, accepted, objects, records⟩
      have placed : (w.shelve (sha256Bytes draft.content) draft.content requested).Alike t :=
        ⟨objects.symm, fun d => by rw [records]⟩
      refine Discipline.runs_bind _ (Discipline.runs_mono _ ih ?_ ?_)
      · rintro others m u ⟨more, taken, ids⟩
        refine ⟨restocked.trans more, .cons made accepted (takesAll_alike taken ⟨objects, fun d => by rw [records]⟩), ?_⟩
        rw [List.map_cons, List.map_cons, named, ids]
      · rintro error m u ⟨more, refused⟩
        refine ⟨restocked.trans more, fun taken => refused ?_⟩
        obtain ⟨again, made', _, later⟩ := takesAll_cons taken storedAt
        rw [made, Except.ok.injEq] at made'
        subst made'
        exact takesAll_alike later placed
    · rintro error m t ⟨_, restocked, storedAt, refused⟩
      refine ⟨restocked, fun taken => ?_⟩
      obtain ⟨requested, made, accepted, _⟩ := takesAll_cons taken storedAt
      exact refused requested made accepted


/-! ### A result -/

variable [JsonSchema] {spec executor : ToolSpec} {data : Json} {drafts : List DraftFields}

/-- The result is valid and the store takes its drafts. -/
structure Publishes (spec : ToolSpec) (w : World) (data : Json) (drafts : List DraftFields) (result : ToolResult) : Prop where
  created : ToolResult.create data drafts = .ok result
  small : result.data.encode.length ≤ maxToolResultDataBytes
  valid : spec.validateOutput result.data = .ok ()
  taken : w.TakesAll result.artifacts

theorem publish_alone : alone.Runs
    (fun published _ t => Restocked w t ∧ ∃ result, Publishes spec w data drafts result ∧ published.1.accepted = true ∧
      published.2.2.map ArtifactRecord.artifactId = result.artifacts.map fun d => ⟨sha256Bytes d.content⟩)
    (fun _ _ t => Restocked w t ∧ ∀ result, ¬Publishes spec w data drafts result) (publish spec data drafts) memory w := by
  refine Discipline.runs_bind _ ((Discipline.runs_ofExcept _).mpr ⟨fun result created => ?_, fun error failed => ?_⟩)
  · have frozen := toolResult_frozen created
    have only {other : ToolResult} (publishes : Publishes spec w data drafts other) : other = result :=
      Except.ok.inj (publishes.created.symm.trans created)
    refine Discipline.runs_bind _ ((Discipline.runs_ofExcept _).mpr ⟨fun encoded known => ?_, fun error failed => ?_⟩)
    · rw [canonicalJsonBytes_of_accepted frozen.1, Except.ok.injEq] at known
      subst known
      split
      · rename_i large
        refine ⟨.refl w, fun other publishes => ?_⟩
        obtain rfl := only publishes
        exact absurd publishes.small (Nat.not_le.mpr large)
      · rename_i small
        refine Discipline.runs_bind _ ((Discipline.runs_ofExcept _).mpr ⟨fun _ valid => ?_, fun error invalid => ?_⟩)
        · refine Discipline.runs_bind _ (Discipline.runs_mono _ (putAll_alone result.artifacts) ?_ ?_)
          · rintro records m t ⟨restocked, taken, ids⟩
            exact ⟨restocked, result, ⟨created, Nat.le_of_not_gt small, valid, taken⟩, frozen.1, ids⟩
          · rintro error m t ⟨restocked, refused⟩
            refine ⟨restocked, fun other publishes => ?_⟩
            obtain rfl := only publishes
            exact refused publishes.taken
        · refine ⟨.refl w, fun other publishes => ?_⟩
          obtain rfl := only publishes
          rw [publishes.valid] at invalid
          contradiction
    · rw [canonicalJsonBytes_of_accepted frozen.1] at failed
      contradiction
  · refine ⟨.refl w, fun other publishes => ?_⟩
    rw [publishes.created] at failed
    contradiction

/-! ### The call -/

/-- The executor's result would be published, and two of its drafts have one content. -/
def Doubled (spec : ToolSpec) (w : World) : ExecutorOutcome → Prop
  | .raised _ => False
  | .returned data drafts => ∃ result, Publishes spec w data drafts result ∧
      ¬(result.artifacts.map fun d => sha256Bytes d.content).Nodup

/-- The ledger has grown by the start of the call and one event that ends it. -/
def Recorded (request : RunRequest) (call : MaterializedToolCall) (w t : World) : Prop :=
  ∃ started ended, t.ledger = w.ledger ++ [started, ended] ∧ Drafted request (startedDraft call) started ∧
    ((∃ errorType, Drafted request (failedDraft call errorType) ended) ∨
      ∃ outputs data encoded, Drafted request (succeededDraft call outputs data encoded) ended)

/-- What executors answer, and the world they leave. -/
abbrev Answers := List (ExecutorOutcome × World)

def answersOf : (op : Op) → op.Reply → World → Answers
  | .execute _ _, outcome, v => [(outcome, v)]
  | _, _, _ => []

/-- The host, which answers one process, with a log of what executors answered it. -/
abbrev watched : Discipline host (World × Answers) := alone.logged answersOf

theorem silent_of_quiet {task : Process α} (quiet : task.Only Op.Quiet) : task.Only (Discipline.Silent (S := host) answersOf) := by
  refine Task.only_weaken (fun op quiet => ?_) quiet
  cases op <;> first | exact fun _ _ => rfl | exact absurd quiet id

omit [Sha256] [JsonSchema] in
theorem append_silent (draft : EventDraft) : (append request draft).Only (Discipline.Silent (S := host) answersOf) := by
  have silent (op : Op) (other : ∀ reply t, answersOf op reply t = []) :
      (Molly.request op).Only (Discipline.Silent (S := host) answersOf) := Task.only_ask other
  refine only_then (only_then (silent _ fun _ _ => rfl) fun _ => silent _ fun _ _ => rfl) fun _ => ?_
  refine only_then (silent _ fun _ _ => rfl) fun _ => only_then (Task.only_ofExcept _) fun _ => ?_
  exact only_then (silent _ fun _ _ => rfl) fun _ => Task.only_ofExcept _

/-- The call is started, its executor answers once, and the ledger is left with an end of the call unless drafts are doubled;
or the call is refused before it is started. -/
def Left (loop : AgentLoop) (request : RunRequest) (call : MaterializedToolCall) (w : World) (t : World × Answers) : Prop :=
  (∀ spec, loop.assertCurrentCall request call = .ok spec → ∀ executor, loop.registry.executorFor spec ≠ .ok executor) ∨
  ∃ spec started outcome v, loop.assertCurrentCall request call = .ok spec ∧ t.2 = [(outcome, v)] ∧
    (Doubled spec v outcome → t.1.ledger = w.ledger ++ [started]) ∧ (¬Doubled spec v outcome → Recorded request call w t.1)

theorem attempt_watched (spec executor : ToolSpec) : watched.Runs
    (fun attempted _ t => ∃ outcome v, t.2 = [(outcome, v)] ∧ t.1.ledger = w.ledger ∧
      match attempted with
      | .error _ => ¬Doubled spec v outcome
      | .ok published => published.1.accepted = true ∧
        ((published.2.2.map ArtifactRecord.artifactId).Nodup ↔ ¬Doubled spec v outcome))
    (fun _ _ _ => False) (attempt spec executor call) memory (w, []) := by
  refine Discipline.runs_bind _ (Discipline.runs_ask _ trivial ?_)
  rintro outcome ⟨v, log⟩ ⟨acted, logged⟩
  have same : v.ledger = w.ledger := acted.1
  obtain rfl : log = [(outcome, v)] := logged
  refine ⟨trivial, ?_⟩
  cases outcome with
  | raised typeName => exact ⟨.raised typeName, v, rfl, same, id⟩
  | returned data drafts =>
    refine Discipline.runs_tryCatch _ (Discipline.runs_bind _ (Discipline.runs_mono _
      (Discipline.runs_logged (silent_of_quiet (publish_quiet spec data drafts)) publish_alone) ?_ ?_))
    · rintro published m ⟨t, log⟩ ⟨⟨restocked, result, publishes, accepted, ids⟩, rfl⟩
      refine ⟨.returned data drafts, v, rfl, restocked.ledger.trans same, accepted, ?_⟩
      have named : (published.2.2.map ArtifactRecord.artifactId).Nodup ↔ (result.artifacts.map fun d => sha256Bytes d.content).Nodup := by
        have split : (result.artifacts.map fun d => (⟨sha256Bytes d.content⟩ : ArtifactId)) =
            (result.artifacts.map fun d => sha256Bytes d.content).map ArtifactId.mk := by
          rw [List.map_map]
          rfl
        rw [ids, split]
        exact List.nodup_map_iff fun a b same => ArtifactId.mk.inj same
      rw [named]
      constructor
      · intro nodup doubled
        obtain ⟨other, publishes', repeated⟩ := doubled
        have one : other = result := Except.ok.inj (publishes'.created.symm.trans publishes.created)
        exact repeated (one ▸ nodup)
      · intro single
        by_contra repeated
        exact single ⟨result, publishes, repeated⟩
    · rintro error m ⟨t, log⟩ ⟨⟨restocked, refused⟩, rfl⟩
      refine ⟨.returned data drafts, v, rfl, restocked.ledger.trans same, ?_⟩
      rintro ⟨result, publishes, _⟩
      exact refused result publishes

theorem executeCall_watched : watched.Runs (fun _ _ t => Left loop request call w t) (fun _ _ t => Left loop request call w t)
    (loop.executeCall request call) memory (w, []) := by
  refine Discipline.runs_bind _ ((Discipline.runs_ofExcept _).mpr ⟨fun spec current => ?_, fun error failed => ?_⟩)
  · refine Discipline.runs_bind _ ((Discipline.runs_ofExcept _).mpr ⟨fun executor found => ?_, fun error missing => ?_⟩)
    · refine Discipline.runs_bind _ (Discipline.runs_mono _
        (Discipline.runs_logged (append_silent _) (append_alone (startedDraft call))) ?_ ?_)
      · rintro started m ⟨u, log⟩ ⟨⟨drafted, rfl, _⟩, rfl⟩
        refine Discipline.runs_bind _ (Discipline.runs_mono _ (attempt_watched spec executor) ?_
          fun _ _ _ impossible => impossible.elim)
        rintro attempted m' ⟨v, log⟩ ⟨outcome, after, rfl, same, told⟩
        cases attempted with
        | error typeName =>
          refine Discipline.runs_mono _ (Discipline.runs_logged (append_silent _) (append_alone (failedDraft call _))) ?_ ?_
          · rintro ended m'' ⟨t, log⟩ ⟨⟨drafted', rfl, _⟩, rfl⟩
            refine Or.inr ⟨spec, started, outcome, after, current, rfl, fun doubled => absurd doubled told,
              fun _ => ⟨started, ended, ?_, drafted, .inl ⟨_, drafted'⟩⟩⟩
            rw [same, List.append_assoc]
            rfl
          · rintro error m'' t ⟨⟨_, refused⟩, _⟩
            exact absurd (acceptable_failed call _) refused
        | ok published =>
          obtain ⟨data, encoded, records⟩ := published
          obtain ⟨accepted, single⟩ := told
          refine Discipline.runs_bind _ (Discipline.runs_mono _
            (Discipline.runs_logged (append_silent _) (append_alone (succeededDraft call _ data encoded))) ?_ ?_)
          · rintro ended m'' ⟨t, log⟩ ⟨⟨drafted', rfl, acceptable⟩, rfl⟩
            have clear := single.mp ((acceptable_succeeded call encoded accepted).mp acceptable)
            have recorded (x : World × Answers) (kept : x.1.ledger = v.ledger ++ [ended]) (log : x.2 = [(outcome, after)]) :
                Left loop request call w x := by
              refine Or.inr ⟨spec, started, outcome, after, current, log, fun doubled => absurd doubled clear,
                fun _ => ⟨started, ended, ?_, drafted, .inr ⟨_, _, _, drafted'⟩⟩⟩
              rw [kept, same, List.append_assoc]
              rfl
            refine Discipline.runs_bind _ (Discipline.keeps_mono _ ?_
              (Discipline.keeps_logged (silent_of_quiet (projectSuccess_quiet ended) m'') (quiet_ledger (projectSuccess_quiet ended m''))))
            rintro ⟨_ | _, m⟩ x ⟨kept, log⟩
            · exact recorded x kept log
            · exact recorded x kept log
          · rintro error m'' ⟨t, log⟩ ⟨⟨rfl, refused⟩, rfl⟩
            have repeated : Doubled spec after outcome := by
              by_contra clear
              exact refused ((acceptable_succeeded call encoded accepted).mpr (single.mpr clear))
            exact Or.inr ⟨spec, started, outcome, after, current, rfl, fun _ => same, fun clear => absurd repeated clear⟩
      · rintro error m t ⟨⟨_, refused⟩, _⟩
        exact absurd (acceptable_started call) refused
    · refine Or.inl fun other known executor found => ?_
      rw [current, Except.ok.injEq] at known
      subst known
      rw [missing] at found
      contradiction
  · refine Or.inl fun spec current => ?_
    rw [failed] at current
    contradiction

/-- A call whose process does not die asks its executor once, and is recorded exactly where the answer is not a result that
would be published but for two drafts of one content. -/
theorem outcome_recorded {t : World} {log : Answers}
    (ran : Steps watched.toMachine (loop.executeCall request call memory) (w, []) (.ret out) (t, log))
    (current : loop.assertCurrentCall request call = .ok spec) (found : loop.registry.executorFor spec = .ok executor) :
    ∃ outcome v, log = [(outcome, v)] ∧ (Recorded request call w t ↔ ¬Doubled spec v outcome) := by
  have left : Left loop request call w (t, log) := by
    have post := watched.keeps_returns ran trivial executeCall_watched
    obtain ⟨result, m⟩ := out
    cases result with
    | error => exact post
    | ok => exact post
  rcases left with refused | ⟨spec', started, outcome, v, current', logged, doubled, single⟩
  · exact absurd found (refused spec current executor)
  · rw [current, Except.ok.injEq] at current'
    subst current'
    refine ⟨outcome, v, logged, fun recorded repeated => ?_, single⟩
    obtain ⟨first, ended, ledger, _⟩ := recorded
    have lengths := congrArg List.length ((doubled repeated).symm.trans ledger)
    simp at lengths

end

/-! ### An executor that returns one content twice -/

namespace Sample
attribute [local instance] standardSha256 noSchema

def note : DraftFields := ⟨[110, 111, 116, 101], "text/plain", none, none⟩

/-- The run of the call on a host whose executor returns these drafts. -/
def executing (drafts : List DraftFields) : Option (Prog host (Except PyError LedgerEvent × LineageMemory) × World) :=
  World.follow 60 (loop.executeCall request call .fresh) empty ⟨noon, eventIds 0 2, [], [.returned .null drafts]⟩

/-- The run ends, and the ledger has so many lines. -/
def endsWith (lines : Nat) (left : Prog host (Except PyError LedgerEvent × LineageMemory) × World) : Bool :=
  match left.1 with
  | .ret _ => left.2.ledger.length = lines
  | .call _ _ => false

theorem executing_ends (drafts : List DraftFields) (lines : Nat) (ends : (executing drafts).any (endsWith lines) = true) :
    ∃ out t, Steps World.machine (loop.executeCall request call .fresh) empty (.ret out) t ∧ t.ledger.length = lines := by
  cases followed : executing drafts with
  | none =>
    rw [followed] at ends
    cases ends
  | some left =>
    rw [followed] at ends
    obtain ⟨p, t⟩ := left
    cases p with
    | ret out => exact ⟨out, t, World.steps_of_follow followed, of_decide_eq_true ends⟩
    | call op next => cases ends

theorem erase_current : ∃ spec executor, loop.assertCurrentCall request call = .ok spec ∧ loop.registry.executorFor spec = .ok executor := by
  have ran : (loop.assertCurrentCall request call).toOption.any
      (fun spec => (loop.registry.executorFor spec).toOption.isSome) = true := by decide +kernel
  cases current : loop.assertCurrentCall request call with
  | error e =>
    rw [current] at ran
    cases ran
  | ok spec =>
    rw [current] at ran
    cases found : loop.registry.executorFor spec with
    | error e =>
      change (loop.registry.executorFor spec).toOption.isSome = true at ran
      rw [found] at ran
      cases ran
    | ok executor => exact ⟨spec, executor, rfl, found⟩

/-- An executor with one draft. -/
theorem outcome_recorded_one : ∃ out t log spec outcome v,
    Steps watched.toMachine (loop.executeCall request call .fresh) (empty, []) (.ret out) (t, log) ∧ log = [(outcome, v)] ∧
      (Recorded request call empty t ↔ ¬Doubled spec v outcome) := by
  obtain ⟨out, t, ran, _⟩ := executing_ends [note] 2 (by decide +kernel)
  obtain ⟨log, watching⟩ : ∃ log, Steps watched.toMachine (loop.executeCall request call .fresh) (empty, []) (.ret out)
      (t, [] ++ log) := logged_of_steps ran []
  obtain ⟨spec, executor, current, found⟩ := erase_current
  obtain ⟨outcome, v, logged, exactly⟩ := outcome_recorded watching current found
  exact ⟨out, t, _, spec, outcome, v, watching, logged, exactly⟩

/-- The call is left interrupted. -/
theorem outcome_recorded_fails : ¬∀ (loop : AgentLoop) (request : RunRequest) (call : MaterializedToolCall) (memory : LineageMemory)
    (w t : World) (out : Except PyError LedgerEvent × LineageMemory) (spec executor : ToolSpec),
    Steps World.machine (loop.executeCall request call memory) w (.ret out) t →
    loop.assertCurrentCall request call = .ok spec → loop.registry.executorFor spec = .ok executor → Recorded request call w t := by
  intro always
  obtain ⟨out, t, ran, lines⟩ := executing_ends [note, note] 1 (by decide +kernel)
  obtain ⟨spec, executor, current, found⟩ := erase_current
  obtain ⟨started, ended, ledger, _⟩ := always _ _ _ _ _ _ _ _ _ ran current found
  rw [ledger] at lines
  simp [empty] at lines

end Sample
end Molly
