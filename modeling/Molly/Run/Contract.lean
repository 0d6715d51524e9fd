import Molly.Run.Footprint

/-! The contract of one driver: what it may ask for in which state of the ledger, and
the rules that discharge it for single requests and for one append. -/
namespace Molly
open Effect AgentLoop

/-- What a driver sees: the ledger, and the call it has started but not yet handed out. -/
structure DriverState where
  ledger : List LedgerEvent
  armed : Option String

namespace DriverState

/-- The events of the driven run. -/
def events (request : RunRequest) (s : DriverState) : List LedgerEvent := RunLedger.forRun request.runId s.ledger

/-- The call that an event starts. -/
def arms (e : LedgerEvent) : Option String :=
  if e.eventType = .toolExecutionStarted then e.metadataCallId else none

def act [Sha256] : (op : Op) → DriverState → op.Reply → DriverState → Prop
  | .snapshot, s, reply, t => reply = s.ledger ∧ t = s
  | .readEvents, s, reply, t => reply = s.ledger ∧ t = s
  | .appendEvent event, s, reply, t =>
    reply = RunLedger.append s.ledger event ∧ t = ⟨s.ledger ++ appended reply, arms event⟩
  | .newId stem used, s, reply, t => isServerId stem reply = true ∧ reply.text ∉ used ∧ t = s
  | .nextAction context _, s, _, t => FreezesIntents context.runId s.ledger t.ledger ∧ t.armed = none
  | .execute _ _, s, _, t => t = { s with armed := none }
  | .readRelations, s, _, t | .appendRelation _ _, s, _, t | .readObject _, s, _, t
  | .linkObject _ _, s, _, t | .readRecord _, s, _, t | .linkRecord _ _, s, _, t | .now, s, _, t => t = s

end DriverState

/-- Each append continues a history, the provider is asked when nothing is due, and an
executor is called once for the start that was just recorded. -/
def contract [Sha256] (loop : AgentLoop) (request : RunRequest) (ungated skipped : Prop) :
    Discipline host DriverState where
  act := DriverState.act
  inv s := ∃ m, History loop request ungated skipped (s.events request) m
  may
    | .appendEvent e, s => e.runId = request.runId ∧ ∃ m n,
        History loop request ungated skipped (s.events request) m ∧
        Legal loop request ungated skipped (s.events request) m (RunLedger.chain s.ledger e) n
    | .nextAction context _, s => context.runId = request.runId ∧ ∃ m,
        History loop request ungated skipped (s.events request) m ∧ m.Idle skipped
    | .execute _ context, s => ∃ m call approval,
        History loop request ungated skipped (s.events request) m ∧
        m.current = some (call, .running approval) ∧ context = contextOf call ∧
        s.armed = some call.callId.text
    | _, _ => True

/-! ### Drafts that the ledger accepts -/

def EventDraft.Acceptable (draft : EventDraft) : Prop :=
  draft.outputArtifactIds.Nodup ∧ Json.acceptedFields draft.metadata = true

section
variable [Sha256]

theorem acceptable_callDraft {eventType : EventType} {status : Identifier} {call : MaterializedToolCall}
    {outputs : List ArtifactId} {metadata : Fields} (nodup : outputs.Nodup)
    (accepted : Json.acceptedFields metadata = true) :
    (callDraft eventType status call outputs metadata).Acceptable := by
  refine ⟨nodup, ?_⟩
  simp only [callDraft, List.cons_append, List.nil_append, Json.acceptedFields, Json.accepted, accepted,
    Bool.and_true]
  simp [acceptsKey_record]

theorem acceptable_start (request : RunRequest) : (startDraft request).Acceptable := by
  refine ⟨List.nodup_nil, ?_⟩
  simp only [startDraft, runDraft, startMetadata, Json.acceptedFields, Json.accepted,
    RunRequest.accepted_toDict, accepted_artifactIds, Bool.and_true]
  simp [acceptsKey_record]

omit [Sha256] in
theorem accepted_action (action : StructuredAction) : Json.acceptedFields action.toDict = true := by
  have texts (subjects : List Reference) :
      Json.acceptedItems (subjects.map fun subject => Json.str subject.text) = true := by
    induction subjects with
    | nil => rfl
    | cons _ _ ih => simp [Json.acceptedItems, Json.accepted, ih]
  cases action with
  | toolCall p =>
    simp only [StructuredAction.toDict, Json.acceptedFields, Json.accepted, JsonObject.accepted_toJson,
      accepted_artifactIds, Bool.and_true]
    simp [acceptsKey_record]
  | stop a =>
    simp only [StructuredAction.toDict, Json.acceptedFields, Json.accepted, Bool.and_true]
    simp [acceptsKey_record]
  | requestReview a =>
    simp only [StructuredAction.toDict, Json.acceptedFields, Json.accepted, texts, Bool.and_true]
    simp [acceptsKey_record]

omit [Sha256] in
theorem acceptable_runDraft {eventType : EventType} {status : Identifier} {metadata : Fields}
    (accepted : Json.acceptedFields metadata = true) : (runDraft eventType status metadata).Acceptable :=
  ⟨List.nodup_nil, accepted⟩

omit [Sha256] in
theorem acceptable_decision (action : StructuredAction) : (decisionDraft action).Acceptable := by
  refine acceptable_runDraft ?_
  simp only [Json.acceptedFields, Json.accepted, accepted_action, Bool.and_true]
  simp [acceptsKey_record]

omit [Sha256] in
theorem acceptable_stopped (action : StopAction) : (stoppedDraft action).Acceptable := by
  refine acceptable_runDraft ?_
  simp only [Json.acceptedFields, Json.accepted, Bool.and_true]
  simp [acceptsKey_record]

omit [Sha256] in
theorem acceptable_review (action : RequestReviewAction) : (reviewDraft action).Acceptable := by
  refine acceptable_runDraft ?_
  simp only [Json.acceptedFields, Json.accepted, accepted_action, Bool.and_true]
  simp [acceptsKey_record]

omit [Sha256] in
theorem acceptable_hardLimit (reason : String) (counted : Nat × Nat × Nat) (limits : ServerRunHardLimits) :
    (hardLimitDraft reason counted limits).Acceptable := by
  refine acceptable_runDraft ?_
  simp only [Json.acceptedFields, Json.accepted, Bool.and_true]
  simp [acceptsKey_record]

theorem acceptable_materialized (call : MaterializedToolCall) : (materializedDraft call).Acceptable := by
  refine acceptable_callDraft List.nodup_nil ?_
  simp only [Json.acceptedFields, Json.accepted, MaterializedToolCall.accepted_toDict, Bool.and_true]
  simp [acceptsKey_record]

theorem acceptable_required (call : MaterializedToolCall) : (approvalRequiredDraft call).Acceptable :=
  acceptable_callDraft List.nodup_nil rfl

theorem acceptable_recorded (call : MaterializedToolCall) (approval : ApprovalRecord) :
    (approvalRecordedDraft call approval).Acceptable := by
  refine acceptable_callDraft List.nodup_nil ?_
  simp only [Json.acceptedFields, Json.accepted, ApprovalRecord.accepted_toDict, Bool.and_true]
  simp [acceptsKey_record]

theorem acceptable_rejection (call : MaterializedToolCall) (approval : ApprovalRecord) :
    (rejectionDraft call approval).Acceptable := by
  refine acceptable_callDraft List.nodup_nil ?_
  simp only [Json.acceptedFields, Json.accepted, Bool.and_true]
  simp [acceptsKey_record]

theorem acceptable_runRejected (call : MaterializedToolCall) : (runRejectedDraft call).Acceptable := by
  refine ⟨List.nodup_nil, ?_⟩
  simp only [runRejectedDraft, Json.acceptedFields, Json.accepted, Bool.and_true]
  simp [acceptsKey_record]

theorem acceptable_started (call : MaterializedToolCall) : (startedDraft call).Acceptable :=
  acceptable_callDraft List.nodup_nil rfl

theorem acceptable_failed (call : MaterializedToolCall) (errorType : String) :
    (failedDraft call errorType).Acceptable := by
  refine acceptable_callDraft List.nodup_nil ?_
  simp only [Json.acceptedFields, Json.accepted, Bool.and_true]
  simp [acceptsKey_record]

/-- The success event alone can be refused: its outputs may repeat. -/
theorem acceptable_succeeded (call : MaterializedToolCall) {outputs : List ArtifactId} {data : Json}
    (encoded : Bytes) (storable : data.accepted = true) :
    (succeededDraft call outputs data encoded).Acceptable ↔ outputs.Nodup := by
  refine ⟨fun both => both.1, fun nodup => acceptable_callDraft nodup ?_⟩
  simp only [Json.acceptedFields, Json.accepted, storable, Bool.and_true]
  simp [acceptsKey_record]

end

/-! ### Rules -/

section
variable [Sha256] {loop : AgentLoop} {request : RunRequest} {ungated skipped : Prop} {s : DriverState}
  {m n : RunModel} {memory : LineageMemory}

theorem forRun_snoc (ledger : List LedgerEvent) {e : LedgerEvent} (run : e.runId = request.runId) :
    RunLedger.forRun request.runId (ledger ++ [e]) = RunLedger.forRun request.runId ledger ++ [e] := by
  simp [RunLedger.forRun, run]

/-- A program that stays away from the ledger and the calls out of the loop. -/
theorem quiet_runs {task : Process α} {ensures : α → LineageMemory → DriverState → Prop}
    {raises : PyError → LineageMemory → DriverState → Prop} (quiet : task.Only Op.Quiet)
    (holds : (contract loop request ungated skipped).inv s) (returned : ∀ value memory, ensures value memory s)
    (raised : ∀ error memory, raises error memory s) :
    (contract loop request ungated skipped).Runs ensures raises task memory s := by
  refine Discipline.runs_of_only _ quiet ?_ ?_ holds returned raised
  · intro op allowed
    cases op <;> first | trivial | exact absurd allowed id
  · intro op reply t allowed acted
    cases op with
    | snapshot | appendEvent | nextAction | execute => exact absurd allowed id
    | readEvents => exact acted.2
    | newId => exact acted.2.2
    | readRelations | appendRelation | readObject | linkObject | readRecord | linkRecord | now => exact acted

/-- A read of the ledger, at the head of a turn or later. -/
theorem read_runs {ensures : List LedgerEvent → LineageMemory → DriverState → Prop}
    {raises : PyError → LineageMemory → DriverState → Prop}
    (holds : (contract loop request ungated skipped).inv s) (returned : ensures s.ledger memory s) :
    (contract loop request ungated skipped).Runs ensures raises (Molly.request .readEvents) memory s := by
  refine Discipline.runs_ask _ trivial ?_
  rintro reply t ⟨rfl, rfl⟩
  exact ⟨holds, returned⟩

theorem snapshot_runs {ensures : List LedgerEvent → LineageMemory → DriverState → Prop}
    {raises : PyError → LineageMemory → DriverState → Prop}
    (holds : (contract loop request ungated skipped).inv s) (returned : ensures s.ledger memory s) :
    (contract loop request ungated skipped).Runs ensures raises (Molly.request .snapshot) memory s := by
  refine Discipline.runs_ask _ trivial ?_
  rintro reply t ⟨rfl, rfl⟩
  exact ⟨holds, returned⟩

theorem now_runs {ensures : Timestamp → LineageMemory → DriverState → Prop}
    {raises : PyError → LineageMemory → DriverState → Prop}
    (holds : (contract loop request ungated skipped).inv s) (returned : ∀ time, ensures time memory s) :
    (contract loop request ungated skipped).Runs ensures raises (Molly.request .now) memory s := by
  refine Discipline.runs_ask _ trivial ?_
  rintro reply t rfl
  exact ⟨holds, returned reply⟩

/-- A new identifier is one that no event of the ledger uses. -/
theorem newUniqueId_runs {stem : String} {field : IdField}
    {ensures : Identifier → LineageMemory → DriverState → Prop}
    {raises : PyError → LineageMemory → DriverState → Prop}
    (holds : (contract loop request ungated skipped).inv s)
    (returned : ∀ id, id.text ∉ usedIds field s.ledger → ensures id memory s) :
    (contract loop request ungated skipped).Runs ensures raises (newUniqueId stem field) memory s := by
  refine Discipline.runs_bind _ (read_runs holds (Discipline.runs_ask _ trivial ?_))
  rintro id t ⟨_, fresh, rfl⟩
  exact ⟨holds, returned id fresh⟩

/-- The append rule: an acceptable draft is persisted under a fresh identity. -/
theorem append_runs {draft : EventDraft} {ensures : LedgerEvent → LineageMemory → DriverState → Prop}
    {raises : PyError → LineageMemory → DriverState → Prop}
    (history : History loop request ungated skipped (s.events request) m)
    (legal : ∀ e, Drafted request draft e → Legal loop request ungated skipped (s.events request) m e n)
    (returned : ∀ e t, Drafted request draft e → t.events request = s.events request ++ [e] →
      t.armed = DriverState.arms e → History loop request ungated skipped (t.events request) n →
      ensures e memory t)
    (raised : ¬ draft.Acceptable → ∀ error, raises error memory s) :
    (contract loop request ungated skipped).Runs ensures raises (append request draft) memory s := by
  have holds : (contract loop request ungated skipped).inv s := ⟨m, history⟩
  refine Discipline.runs_bind _ (newUniqueId_runs holds fun eventId fresh => ?_)
  refine Discipline.runs_bind _ (now_runs holds fun timestamp => ?_)
  refine Discipline.runs_bind _ ((Discipline.runs_ofExcept _).mpr ⟨fun event made => ?_, fun error failed => ?_⟩)
  · have drafted := Drafted.chained made s.ledger
    have continued : History loop request ungated skipped
        (s.events request ++ [RunLedger.chain s.ledger event]) n := .snoc history (legal _ drafted)
    have run : event.runId = request.runId := drafted.run
    have free : ∀ e ∈ s.ledger, e.eventId ≠ event.eventId := by
      intro e member same
      refine fresh (List.mem_map.mpr ⟨e, member, ?_⟩)
      rw [same, (create_ok made).1]
    have persisted : RunLedger.append s.ledger event = .ok (RunLedger.chain s.ledger event) :=
      append_ok.mpr ⟨free, rfl⟩
    refine Discipline.runs_bind _ (Discipline.runs_ask _ ⟨run, m, n, history, legal _ drafted⟩ ?_)
    rintro reply t ⟨rfl, rfl⟩
    have grown : DriverState.events request ⟨s.ledger ++ appended (RunLedger.append s.ledger event),
        DriverState.arms event⟩ = s.events request ++ [RunLedger.chain s.ledger event] := by
      simp only [DriverState.events, persisted, appended]
      exact forRun_snoc s.ledger drafted.run
    rw [← grown] at continued
    refine ⟨⟨n, continued⟩, (Discipline.runs_ofExcept _).mpr ⟨fun e same => ?_, fun error same => ?_⟩⟩
    · rw [persisted, Except.ok.injEq] at same
      subst same
      exact returned _ _ drafted grown rfl continued
    · rw [persisted] at same
      contradiction
  · refine raised (fun acceptable => ?_) error
    have accepted : ∃ e, LedgerEvent.create eventId request.runId timestamp draft = .ok e :=
      create_isOk.mpr acceptable
    obtain ⟨e, made⟩ := accepted
    rw [made] at failed
    contradiction

/-- The append of a draft that the ledger always accepts. -/
theorem append_returns {draft : EventDraft} {ensures : LedgerEvent → LineageMemory → DriverState → Prop}
    {raises : PyError → LineageMemory → DriverState → Prop} (acceptable : draft.Acceptable)
    (history : History loop request ungated skipped (s.events request) m)
    (legal : ∀ e, Drafted request draft e → Legal loop request ungated skipped (s.events request) m e n)
    (returned : ∀ e t, Drafted request draft e → t.events request = s.events request ++ [e] →
      t.armed = DriverState.arms e → History loop request ungated skipped (t.events request) n →
      ensures e memory t) :
    (contract loop request ungated skipped).Runs ensures raises (append request draft) memory s :=
  append_runs history legal returned fun refused => absurd acceptable refused

end
end Molly
