import Molly.Inspect.Disclosed
import Molly.Inspect.Partition
import Molly.Run.System

/-! The traces of two runs that differ in their payload. -/
namespace Molly
open AgentLoop RunInspector

/-- The event that `_persist_intent` appends. -/
def intentDraft (profileRef : Identifier) (profileDigest specDigest intentDigest : Digest) (intent : Json) : EventDraft :=
  runDraft .intentFrozen (word "FROZEN")
    [("workflow", .str "br1"), ("llm_profile_ref", .str profileRef.text),
      ("llm_profile_digest", .str profileDigest.text), ("spec_digest", .str specDigest.text),
      ("intent_digest", .str intentDigest.text), ("intent", intent)]

/-- The intents of a run are those that the workflow provider has frozen. -/
def FrozenByWorkflow (request : RunRequest) (events : List LedgerEvent) : Prop :=
  ∀ e ∈ events, e.eventType = .intentFrozen → ∃ profileRef profileDigest specDigest intentDigest intent,
    Drafted request (intentDraft profileRef profileDigest specDigest intentDigest intent) e

/-! ### The digests that a run records -/

section
variable [Sha256] {request : RunRequest}

/-- What a draft holds under a derived key. -/
def EventDraft.digestAt (draft : EventDraft) (key : String) : Prop :=
  draft.metadata.lookup key = none ∧ recordsDigest draft.eventType key = false ∨
    ∃ d : Digest, draft.metadata.lookup key = some (.str d.text) ∧ recordsDigest draft.eventType key = true

omit [Sha256] in
theorem Drafted.digested {draft : EventDraft} (drafted : Drafted request draft e)
    (held : ∀ key ∈ derivedKeys, draft.digestAt key) : Digested e := by
  intro key derived
  rw [drafted.metadata key, drafted.eventType]
  rcases held key derived with ⟨absent, records⟩ | ⟨d, found, records⟩
  · exact Or.inl ⟨by rw [absent]; rfl, records⟩
  · exact Or.inr ⟨d, by rw [found]; simp [Json.canon], records⟩

/-- An event that the loop may append holds digests under its derived keys. -/
theorem Legal.digested {loop : AgentLoop} {ungated skipped : Prop} {es : List LedgerEvent} {m n : RunModel} {e : LedgerEvent}
    (legal : Legal loop request ungated skipped es m e n) (other : e.eventType ≠ .intentFrozen) : Digested e := by
  cases legal with
  | intent _ same => exact absurd same other
  | start _ drafted | decision _ _ drafted | stopped _ _ drafted | review _ _ drafted | hardLimit _ _ _ _ _ drafted
  | materialized _ _ drafted | required _ _ drafted | recorded _ _ _ drafted | rejection _ _ _ _ drafted
  | runRejected _ _ _ drafted | started _ _ _ drafted | resumed _ _ _ drafted | succeeded _ _ _ _ _ drafted
  | failed _ _ _ drafted =>
    refine drafted.digested ?_
    simp [derivedKeys, EventDraft.digestAt, recordsDigest, EventType.isCall, runDraft, callDraft, startDraft, startMetadata,
      decisionDraft, stoppedDraft, reviewDraft, hardLimitDraft, materializedDraft, approvalRequiredDraft,
      approvalRecordedDraft, rejectionDraft, runRejectedDraft, startedDraft, succeededDraft, failedDraft]

omit [Sha256] in
theorem intent_digested {profileRef : Identifier} {profileDigest specDigest intentDigest : Digest} {intent : Json}
    (drafted : Drafted request (intentDraft profileRef profileDigest specDigest intentDigest intent) e) : Digested e := by
  refine drafted.digested ?_
  simp [derivedKeys, EventDraft.digestAt, intentDraft, runDraft, recordsDigest, EventType.isCall]

/-- The run: every event of a history does. -/
theorem History.digested {loop : AgentLoop} {ungated skipped : Prop} {es : List LedgerEvent} {m : RunModel}
    (history : History loop request ungated skipped es m) (frozen : FrozenByWorkflow request es) : ∀ e ∈ es, Digested e := by
  induction history with
  | empty => simp
  | snoc _ legal ih =>
    rename_i before m' e n _
    refine forall_snoc (ih fun e member => frozen e (List.mem_append_left _ member)) ?_
    by_cases isIntent : e.eventType = .intentFrozen
    · obtain ⟨_, _, _, _, _, drafted⟩ := frozen e (by simp) isIntent
      exact intent_digested drafted
    · exact legal.digested isIntent

/-! ### Lists of events that differ in payload -/

omit [Sha256] in
theorem related_map {R : α → β → Prop} {g : α → γ} {h : β → γ} (same : ∀ x y, R x y → g x = h y) {xs : List α} {ys : List β}
    (each : List.Forall₂ R xs ys) : xs.map g = ys.map h := by
  induction each with
  | nil => rfl
  | cons related _ ih => rw [List.map_cons, List.map_cons, same _ _ related, ih]

omit [Sha256] in
theorem related_any {R : α → β → Prop} {p : α → Bool} {q : β → Bool} (same : ∀ x y, R x y → p x = q y) {xs : List α}
    {ys : List β} (each : List.Forall₂ R xs ys) : xs.any p = ys.any q := by
  induction each with
  | nil => rfl
  | cons related _ ih => rw [List.any_cons, List.any_cons, same _ _ related, ih]

omit [Sha256] in
theorem related_filter {R : α → β → Prop} {p : α → Bool} {q : β → Bool} (same : ∀ x y, R x y → p x = q y) {xs : List α}
    {ys : List β} (each : List.Forall₂ R xs ys) : List.Forall₂ R (xs.filter p) (ys.filter q) := by
  induction each with
  | nil => exact .nil
  | @cons x y _ _ related _ ih =>
    have tests := same _ _ related
    cases passed : p x with
    | false => simpa [passed, ← tests] using ih
    | true =>
      rw [List.filter_cons_of_pos passed, List.filter_cons_of_pos (tests ▸ passed)]
      exact .cons related ih

omit [Sha256] in
theorem alike_ofType (eventType : EventType) {es fs : List LedgerEvent} (each : List.Forall₂ Alike es fs) :
    List.Forall₂ Alike (ofType eventType es) (ofType eventType fs) :=
  related_filter (fun _ _ alike => by rw [alike.eventType]) each

omit [Sha256] in
theorem Alike.callId {e f : LedgerEvent} (alike : Alike e f) : e.metadata.get "call_id" = f.metadata.get "call_id" :=
  alike.metadata "call_id" (by decide) (by decide)

omit [Sha256] in
theorem Alike.metadataCallId {e f : LedgerEvent} (alike : Alike e f) : e.metadataCallId = f.metadataCallId := by
  unfold LedgerEvent.metadataCallId
  rw [alike.callId]

omit [Sha256] in
theorem Alike.callIdValue {e f : LedgerEvent} (alike : Alike e f) : e.metadataGet "call_id" = f.metadataGet "call_id" := by
  unfold LedgerEvent.metadataGet
  rw [alike.callId]

/-! ### Their calls -/

/-- Two projected calls that differ in payload, digests and artifact identities only. -/
structure CallsAlike (c d : ToolCallInspection) : Prop where
  callId : c.callId = d.callId
  stepId : c.stepId = d.stepId
  toolName : c.toolName = d.toolName
  toolVersion : c.toolVersion = d.toolVersion
  approvalRequired : c.approvalRequired = d.approvalRequired
  approvalStatus : c.approvalStatus = d.approvalStatus
  executionStatus : c.executionStatus = d.executionStatus
  resultDigest : c.resultDataSha256.isSome = d.resultDataSha256.isSome
  failureType : c.failureType = d.failureType

omit [Sha256] in
theorem callSpanAttributes_alike {c d : ToolCallInspection} (alike : CallsAlike c d) :
    hideFields (callSpanAttributes c) = hideFields (callSpanAttributes d) := by
  have result : hideFields (optionalEntry "result_data_sha256" Digest.text c.resultDataSha256) =
      hideFields (optionalEntry "result_data_sha256" Digest.text d.resultDataSha256) := by
    have present := alike.resultDigest
    cases left : c.resultDataSha256 <;> cases right : d.resultDataSha256 <;> simp [left, right] at present
    · rfl
    · simp [optionalEntry, hideFields, hide_digest]
  simp only [callSpanAttributes, hideFields_append, result, alike.callId, alike.stepId, alike.toolName, alike.toolVersion,
    alike.approvalRequired, alike.approvalStatus, alike.executionStatus, alike.failureType]
  simp [hideFields, hide_digest, hide_artifacts]

/-- The decision of a call's approval, as its event records it. -/
theorem approvalOf_decision {call : MaterializedToolCall} {es : List LedgerEvent} {approval : Option ApprovalRecord}
    (read : approvalOf call es = .ok approval) : (es = [] ∧ approval = none) ∨
      ∃ e a v, es = [e] ∧ approval = some a ∧ approvalEntry e "decision" = some v ∧ approvalDecision v = .ok a.decision := by
  unfold approvalOf at read
  split at read
  · cases read
    exact Or.inl ⟨rfl, rfl⟩
  · rename_i e
    split at read
    · rename_i raw found
      obtain ⟨a, bound, rfl⟩ := map_ok.mp read
      have bound := orRaise_eq_ok.mp bound
      simp only [bind_ok] at bound
      obtain ⟨a', parsed, _, -, same⟩ := bound
      cases same
      have parsed := orRaise_eq_ok.mp parsed
      simp only [ApprovalRecord.parse, bind_ok] at parsed
      obtain ⟨_, -, _, -, _, -, _, -, v, stored, decision, valid, _, -, _, -, _, -, _, -, shown⟩ := parsed
      cases shown
      have entry : approvalEntry e "decision" = some v := by
        unfold item at stored
        split at stored
        · rename_i value known
          cases stored
          simp [approvalEntry, found, known]
        · contradiction
      exact Or.inr ⟨e, _, v, rfl, rfl, entry, valid⟩
    · contradiction
  · contradiction

theorem approvals_alike {call call' : MaterializedToolCall} {es fs : List LedgerEvent} {a b : Option ApprovalRecord}
    (each : List.Forall₂ Alike es fs) (read : approvalOf call es = .ok a) (read' : approvalOf call' fs = .ok b) :
    a.map (·.decision) = b.map (·.decision) := by
  rcases approvalOf_decision read with ⟨rfl, rfl⟩ | ⟨e, a, v, rfl, rfl, entry, decided⟩
  · cases each
    rcases approvalOf_decision read' with ⟨-, rfl⟩ | ⟨_, _, _, impossible, -⟩
    · rfl
    · contradiction
  · rcases approvalOf_decision read' with ⟨rfl, -⟩ | ⟨f, b, w, rfl, rfl, entry', decided'⟩
    · cases each
    · cases each with
      | cons alike _ =>
        have same : some v = some w := by rw [← entry, ← entry', alike.approval "decision" (by decide)]
        rw [Option.some.injEq] at same
        rw [same, decided', Except.ok.injEq] at decided
        rw [Option.map_some, Option.map_some, decided]

theorem outcomes_alike {es fs : List LedgerEvent} {o p : Outcome} (each : List.Forall₂ Alike es fs)
    (read : outcomeOf es = .ok o) (read' : outcomeOf fs = .ok p) : o.digest.isSome = p.digest.isSome ∧ o.failure = p.failure := by
  cases each with
  | nil =>
    cases read
    cases read'
    exact ⟨rfl, rfl⟩
  | cons alike _ =>
    simp only [outcomeOf, alike.eventType] at read read'
    split at read
    · rename_i succeeded
      simp only [succeeded, ↓reduceIte, bind_ok] at read read'
      obtain ⟨_, -, shown⟩ := read
      obtain ⟨_, -, shown'⟩ := read'
      cases shown
      cases shown'
      exact ⟨rfl, rfl⟩
    · rename_i failed
      have errorType := alike.metadata "error_type" (by decide) (by decide)
      simp only [failed, ↓reduceIte, bind_ok, failureType, LedgerEvent.metadataGet, errorType] at read read'
      obtain ⟨failure, known, shown⟩ := read
      obtain ⟨failure', known', shown'⟩ := read'
      cases shown
      cases shown'
      rw [known, Except.ok.injEq] at known'
      exact ⟨rfl, known'⟩

omit [Sha256] in
theorem executionStatus_alike {a b : Option ApprovalRecord} {started started' terminal terminal' : List LedgerEvent}
    (decision : a.map (·.decision) = b.map (·.decision)) (starts : List.Forall₂ Alike started started')
    (ends : List.Forall₂ Alike terminal terminal') :
    executionStatus a started terminal = executionStatus b started' terminal' := by
  have refused : a.any (·.decision = .rejected) = b.any (·.decision = .rejected) := by
    have through (o : Option ApprovalRecord) :
        o.any (·.decision = .rejected) = (o.map (·.decision)).any (· = .rejected) := by cases o <;> rfl
    rw [through a, through b, decision]
  have begun : started.isEmpty = started'.isEmpty := by cases starts <;> rfl
  cases ends with
  | nil => simp [executionStatus, refused, begun]
  | cons alike _ => simp [executionStatus, refused, begun, alike.eventType]

/-- Two collected calls whose events differ in payload only. -/
structure EntriesAlike (x y : CallEvents) : Prop where
  event : Alike x.event y.event
  related : List.Forall₂ Alike x.related y.related
  callId : x.call.callId = y.call.callId
  stepId : x.call.stepId = y.call.stepId
  toolName : x.call.toolName = y.call.toolName
  toolVersion : x.call.toolVersion = y.call.toolVersion

theorem projectCall_alike {x y : CallEvents} {c d : ToolCallInspection} (alike : EntriesAlike x y)
    (projected : projectCall x = .ok c) (projected' : projectCall y = .ok d) : CallsAlike c d := by
  simp only [projectCall, bind_ok, ensure_ok, exists_const] at projected projected'
  obtain ⟨_, -, a, approved, -, -, -, o, settled, shown⟩ := projected
  obtain ⟨_, -, b, approved', -, -, -, p, settled', shown'⟩ := projected'
  cases shown
  cases shown'
  have decision := approvals_alike (alike_ofType .approvalRecorded alike.related) approved approved'
  have ends : List.Forall₂ Alike (x.related.filter (·.eventType.endsExecution)) (y.related.filter (·.eventType.endsExecution)) :=
    related_filter (fun _ _ alike => by rw [alike.eventType]) alike.related
  have outcomes := outcomes_alike ends settled settled'
  have required : x.related.any (·.eventType = .approvalRequired) = y.related.any (·.eventType = .approvalRequired) :=
    related_any (fun _ _ alike => by rw [alike.eventType]) alike.related
  refine ⟨alike.callId, alike.stepId, alike.toolName, alike.toolVersion, required, ?_, ?_, outcomes.1, outcomes.2⟩
  · dsimp only
    rw [required]
    cases a <;> cases b <;> simp at decision <;> simp [approvalStatus, decision]
  · exact executionStatus_alike decision (alike_ofType .toolExecutionStarted alike.related) ends

/-- The calls of two runs whose events differ in payload only. -/
theorem collected_alike {es fs : List LedgerEvent} {known known' : List CallEvents} (each : List.Forall₂ Alike es fs)
    (c : Collected es known) (c' : Collected fs known') : List.Forall₂ EntriesAlike known known' := by
  have ids : known.map (·.call.callId.text) = known'.map (·.call.callId.text) := by
    rw [c.ids, c'.ids]
    have names := related_map (fun _ _ alike => Alike.metadataCallId alike) (alike_ofType .toolCallMaterialized each)
    have chosen := congrArg (List.filterMap id) names
    simpa [callIds, List.filterMap_map] using chosen
  have texts : List.Forall₂ (fun x y : CallEvents => x.call.callId.text = y.call.callId.text) known known' := by
    have equal : List.Forall₂ (· = ·) (known.map (·.call.callId.text)) (known'.map (·.call.callId.text)) := by
      rw [List.forall₂_eq_eq_eq, ids]
    exact List.forall₂_map_right_iff.mp (List.forall₂_map_left_iff.mp equal)
  obtain ⟨sizes, pairs⟩ := List.forall₂_iff_zip.mp texts
  refine List.forall₂_iff_zip.mpr ⟨sizes, fun {x y} member => ?_⟩
  have text := pairs member
  obtain ⟨left, right⟩ := List.of_mem_zip member
  have own := c.each x left
  have own' := c'.each y right
  have events : List.Forall₂ Alike (x.event :: x.related) (y.event :: y.related) := by
    rw [← own, ← own', text]
    exact related_filter (fun _ _ alike => by rw [alike.metadataCallId]) each
  cases events with
  | cons alike related =>
    obtain ⟨step, name, version⟩ := materializedCall_ok (c.source x left).2
    obtain ⟨step', name', version'⟩ := materializedCall_ok (c'.source y right).2
    refine ⟨alike, related, Identifier.ext text, ?_, ?_, ?_⟩
    · simpa [step, step'] using alike.stepId
    · simpa [name, name'] using alike.toolName
    · simpa [version, version'] using alike.toolVersion

/-! ### Their inspections -/

omit [Sha256] in
theorem getLast?_alike {g : LedgerEvent → α} (same : ∀ e f, Alike e f → g e = g f) {es fs : List LedgerEvent}
    (each : List.Forall₂ Alike es fs) : es.getLast?.map g = fs.getLast?.map g := by
  rw [← List.getLast?_map, ← List.getLast?_map, related_map same each]

omit [Sha256] in
theorem status_alike {es fs : List LedgerEvent} {p q : Option MaterializedToolCall} {s t : RunStatus}
    (each : List.Forall₂ Alike es fs) (pending : p.isSome = q.isSome) (known : RunInspector.status es p = .ok s)
    (known' : RunInspector.status fs q = .ok t) : s = t := by
  have ends : List.Forall₂ Alike (es.filter (·.eventType.endsRun)) (fs.filter (·.eventType.endsRun)) :=
    related_filter (fun _ _ alike => by rw [alike.eventType]) each
  have terminal := getLast?_alike (fun _ _ alike => alike.eventType) ends
  have settled {e f : LedgerEvent} (alike : Alike e f) : es.any (fun later => later.eventType.endsExecution &&
      later.metadataGet "call_id" = e.metadataGet "call_id") = fs.any (fun later => later.eventType.endsExecution &&
      later.metadataGet "call_id" = f.metadataGet "call_id") := by
    refine related_any (fun _ _ alike' => ?_) each
    rw [alike'.eventType, alike'.callIdValue, alike.callIdValue]
  have open_ : es.any (unfinished es) = fs.any (unfinished fs) := by
    refine related_any (fun _ _ alike => ?_) each
    simp only [unfinished, settled alike, alike.eventType]
  have review : es.getLast?.any (·.eventType = .reviewRequested) = fs.getLast?.any (·.eventType = .reviewRequested) := by
    have last := getLast?_alike (fun _ _ alike => alike.eventType) each
    cases left : es.getLast? <;> cases right : fs.getLast? <;> rw [left, right] at last <;> simp at last
    simp [last]
  unfold RunInspector.status at known known'
  cases left : (es.filter (·.eventType.endsRun)).getLast? <;> cases right : (fs.filter (·.eventType.endsRun)).getLast? <;>
    rw [left, right] at terminal <;> simp at terminal
  · rw [left] at known
    rw [right] at known'
    simp only [open_, pending, review] at known
    rw [known, Except.ok.injEq] at known'
    exact known'
  · rw [left] at known
    rw [right] at known'
    simp only [terminal] at known
    dsimp only at known'
    split at known
    · split at known'
      · cases known
        cases known'
        rfl
      · contradiction
    · contradiction

omit [Sha256] in
theorem counts_alike {es fs : List LedgerEvent} (each : List.Forall₂ Alike es fs) : AgentLoop.counts es = AgentLoop.counts fs := by
  have decisions := (alike_ofType .decisionRecorded each).length_eq
  have calls := alike_ofType .toolCallMaterialized each
  have steps := congrArg (List.filterMap id) (related_map (fun _ _ alike => alike.stepId) calls)
  simp only [List.filterMap_map, Function.id_comp] at steps
  simp only [AgentLoop.counts, decisions, calls.length_eq, steps]

theorem pending_isSome {events : List LedgerEvent} {calls : List ToolCallInspection} {pending : Option MaterializedToolCall}
    (projected : projectCalls events = .ok (calls, pending)) :
    pending.isSome = calls.any ToolCallInspection.awaitsApproval := by
  simp only [projectCalls, bind_ok, ensure_ok, exists_const] at projected
  obtain ⟨known, -, calls', each, -, shown⟩ := projected
  cases shown
  have sizes := (mapM_ok.mp each).length_eq
  have seconds : calls = (known.zip calls).map Prod.snd := by rw [List.map_snd_zip (by omega)]
  rw [Option.isSome_map]
  conv_rhs => rw [seconds, List.any_map]
  rw [Bool.eq_iff_iff]
  simp

/-- The request that the inspector reads is the one that the loop has recorded. -/
theorem requestFromStart_drafted {start : LedgerEvent} {read : RunRequest} (drafted : Drafted request (startDraft request) start)
    (parsed : requestFromStart start = .ok read) : read = request := by
  have raw : start.metadata.get "request" = some (.obj (Json.canonFields request.toDict)) := by
    have found := drafted.metadata "request"
    simpa [startDraft, runDraft, startMetadata, Json.canon] using found
  simp only [requestFromStart, raw, RunRequest.fromDict_toDict, orRaise_ok, bind_ok, ensure_ok, exists_const,
    Except.ok.injEq, exists_eq_left'] at parsed
  obtain ⟨_, -, -, _, -, -, -, same⟩ := parsed
  cases same
  rfl

/-- An inspected history is that of its own request. -/
theorem request_of_inspected {inspector : RunInspector} {i : RunInspection} {read : RunRequest}
    {pending : Option MaterializedToolCall} {m : RunModel}
    (inspected : Inspected inspector request.runId i read pending)
    (r : Represents request (RunLedger.forRun request.runId inspector.ledger) m) : read = request := by
  obtain ⟨start, first, parsed⟩ := inspected.started
  obtain ⟨rest, split⟩ := startOf_ok first
  cases begun : m.begun with
  | false =>
    rw [(r.unbegun begun).1] at split
    contradiction
  | true =>
    obtain ⟨start', rest', split', drafted, -⟩ := r.begun begun
    rw [split] at split'
    cases split'
    exact requestFromStart_drafted drafted parsed

/-- Two inspections that agree on everything but payload, digests and artifact identities. -/
structure InspectionsAlike (i j : RunInspection) : Prop where
  runId : i.runId = j.runId
  status : i.status = j.status
  decisionCount : i.decisionCount = j.decisionCount
  toolCallCount : i.toolCallCount = j.toolCallCount
  stepCount : i.stepCount = j.stepCount
  profileRef : i.runtimeProfileRef = j.runtimeProfileRef
  profileDigest : i.runtimeProfileDigest = j.runtimeProfileDigest
  calls : List.Forall₂ CallsAlike i.materializedCalls j.materializedCalls

theorem inspections_alike {inspector inspector' : RunInspector} {runId runId' : Identifier} {i j : RunInspection}
    {request request' : RunRequest} {pending pending' : Option MaterializedToolCall}
    (inspected : Inspected inspector runId i request pending) (inspected' : Inspected inspector' runId' j request' pending')
    (run : request.runId = request'.runId) (metadata : request.metadata = request'.metadata)
    (each : List.Forall₂ Alike (RunLedger.forRun runId inspector.ledger) (RunLedger.forRun runId' inspector'.ledger)) :
    InspectionsAlike i j := by
  obtain ⟨known, c, -, projections⟩ := projectCalls_ok inspected.calls
  obtain ⟨known', c', -, projections'⟩ := projectCalls_ok inspected'.calls
  have entries := collected_alike each c c'
  have calls : List.Forall₂ CallsAlike i.materializedCalls j.materializedCalls := by
    have chain := forall₂_comp projections.flip (forall₂_comp entries projections')
    refine chain.imp ?_
    rintro c d ⟨x, projected, y, alike, projected'⟩
    exact projectCall_alike alike projected projected'
  have waiting : pending.isSome = pending'.isSome := by
    rw [pending_isSome inspected.calls, pending_isSome inspected'.calls]
    have same (c d : ToolCallInspection) (alike : CallsAlike c d) : c.awaitsApproval = d.awaitsApproval := by
      simp only [ToolCallInspection.awaitsApproval, ToolCallInspection.isPending, alike.executionStatus, alike.approvalStatus]
    exact related_any same calls
  have counts := inspected.counts
  rw [counts_alike each, ← inspected'.counts] at counts
  simp only [Prod.mk.injEq] at counts
  have ref := inspected.profileRef
  have ref' := inspected'.profileRef
  have digest := inspected.profileDigest
  have digest' := inspected'.profileDigest
  simp only [RunInspector.profileRef, RunInspector.profileDigest, metadata] at ref digest
  simp only [RunInspector.profileRef, RunInspector.profileDigest] at ref' digest'
  rw [ref, Except.ok.injEq] at ref'
  rw [digest, Except.ok.injEq] at digest'
  exact ⟨by rw [inspected.run, inspected'.run, run], status_alike each waiting inspected.status inspected'.status,
    counts.1, counts.2.1, counts.2.2, ref', digest', calls⟩

omit [Sha256] in
theorem rootAttributes_alike {i j : RunInspection} (alike : InspectionsAlike i j) :
    hideFields (rootAttributes i) = hideFields (rootAttributes j) := by
  simp only [rootAttributes, hideFields_append, alike.runId, alike.status, alike.decisionCount, alike.toolCallCount,
    alike.stepCount, alike.profileRef, alike.profileDigest]
  simp [hideFields, hide_digest, hide_artifacts]

/-! ### Their traces -/

omit [Sha256] in
theorem shown_alike {es fs : List LedgerEvent} {shown shown' : List TraceEvent} (each : List.Forall₂ Alike es fs)
    (digested : ∀ e ∈ es, Digested e) (digested' : ∀ f ∈ fs, Digested f) (made : es.mapM traceEvent = .ok shown)
    (made' : fs.mapM traceEvent = .ok shown') : shown.map TraceEvent.disclosed = shown'.map TraceEvent.disclosed := by
  have pairs := (List.forall₂_and_left es _).mpr ⟨fun _ member => member, each⟩
  have pairs' := ((List.forall₂_and_left fs _).mpr ⟨fun _ member => member, pairs.flip⟩).flip
  have chain := forall₂_comp (mapM_ok.mp made).flip (forall₂_comp pairs' (mapM_ok.mp made'))
  refine related_map ?_ chain
  rintro s t ⟨e, left, f, ⟨among', among, alike⟩, right⟩
  exact traceEvent_alike alike (digested e among) (digested' f among') left right

omit [Sha256] in
theorem traceSpan_alike {spanId : HexId 16} {parent : Option (HexId 16)} {name : String} {spanned spanned' es fs : List LedgerEvent}
    {attributes attributes' : Fields} {s t : TraceSpan} (times : List.Forall₂ Alike spanned spanned')
    (each : List.Forall₂ Alike es fs) (digested : ∀ e ∈ es, Digested e) (digested' : ∀ f ∈ fs, Digested f)
    (same : hideFields attributes = hideFields attributes')
    (made : traceSpan spanId parent name spanned es attributes = .ok s)
    (made' : traceSpan spanId parent name spanned' fs attributes' = .ok t) : s.disclosed = t.disclosed := by
  simp only [traceSpan, bind_ok] at made made'
  obtain ⟨shown, read, made⟩ := made
  obtain ⟨shown', read', made'⟩ := made'
  have events := shown_alike each digested digested' read read'
  split at made
  · rename_i first last head tail
    split at made'
    · rename_i first' last' head' tail'
      simp only [bind_ok] at made made'
      obtain ⟨id, valid, m, frozen, result⟩ := made
      obtain ⟨id', valid', m', frozen', result'⟩ := made'
      cases result
      cases result'
      rw [valid, Except.ok.injEq] at valid'
      have ends := getLast?_alike (fun _ _ alike => alike.timestamp) times
      have starts : spanned.head?.map (·.timestamp) = spanned'.head?.map (·.timestamp) := by
        cases times with
        | nil => rfl
        | cons alike _ => simp [alike.timestamp]
      rw [head, head', Option.map_some, Option.map_some, Option.some.injEq] at starts
      rw [tail, tail', Option.map_some, Option.map_some, Option.some.injEq] at ends
      simp only [TraceSpan.disclosed, valid', starts, ends, events, attributes_alike frozen frozen' same]
    · contradiction
  · contradiction

/-- Call spans of two runs, over the events of their calls. -/
theorem callSpan_alike {traceId : HexId 32} {rootId : HexId 16} {es fs : List LedgerEvent} {known known' : List CallEvents}
    (c : Collected es known) (c' : Collected fs known') (distinct : (es.map (·.eventId)).Nodup)
    (distinct' : (fs.map (·.eventId)).Nodup) (digested : ∀ e ∈ es, Digested e) (digested' : ∀ f ∈ fs, Digested f)
    {x y : CallEvents} (left : x ∈ known) (right : y ∈ known') (entries : EntriesAlike x y) {call call' : ToolCallInspection}
    (projected : projectCall x = .ok call) (projected' : projectCall y = .ok call') {s t : TraceSpan}
    (made : callSpan traceId es call rootId = .ok s) (made' : callSpan traceId fs call' rootId = .ok t) :
    s.disclosed = t.disclosed := by
  have calls := projectCall_alike entries projected projected'
  rw [callSpan_eq c distinct left projected] at made
  rw [callSpan_eq c' distinct' right projected', ← calls.callId, ← calls.toolName] at made'
  have own : ∀ e ∈ x.event :: x.related, Digested e := by
    intro e member
    rw [← c.each x left] at member
    exact digested e (List.mem_of_mem_filter member)
  have own' : ∀ f ∈ y.event :: y.related, Digested f := by
    intro f member
    rw [← c'.each y right] at member
    exact digested' f (List.mem_of_mem_filter member)
  have events : List.Forall₂ Alike (x.event :: x.related) (y.event :: y.related) := .cons entries.event entries.related
  exact traceSpan_alike events events own own' (callSpanAttributes_alike calls) made made'

/-- The traces of two histories that differ in payload only show the same. -/
theorem traces_alike {loop loop' : AgentLoop} {request' : RunRequest} {ungated skipped : Prop} {m m' : RunModel}
    {inspector inspector' : RunInspector} {t t' : RunTrace}
    (history : History loop request ungated skipped (RunLedger.forRun request.runId inspector.ledger) m)
    (history' : History loop' request' ungated skipped (RunLedger.forRun request'.runId inspector'.ledger) m')
    (frozen : FrozenByWorkflow request (RunLedger.forRun request.runId inspector.ledger))
    (frozen' : FrozenByWorkflow request' (RunLedger.forRun request'.runId inspector'.ledger))
    (run : request.runId = request'.runId) (metadata : request.metadata = request'.metadata)
    (each : List.Forall₂ Alike (RunLedger.forRun request.runId inspector.ledger)
      (RunLedger.forRun request'.runId inspector'.ledger))
    (projected : projectRun inspector request.runId = .ok t) (projected' : projectRun inspector' request'.runId = .ok t') :
    t.disclosed = t'.disclosed := by
  obtain ⟨i, _, root, children, unique, inspected, _, rooted, spans, created⟩ := projectRun_ok projected
  obtain ⟨j, _, root', children', unique', inspected', _, rooted', spans', created'⟩ := projectRun_ok projected'
  obtain ⟨read, pending, inspected⟩ := inspectRun_ok inspected
  obtain ⟨read', pending', inspected'⟩ := inspectRun_ok inspected'
  obtain rfl := request_of_inspected inspected history.represents
  obtain rfl := request_of_inspected inspected' history'.represents
  have alike := inspections_alike inspected inspected' run metadata each
  have digested := history.digested frozen
  have digested' := history'.digested frozen'
  obtain ⟨known, c, -, projections⟩ := projectCalls_ok inspected.calls
  obtain ⟨known', c', -, projections'⟩ := projectCalls_ok inspected'.calls
  have distinct : ((RunLedger.forRun read.runId inspector.ledger).map (·.eventId)).Nodup :=
    unique.sublist (List.filter_sublist.map _)
  have distinct' : ((RunLedger.forRun read'.runId inspector'.ledger).map (·.eventId)).Nodup :=
    unique'.sublist (List.filter_sublist.map _)
  have rootShown : root.disclosed = root'.disclosed := by
    rw [alike.runId] at rooted
    have own : List.Forall₂ Alike (rootEvents (RunLedger.forRun read.runId inspector.ledger))
        (rootEvents (RunLedger.forRun read'.runId inspector'.ledger)) :=
      related_filter (fun _ _ alike => by rw [alike.eventType]) each
    exact traceSpan_alike each own (fun e member => digested e (List.mem_of_mem_filter member))
      (fun f member => digested' f (List.mem_of_mem_filter member)) (rootAttributes_alike alike) rooted rooted'
  have childrenShown : children.map TraceSpan.disclosed = children'.map TraceSpan.disclosed := by
    have left := forall₂_comp ((List.forall₂_and_left known _).mpr ⟨fun _ member => member, projections⟩) spans
    have right := forall₂_comp ((List.forall₂_and_left known' _).mpr ⟨fun _ member => member, projections'⟩) spans'
    have chain := forall₂_comp left.flip (forall₂_comp (collected_alike each c c') right)
    refine related_map ?_ chain
    rintro s t ⟨x, ⟨call, ⟨among, projected⟩, made⟩, y, entries, call', ⟨among', projected'⟩, made'⟩
    rw [alike.runId] at made
    exact callSpan_alike c c' distinct distinct' digested digested' among among' entries projected projected' made made'
  obtain ⟨traceId, runId, status, all⟩ := RunTrace.create_ok created
  obtain ⟨traceId', runId', status', all'⟩ := RunTrace.create_ok created'
  simp only [RunTrace.disclosed, traceId, traceId', runId, runId', status, status', all, all', alike.runId, alike.status,
    List.map_cons, rootShown, childrenShown]

/-- The traces of two runs of the loop that differ only in goals, arguments, reasons, intents and
result data, and in what is derived from them, are equal but for digests and artifact identities. -/
theorem traces_disclose_nothing [JsonSchema] (loop loop' : AgentLoop) (request request' : RunRequest) (site site' : Site)
    (reachable : Reachable loop request (fun _ => True) site)
    (reachable' : Reachable loop' request' (fun _ => True) site') (inspector inspector' : RunInspector)
    (ledger : inspector.ledger = site.world.ledger) (ledger' : inspector'.ledger = site'.world.ledger)
    (frozen : FrozenByWorkflow request (RunLedger.forRun request.runId inspector.ledger))
    (frozen' : FrozenByWorkflow request' (RunLedger.forRun request'.runId inspector'.ledger))
    (run : request.runId = request'.runId) (metadata : request.metadata = request'.metadata)
    (each : List.Forall₂ Alike (RunLedger.forRun request.runId inspector.ledger)
      (RunLedger.forRun request'.runId inspector'.ledger))
    (t t' : RunTrace) (projected : projectRun inspector request.runId = .ok t)
    (projected' : projectRun inspector' request'.runId = .ok t') : t.disclosed = t'.disclosed := by
  obtain ⟨m, history⟩ := (reachable.sound diesAtRest_anywhere).history
  obtain ⟨m', history'⟩ := (reachable'.sound diesAtRest_anywhere).history
  rw [← ledger] at history
  rw [← ledger'] at history'
  exact traces_alike history history' frozen frozen' run metadata each projected projected'

end

/-! ### Two runs of one deployment -/

/-- A value under a key that holds neither payload nor a digest of it. -/
def plainValue (key : String) (value : Json) : Option Json :=
  if key ∈ payloadKeys ∨ key ∈ derivedKeys then none else some value

/-- What an event holds besides payload and digests. -/
structure PlainParts where
  eventType : EventType
  names : List (Option Identifier)
  timestamp : Timestamp
  profiles : List JsonObject
  digests : List (Option DigestReference)
  metadata : Fields
  approval : Option Json
  deriving DecidableEq

def plainParts (e : LedgerEvent) : PlainParts where
  eventType := e.eventType
  names := [e.stepId, e.status, e.toolName, e.toolVersion]
  timestamp := e.timestamp
  profiles := [e.modelProfile, e.providerProfile, e.seedMetadata]
  digests := [e.promptDigest, e.configDigest]
  metadata := Effect.SortedMap.filterValues plainValue e.metadata.fields
  approval := e.metadata.get "approval"

theorem alike_of_plainParts {e f : LedgerEvent} (same : plainParts e = plainParts f) : Alike e f := by
  simp only [plainParts, PlainParts.mk.injEq, List.cons.injEq, and_true] at same
  obtain ⟨eventType, ⟨stepId, status, toolName, toolVersion⟩, timestamp, ⟨modelProfile, providerProfile, seedMetadata⟩,
    ⟨promptDigest, configDigest⟩, metadata, approval⟩ := same
  refine ⟨eventType, stepId, status, toolName, toolVersion, timestamp, modelProfile, providerProfile, promptDigest,
    configDigest, seedMetadata, fun key payload derived => ?_, fun key _ => by simp only [approvalEntry, approval]⟩
  have found := congrArg (List.lookup key) metadata
  rw [Effect.SortedMap.lookup_filterValues e.metadata.sorted, Effect.SortedMap.lookup_filterValues f.metadata.sorted] at found
  have plain : plainValue key = some := by
    funext value
    simp [plainValue, payload, derived]
  simpa [JsonObject.get, plain] using found

namespace Sample
attribute [local instance] standardSha256 noSchema

/-- The request of another run under the same identifier, with another goal. -/
def otherRequest : RunRequest :=
  ⟨request.runId, "erase the rest", .none, loop.policy.policyDigest, noon, .empty, none, by decide +kernel⟩

/-- A run that has recorded its start. -/
def begun (request : RunRequest) : Option Site :=
  Site.play loop request [.invoke 3 none, .requests 6 proposing] ⟨.resting .fresh, empty⟩

theorem begun_reachable {request : RunRequest} {site : Site} (played : begun request = some site) : Reachable loop request (fun _ => True) site := by
  refine Site.reachable_of_play (fun _ _ => trivial) (.start ?_) played
  constructor <;> simp [empty]

/-- Whether two runs differ, but in payload only, and both have traces. -/
def differInPayload (site site' : Site) : Bool :=
  (projectRun (inspecting site.world.ledger) request.runId).toOption.isSome &&
    (projectRun (inspecting site'.world.ledger) otherRequest.runId).toOption.isSome &&
    decide (site.world.ledger ≠ site'.world.ledger) &&
    decide ((RunLedger.forRun request.runId site.world.ledger).map plainParts =
      (RunLedger.forRun otherRequest.runId site'.world.ledger).map plainParts) &&
    (site.world.ledger ++ site'.world.ledger).all fun e => e.eventType ≠ .intentFrozen

theorem traces_disclose_nothing_asking : ∃ site site' t t',
    Reachable loop request (fun _ => True) site ∧ Reachable loop otherRequest (fun _ => True) site' ∧
    projectRun (inspecting site.world.ledger) request.runId = .ok t ∧
    projectRun (inspecting site'.world.ledger) otherRequest.runId = .ok t' ∧
    site.world.ledger ≠ site'.world.ledger ∧ t.disclosed = t'.disclosed := by
  have passes : ((begun request).any fun site => (begun otherRequest).any (differInPayload site)) = true := by decide +kernel
  simp only [Option.any_eq_true] at passes
  obtain ⟨site, played, site', played', passes⟩ := passes
  simp only [differInPayload, Bool.and_eq_true, decide_eq_true_eq, List.all_eq_true, List.mem_append] at passes
  obtain ⟨⟨⟨⟨returns, returns'⟩, differ⟩, plain⟩, quiet⟩ := passes
  obtain ⟨t, projected⟩ := ok_of_some returns
  obtain ⟨t', projected'⟩ := ok_of_some returns'
  have each : List.Forall₂ Alike (RunLedger.forRun request.runId site.world.ledger)
      (RunLedger.forRun otherRequest.runId site'.world.ledger) := by
    have equal := List.forall₂_eq_eq_eq.symm ▸ plain
    exact (List.forall₂_map_left_iff.mp (List.forall₂_map_right_iff.mp equal)).imp fun _ _ => alike_of_plainParts
  have reachable := begun_reachable played
  have reachable' := begun_reachable played'
  refine ⟨site, site', t, t', reachable, reachable', projected, projected', differ,
    traces_disclose_nothing loop loop request otherRequest site site' reachable reachable' _ _ rfl rfl ?_ ?_ rfl rfl each
      t t' projected projected'⟩
  · intro e member isIntent
    exact absurd isIntent (quiet e (Or.inl (List.mem_of_mem_filter member)))
  · intro e member isIntent
    exact absurd isIntent (quiet e (Or.inr (List.mem_of_mem_filter member)))

end Sample
end Molly
