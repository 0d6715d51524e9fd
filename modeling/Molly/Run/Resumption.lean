import Molly.Run.Provenance
import Molly.Run.Upkeep

/-! Invocations of a run that is over or interrupted: they read, and change nothing. What
the lineage holds whenever the provider is asked or an invocation returns. -/
namespace Molly
open Effect AgentLoop

section
variable [Sha256]
variable {loop : AgentLoop} {request : RunRequest} {ungated skipped : Prop} {es : List LedgerEvent}
  {m n : RunModel} {e : LedgerEvent} {w : World} {memory : LineageMemory}

/-! ### What a history has written -/

/-- A success event is a drafted one. -/
def SuccessOf (request : RunRequest) (e : LedgerEvent) : Prop :=
  ∃ call outputs data, Storable data ∧ Drafted request (succeededDraft call outputs data data.encode) e

theorem Legal.successOf (legal : Legal loop request ungated skipped es m e n)
    (success : e.eventType = .toolExecutionSucceeded) : SuccessOf request e := by
  cases legal with
  | succeeded outputs data _ _ storable drafted => exact ⟨_, outputs, data, storable, drafted⟩
  | intent _ eventType => cases eventType.symm.trans success
  | start _ drafted | decision _ _ drafted | stopped _ _ drafted | review _ _ drafted
  | hardLimit _ _ _ _ _ drafted | materialized _ _ drafted | required _ _ drafted | recorded _ _ _ drafted
  | rejection _ _ _ _ drafted | runRejected _ _ _ drafted | started _ _ _ drafted | resumed _ _ _ drafted
  | failed _ _ _ drafted => cases drafted.eventType.symm.trans success

theorem History.successOf (history : History loop request ungated skipped es m) (member : e ∈ es)
    (success : e.eventType = .toolExecutionSucceeded) : SuccessOf request e := by
  obtain ⟨before, after, split⟩ := List.append_of_mem member
  exact history.each (P := fun _ e => e.eventType = .toolExecutionSucceeded → SuccessOf request e)
    (fun _ _ _ _ _ legal => legal.successOf) before e after split success

theorem SuccessOf.step (successOf : SuccessOf request e) : ∃ stepId, e.stepId = some stepId := by
  obtain ⟨call, _, _, _, drafted⟩ := successOf
  exact ⟨call.stepId, drafted.step⟩

theorem SuccessOf.projectable (successOf : SuccessOf request e) (stored : ∀ id ∈ e.artifacts, w.Stored id) :
    Projectable w e := by
  obtain ⟨call, outputs, data, storable, drafted⟩ := successOf
  refine ⟨drafted.eventType, ⟨_, drafted.resultData storable⟩, ?_, ?_, stored⟩
  · rw [drafted.callStep]
    rfl
  · rw [drafted.callId]
    rfl

/-- A run that has begun was allowed to. -/
theorem History.allowed (history : History loop request ungated skipped es m) (begun : m.begun = true) :
    loop.ensureRequestPolicy request = .ok () := by
  induction history with
  | empty => contradiction
  | snoc _ legal ih =>
    cases legal with
    | start allowed => exact allowed
    | intent idle | decision _ idle | stopped _ idle | review _ idle | materialized idle => exact ih idle.begun
    | hardLimit _ _ active | required active | recorded active | started active | resumed active
    | succeeded _ _ active | failed _ active => exact ih active.begun
    | rejection begun | runRejected begun => exact ih begun

/-- A run that has begun resumes under its own request. -/
theorem Represents.validateExisting (r : Represents request es m) (begun : m.begun = true) :
    AgentLoop.validateExisting request es = .ok () := by
  obtain ⟨start, rest, rfl, drafted, others⟩ := r.begun begun
  have eventType : start.eventType = .runStarted := drafted.eventType
  have none : ofType .runStarted rest = [] := by
    simp only [ofType, List.filter_eq_nil_iff, decide_eq_true_eq]
    exact others
  have only : ofType .runStarted (start :: rest) = [start] := by
    simp only [ofType] at none
    simp [ofType, eventType, none]
  have recorded (key : String) := drafted.metadata key
  simp only [startDraft, runDraft, startMetadata] at recorded
  have digest : start.metadata.get "request_digest" = some (.str request.requestSha256.text) := by
    simp [recorded, Json.canon]
  have policy : start.metadata.get "policy_digest" = some (.str request.toolPolicyDigest.text) := by
    simp [recorded, Json.canon]
  have body : start.metadata.get "request" = some (.obj (Json.canonFields request.toDict)) := by
    simp [recorded, Json.canon]
  simp [AgentLoop.validateExisting, only, checkStart, digest, policy, body, bind, Except.bind, pure, Except.pure]

omit [Sha256] in
theorem addVisible_nodup {ids visible : List ArtifactId} (nodup : visible.Nodup) : (addVisible visible ids).Nodup := by
  induction ids generalizing visible with
  | nil => exact nodup
  | cons first rest ih =>
    apply ih
    dsimp only
    split
    · exact nodup
    · rename_i unseen
      rw [List.nodup_append]
      refine ⟨nodup, List.nodup_singleton _, ?_⟩
      intro id member other last same
      obtain rfl : other = first := List.mem_singleton.mp last
      exact unseen (same ▸ member)

omit [Sha256] in
theorem visibleArtifacts_nodup (request : RunRequest) (es : List LedgerEvent) : (visibleArtifacts request es).Nodup := by
  have fold (successes : List LedgerEvent) (visible : List ArtifactId) (nodup : visible.Nodup) :
      (successes.foldl (fun visible event => addVisible visible event.outputArtifactIds.ids) visible).Nodup := by
    induction successes generalizing visible with
    | nil => exact nodup
    | cons first rest ih => exact ih _ (addVisible_nodup nodup)
  exact fold _ _ request.inputArtifactIds.nodup

/-- A result can always be made. -/
theorem resultOf_ok (request : RunRequest) (es : List LedgerEvent) (p : RunProjection) (message : String) :
    ∃ r, resultOf request es p message = .ok r := by
  have visible : uniqueArtifactIds "visible_artifact_ids" (visibleArtifacts request es) =
      .ok ⟨visibleArtifacts request es, visibleArtifacts_nodup request es⟩ := uniqueArtifactIds_ok.mpr rfl
  cases pending : p.pendingApproval with
  | none => simp [resultOf, RunResult.create, visible, pending, freezeOptional, bind, Except.bind, pure, Except.pure]
  | some state =>
    simp [resultOf, RunResult.create, visible, pending, freezeOptional,
      freezeFields_of_accepted (MaterializedToolCall.accepted_toDict state.call), bind, Except.bind, pure, Except.pure,
      Functor.map, Except.map]

/-! ### An invocation that only reads -/

/-- The opening of an invocation finds everything as it should be. -/
theorem run_again [JsonSchema] {fuel : Nat} {approval : Option ApprovalRecord}
    {ensures : Option RunResult → LineageMemory → World → Prop} {raises : PyError → LineageMemory → World → Prop}
    (history : History loop request ungated skipped (w.events request) m) (begun : m.begun = true)
    (holds : Custody request w) (settled : Settled request w) (covers : memory.Covers w.lineage)
    (rest : ∀ m, m.Covers w.lineage → (still w).Runs ensures raises (loop.drive request fuel approval false) m w) :
    (still w).Runs ensures raises (loop.run fuel request approval) memory w := by
  have reading := still_reading w
  have nonempty : w.events request ≠ [] := by
    obtain ⟨start, later, known, _⟩ := history.represents.begun begun
    rw [known]
    exact List.cons_ne_nil _ _
  apply Discipline.runs_bind
  apply Discipline.runs_bind
  rw [history.allowed begun]
  apply Discipline.runs_bind
  refine reading.ask (by trivial) ?_
  rintro ledger ⟨rfl, -⟩
  have some : (RunLedger.forRun request.runId w.ledger).isEmpty = false := by
    rw [Bool.eq_false_iff, ne_eq, List.isEmpty_iff]
    exact nonempty
  dsimp only
  rw [some]
  simp only [Bool.false_eq_true, ↓reduceIte]
  apply Discipline.runs_bind
  have valid : AgentLoop.validateExisting request (RunLedger.forRun request.runId w.ledger) = .ok () :=
    history.represents.validateExisting begun
  rw [valid]
  apply Discipline.runs_bind
  refine Discipline.runs_mono _ (reading.verifyAll request.inputArtifactIds.ids) ?_ ?_
  · rintro _ m t ⟨⟨same, kept⟩, _⟩
    subst t m
    apply Discipline.runs_bind
    refine Discipline.runs_mono _ (reading.reconcile_again holds.relations covers ?_) ?_
      fun _ _ _ impossible => impossible.elim
    · intro e member success
      have artifacts := holds.artifacts e member (by rw [success]; rfl)
      exact ⟨(history.successOf member success).projectable artifacts, settled e member success⟩
    · rintro _ m t ⟨rfl, covers⟩
      exact rest m covers
  · rintro error m t ⟨_, id, member, unstored⟩
    exact absurd (holds.inputs nonempty id member) unstored

/-- The result of a turn that reads the ledger once more. -/
theorem result_again {p : RunProjection} {message : String} :
    (still w).Runs (fun r _ t => t = w ∧ r.status = statusOf p) (fun _ _ _ => False)
      (result request (some p) message) memory w := by
  apply Discipline.runs_bind
  refine (still_reading w).ask (by trivial) ?_
  rintro ledger ⟨rfl, -⟩
  obtain ⟨r, made⟩ := resultOf_ok request (RunLedger.forRun request.runId w.ledger) p message
  change Discipline.Runs _ _ _ (Task.ofExcept (resultOf request (RunLedger.forRun request.runId w.ledger) p message)) _ _
  rw [made]
  exact ⟨rfl, resultOf_status made⟩

/-- What the loop of a run that is over, or interrupted, returns: the result of that run, unless no fuel is left. -/
def ReturnsAgain (fuel : Nat) (approval : Option ApprovalRecord) (p : RunProjection) (returned : Option RunResult) : Prop :=
  returned.elim (fuel = 0) fun r => approval = none ∧ r.status = statusOf p

/-- The loop of a run that is over, or interrupted. -/
theorem drive_again [JsonSchema] {fuel : Nat} {approval : Option ApprovalRecord} {p : RunProjection}
    (read : project (w.events request) = .ok p) (stops : p.terminalEvent.isSome = true ∨ p.interrupted = true) :
    (still w).Runs
      (fun r _ t => t = w ∧ ReturnsAgain fuel approval p r)
      (fun _ _ t => t = w ∧ approval.isSome = true) (loop.drive request fuel approval false) memory w := by
  cases fuel with
  | zero => exact ⟨rfl, rfl⟩
  | succ fuel =>
    apply Discipline.runs_bind
    apply Discipline.runs_bind
    refine (still_reading w).ask (by trivial) ?_
    rintro ledger ⟨rfl, -⟩
    apply Discipline.runs_bind
    have known : project (RunLedger.forRun request.runId w.ledger) = .ok p := read
    rw [known]
    have returns (message : String) (unapproved : approval.isSome = false) {next : Turn → Process (Option RunResult)}
        (done : ∀ r, next (.done r) = pure (some r)) :
        (still w).Runs (fun outcome => (still w).Runs
            (fun r _ t => t = w ∧ ReturnsAgain (fuel + 1) approval p r)
            (fun _ _ t => t = w ∧ approval.isSome = true) (next outcome))
          (fun _ _ t => t = w ∧ approval.isSome = true)
          (result request (some p) message >>= fun r => pure (Turn.done r)) memory w := by
      apply Discipline.runs_bind
      refine Discipline.runs_mono _ result_again ?_ fun _ _ _ impossible => impossible.elim
      rintro r m t ⟨same, status⟩
      refine Discipline.runs_pure _ |>.mpr ?_
      rw [done]
      exact ⟨same, Option.not_isSome_iff_eq_none.mp (by simp [unapproved]), status⟩
    change Discipline.Runs _ _ _ (loop.turnOn request _ p approval false) _ _
    unfold AgentLoop.turnOn
    split
    · split
      · rename_i supplied
        exact ⟨rfl, supplied⟩
      · rename_i unsupplied
        exact returns "" (Bool.eq_false_iff.mpr unsupplied) fun _ => rfl
    · rename_i unended
      have interrupted : p.interrupted = true := by
        rcases stops with ended | interrupted
        · exact absurd ended unended
        · exact interrupted
      rw [if_pos interrupted]
      split
      · rename_i supplied
        exact ⟨rfl, supplied⟩
      · rename_i unsupplied
        exact returns "call needs reconciliation" (Bool.eq_false_iff.mpr unsupplied) fun _ => rfl

/-! ### What the lineage holds -/

/-- The relations that record one fact of a success event. -/
def recorded (lineage : List LineageRelation) (e : LedgerEvent) (fact : Fact) : List LineageRelation :=
  lineage.filter fun r => r.successEventId = some e.eventId.text && r.fact = fact

/-- One relation for each output, each pair of an output and an input, and each input of a
success event; no other relation carries its identity. -/
structure ExactLineage (lineage : List LineageRelation) (e : LedgerEvent) (stepId : Identifier) : Prop where
  produced : ∀ output ∈ e.outputArtifactIds.ids,
    (recorded lineage e (.producedBy, output.reference, stepId.reference)).length = 1
  derived : ∀ output ∈ e.outputArtifactIds.ids, ∀ input ∈ e.inputArtifactIds.ids,
    (recorded lineage e (.derivedFrom, output.reference, input.reference)).length = 1
  consumed : ∀ input ∈ e.inputArtifactIds.ids,
    (recorded lineage e (.consumedBy, input.reference, stepId.reference)).length = 1
  only : ∀ r ∈ lineage, r.successEventId = some e.eventId.text →
    (∃ output ∈ e.outputArtifactIds.ids, r.fact = (.producedBy, output.reference, stepId.reference)) ∨
    (∃ output ∈ e.outputArtifactIds.ids, ∃ input ∈ e.inputArtifactIds.ids,
      r.fact = (.derivedFrom, output.reference, input.reference)) ∨
    ∃ input ∈ e.inputArtifactIds.ids, r.fact = (.consumedBy, input.reference, stepId.reference)

omit [Sha256] in
/-- Distinct identifiers leave room for one relation that fits. -/
theorem length_one_of_unique {lineage : List LineageRelation} (unique : (lineage.map (·.relationId)).Nodup)
    {fits : LineageRelation → Bool} {r : LineageRelation} (member : r ∈ lineage) (holds : fits r = true)
    (same : ∀ q ∈ lineage, fits q = true → q.relationId = r.relationId) : (lineage.filter fits).length = 1 := by
  have only : ∀ q ∈ lineage.filter fits, q = r := by
    intro q found
    obtain ⟨there, fit⟩ := List.mem_filter.mp found
    exact List.inj_on_of_nodup_map unique there member (same q there fit)
  have copies := List.eq_replicate_of_mem only
  have nodup : (lineage.filter fits).Nodup := (List.Nodup.of_map _ unique).filter _
  rw [copies, List.nodup_replicate] at nodup
  have positive := List.length_pos_of_mem (List.mem_filter.mpr ⟨member, holds⟩)
  omega

theorem Custody.exact (holds : Custody request w) (member : e ∈ w.events request) (projected : Projected w.lineage e)
    {stepId : Identifier} (step : e.stepId = some stepId) : ExactLineage w.lineage e stepId := by
  have stated : factsOf e = executionFacts e stepId := by simp [factsOf, step]
  have one : ∀ fact ∈ executionFacts e stepId, (recorded w.lineage e fact).length = 1 := by
    intro fact there
    obtain ⟨r, found, expresses⟩ := projected fact (stated ▸ there)
    apply length_one_of_unique holds.relations found
    · simp [expresses.successEventId, expresses.fact_eq]
    · intro q known fits
      simp only [Bool.and_eq_true, decide_eq_true_eq] at fits
      obtain ⟨other, _, states⟩ := holds.expected e member q known fits.1
      have same : other = fact := states.fact_eq.symm.trans fits.2
      rw [states.relationId, expresses.relationId, same]
  have listed (fact : Fact) : fact ∈ executionFacts e stepId ↔
      (∃ output ∈ e.outputArtifactIds.ids, fact = (.producedBy, output.reference, stepId.reference)) ∨
      (∃ output ∈ e.outputArtifactIds.ids, ∃ input ∈ e.inputArtifactIds.ids,
        fact = (.derivedFrom, output.reference, input.reference)) ∨
      ∃ input ∈ e.inputArtifactIds.ids, fact = (.consumedBy, input.reference, stepId.reference) := by
    simp only [executionFacts, List.mem_append, List.mem_flatMap, List.mem_cons, List.mem_map]
    constructor
    · rintro (⟨output, there, same | ⟨input, here, same⟩⟩ | ⟨input, here, same⟩)
      · exact Or.inl ⟨output, there, same⟩
      · exact Or.inr (Or.inl ⟨output, there, input, here, same.symm⟩)
      · exact Or.inr (Or.inr ⟨input, here, same.symm⟩)
    · rintro (⟨output, there, same⟩ | ⟨output, there, input, here, same⟩ | ⟨input, here, same⟩)
      · exact Or.inl ⟨output, there, Or.inl same⟩
      · exact Or.inl ⟨output, there, Or.inr ⟨input, here, same.symm⟩⟩
      · exact Or.inr ⟨input, here, same.symm⟩
  constructor
  · intro output there
    exact one _ ((listed _).mpr (Or.inl ⟨output, there, rfl⟩))
  · intro output there input here
    exact one _ ((listed _).mpr (Or.inr (Or.inl ⟨output, there, input, here, rfl⟩)))
  · intro input here
    exact one _ ((listed _).mpr (Or.inr (Or.inr ⟨input, here, rfl⟩)))
  · intro r found carries
    obtain ⟨fact, there, expresses⟩ := holds.expected e member r found carries
    rw [expresses.fact_eq]
    rw [stated] at there
    exact (listed fact).mp there

/-- A run whose last event is no success has every success projected. -/
theorem Custody.settled_of_last (holds : Custody request w) {before : List LedgerEvent} {last : LedgerEvent}
    (split : w.events request = before ++ [last]) (other : last.eventType ≠ .toolExecutionSucceeded) :
    Settled request w := by
  intro e member success
  apply holds.projected e _ success
  rw [split, List.dropLast_concat]
  rw [split] at member
  rcases List.mem_append.mp member with member | member
  · exact member
  · rw [List.mem_singleton.mp member] at success
    exact absurd success other

/-- A run with a run-ending event is closed by it. -/
theorem Represents.closed (r : Represents request es m) (member : e ∈ es) (ends : e.eventType.endsRun = true) :
    ∃ kind before last, m.ending = .closed kind ∧ es = before ++ [last] ∧ last.eventType.endsRun = true := by
  have shows := r.ending
  cases ending : m.ending with
  | «open» =>
    rw [ending] at shows
    rw [(shows e member).1] at ends
    contradiction
  | review =>
    rw [ending] at shows
    obtain ⟨before, last, rfl, eventType, others⟩ := shows
    rcases List.mem_append.mp member with member | member
    · rw [(others e member).1] at ends
      contradiction
    · rw [List.mem_singleton.mp member, eventType] at ends
      contradiction
  | closed kind =>
    rw [ending] at shows
    obtain ⟨isEnd, before, last, rfl, eventType, _⟩ := shows
    exact ⟨kind, before, last, rfl, rfl, by rw [eventType]; exact isEnd⟩

/-- Whenever the provider is asked or an invocation returns, the lineage states exactly
the facts of the run's successes; an invocation of a run that is over changes nothing. -/
theorem lineage_exact [JsonSchema] {site : Site} (reachable : Reachable loop request (fun _ => True) site) :
    ((∃ context tools next, site.posture = .driving (.call (.nextAction context tools) next)) ∨
        (∃ r memory, site.posture = .driving (.ret (.ok (some r), memory))) →
      ∀ e ∈ RunLedger.forRun request.runId site.world.ledger, e.eventType = .toolExecutionSucceeded →
        ∃ stepId, e.stepId = some stepId ∧ ExactLineage site.world.lineage e stepId) ∧
    ∀ memory, site.posture = .resting memory →
      (∃ e ∈ RunLedger.forRun request.runId site.world.ledger, e.eventType.endsRun = true) →
      ∀ fuel approval q t, Steps World.machine (loop.run fuel request approval memory) site.world q t →
        t = site.world := by
  obtain ⟨m, history⟩ := (reachable.sound diesAtRest_anywhere).history
  obtain ⟨holds, situation⟩ := reachable.kept
  constructor
  · intro posture e member success
    have settled : Settled request site.world := by
      rcases posture with ⟨context, tools, next, posture⟩ | ⟨r, memory, posture⟩
      · rw [posture] at situation
        exact situation.1.2.1
      · rw [posture] at situation
        have orderly : Orderly request [] memory site.world := situation
        exact orderly.settled
    obtain ⟨stepId, step⟩ := (history.successOf member success).step
    exact ⟨stepId, step, holds.exact member (settled e member success) step⟩
  · rintro memory posture ⟨e, member, ends⟩ fuel approval q t steps
    rw [posture] at situation
    have represents := history.represents
    obtain ⟨kind, before, last, closed, split, lastEnds⟩ := represents.closed member ends
    have begun : m.begun = true := by
      cases known : m.begun with
      | true => rfl
      | false =>
        rw [(represents.unbegun known).1] at member
        contradiction
    have settled : Settled request site.world := by
      apply holds.settled_of_last split
      intro success
      rw [success] at lastEnds
      contradiction
    obtain ⟨p, read, projects⟩ := represents.project
    have finished : p.terminalEvent.isSome = true := by
      have terminal := projects.terminal
      rw [closed] at terminal
      have found := congrArg Option.isSome terminal
      simpa [Ending.terminal] using found
    have kept : (still site.world).Runs _ _ (loop.run fuel request approval) memory site.world :=
      run_again history begun holds settled situation fun _ _ => drive_again read (Or.inl finished)
    exact ((still site.world).keeps_steps steps rfl kept).1

/-! ### Interrupted calls -/

/-- A call has been started and never settled. -/
def InterruptedIn (es : List LedgerEvent) : Prop :=
  ∃ e ∈ es, e.eventType = .toolExecutionStarted ∧ ∃ callId, e.metadataCallId = some callId ∧
    ∀ p ∈ es, p.eventType.endsExecution = true → p.metadataCallId ≠ some callId

/-- An interrupted call is the current one, and is running. -/
theorem Represents.running (r : Represents request es m) (interrupted : InterruptedIn es) :
    ∃ call approval, m.current = some (call, .running approval) := by
  obtain ⟨e, member, eventType, callId, named, unsettled⟩ := interrupted
  obtain ⟨call, phase, known, rfl⟩ := r.named e member _ named
  have facts := (r.calls call phase known).facts
  have started : phase.hasStarted = true := by
    have found : e ∈ ofType .toolExecutionStarted (related es call) := by simp [ofType, related, member, eventType, named]
    have positive := List.length_pos_of_mem found
    rw [facts.starts] at positive
    cases has : phase.hasStarted with
    | true => rfl
    | false => simp [has] at positive
  have unended : phase.hasEnded = false := by
    have none : (related es call).filter (·.eventType.endsExecution) = [] := by
      rw [List.filter_eq_nil_iff]
      intro p found ends
      simp only [related, List.mem_filter, decide_eq_true_eq] at found
      exact unsettled p found.1 ends found.2
    have empty := facts.ends
    rw [none] at empty
    cases has : phase.hasEnded with
    | false => rfl
    | true => simp [has] at empty
  cases phase with
  | running approval =>
    rcases List.mem_append.mp known with settled | current
    · have closed := r.settled call _ settled
      contradiction
    · exact ⟨call, approval, by simpa using current⟩
  | materialized | waiting | decided | rejected | succeeded | failed => contradiction

/-- While a call is running, its start is the last event of the run. -/
theorem History.last_started (history : History loop request ungated skipped es m) {call : MaterializedToolCall}
    {approval : Option ApprovalRecord} (current : m.current = some (call, .running approval)) :
    m.begun = true ∧ m.ending = .open ∧ ∃ before last, es = before ++ [last] ∧ last.eventType = .toolExecutionStarted := by
  cases history with
  | empty => contradiction
  | @snoc before _ last _ _ legal =>
    cases legal with
    | started active _ _ drafted => exact ⟨active.begun, active.going, before, last, rfl, drafted.eventType⟩
    | resumed active _ _ drafted => exact ⟨active.begun, active.going, before, last, rfl, drafted.eventType⟩
    | start => contradiction
    | intent idle | decision _ idle | stopped _ idle | review _ idle =>
      have settled := idle.settled _ _ current
      contradiction
    | hardLimit _ _ _ _ notRunning => exact absurd current (notRunning _ _)
    | runRejected _ _ known =>
      cases known.symm.trans current
    | materialized =>
      obtain ⟨_, other⟩ := Prod.mk.inj (Option.some.inj current)
      contradiction
    | required | recorded | rejection | succeeded | failed =>
      obtain ⟨_, other⟩ := Prod.mk.inj (Option.some.inj current)
      contradiction

/-- No executor is called twice for one call, and an interrupted run stays as it is: an
invocation reports the interruption, or refuses the approval it is given. -/
theorem executes_once [JsonSchema] {site : Site} (reachable : Reachable loop request (fun _ => True) site) :
    (executedIds site.world.log).Nodup ∧
    ∀ memory, site.posture = .resting memory → InterruptedIn (RunLedger.forRun request.runId site.world.ledger) →
      ∀ fuel approval q t, Steps World.machine (loop.run (fuel + 1) request approval memory) site.world q t →
        t = site.world ∧ ∀ outcome after, q = .ret (outcome, after) → match approval with
          | none => ∃ r, outcome = .ok (some r) ∧ r.status = .interrupted
          | some _ => ∃ error, outcome = .error error := by
  have sound := reachable.sound diesAtRest_anywhere
  constructor
  · obtain ⟨s, tracks, _⟩ := sound
    exact tracks.once
  · intro memory posture interrupted fuel approval q t steps
    obtain ⟨m, history⟩ := sound.history
    obtain ⟨holds, situation⟩ := reachable.kept
    rw [posture] at situation
    have represents := history.represents
    obtain ⟨call, given, current⟩ := represents.running interrupted
    obtain ⟨begun, going, before, last, split, lastType⟩ := history.last_started current
    have settled : Settled request site.world := holds.settled_of_last split (by rw [lastType]; decide)
    obtain ⟨p, read, projects⟩ := represents.project
    have stops : p.interrupted = true := by
      rw [projects.interrupted, current]
      rfl
    have unended : p.terminalEvent = none := by
      have terminal := projects.terminal
      rw [going] at terminal
      exact Option.map_eq_none_iff.mp terminal
    have kept : (still site.world).Runs _ _ (loop.run (fuel + 1) request approval) memory site.world :=
      run_again history begun holds settled situation fun _ _ => drive_again read (Or.inr stops)
    obtain ⟨same, rest⟩ := (still site.world).keeps_steps steps rfl kept
    refine ⟨same, ?_⟩
    rintro outcome after rfl
    rcases outcome with error | (_ | r)
    · obtain ⟨_, supplied⟩ := rest
      cases approval with
      | none => contradiction
      | some approval => exact ⟨error, rfl⟩
    · obtain ⟨_, impossible⟩ := rest
      contradiction
    · obtain ⟨_, unapproved, status⟩ := rest
      subst unapproved
      refine ⟨r, rfl, ?_⟩
      rw [status]
      simp [statusOf, unended, stops]

end

namespace Sample
attribute [local instance] standardSha256 noSchema

/-- The provider proposes a copy and then stops. -/
def copyingToTheEnd : Script :=
  { copyingOnce with actions := copyingOnce.actions.take 1 ++ [.action (.stop ⟨"done", by decide +kernel⟩)] }

/-- The run has returned behind its end, with a success that has outputs. -/
def copied (site : Site) : Bool :=
  (copyRun site).any (fun e => e.eventType = .toolExecutionSucceeded && e.outputArtifactIds.ids.length = 2) &&
    (copyRun site).any (·.eventType.endsRun) && match site.posture with
      | .driving (.ret (.ok (some _), _)) => true
      | _ => false

/-- The lineage of a finished copy, one of whose outputs is its input. -/
theorem lineage_exact_copied : ∃ site e stepId, e ∈ copyRun site ∧ e.outputArtifactIds.ids.length = 2 ∧
    ExactLineage site.world.lineage e stepId ∧ ∃ memory, ∀ fuel approval q t,
      Steps World.machine (copier.run fuel copying approval memory) site.world q t → t = site.world := by
  obtain ⟨site, reachable, holds⟩ := copies (fun _ => True) [.invoke 3 none, .requests 100 copyingToTheEnd] copied
    (by simp) (by decide +kernel)
  simp only [copied, Bool.and_eq_true, List.any_eq_true, decide_eq_true_eq] at holds
  obtain ⟨⟨⟨e, member, success, outputs⟩, ended⟩, returned⟩ := holds
  split at returned
  · rename_i r memory posture
    obtain ⟨stepId, _, exactly⟩ := (lineage_exact reachable).1 (Or.inr ⟨r, memory, posture⟩) e member success
    have resting : Reachable copier copying (fun _ => True) ⟨.resting memory, site.world⟩ := by
      obtain ⟨_, w⟩ := site
      cases posture
      exact reachable.step .finish
    exact ⟨site, e, stepId, member, outputs, exactly, memory, (lineage_exact resting).2 memory rfl ended⟩
  · contradiction

/-- The executor has been called and its call never settled. -/
def interruptedCopy (site : Site) : Bool :=
  isResting site && (copyRun site).any fun e => e.eventType = .toolExecutionStarted &&
    e.metadataCallId = some (serverId "call" 0).text && (copyRun site).all fun p =>
      !(p.eventType.endsExecution && p.metadataCallId = some (serverId "call" 0).text)

/-- The process dies while the executor works; the next one reports the interruption. -/
theorem executes_once_interrupted : ∃ site, executedIds site.world.log = [serverId "call" 0] ∧
    (executedIds site.world.log).Nodup ∧ InterruptedIn (copyRun site) ∧ ∃ memory, ∀ q t,
      Steps World.machine (copier.run 1 copying none memory) site.world q t →
        t = site.world ∧ ∀ outcome after, q = .ret (outcome, after) →
          ∃ r, outcome = .ok (some r) ∧ r.status = .interrupted := by
  obtain ⟨site, reachable, holds⟩ := copies (fun _ => True) [.invoke 3 none, .requests 30 copyingOnce, .die]
    (fun site => interruptedCopy site && executedIds site.world.log = [serverId "call" 0])
    (fun _ _ => trivial) (by decide +kernel)
  simp only [interruptedCopy, Bool.and_eq_true, List.any_eq_true, List.all_eq_true, decide_eq_true_eq, Bool.not_eq_true',
    Bool.and_eq_false_iff, decide_eq_false_iff_not] at holds
  obtain ⟨⟨resting, e, member, ⟨eventType, named⟩, unsettled⟩, executed⟩ := holds
  have interrupted : InterruptedIn (copyRun site) := by
    refine ⟨e, member, eventType, _, named, ?_⟩
    intro p there ends
    rcases unsettled p there with other | other
    · rw [ends] at other
      contradiction
    · exact other
  obtain ⟨once, stays⟩ := executes_once reachable
  refine ⟨site, executed, once, interrupted, ?_⟩
  cases posture : site.posture with
  | resting memory => exact ⟨memory, stays memory posture interrupted 0 none⟩
  | driving program =>
    simp only [isResting, posture] at resting
    contradiction

end Sample
end Molly
