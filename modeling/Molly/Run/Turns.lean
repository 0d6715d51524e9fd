import Mathlib.Data.List.Nodup
import Molly.Run.Calls

/-! The turns of `AgentLoop.run` under the contract, and the loop around them. -/
namespace Molly
open Effect AgentLoop

/-- Provider turns, approvals and executions that the current call still asks for. -/
def RunModel.weight (m : RunModel) : Nat :=
  match m.current with
  | none => 0
  | some (_, .waiting) => 2
  | some (_, phase) => phase.due.toNat

/-- The measure of the loop: three for each decision left, and the current call. -/
def remaining (request : RunRequest) (es : List LedgerEvent) (m : RunModel) : Nat :=
  3 * ((effectiveHardLimits request).maxDecisions - (counts es).1) + m.weight

section
variable [Sha256]

/-- A result is the projection of the ledger it is returned at. -/
def Returned (loop : AgentLoop) (request : RunRequest) (ungated skipped : Prop) (r : RunResult)
    (s : DriverState) : Prop :=
  ∃ m p message, History loop request ungated skipped (s.events request) m ∧ m.Ready loop ungated skipped ∧
    project (s.events request) = .ok p ∧ resultOf request (s.events request) p message = .ok r

/-- A turn ends with a result, or nearer to one. -/
def Turned (loop : AgentLoop) (request : RunRequest) (ungated skipped : Prop) (bound : Nat) :
    Turn → LineageMemory → DriverState → Prop
  | .done r, _, s => Returned loop request ungated skipped r s
  | .again _ _, _, s => ∃ m, History loop request ungated skipped (s.events request) m ∧ m.begun = true ∧
      m.Ready loop ungated skipped ∧ remaining request (s.events request) m < bound

variable {loop : AgentLoop} {request : RunRequest} {ungated skipped : Prop} {s : DriverState}
  {m n : RunModel} {memory : LineageMemory} {call : MaterializedToolCall} {phase : CallPhase} {bound : Nat}

theorem Returned.rests {r : RunResult} (returned : Returned loop request ungated skipped r s) :
    Rests loop request ungated skipped s := by
  obtain ⟨m, _, _, history, ready, _⟩ := returned
  exact ⟨m, history, ready⟩

/-! ### Counting -/

omit [Sha256] in
theorem counts_snoc_other (es : List LedgerEvent) {e : LedgerEvent} (notCall : e.eventType ≠ .toolCallMaterialized) :
    (counts (es ++ [e])).2 = (counts es).2 := by
  simp [counts, ofType_snoc, notCall]

omit [Sha256] in
theorem decisions_snoc (es : List LedgerEvent) (e : LedgerEvent) :
    (counts (es ++ [e])).1 = (counts es).1 + if e.eventType = .decisionRecorded then 1 else 0 := by
  simp only [counts, ofType_snoc]
  split <;> simp

omit [Sha256] in
/-- Intents count for nothing and show nothing. -/
theorem ofType_intents {es intents : List LedgerEvent} {eventType : EventType}
    (frozen : ∀ e ∈ intents, e.eventType = .intentFrozen) (other : eventType ≠ .intentFrozen) :
    ofType eventType (es ++ intents) = ofType eventType es := by
  have none : ofType eventType intents = [] := by
    simp only [ofType, List.filter_eq_nil_iff, decide_eq_true_eq]
    intro e member same
    exact other (same.symm.trans (frozen e member))
  simp only [ofType, List.filter_append] at none ⊢
  simp [none]

/-! ### Results -/

theorem result_runs {projection : Option RunProjection} {message : String}
    (history : History loop request ungated skipped (s.events request) m) (ready : m.Ready loop ungated skipped)
    (read : ∀ p, projection = some p → project (s.events request) = .ok p) :
    (contract loop request ungated skipped).Runs (fun r _ t => Returned loop request ungated skipped r t)
      (fun _ _ t => Rests loop request ungated skipped t) (result request projection message) memory s := by
  have rests : Rests loop request ungated skipped s := ⟨m, history, ready⟩
  refine Discipline.runs_bind _ (read_runs ⟨m, history⟩ ?_)
  cases projection with
  | some p =>
    refine (Discipline.runs_ofExcept _).mpr ⟨fun r made => ?_, fun _ _ => rests⟩
    exact ⟨m, p, message, history, ready, read p rfl, made⟩
  | none =>
    refine Discipline.runs_bind _ ((Discipline.runs_ofExcept _).mpr ⟨fun p known => ?_, fun _ _ => rests⟩)
    refine (Discipline.runs_ofExcept _).mpr ⟨fun r made => ?_, fun _ _ => rests⟩
    exact ⟨m, p, message, history, ready, known, made⟩

/-- The turn that returns what the ledger shows. -/
theorem done_runs {projection : Option RunProjection} {message : String}
    (history : History loop request ungated skipped (s.events request) m) (ready : m.Ready loop ungated skipped)
    (read : ∀ p, projection = some p → project (s.events request) = .ok p) :
    (contract loop request ungated skipped).Runs (Turned loop request ungated skipped bound)
      (fun _ _ t => Rests loop request ungated skipped t)
      (result request projection message >>= fun r => pure (.done r)) memory s := by
  refine Discipline.runs_bind _ (Discipline.runs_mono _ (result_runs history ready read) ?_ fun _ _ _ rests => rests)
  intro r memory t returned
  exact returned

theorem appendHardLimit_runs {reason : String} {counted : Nat × Nat × Nat}
    (history : History loop request ungated skipped (s.events request) m)
    (active : m.Active skipped) (ready : m.Ready loop ungated skipped)
    (notWaiting : ∀ call, m.current ≠ some (call, .waiting))
    (notRunning : ∀ call approval, m.current ≠ some (call, .running approval)) :
    (contract loop request ungated skipped).Runs (fun _ _ t => Rests loop request ungated skipped t)
      (fun _ _ t => Rests loop request ungated skipped t) (appendHardLimit request reason counted) memory s := by
  refine Discipline.runs_bind _ (read_runs ⟨m, history⟩ ?_)
  dsimp only
  split
  · exact ⟨m, history, ready⟩
  · refine Discipline.runs_bind _ (append_returns (acceptable_hardLimit _ _ _) history
      (fun e drafted => .hardLimit reason counted active notWaiting notRunning drafted) ?_)
    intro e t _ _ _ ended
    exact ⟨_, ended, .of_ended (by simp)⟩

/-- The turn that a safety limit ends. -/
theorem limit_runs {reason : String} {counted : Nat × Nat × Nat}
    (history : History loop request ungated skipped (s.events request) m)
    (active : m.Active skipped) (ready : m.Ready loop ungated skipped)
    (notWaiting : ∀ call, m.current ≠ some (call, .waiting))
    (notRunning : ∀ call approval, m.current ≠ some (call, .running approval)) :
    (contract loop request ungated skipped).Runs (Turned loop request ungated skipped bound)
      (fun _ _ t => Rests loop request ungated skipped t)
      (do appendHardLimit request reason counted; return .done (← result request none "")) memory s := by
  refine Discipline.runs_bind _ (Discipline.runs_mono _
    (appendHardLimit_runs history active ready notWaiting notRunning) ?_ fun _ _ _ rests => rests)
  rintro _ memory t ⟨n, ended, ready⟩
  exact done_runs ended ready (by simp)

/-! ### Approval -/

theorem approvalTurn_runs {projection : RunProjection} {pending : CallState}
    {approval : Option ApprovalRecord} {approvalResume : Bool}
    (history : History loop request ungated skipped (s.events request) m) (active : m.Active skipped)
    (ready : m.Ready loop ungated skipped) (current : m.current = some (pending.call, .waiting))
    (undecided : pending.approval = none) (read : project (s.events request) = .ok projection) :
    (contract loop request ungated skipped).Runs
      (Turned loop request ungated skipped (remaining request (s.events request) m))
      (fun _ _ t => Rests loop request ungated skipped t)
      (loop.approvalTurn request projection pending approval approvalResume) memory s := by
  have rests : Rests loop request ungated skipped s := ⟨m, history, ready⟩
  refine Discipline.runs_bind _ ((Discipline.runs_ofExcept _).mpr ⟨fun spec _ => ?_, fun _ _ => rests⟩)
  cases approval with
  | none =>
    refine done_runs history ready ?_
    rintro p same
    cases same
    exact read
  | some approval =>
    simp only [undecided]
    refine Discipline.runs_bind _ (Discipline.runs_bind _ ((Discipline.runs_ofExcept _).mpr
      ⟨fun _ bound => ?_, fun _ _ => rests⟩))
    have binds : approval.bindsTo pending.call = true := by
      unfold ApprovalRecord.assertBindsTo at bound
      split at bound
      · assumption
      · contradiction
    refine append_returns (acceptable_recorded _ _) history
      (fun e drafted => .recorded active current binds drafted) ?_
    intro recorded t drafted grown _ decided
    cases decision : approval.decision with
    | rejected =>
      simp only [↓reduceIte]
      refine Discipline.runs_bind _ (append_returns (acceptable_rejection _ _) decided
        (fun e drafted => .rejection active.begun active.going rfl decision drafted) ?_)
      intro _ u _ _ _ rejected
      refine Discipline.runs_bind _ (append_returns (acceptable_runRejected _) rejected
        (fun e drafted => .runRejected active.begun active.going rfl drafted) ?_)
      intro _ v _ _ _ ended
      exact done_runs ended (.of_ended (by simp)) (by simp)
    | approved =>
      simp only [reduceCtorEq, ↓reduceIte]
      have plain : (CallPhase.decided approval).refused = false := by simp [CallPhase.refused, decision]
      refine ⟨_, decided, active.begun, active.readyWith plain (fun same => by cases same), ?_⟩
      have recordedType : recorded.eventType = .approvalRecorded := drafted.eventType
      have counted : (counts (t.events request)).1 = (counts (s.events request)).1 := by
        rw [grown, decisions_snoc, recordedType]
        simp
      simp [remaining, counted, RunModel.weight, current, CallPhase.due, decision]

/-! ### Execution -/

theorem executionTurn_runs [JsonSchema] {pending : CallState} {approvalResume : Bool}
    {events : List LedgerEvent} (history : History loop request ungated skipped (s.events request) m)
    (active : m.Active skipped) (ready : m.Ready loop ungated skipped)
    (current : m.current = some (pending.call, phase)) (due : phase.due = true) :
    (contract loop request ungated skipped).Runs
      (Turned loop request ungated skipped (remaining request (s.events request) m))
      (fun _ _ t => Rests loop request ungated skipped t)
      (loop.executionTurn request events pending approvalResume) memory s := by
  simp only [executionTurn]
  split
  · rename_i reason counted _
    refine limit_runs history active ready ?_ ?_
    · intro call waiting
      rw [current, Option.some.injEq, Prod.mk.injEq] at waiting
      rw [waiting.2] at due
      contradiction
    · intro call approval running
      rw [current, Option.some.injEq, Prod.mk.injEq] at running
      rw [running.2] at due
      contradiction
  · have gate : phase = .materialized → RequiresApproval loop pending.call → ungated := by
      rintro rfl requires
      exact ready.gated active.going _ current requires
    refine Discipline.runs_bind _ (Discipline.runs_mono _ (executeCall_runs history active current due gate) ?_
      fun _ _ _ rests => rests)
    rintro _ memory t ⟨started, ended, last, grown, startedType, endedType, settled, executed⟩
    have plain : last.refused = false := by
      cases last <;> first | rfl | contradiction
    have other : last ≠ .materialized := by
      rintro rfl
      contradiction
    have ready : (m.withCall pending.call last).Ready loop ungated skipped := active.readyWith plain other
    split
    · exact done_runs executed ready (by simp)
    · refine ⟨_, executed, active.begun, ready, ?_⟩
      have notDecision : ended.eventType ≠ .decisionRecorded := by
        intro same
        rw [same] at endedType
        contradiction
      have counted : (counts (t.events request)).1 = (counts (s.events request)).1 := by
        simp [grown, counts, ofType, startedType, notDecision]
      have before : m.weight = 1 := by
        cases phase with
        | materialized | decided => simp only [RunModel.weight, current, due, Bool.toNat_true]
        | waiting | rejected | running | succeeded | failed => contradiction
      have after : (m.withCall pending.call last).weight = 0 := by
        cases last with
        | succeeded | failed => rfl
        | materialized | waiting | decided | rejected | running => contradiction
      simp only [remaining, counted, before, after]
      omega

/-! ### Proposals -/

/-- What the checks of a proposal establish. -/
structure Vetted (loop : AgentLoop) (visible : List ArtifactId) (proposal : ToolCallProposal)
    (spec : ToolSpec) : Prop where
  registered : spec ∈ loop.registry.tools
  inputs : ∀ id ∈ proposal.inputArtifactIds.ids, id ∈ visible

omit [Sha256] in
theorem resolve_mem {registry : ToolRegistry} {name : Identifier} {version : Option Identifier} {spec : ToolSpec}
    (resolved : registry.resolve name version = .ok spec) : spec ∈ registry.tools := by
  have single (specs : List ToolSpec) (known : ToolRegistry.only name specs = .ok spec) : spec ∈ specs := by
    match specs, known with
    | [_], known =>
      cases known
      exact List.mem_singleton_self _
  cases version with
  | none => exact (List.mem_filter.mp (single _ resolved)).1
  | some version => exact (List.mem_filter.mp (List.mem_filter.mp (single _ resolved)).1).1

theorem validateProposalInputs_runs {visible : List ArtifactId}
    (holds : (contract loop request ungated skipped).inv s) : ∀ {ids : List ArtifactId} {memory : LineageMemory},
    (contract loop request ungated skipped).Runs (fun _ _ t => t = s ∧ ∀ id ∈ ids, id ∈ visible)
      (fun _ _ t => t = s) (validateProposalInputs visible ids) memory s
  | [], _ => ⟨rfl, by simp⟩
  | id :: ids, _ => by
    simp only [validateProposalInputs]
    split
    · exact rfl
    · rename_i seen
      refine Discipline.runs_bind _ (quiet_runs (ArtifactStore.verify_quiet id) holds ?_ fun _ _ => rfl)
      intro _ memory
      refine Discipline.runs_mono _ (validateProposalInputs_runs holds) ?_ fun _ _ _ same => same
      rintro _ _ t ⟨rfl, rest⟩
      refine ⟨rfl, ?_⟩
      intro other member
      rcases List.mem_cons.mp member with rfl | member
      · exact not_not.mp seen
      · exact rest other member

theorem admitProposal_runs [JsonSchema] {events : List LedgerEvent} {proposal : ToolCallProposal}
    (holds : (contract loop request ungated skipped).inv s) :
    (contract loop request ungated skipped).Runs
      (fun spec _ t => t = s ∧ Vetted loop (visibleArtifacts request events) proposal spec)
      (fun _ _ t => t = s) (loop.admitProposal request events proposal) memory s := by
  refine Discipline.runs_tryCatch _ (Discipline.runs_mono _ (?_ : (contract loop request ungated skipped).Runs
    (fun spec _ t => t = s ∧ Vetted loop (visibleArtifacts request events) proposal spec)
    (fun _ _ t => t = s) _ memory s) (fun _ _ _ both => both) ?_)
  · refine Discipline.runs_bind _ ((Discipline.runs_ofExcept _).mpr ⟨fun spec resolved => ?_, fun _ _ => rfl⟩)
    refine Discipline.runs_bind _ (Discipline.runs_mono _ (validateProposalInputs_runs holds) ?_
      fun _ _ _ same => same)
    rintro _ memory t ⟨rfl, inputs⟩
    refine Discipline.runs_bind _ ((Discipline.runs_ofExcept _).mpr ⟨fun _ _ => ?_, fun _ _ => rfl⟩)
    refine Discipline.runs_bind _ ((Discipline.runs_ofExcept _).mpr ⟨fun _ _ => ?_, fun _ _ => rfl⟩)
    exact ⟨rfl, resolve_mem resolved, inputs⟩
  · rintro error memory t rfl
    split <;> exact rfl

/-- What the server itself puts into a call. -/
structure Minted (request : RunRequest) (proposal : ToolCallProposal) (spec : ToolSpec)
    (ledger : List LedgerEvent) (call : MaterializedToolCall) : Prop where
  run : call.runId = request.runId
  policy : call.policyDigest = request.toolPolicyDigest
  tool : spec.key = (call.toolName, call.toolVersion)
  spec : call.toolSpecDigest = spec.specDigest
  inputs : call.inputArtifactIds = proposal.inputArtifactIds
  freshStep : call.stepId.text ∉ usedIds .stepId ledger
  freshCall : call.callId.text ∉ usedIds .callId ledger

theorem materialize_runs {proposal : ToolCallProposal} {spec : ToolSpec}
    (holds : (contract loop request ungated skipped).inv s) :
    (contract loop request ungated skipped).Runs
      (fun call _ t => t = s ∧ Minted request proposal spec s.ledger call)
      (fun _ _ _ => False) (materialize request proposal spec) memory s := by
  refine Discipline.runs_bind _ (newUniqueId_runs holds fun stepId freshStep => ?_)
  refine Discipline.runs_bind _ (newUniqueId_runs holds fun callId freshCall => ?_)
  refine Discipline.runs_bind _ (now_runs holds fun createdAt => ?_)
  exact ⟨rfl, rfl, rfl, rfl, rfl, rfl, freshStep, freshCall⟩

omit [Sha256] in
theorem usedIds_forRun {field : IdField} {ledger : List LedgerEvent} {id : String}
    (unused : id ∉ usedIds field ledger) : id ∉ usedIds field (RunLedger.forRun request.runId ledger) := by
  intro used
  have within {e : LedgerEvent} (member : e ∈ RunLedger.forRun request.runId ledger) : e ∈ ledger :=
    (List.mem_filter.mp member).1
  refine unused ?_
  cases field with
  | stepId | callId =>
    obtain ⟨e, member, same⟩ := List.mem_filterMap.mp used
    exact List.mem_filterMap.mpr ⟨e, within member, same⟩
  | eventId =>
    obtain ⟨e, member, same⟩ := List.mem_map.mp used
    exact List.mem_map.mpr ⟨e, within member, same⟩

omit [Sha256] in
theorem RunModel.Idle.weight (idle : m.Idle skipped) : m.weight = 0 := by
  cases current : m.current with
  | none => simp [RunModel.weight, current]
  | some pair =>
    obtain ⟨call, phase⟩ := pair
    have settled := idle.settled call phase current
    cases phase with
    | decided approval =>
      have refused : approval.decision = .rejected := of_decide_eq_true settled
      simp [RunModel.weight, current, CallPhase.due, refused]
    | rejected | succeeded | failed => simp [RunModel.weight, current, CallPhase.due]
    | materialized | waiting | running => contradiction

/-- A registered tool decides alone whether calls under its key need approval. -/
theorem requiresApproval_of_key {spec : ToolSpec} (registered : spec ∈ loop.registry.tools)
    (key : spec.key = (call.toolName, call.toolVersion)) (requires : RequiresApproval loop call) :
    loop.policy.requiresApproval spec = true := by
  obtain ⟨other, member, otherKey, required⟩ := requires
  have same : other = spec := by
    have distinct := loop.registry.distinct
    exact List.inj_on_of_nodup_map distinct member registered (otherKey.trans key.symm)
  rw [← same]
  exact required

theorem proposalTurn_runs [JsonSchema] {events : List LedgerEvent} {proposal : ToolCallProposal}
    {approvalResume : Bool} (history : History loop request ungated skipped (s.events request) m)
    (idle : m.Idle skipped) (ready : m.Ready loop ungated skipped)
    (visible : visibleArtifacts request events = visibleArtifacts request (s.events request))
    (toolCalls : (counts (s.events request)).2.1 < (effectiveHardLimits request).maxToolCalls)
    (steps : (counts (s.events request)).2.2 < (effectiveHardLimits request).maxSteps)
    (nearer : remaining request (s.events request) m < bound) :
    (contract loop request ungated skipped).Runs (Turned loop request ungated skipped bound)
      (fun _ _ t => Rests loop request ungated skipped t)
      (loop.proposalTurn request events proposal approvalResume) memory s := by
  have holds : (contract loop request ungated skipped).inv s := ⟨m, history⟩
  refine Discipline.runs_bind _ (Discipline.runs_mono _ (admitProposal_runs holds) ?_ ?_)
  · rintro spec memory s' ⟨rfl, vetted⟩
    refine Discipline.runs_bind _ (Discipline.runs_mono _ (materialize_runs holds) ?_
      fun _ _ _ impossible => impossible.elim)
    rintro call memory s'' ⟨rfl, minted⟩
    have admitted : Admitted loop request (s''.events request) call := by
      refine ⟨minted.run, minted.policy, ⟨spec, vetted.registered, minted.tool, minted.spec⟩,
        usedIds_forRun minted.freshCall, usedIds_forRun minted.freshStep, ?_, toolCalls, steps⟩
      intro id member
      rw [minted.inputs] at member
      rw [← visible]
      exact vetted.inputs id member
    refine Discipline.runs_bind _ (append_returns (acceptable_materialized call) history
      (fun e drafted => .materialized idle admitted drafted) ?_)
    intro e t drafted grown _ materialized
    have active : (⟨true, m.calls, some (call, .materialized), .open⟩ : RunModel).Active skipped := by
      refine ⟨rfl, rfl, ?_⟩
      rintro ⟨other, phase, member, refused⟩
      rcases List.mem_append.mp member with member | member
      · exact idle.unrefused ⟨other, phase, member, refused⟩
      · obtain ⟨rfl, rfl⟩ : other = call ∧ phase = .materialized := by simpa using member
        contradiction
    split
    · refine Discipline.runs_bind _ (append_returns (acceptable_required call) materialized
        (fun e drafted => .required active rfl drafted) ?_)
      intro _ u _ _ _ waiting
      exact done_runs waiting (active.readyWith rfl (fun same => by cases same)) (by simp)
    · rename_i free
      have gate : CallPhase.materialized = .materialized → RequiresApproval loop call → ungated :=
        fun _ requires => absurd (requiresApproval_of_key vetted.registered minted.tool requires) free
      refine Discipline.runs_bind _ (Discipline.runs_mono _ (executeCall_runs materialized active rfl rfl gate) ?_
        fun _ _ _ rests => rests)
      rintro _ memory u ⟨started, ended, last, more, startedType, endedType, settled, executed⟩
      have plain : last.refused = false := by
        cases last <;> first | rfl | contradiction
      have other : last ≠ .materialized := by
        rintro rfl
        contradiction
      refine ⟨_, executed, rfl, active.readyWith plain other, ?_⟩
      have callType : e.eventType = .toolCallMaterialized := drafted.eventType
      have notDecision : ended.eventType ≠ .decisionRecorded := by
        intro same
        rw [same] at endedType
        contradiction
      have counted : (counts (u.events request)).1 = (counts (s''.events request)).1 := by
        simp [more, grown, counts, ofType, startedType, notDecision, callType]
      have after : (RunModel.withCall ⟨true, m.calls, some (call, .materialized), .open⟩ call last).weight = 0 := by
        cases last with
        | succeeded | failed => rfl
        | materialized | waiting | decided | rejected | running => contradiction
      have before := idle.weight
      simp only [remaining, counted, before, after] at nearer ⊢
      exact nearer
  · rintro error memory t rfl
    exact ⟨m, history, ready⟩

/-! ### The provider -/

omit [Sha256] in
theorem hardLimitReason_none {es : List LedgerEvent} (open_ : hardLimitReason request es false = none) :
    (counts es).1 < (effectiveHardLimits request).maxDecisions ∧
      (counts es).2.1 < (effectiveHardLimits request).maxToolCalls ∧
      (counts es).2.2 < (effectiveHardLimits request).maxSteps := by
  simp only [hardLimitReason, Bool.false_eq_true, ↓reduceIte] at open_
  by_cases decisions : (counts es).1 ≥ (effectiveHardLimits request).maxDecisions
  · simp [decisions] at open_
  by_cases toolCalls : (counts es).2.1 ≥ (effectiveHardLimits request).maxToolCalls
  · simp [decisions, toolCalls] at open_
  by_cases steps : (counts es).2.2 ≥ (effectiveHardLimits request).maxSteps
  · simp [decisions, toolCalls, steps] at open_
  · omega

/-- What the provider may leave behind: intents of its own run. -/
theorem FreezesIntents.history (frozen : FreezesIntents request.runId ledger after)
    (history : History loop request ungated skipped (RunLedger.forRun request.runId ledger) m)
    (idle : m.Idle skipped) : History loop request ungated skipped (RunLedger.forRun request.runId after) m ∧
      ∃ intents, RunLedger.forRun request.runId after = RunLedger.forRun request.runId ledger ++ intents ∧
        ∀ e ∈ intents, e.eventType = .intentFrozen := by
  induction frozen with
  | none => exact ⟨history, [], by simp, by simp⟩
  | @append before event persisted _ appended run eventType unnamed ih =>
    obtain ⟨kept, intents, grown, all⟩ := ih
    obtain ⟨_, rfl⟩ := append_ok.mp appended
    have run : (RunLedger.chain before event).runId = request.runId := run
    rw [forRun_snoc before run]
    refine ⟨.snoc kept (.intent idle eventType unnamed run), intents ++ [RunLedger.chain before event], ?_, ?_⟩
    · rw [grown, List.append_assoc]
    · exact forall_snoc all eventType

theorem invokeProvider_runs {context : RunContext} (history : History loop request ungated skipped (s.events request) m)
    (idle : m.Idle skipped) (run : context.runId = request.runId) :
    (contract loop request ungated skipped).Runs
      (fun _ _ t => History loop request ungated skipped (t.events request) m ∧
        ∃ intents, t.events request = s.events request ++ intents ∧ ∀ e ∈ intents, e.eventType = .intentFrozen)
      (fun _ _ t => History loop request ungated skipped (t.events request) m)
      (loop.invokeProvider context) memory s := by
  refine Discipline.runs_bind _ (Discipline.runs_ask _ ⟨run, m, history, idle⟩ ?_)
  rintro outcome t ⟨frozen, _⟩
  rw [run] at frozen
  obtain ⟨kept, intents, grown, all⟩ := frozen.history history idle
  refine ⟨⟨m, kept⟩, ?_⟩
  cases outcome with
  | action | stopIteration => exact ⟨kept, intents, grown, all⟩
  | actionError | raised => exact kept

theorem context_runId {es : List LedgerEvent} {c : RunContext} (made : context request es = .ok c) :
    c.runId = request.runId := by
  unfold context at made
  cases previous : previousOutcome es with
  | error e => simp [previous, bind, Except.bind] at made
  | ok value =>
    simp only [previous, bind, Except.bind, RunContext.create] at made
    split at made
    · contradiction
    split at made
    · contradiction
    split at made
    · contradiction
    split at made
    · contradiction
    · cases made
      rfl

theorem providerTurn_runs [JsonSchema] {approvalResume : Bool}
    (history : History loop request ungated skipped (s.events request) m) (idle : m.Idle skipped)
    (ready : m.Ready loop ungated skipped) :
    (contract loop request ungated skipped).Runs
      (Turned loop request ungated skipped (remaining request (s.events request) m))
      (fun _ _ t => Rests loop request ungated skipped t)
      (loop.providerTurn request (s.events request) approvalResume) memory s := by
  have rests : Rests loop request ungated skipped s := ⟨m, history, ready⟩
  simp only [providerTurn]
  split
  · refine limit_runs history idle.toActive ready ?_ ?_
    · intro call waiting
      have settled := idle.settled call _ waiting
      contradiction
    · intro call approval running
      have settled := idle.settled call _ running
      contradiction
  · rename_i limits
    obtain ⟨decisions, toolCalls, steps⟩ := hardLimitReason_none limits
    refine Discipline.runs_bind _ ((Discipline.runs_ofExcept _).mpr ⟨fun c made => ?_, fun _ _ => rests⟩)
    refine Discipline.runs_bind _ (Discipline.runs_mono _ (invokeProvider_runs history idle (context_runId made)) ?_
      fun _ _ _ kept => ⟨m, kept, ready⟩)
    rintro action memory t ⟨kept, intents, grown, frozen⟩
    cases action with
    | none => exact done_runs kept ready (by simp)
    | some action =>
      have counted : counts (t.events request) = counts (s.events request) := by
        rw [grown]
        simp [counts, ofType_intents frozen]
      have decidable : (counts (t.events request)).1 < (effectiveHardLimits request).maxDecisions := by
        rw [counted]
        exact decisions
      refine Discipline.runs_bind _ (append_returns (acceptable_decision action) kept
        (fun e drafted => .decision action idle drafted decidable) ?_)
      intro decision u drafted more _ decided
      have decisionType : decision.eventType = .decisionRecorded := drafted.eventType
      have others : (counts (u.events request)).2 = (counts (s.events request)).2 := by
        rw [more, counts_snoc_other _ (by rw [decisionType]; simp), counted]
      cases action with
      | stop action =>
        refine Discipline.runs_bind _ (append_returns (acceptable_stopped action) decided
          (fun e drafted => .stopped action idle drafted) ?_)
        intro _ v _ _ _ stopped
        exact done_runs stopped (.of_ended (by simp)) (by simp)
      | requestReview action =>
        refine Discipline.runs_bind _ (append_returns (acceptable_review action) decided
          (fun e drafted => .review action idle drafted) ?_)
        intro _ v _ _ _ reviewed
        exact done_runs reviewed (.of_ended (by simp)) (by simp)
      | toolCall proposal =>
        refine proposalTurn_runs decided idle ready ?_ (by rw [others]; exact toolCalls)
          (by rw [others]; exact steps) ?_
        · rw [more, grown]
          simp only [visibleArtifacts]
          rw [ofType_snoc, decisionType]
          simp [ofType_intents frozen]
        · have counted : (counts (u.events request)).1 = (counts (s.events request)).1 + 1 := by
            rw [more, decisions_snoc, decisionType, counted]
            simp
          simp only [remaining, counted]
          omega

end
end Molly
