import Molly.Run.System

/-! What holds of approvals in every history: a call that requires one starts after
it, and a rejection is final. -/
namespace Molly
open Effect AgentLoop

section
variable [Sha256]
variable {loop : AgentLoop} {request : RunRequest} {ungated skipped : Prop} {es : List LedgerEvent}
  {m n : RunModel} {e : LedgerEvent}

/-- A fact about each event and the events before it, shown for one step. -/
theorem History.each {P : List LedgerEvent → LedgerEvent → Prop}
    (step : ∀ es m e n, History loop request ungated skipped es m → Legal loop request ungated skipped es m e n → P es e)
    (history : History loop request ungated skipped es m) :
    ∀ before e after, es = before ++ e :: after → P before e := by
  induction history with
  | empty =>
    intro before e after split
    simp at split
  | @snoc es m last n history legal ih =>
    intro before e after split
    rcases split_snoc split with ⟨rfl, rfl, rfl⟩ | ⟨after, rfl, earlier⟩
    · exact step _ _ _ _ history legal
    · exact ih before e after earlier

/-! ### The events of a call -/

omit [Sha256] in
theorem mem_related {call : MaterializedToolCall} {p : LedgerEvent} (found : p ∈ related es call) : p ∈ es :=
  (List.mem_filter.mp found).1

/-- A call's events begin with its materialization. -/
theorem CallHistory.materialized_mem {call : MaterializedToolCall} {phase : CallPhase}
    (history : CallHistory request call phase es) : ∃ p ∈ es, Drafted request (materializedDraft call) p := by
  induction history with
  | materialized drafted => exact ⟨_, List.mem_singleton_self _, drafted⟩
  | required _ _ ih | recorded _ _ _ ih | rejection _ _ _ ih | started _ _ ih | resumed _ _ _ ih
  | succeeded _ _ _ _ _ ih | failed _ _ _ ih =>
    obtain ⟨p, member, drafted⟩ := ih
    exact ⟨p, List.mem_append_left _ member, drafted⟩

/-- A decided call has its approval record. -/
theorem CallHistory.decided_mem {call : MaterializedToolCall} {approval : ApprovalRecord}
    (history : CallHistory request call (.decided approval) es) : ∃ p ∈ es, approval.bindsTo call = true ∧
      Drafted request (approvalRecordedDraft call approval) p := by
  cases history with
  | recorded _ binds drafted => exact ⟨_, by simp, binds, drafted⟩

/-- The materialization that a call comes from. -/
def MaterializedIn (es : List LedgerEvent) (call : MaterializedToolCall) : Prop :=
  ∃ p ∈ es, p.eventType = .toolCallMaterialized ∧ AgentLoop.materializedCall p = .ok call

theorem MaterializedIn.mono {fs : List LedgerEvent} {call : MaterializedToolCall}
    (materialized : MaterializedIn es call) (sub : es ⊆ fs) : MaterializedIn fs call := by
  obtain ⟨p, member, facts⟩ := materialized
  exact ⟨p, sub member, facts⟩

theorem Represents.materializedIn (r : Represents request es m) {call : MaterializedToolCall} {phase : CallPhase}
    (current : m.current = some (call, phase)) : MaterializedIn es call := by
  obtain ⟨p, member, drafted⟩ := (r.currentHistory current).materialized_mem
  exact ⟨p, mem_related member, drafted.eventType, drafted.materializedCall⟩

theorem mem_collect {calls : List MaterializedToolCall} {call : MaterializedToolCall}
    (collected : collect es = .ok calls) (materialized : MaterializedIn es call) : call ∈ calls := by
  obtain ⟨p, member, eventType, known⟩ := materialized
  induction es generalizing calls with
  | nil => contradiction
  | cons first rest ih =>
    simp only [collect, bind, Except.bind] at collected
    cases head : collectEvent first with
    | error _ => simp [head] at collected
    | ok firstCalls =>
      cases tail : collect rest with
      | error _ => simp [head, tail] at collected
      | ok restCalls =>
        simp only [head, tail, pure, Except.pure, Except.ok.injEq] at collected
        subst collected
        rcases List.mem_cons.mp member with rfl | member
        · apply List.mem_append_left
          have notSuccess : p.eventType ≠ .toolExecutionSucceeded := by simp [eventType]
          simp only [collectEvent, eventType, reduceCtorEq, ↓reduceIte, known, bind, Except.bind, pure, Except.pure,
            Functor.map, Except.map] at head
          split at head
          · split at head
            · contradiction
            · cases head
              exact List.mem_singleton_self _
          · cases head
            exact List.mem_singleton_self _
        · exact List.mem_append_right _ (ih tail member)

/-- A run materializes no two calls under one identifier. -/
theorem Represents.call_unique (r : Represents request es m) {a b : MaterializedToolCall}
    (left : MaterializedIn es a) (right : MaterializedIn es b) (same : a.callId.text = b.callId.text) : a = b := by
  have distinct : ((m.calls.map Prod.fst).map fun c => c.callId.text).Nodup := by
    rw [List.map_map]
    exact r.distinct
  exact List.inj_on_of_nodup_map distinct (mem_collect r.collected left) (mem_collect r.collected right) same

/-! ### The approval gate -/

/-- Every start of a call that requires approval comes after an approval bound to it. -/
def ApprovalGate (loop : AgentLoop) (es : List LedgerEvent) : Prop :=
  ∀ before e after call, es = before ++ e :: after → e.eventType = .toolExecutionStarted →
    MaterializedIn es call → e.metadataCallId = some call.callId.text → RequiresApproval loop call →
    ∃ a ∈ before, a.eventType = .approvalRecorded ∧ ∃ approval, boundApproval call a = .ok approval ∧
      approval.decision = .approved ∧ approval.toolCallDigest = call.digest

/-- The last event of the run is the materialization of a call that requires approval. -/
def PassedOver (loop : AgentLoop) (request : RunRequest) (w : World) : Prop :=
  ∃ before e call, RunLedger.forRun request.runId w.ledger = before ++ [e] ∧
    e.eventType = .toolCallMaterialized ∧ AgentLoop.materializedCall e = .ok call ∧ RequiresApproval loop call

/-- What the start of a call rests on. -/
theorem Legal.gate (history : History loop request False skipped es m)
    (legal : Legal loop request False skipped es m e n) (starts : e.eventType = .toolExecutionStarted) :
    ∃ call, MaterializedIn es call ∧ e.metadataCallId = some call.callId.text ∧ (RequiresApproval loop call →
      ∃ a ∈ es, a.eventType = .approvalRecorded ∧ ∃ approval, boundApproval call a = .ok approval ∧
        approval.decision = .approved ∧ approval.toolCallDigest = call.digest) := by
  have represents := history.represents
  cases legal with
  | started _ current gate drafted =>
    exact ⟨_, represents.materializedIn current, drafted.callId, fun requires => (gate requires).elim⟩
  | resumed _ current approved drafted =>
    refine ⟨_, represents.materializedIn current, drafted.callId, fun _ => ?_⟩
    obtain ⟨a, member, binds, recorded⟩ := (represents.currentHistory current).decided_mem
    exact ⟨a, mem_related member, recorded.eventType, _, recorded.approval binds, approved,
      of_decide_eq_true binds⟩
  | intent _ eventType => cases eventType.symm.trans starts
  | start _ drafted | decision _ _ drafted | stopped _ _ drafted | review _ _ drafted
  | hardLimit _ _ _ _ _ drafted | materialized _ _ drafted | required _ _ drafted | recorded _ _ _ drafted
  | rejection _ _ _ _ drafted | runRejected _ _ _ drafted | succeeded _ _ _ _ _ drafted
  | failed _ _ _ drafted => cases drafted.eventType.symm.trans starts

/-- A gated history keeps the gate. -/
theorem History.approvalGate (history : History loop request False skipped es m) : ApprovalGate loop es := by
  intro before e after call split starts materialized named requires
  obtain ⟨known, earlier, same, gate⟩ := history.each
    (P := fun es e => e.eventType = .toolExecutionStarted → ∃ call, MaterializedIn es call ∧
      e.metadataCallId = some call.callId.text ∧ (RequiresApproval loop call →
      ∃ a ∈ es, a.eventType = .approvalRecorded ∧ ∃ approval, boundApproval call a = .ok approval ∧
        approval.decision = .approved ∧ approval.toolCallDigest = call.digest))
    (fun _ _ _ _ history legal => legal.gate history) before e after split starts
  have here : MaterializedIn es known := by
    apply earlier.mono
    rw [split]
    exact List.subset_append_left _ _
  have sameId : known.callId.text = call.callId.text := by
    rw [named, Option.some.injEq] at same
    exact same.symm
  obtain rfl := history.represents.call_unique here materialized sameId
  exact gate requires

/-- An unapproved call that waits for its start is the last thing in the ledger. -/
theorem History.last_materialized (history : History loop request ungated skipped es m) (going : m.ending = .open)
    {call : MaterializedToolCall} (current : m.current = some (call, .materialized)) :
    ∃ before e, es = before ++ [e] ∧ Drafted request (materializedDraft call) e := by
  cases history with
  | empty => contradiction
  | snoc history legal =>
    cases legal with
    | materialized idle admitted drafted =>
      obtain ⟨rfl, _⟩ := Prod.mk.inj (Option.some.inj current)
      exact ⟨_, _, rfl, drafted⟩
    | intent idle | decision _ idle =>
      have settled := idle.settled _ _ current
      contradiction
    | start => contradiction
    | stopped | review | hardLimit | runRejected => contradiction
    | required | recorded | rejection | started | resumed | succeeded | failed =>
      simp only [withCall_current, Option.some.injEq, Prod.mk.injEq, reduceCtorEq, and_false] at current

theorem diesAtRest_passedOver : DiesAtRest loop request False True fun w => ¬ PassedOver loop request w := by
  intro w m alive history
  refine ⟨fun going call current requires => alive ?_, fun _ _ => trivial⟩
  obtain ⟨before, e, split, drafted⟩ := history.last_materialized going current
  exact ⟨before, e, call, split, drafted.eventType, drafted.materializedCall, requires⟩

/-- The approval gate holds in every history in which no process dies between the
materialization of a call that requires approval and the event that says so. -/
theorem approval_gate [JsonSchema] {site : Site}
    (reachable : Reachable loop request (fun w => ¬ PassedOver loop request w) site) :
    ApprovalGate loop (RunLedger.forRun request.runId site.world.ledger) := by
  obtain ⟨m, history⟩ := (reachable.sound diesAtRest_passedOver).history
  exact history.approvalGate

end

namespace Sample
attribute [local instance] standardSha256 noSchema

def materializes (e : LedgerEvent) : Bool :=
  e.eventType = .toolCallMaterialized && match AgentLoop.materializedCall e with
    | .ok known => known = call
    | .error _ => false

theorem materializedIn_of_any {es : List LedgerEvent} (found : es.any materializes = true) : MaterializedIn es call := by
  obtain ⟨p, member, holds⟩ := List.any_eq_true.mp found
  simp only [materializes, Bool.and_eq_true, decide_eq_true_eq] at holds
  refine ⟨p, member, holds.1, ?_⟩
  cases known : AgentLoop.materializedCall p with
  | error _ => simp [known] at holds
  | ok other =>
    have same : other = call := by simpa [known] using holds.2
    rw [same]

theorem requires_approval : RequiresApproval loop call := ⟨erase, List.mem_singleton_self _, rfl, by decide +kernel⟩

/-- The call is started, and no approval has been recorded. -/
def startsUnapproved (site : Site) : Bool :=
  (runOf site).any materializes && (runOf site).any starts && (runOf site).all (·.eventType ≠ .approvalRecorded)

/-- The process dies right after the materialization; the next one starts the call. -/
theorem approval_gate_fails : ¬ ∀ (loop : AgentLoop) (request : RunRequest) (site : Site),
    Reachable loop request (fun _ => True) site →
      ApprovalGate loop (RunLedger.forRun request.runId site.world.ledger) := by
  intro always
  obtain ⟨site, reachable, holds⟩ := reaches (fun _ => True)
    [.invoke 3 none, .requests 21 proposing, .die, .invoke 3 none, .requests 17 (resuming 3)]
    startsUnapproved (fun _ _ => trivial) (by decide +kernel)
  simp only [startsUnapproved, Bool.and_eq_true, List.all_eq_true, decide_eq_true_eq] at holds
  obtain ⟨⟨materialized, started⟩, unapproved⟩ := holds
  obtain ⟨e, member, isStart⟩ := List.any_eq_true.mp started
  simp only [starts, Bool.and_eq_true, decide_eq_true_eq] at isStart
  obtain ⟨before, after, split⟩ := List.append_of_mem member
  obtain ⟨a, earlier, recorded, _⟩ := always loop request site reachable before e after call split isStart.1
    (materializedIn_of_any materialized) isStart.2 requires_approval
  refine unapproved a ?_ recorded
  rw [split]
  exact List.mem_append_left _ earlier

/-- The gate at a site where the approved call has been started. -/
theorem approval_gate_approved : ∃ site, (runOf site).any starts = true ∧ ApprovalGate loop (runOf site) := by
  obtain ⟨site, reachable, _, started⟩ := reaches_approved fun w => ¬ PassedOver loop request w
  exact ⟨site, started, approval_gate reachable⟩

end Sample

/-! ### Rejection -/

section
variable [Sha256]
variable {loop : AgentLoop} {request : RunRequest} {ungated skipped : Prop} {es : List LedgerEvent}
  {m n : RunModel} {e : LedgerEvent}

/-- An approval event whose decision is a rejection. -/
def RecordsRejection (e : LedgerEvent) : Prop :=
  e.eventType = .approvalRecorded ∧ ∃ raw approval, e.metadata.get "approval" = some raw ∧
    ApprovalRecord.fromDict raw = .ok approval ∧ approval.decision = .rejected

theorem Drafted.recordsRejection {call : MaterializedToolCall} {approval : ApprovalRecord}
    (drafted : Drafted request (approvalRecordedDraft call approval) e) :
    RecordsRejection e ↔ approval.decision = .rejected := by
  have raw : e.metadata.get "approval" = some (.obj (Json.canonFields approval.toDict)) := by
    have found := drafted.metadata "approval"
    simpa [approvalRecordedDraft, callDraft, Json.canon] using found
  have eventType : e.eventType = .approvalRecorded := drafted.eventType
  simp [RecordsRejection, eventType, raw]

omit [Sha256] in
/-- A step of the current call keeps the refusals of the others. -/
theorem refused_withCall {call : MaterializedToolCall} {phase next : CallPhase} (current : m.current = some (call, phase))
    (kept : phase.refused = true → next.refused = true) (refused : m.Refused) : (m.withCall call next).Refused := by
  obtain ⟨other, known, member, holds⟩ := refused
  rcases List.mem_append.mp member with member | member
  · exact ⟨other, known, List.mem_append_left _ member, holds⟩
  · obtain ⟨rfl, rfl⟩ : other = call ∧ known = phase := by simpa [current] using member
    exact ⟨other, next, by simp [RunModel.calls], kept holds⟩

/-- A refusal stays one. -/
theorem Legal.refused (legal : Legal loop request ungated skipped es m e n) (refused : m.Refused) : n.Refused := by
  cases legal with
  | start =>
    obtain ⟨_, _, member, _⟩ := refused
    exact absurd member List.not_mem_nil
  | intent | decision | stopped | review | hardLimit | runRejected => exact refused
  | materialized =>
    obtain ⟨call, phase, member, holds⟩ := refused
    exact ⟨call, phase, List.mem_append_left _ member, holds⟩
  | required _ current | recorded _ current | started _ current | succeeded _ _ _ current
  | failed _ _ current => exact refused_withCall current (fun impossible => by contradiction) refused
  | rejection _ _ current => exact refused_withCall current (fun _ => rfl) refused
  | resumed _ current approved =>
    refine refused_withCall current (fun impossible => ?_) refused
    simp [CallPhase.refused, approved] at impossible

/-- A recorded rejection is a refusal. -/
theorem History.refused (history : History loop request ungated skipped es m)
    (recorded : ∃ r ∈ es, RecordsRejection r) : m.Refused := by
  induction history with
  | empty =>
    obtain ⟨_, member, _⟩ := recorded
    contradiction
  | snoc history legal ih =>
    obtain ⟨r, member, rejects⟩ := recorded
    rcases List.mem_append.mp member with member | member
    · exact legal.refused (ih ⟨r, member, rejects⟩)
    · rw [List.mem_singleton.mp member] at rejects
      cases legal with
      | recorded _ current binds drafted =>
        refine ⟨_, _, Represents.mem_current _ _ rfl, ?_⟩
        exact decide_eq_true (drafted.recordsRejection.mp rejects)
      | intent _ eventType => cases eventType.symm.trans rejects.1
      | start _ drafted | decision _ _ drafted | stopped _ _ drafted | review _ _ drafted
      | hardLimit _ _ _ _ _ drafted | materialized _ _ drafted | required _ _ drafted | started _ _ _ drafted
      | resumed _ _ _ drafted | rejection _ _ _ _ drafted | runRejected _ _ _ drafted
      | succeeded _ _ _ _ _ drafted | failed _ _ _ drafted => cases drafted.eventType.symm.trans rejects.1

/-- The events that a rejected run must not see again. -/
def EventType.goesOn : EventType → Bool
  | .decisionRecorded | .toolCallMaterialized | .toolExecutionStarted => true
  | _ => false

/-- Where refusals are not skipped, nothing goes on behind one. -/
theorem Legal.halts (legal : Legal loop request ungated False es m e n) (goes : e.eventType.goesOn = true) :
    ¬ m.Refused := by
  have other {kind : EventType} (eventType : e.eventType = kind) (stays : kind.goesOn = false) : False := by
    rw [eventType, stays] at goes
    contradiction
  cases legal with
  | decision _ idle => exact idle.unrefused
  | materialized idle => exact idle.unrefused
  | started active => exact active.unrefused
  | resumed active => exact active.unrefused
  | intent _ eventType => exact (other eventType rfl).elim
  | start _ drafted | stopped _ _ drafted | review _ _ drafted
  | hardLimit _ _ _ _ _ drafted | required _ _ drafted | recorded _ _ _ drafted
  | rejection _ _ _ _ drafted | runRejected _ _ _ drafted | succeeded _ _ _ _ _ drafted
  | failed _ _ _ drafted => exact (other drafted.eventType rfl).elim

/-- A rejected run that is over was ended by the rejection. -/
theorem History.rejected_ending (history : History loop request ungated False es m) (refused : m.Refused)
    (closed : m.ending ≠ .open) : m.ending = .closed .runRejected := by
  cases history with
  | empty => exact absurd rfl closed
  | snoc _ legal =>
    cases legal with
    | runRejected => rfl
    | start => exact absurd rfl closed
    | intent idle | decision _ idle | stopped _ idle | review _ idle => exact (idle.unrefused refused).elim
    | hardLimit _ _ active => exact (active.unrefused refused).elim
    | materialized => exact absurd rfl closed
    | required active | recorded active | started active | resumed active | succeeded _ _ active
    | failed _ active => exact absurd active.going closed
    | rejection _ going => exact absurd going closed

/-- The last event of the run is a recorded rejection, of the approval or of the call. -/
def Halted (request : RunRequest) (w : World) : Prop :=
  ∃ before e, RunLedger.forRun request.runId w.ledger = before ++ [e] ∧
    (RecordsRejection e ∨ e.eventType = .toolCallRejected)

/-- While a rejected run is open, its rejection is the last thing in the ledger. -/
theorem History.last_rejection (history : History loop request ungated False es m) (refused : m.Refused)
    (going : m.ending = .open) : ∃ before e, es = before ++ [e] ∧
      (RecordsRejection e ∨ e.eventType = .toolCallRejected) := by
  cases history with
  | empty =>
    obtain ⟨_, _, member, _⟩ := refused
    exact absurd member List.not_mem_nil
  | @snoc before _ e _ _ legal =>
    refine ⟨before, e, rfl, ?_⟩
    cases legal with
    | start =>
      obtain ⟨_, _, member, _⟩ := refused
      exact absurd member List.not_mem_nil
    | intent idle | decision _ idle => exact (idle.unrefused refused).elim
    | materialized idle =>
      obtain ⟨call, phase, member, holds⟩ := refused
      rcases List.mem_append.mp member with member | member
      · exact (idle.unrefused ⟨call, phase, member, holds⟩).elim
      · obtain ⟨_, rfl⟩ := Prod.mk.inj (List.mem_singleton.mp member)
        contradiction
    | required active => exact ((active.withCall rfl).unrefused refused).elim
    | started active => exact ((active.withCall rfl).unrefused refused).elim
    | resumed active => exact ((active.withCall rfl).unrefused refused).elim
    | succeeded _ _ active => exact ((active.withCall rfl).unrefused refused).elim
    | failed _ active => exact ((active.withCall rfl).unrefused refused).elim
    | recorded active _ _ drafted =>
      by_cases rejects : RecordsRejection e
      · exact Or.inl rejects
      · rw [drafted.recordsRejection] at rejects
        have plain : (CallPhase.decided _).refused = false := decide_eq_false rejects
        exact ((active.withCall plain).unrefused refused).elim
    | rejection _ _ _ _ drafted => exact Or.inr drafted.eventType
    | stopped | review | hardLimit | runRejected => contradiction

theorem diesAtRest_halted : DiesAtRest loop request True False fun w => ¬ Halted request w := by
  intro w m alive history
  refine ⟨fun _ _ _ _ => trivial, fun going refused => alive ?_⟩
  exact history.last_rejection refused going

theorem resultOf_status {projection : RunProjection} {message : String} {r : RunResult}
    (made : resultOf request es projection message = .ok r) : r.status = statusOf projection := by
  simp only [resultOf, RunResult.create, bind, Except.bind] at made
  split at made
  · contradiction
  split at made
  · contradiction
  · cases made
    rfl

/-- A rejection is final where no process dies between the rejection and the end of
the run. -/
theorem rejection_final [JsonSchema] {site : Site}
    (reachable : Reachable loop request (fun w => ¬ Halted request w) site) :
    (∀ before e after, RunLedger.forRun request.runId site.world.ledger = before ++ e :: after →
      (∃ r ∈ before, RecordsRejection r) → e.eventType ≠ .decisionRecorded ∧
        e.eventType ≠ .toolCallMaterialized ∧ e.eventType ≠ .toolExecutionStarted) ∧
    ∀ r memory, site.posture = .driving (.ret (.ok (some r), memory)) →
      (∃ e ∈ RunLedger.forRun request.runId site.world.ledger, RecordsRejection e) → r.status = .rejected := by
  have sound := reachable.sound diesAtRest_halted
  constructor
  · intro before e after split recorded
    obtain ⟨m, history⟩ := sound.history
    have stays := history.each (P := fun es e => (∃ r ∈ es, RecordsRejection r) → e.eventType.goesOn = false)
      (fun es m e n history legal recorded => ?_) before e after split recorded
    · refine ⟨?_, ?_, ?_⟩ <;> (intro same; rw [same] at stays; contradiction)
    · cases goes : e.eventType.goesOn with
      | false => rfl
      | true => exact (legal.halts goes (history.refused recorded)).elim
  · intro r memory returned recorded
    obtain ⟨s, tracks, situation⟩ := sound
    rw [returned] at situation
    obtain ⟨m, p, message, history, ready, read, made⟩ := situation.2
    have same : s.events request = RunLedger.forRun request.runId site.world.ledger := by
      simp only [DriverState.events, tracks.ledger]
    rw [← same] at recorded
    have refused := history.refused recorded
    have ended := history.rejected_ending refused fun going => ready.unrefused going refused
    obtain ⟨q, known, projects⟩ := history.represents.project
    rw [read, Except.ok.injEq] at known
    subst known
    have terminal := projects.terminal
    rw [ended] at terminal
    rw [resultOf_status made]
    simp only [statusOf, terminal, Ending.terminal]

end

namespace Sample
attribute [local instance] standardSha256 noSchema

def recordsRejection (e : LedgerEvent) : Bool :=
  e.eventType = .approvalRecorded && match (e.metadata.get "approval").map ApprovalRecord.fromDict with
    | some (.ok approval) => approval.decision = .rejected
    | _ => false

theorem recordsRejection_sound {e : LedgerEvent} (holds : recordsRejection e = true) : RecordsRejection e := by
  simp only [recordsRejection, Bool.and_eq_true, decide_eq_true_eq] at holds
  obtain ⟨eventType, read⟩ := holds
  refine ⟨eventType, ?_⟩
  cases found : e.metadata.get "approval" with
  | none => simp [found] at read
  | some raw =>
    cases parsed : ApprovalRecord.fromDict raw with
    | error _ => simp [found, parsed] at read
    | ok approval => exact ⟨raw, approval, rfl, parsed, by simpa [found, parsed] using read⟩

/-- A decision recorded right behind a rejection. -/
def decidesOn (site : Site) : Bool :=
  match (runOf site).reverse with
  | decision :: rejection :: _ => decision.eventType = .decisionRecorded && recordsRejection rejection
  | _ => false

/-- The process dies right after the rejection; the next one asks the provider again. -/
theorem rejection_final_fails : ¬ ∀ (loop : AgentLoop) (request : RunRequest) (site : Site),
    Reachable loop request (fun _ => True) site →
    (∀ before e after, RunLedger.forRun request.runId site.world.ledger = before ++ e :: after →
      (∃ r ∈ before, RecordsRejection r) → e.eventType ≠ .decisionRecorded ∧
        e.eventType ≠ .toolCallMaterialized ∧ e.eventType ≠ .toolExecutionStarted) ∧
    ∀ r memory, site.posture = .driving (.ret (.ok (some r), memory)) →
      (∃ e ∈ RunLedger.forRun request.runId site.world.ledger, RecordsRejection e) → r.status = .rejected := by
  intro always
  obtain ⟨site, reachable, holds⟩ := reaches (fun _ => True)
    [.invoke 3 none, .requests 40 proposing, .finish, .invoke 3 (some (approval .rejected)),
      .requests 7 (resuming 4), .die, .invoke 3 none,
      .requests 7 ⟨noon, eventIds 5 1, [.action (.toolCall proposal)], []⟩]
    decidesOn (fun _ _ => trivial) (by decide +kernel)
  obtain ⟨final, _⟩ := always loop request site reachable
  simp only [decidesOn] at holds
  split at holds
  · rename_i decision rejection earlier reversed
    simp only [Bool.and_eq_true, decide_eq_true_eq] at holds
    have split : runOf site = (earlier.reverse ++ [rejection]) ++ decision :: [] := by
      rw [← List.reverse_reverse (runOf site), reversed]
      simp
    exact (final _ decision [] split ⟨rejection, by simp, recordsRejection_sound holds.2⟩).1 holds.1
  · contradiction

/-- The result that an invocation has returned. -/
def returned (site : Site) : Option (RunResult × LineageMemory) :=
  match site.posture with
  | .driving (.ret (.ok (some r), memory)) => some (r, memory)
  | _ => none

theorem posture_of_returned {site : Site} {r : RunResult} {memory : LineageMemory} (found : returned site = some (r, memory)) :
    site.posture = .driving (.ret (.ok (some r), memory)) := by
  unfold returned at found
  split at found
  · rename_i posture
    cases found
    exact posture
  · cases found

/-- The rejected call of a run that its rejection ended. -/
theorem rejection_final_rejected : ∃ site r memory, site.posture = .driving (.ret (.ok (some r), memory)) ∧
    (runOf site).any recordsRejection = true ∧ r.status = .rejected := by
  obtain ⟨site, reachable, holds⟩ := reaches (fun w => ¬ Halted request w)
    [.invoke 3 none, .requests 40 proposing, .finish, .invoke 3 (some (approval .rejected)), .requests 60 (resuming 4)]
    (fun site => (runOf site).any recordsRejection && (returned site).isSome) (by simp) (by decide +kernel)
  simp only [Bool.and_eq_true] at holds
  obtain ⟨recorded, some⟩ := holds
  obtain ⟨⟨r, memory⟩, found⟩ := Option.isSome_iff_exists.mp some
  have posture := posture_of_returned found
  refine ⟨site, r, memory, posture, recorded, (rejection_final reachable).2 r memory posture ?_⟩
  obtain ⟨e, member, rejects⟩ := List.any_eq_true.mp recorded
  exact ⟨e, member, recordsRejection_sound rejects⟩

end Sample
end Molly
