import Molly.Run.Turns

/-! One invocation of `AgentLoop.run` under the contract: its start, its loop, and how
many passes the loop can make. -/
namespace Molly
open Effect AgentLoop

section
variable [Sha256]
variable {loop : AgentLoop} {request : RunRequest} {ungated skipped : Prop} {s : DriverState}
  {m n : RunModel} {memory : LineageMemory} {es : List LedgerEvent}

/-- A run under review has nothing due. -/
theorem History.review_settled (history : History loop request ungated skipped es m)
    (review : m.ending = .review) (call : MaterializedToolCall) (phase : CallPhase)
    (current : m.current = some (call, phase)) : phase.settled = true := by
  cases history with
  | empty => cases review
  | snoc _ legal =>
    cases legal with
    | review action idle => exact idle.settled call phase current
    | intent idle | decision _ idle => cases idle.going.symm.trans review
    | required active | recorded active | started active | resumed active | succeeded _ _ active
    | failed _ active => cases active.going.symm.trans review
    | rejection _ going => cases going.symm.trans review
    | start | stopped | hardLimit | materialized | runRejected => cases review

theorem turnOn_runs [JsonSchema] {projection : RunProjection} {approval : Option ApprovalRecord}
    {approvalResume : Bool} (history : History loop request ungated skipped (s.events request) m)
    (begun : m.begun = true) (ready : m.Ready loop ungated skipped)
    (read : project (s.events request) = .ok projection) (projects : Projects (s.events request) m projection) :
    (contract loop request ungated skipped).Runs
      (Turned loop request ungated skipped (remaining request (s.events request) m))
      (fun _ _ t => Rests loop request ungated skipped t)
      (loop.turnOn request (s.events request) projection approval approvalResume) memory s := by
  have rests : Rests loop request ungated skipped s := ⟨m, history, ready⟩
  have known : ∀ p, some projection = some p → project (s.events request) = .ok p := by
    rintro p same
    cases same
    exact read
  simp only [turnOn]
  split
  · split
    · exact rests
    · exact done_runs history ready known
  rename_i unended
  split
  · split
    · exact rests
    · exact done_runs history ready known
  rename_i uninterrupted
  have notClosed : m.ending.terminal = none := by
    rw [← projects.terminal]
    simpa using unended
  cases pendingApproval : projection.pendingApproval with
  | some pending =>
    obtain ⟨undecided, current⟩ := projects.pendingApproval pending pendingApproval
    have going : m.ending = .open := by
      cases ending : m.ending with
      | «open» => rfl
      | review =>
        have settled := history.review_settled ending _ _ current
        contradiction
      | closed kind =>
        rw [ending] at notClosed
        contradiction
    exact approvalTurn_runs history ⟨begun, going, ready.unrefused going⟩ ready current undecided read
  | none =>
    apply Discipline.runs_bind
    refine (Discipline.runs_ofExcept _).mpr ⟨fun _ _ => ?_, fun _ _ => rests⟩
    split
    · exact done_runs history ready known
    rename_i unreviewed
    have going : m.ending = .open := by
      cases ending : m.ending with
      | «open» => rfl
      | review =>
        rw [projects.waitingReview, ending] at unreviewed
        simp at unreviewed
      | closed kind =>
        rw [ending] at notClosed
        contradiction
    have active : m.Active skipped := ⟨begun, going, ready.unrefused going⟩
    cases pendingExecution : projection.pendingExecution with
    | some pending =>
      obtain ⟨phase, current, due, _⟩ := projects.pendingExecution pending pendingExecution
      exact executionTurn_runs history active ready current due
    | none =>
      apply providerTurn_runs history _ ready
      refine ⟨active, ?_⟩
      intro call phase current
      -- a call that is not settled would show in the projection
      cases phase with
      | waiting =>
        have asked := projects.asked call current
        rw [pendingApproval] at asked
        contradiction
      | materialized =>
        have due := projects.due call _ current rfl
        rw [pendingExecution] at due
        contradiction
      | running =>
        rw [projects.interrupted, current] at uninterrupted
        exact absurd rfl uninterrupted
      | decided a =>
        cases decision : a.decision with
        | approved =>
          have due := projects.due call _ current (by simp [CallPhase.due, decision])
          rw [pendingExecution] at due
          contradiction
        | rejected => simp [CallPhase.settled, CallPhase.refused, decision]
      | rejected | succeeded | failed => rfl

theorem turn_runs [JsonSchema] {approval : Option ApprovalRecord} {approvalResume : Bool}
    (history : History loop request ungated skipped (s.events request) m) (begun : m.begun = true)
    (ready : m.Ready loop ungated skipped) : (contract loop request ungated skipped).Runs
      (Turned loop request ungated skipped (remaining request (s.events request) m))
      (fun _ _ t => Rests loop request ungated skipped t)
      (loop.turn request approval approvalResume) memory s := by
  apply Discipline.runs_bind
  refine snapshot_runs ⟨m, history⟩ ?_
  obtain ⟨p, read, projects⟩ := history.represents.project
  apply Discipline.runs_bind
  refine (Discipline.runs_ofExcept _).mpr ⟨fun projection known => ?_, fun _ _ => ⟨m, history, ready⟩⟩
  have same : projection = p := by
    have known : project (s.events request) = .ok projection := known
    rw [read, Except.ok.injEq] at known
    exact known.symm
  subst same
  exact turnOn_runs history begun ready read projects

/-- How an invocation ends: with a result of the ledger, unless its fuel ran out. -/
def Finished (loop : AgentLoop) (request : RunRequest) (ungated skipped : Prop) (enough : Prop) :
    Option RunResult → LineageMemory → DriverState → Prop
  | some r, _, t => Returned loop request ungated skipped r t
  | none, _, t => ¬ enough ∧ Rests loop request ungated skipped t

/-- The loop ends before its measure does. -/
theorem drive_runs [JsonSchema] : ∀ {fuel : Nat} {approval : Option ApprovalRecord} {approvalResume : Bool}
    {memory : LineageMemory} {s : DriverState} {m : RunModel},
    History loop request ungated skipped (s.events request) m → m.begun = true →
    m.Ready loop ungated skipped → (contract loop request ungated skipped).Runs
      (Finished loop request ungated skipped (remaining request (s.events request) m < fuel))
      (fun _ _ t => Rests loop request ungated skipped t)
      (loop.drive request fuel approval approvalResume) memory s
  | 0, _, _, _, _, m, history, _, ready => ⟨by omega, m, history, ready⟩
  | fuel + 1, _, _, _, s, m, history, begun, ready => by
    apply Discipline.runs_bind
    refine Discipline.runs_mono _ (turn_runs history begun ready) ?_ fun _ _ _ rests => rests
    intro outcome memory t turned
    cases outcome with
    | done r => exact turned
    | again approval approvalResume =>
      obtain ⟨n, continued, begun, ready, nearer⟩ := turned
      refine Discipline.runs_mono _ (drive_runs continued begun ready) ?_ fun _ _ _ rests => rests
      intro r memory u finished
      cases r with
      | some r => exact finished
      | none =>
        refine ⟨fun enough => finished.1 ?_, finished.2⟩
        omega

/-- The passes that any invocation can make. -/
def maxPasses (request : RunRequest) : Nat := 3 * (effectiveHardLimits request).maxDecisions + 3

omit [Sha256] in
theorem remaining_lt (request : RunRequest) (es : List LedgerEvent) (m : RunModel) :
    remaining request es m < maxPasses request := by
  have weight : m.weight ≤ 2 := by
    unfold RunModel.weight
    split
    · omega
    · omega
    · rename_i phase _ _
      have one := Bool.toNat_le phase.due
      omega
  simp only [remaining, maxPasses]
  omega

/-- The start of a run, or the validation of one that has begun. -/
theorem initializeOrValidate_runs (rests : Rests loop request ungated skipped s) :
    (contract loop request ungated skipped).Runs
      (fun _ _ t => ∃ m, History loop request ungated skipped (t.events request) m ∧ m.begun = true ∧
        m.Ready loop ungated skipped)
      (fun _ _ t => Rests loop request ungated skipped t) (loop.initializeOrValidate request) memory s := by
  obtain ⟨m, history, ready⟩ := rests
  have holds : (contract loop request ungated skipped).inv s := ⟨m, history⟩
  have rests : Rests loop request ungated skipped s := ⟨m, history, ready⟩
  apply Discipline.runs_bind
  refine (Discipline.runs_ofExcept _).mpr ⟨fun _ bound => ?_, fun _ _ => rests⟩
  apply Discipline.runs_bind
  refine snapshot_runs holds ?_
  dsimp only
  split
  · rename_i empty
    have none : s.events request = [] := List.isEmpty_iff.mp empty
    apply Discipline.runs_bind
    refine quiet_runs (ArtifactStore.verifyAll_quiet _) holds (fun _ memory => ?_) fun _ _ => rests
    have fresh : History loop request ungated skipped (s.events request) .unbegun := by
      rw [none]
      exact .empty
    have legal : ∀ e, Drafted request (startDraft request) e →
        Legal loop request ungated skipped (s.events request) .unbegun e ⟨true, [], .none, .open⟩ := by
      intro e drafted
      rw [none]
      exact .start bound drafted
    apply Discipline.runs_bind
    refine append_returns (acceptable_start request) fresh legal ?_
    intro e t _ _ _ started
    have active : (⟨true, [], .none, .open⟩ : RunModel).Active skipped :=
      ⟨rfl, rfl, fun ⟨_, _, member, _⟩ => absurd member List.not_mem_nil⟩
    apply Discipline.runs_bind
    refine read_runs ⟨_, started⟩ ⟨_, started, rfl, active.ready ?_⟩
    intro call current
    contradiction
  · rename_i nonempty
    have begun : m.begun = true := by
      cases known : m.begun with
      | true => rfl
      | false =>
        have none : s.events request = [] := (history.represents.unbegun known).1
        exact absurd (List.isEmpty_iff.mpr none) nonempty
    apply Discipline.runs_bind
    refine (Discipline.runs_ofExcept _).mpr ⟨fun _ _ => ?_, fun _ _ => rests⟩
    apply Discipline.runs_bind
    refine quiet_runs (ArtifactStore.verifyAll_quiet _) holds (fun _ memory => ?_) fun _ _ => rests
    exact ⟨m, history, begun, ready⟩

/-- An invocation keeps the contract, and enough fuel lets it finish. -/
theorem run_runs [JsonSchema] {fuel : Nat} {approval : Option ApprovalRecord}
    (rests : Rests loop request ungated skipped s) : (contract loop request ungated skipped).Runs
      (Finished loop request ungated skipped (maxPasses request ≤ fuel))
      (fun _ _ t => Rests loop request ungated skipped t) (loop.run fuel request approval) memory s := by
  apply Discipline.runs_bind
  refine Discipline.runs_mono _ (initializeOrValidate_runs rests) ?_ fun _ _ _ rests => rests
  rintro events memory t ⟨m, history, begun, ready⟩
  apply Discipline.runs_bind
  refine quiet_runs (reconcileSuccessLineage_quiet events) ⟨m, history⟩ (fun _ memory => ?_)
    fun _ _ => ⟨m, history, ready⟩
  refine Discipline.runs_mono _ (drive_runs history begun ready) ?_ fun _ _ _ rests => rests
  intro r memory u finished
  cases r with
  | some r => exact finished
  | none =>
    refine ⟨fun enough => finished.1 ?_, finished.2⟩
    have less := remaining_lt request (t.events request) m
    omega

end
end Molly
