import Molly.Run.Contract

/-! Executing one call under the contract: its start, the executor, its settlement. -/
namespace Molly
open Effect AgentLoop

/-! ### Models between two appends -/

section
variable {skipped : Prop} {m : RunModel} {call : MaterializedToolCall} {phase : CallPhase}

@[simp] theorem withCall_current : (m.withCall call phase).current = some (call, phase) := rfl
@[simp] theorem withCall_ending : (m.withCall call phase).ending = m.ending := rfl
@[simp] theorem withCall_begun : (m.withCall call phase).begun = m.begun := rfl

@[simp] theorem withCall_withCall (next : CallPhase) :
    (m.withCall call phase).withCall call next = m.withCall call next := rfl

/-- A call that is not refused adds no refusal. -/
theorem RunModel.Active.withCall (active : m.Active skipped) (plain : phase.refused = false) :
    (m.withCall call phase).Active skipped := by
  refine ⟨active.begun, active.going, ?_⟩
  rintro ⟨other, known, member, refused⟩
  rcases List.mem_append.mp member with member | member
  · exact active.unrefused ⟨other, known, List.mem_append_left _ member, refused⟩
  · obtain ⟨rfl, rfl⟩ : other = call ∧ known = phase := by simpa using member
    rw [plain] at refused
    contradiction

end

section
variable [Sha256]

/-- Where an invocation may begin and end: no approval has been passed over, and a
refusal has ended the run. -/
structure RunModel.Ready (loop : AgentLoop) (ungated skipped : Prop) (m : RunModel) : Prop where
  gated : m.ending = .open → ∀ call, m.current = some (call, .materialized) →
    RequiresApproval loop call → ungated
  unrefused : m.ending = .open → m.Refused → skipped

/-- The driver may stop here. -/
def Rests (loop : AgentLoop) (request : RunRequest) (ungated skipped : Prop) (s : DriverState) : Prop :=
  ∃ m, History loop request ungated skipped (s.events request) m ∧ m.Ready loop ungated skipped

variable {loop : AgentLoop} {request : RunRequest} {ungated skipped : Prop} {s : DriverState}
  {m n : RunModel} {memory : LineageMemory} {call : MaterializedToolCall} {phase : CallPhase}

omit [Sha256] in
/-- An open run is ready once no unapproved call waits in it. -/
theorem RunModel.Active.ready (active : m.Active skipped)
    (gate : ∀ call, m.current = some (call, .materialized) → RequiresApproval loop call → ungated) :
    m.Ready loop ungated skipped := ⟨fun _ => gate, fun _ => active.unrefused⟩

theorem RunModel.Active.readyWith (active : m.Active skipped) (plain : phase.refused = false)
    (other : phase ≠ .materialized) : (m.withCall call phase).Ready loop ungated skipped := by
  refine (active.withCall plain).ready ?_
  intro c current _
  simp only [withCall_current, Option.some.injEq, Prod.mk.injEq] at current
  exact absurd current.2 other

omit [Sha256] in
theorem RunModel.Ready.of_ended (ended : m.ending ≠ .open) : m.Ready loop ungated skipped :=
  ⟨fun going => absurd going ended, fun going => absurd going ended⟩

/-- Whatever a due call waits for, its start may follow. -/
theorem Legal.begins {es : List LedgerEvent} (active : m.Active skipped)
    (current : m.current = some (call, phase)) (due : phase.due = true)
    (gate : phase = .materialized → RequiresApproval loop call → ungated)
    (drafted : Drafted request (startedDraft call) e) :
    Legal loop request ungated skipped es m e (m.withCall call (.running phase.approval)) := by
  cases phase with
  | materialized => exact .started active current (gate rfl) drafted
  | decided approval => exact .resumed active current (of_decide_eq_true due) drafted
  | waiting | rejected | running | succeeded | failed => contradiction

theorem Drafted.arms (drafted : Drafted request (startedDraft call) e) :
    DriverState.arms e = some call.callId.text := by
  have eventType : e.eventType = .toolExecutionStarted := drafted.eventType
  simp [DriverState.arms, eventType, drafted.callId]

/-! ### The guarded block -/

omit [Sha256] in
/-- The data of a result is frozen. -/
theorem toolResult_frozen {data : Json} {drafts : List DraftFields} {result : ToolResult}
    (created : ToolResult.create data drafts = .ok result) : result.data.accepted = true ∧ result.data.canon = result.data := by
  unfold ToolResult.create at created
  cases checked : data.check "tool result data" with
  | error e => simp [freezeJsonValue, checked, bind, Except.bind] at created
  | ok =>
    have accepted := (check_iff data _).mp checked
    simp only [freezeJsonValue, checked, orRaise_ok, bind, Except.bind,
      canonicalJsonBytes_of_accepted (accepted_canon data accepted)] at created
    split at created
    · contradiction
    · cases read : drafts.mapM ArtifactDraft.create with
      | error e => simp [read] at created
      | ok artifacts =>
        simp only [read, pure, Except.pure, Except.ok.injEq] at created
        subst created
        exact ⟨accepted_canon data accepted, canon_canon data⟩

theorem publish_runs [JsonSchema] {spec : ToolSpec} {data : Json} {drafts : List DraftFields}
    (holds : (contract loop request ungated skipped).inv s) :
    (contract loop request ungated skipped).Runs
      (fun published _ t => t = s ∧ Storable published.1 ∧ published.2.1 = published.1.encode)
      (fun _ _ t => t = s) (publish spec data drafts) memory s := by
  refine Discipline.runs_bind _ ((Discipline.runs_ofExcept _).mpr ⟨fun result created => ?_, fun _ _ => rfl⟩)
  refine Discipline.runs_bind _ ((Discipline.runs_ofExcept _).mpr ⟨fun encoded known => ?_, fun _ _ => rfl⟩)
  have frozen := toolResult_frozen created
  have same : encoded = result.data.encode := by
    rw [canonicalJsonBytes_of_accepted frozen.1, Except.ok.injEq] at known
    exact known.symm
  split
  · exact rfl
  · rename_i bounded
    refine Discipline.runs_bind _ ((Discipline.runs_ofExcept _).mpr ⟨fun _ _ => ?_, fun _ _ => rfl⟩)
    refine Discipline.runs_bind _ (quiet_runs (ArtifactStore.putAll_quiet _) holds ?_ fun _ _ => rfl)
    intro records memory
    exact ⟨rfl, ⟨frozen.1, frozen.2, by rw [← same]; exact Nat.le_of_not_gt bounded⟩, same⟩

/-- The executor is called for the start just recorded; what it does is caught. -/
theorem attempt_runs [JsonSchema] {spec executor : ToolSpec} {approval : Option ApprovalRecord}
    (history : History loop request ungated skipped (s.events request) m)
    (current : m.current = some (call, .running approval)) (armed : s.armed = some call.callId.text) :
    (contract loop request ungated skipped).Runs
      (fun attempted _ t => t = { s with armed := none } ∧ ∀ data encoded records,
        attempted = .ok (data, encoded, records) → Storable data ∧ encoded = data.encode)
      (fun _ _ _ => False) (attempt spec executor call) memory s := by
  refine Discipline.runs_bind _ (Discipline.runs_ask _ ⟨m, call, approval, history, current, rfl, armed⟩ ?_)
  rintro outcome t rfl
  refine ⟨⟨m, history⟩, ?_⟩
  cases outcome with
  | raised typeName =>
    refine ⟨rfl, ?_⟩
    intro _ _ _ same
    contradiction
  | returned data drafts =>
    refine Discipline.runs_tryCatch _ (Discipline.runs_bind _ (Discipline.runs_mono _ (publish_runs ⟨m, history⟩) ?_ ?_))
    · rintro ⟨data, encoded, records⟩ memory t ⟨rfl, storable, same⟩
      refine ⟨rfl, ?_⟩
      intro _ _ _ equal
      cases equal
      exact ⟨storable, same⟩
    · rintro error memory t rfl
      refine ⟨rfl, ?_⟩
      intro _ _ _ same
      contradiction

/-! ### The call -/

/-- Executing a due call settles it, with one start and one further event. -/
theorem executeCall_runs [JsonSchema] (history : History loop request ungated skipped (s.events request) m)
    (active : m.Active skipped) (current : m.current = some (call, phase)) (due : phase.due = true)
    (gate : phase = .materialized → RequiresApproval loop call → ungated) :
    (contract loop request ungated skipped).Runs
      (fun _ _ t => ∃ started ended last, t.events request = s.events request ++ [started, ended] ∧
        started.eventType = .toolExecutionStarted ∧ ended.eventType.endsExecution = true ∧
        last.hasEnded = true ∧ History loop request ungated skipped (t.events request) (m.withCall call last))
      (fun _ _ t => Rests loop request ungated skipped t) (loop.executeCall request call) memory s := by
  have rests : Rests loop request ungated skipped s := by
    refine ⟨m, history, active.ready ?_⟩
    intro other known requires
    rw [current, Option.some.injEq, Prod.mk.injEq] at known
    exact gate known.2 (known.1 ▸ requires)
  refine Discipline.runs_bind _ ((Discipline.runs_ofExcept _).mpr ⟨fun spec _ => ?_, fun _ _ => rests⟩)
  refine Discipline.runs_bind _ ((Discipline.runs_ofExcept _).mpr ⟨fun executor _ => ?_, fun _ _ => rests⟩)
  refine Discipline.runs_bind _ (append_returns (acceptable_started call) history
    (fun e drafted => Legal.begins active current due gate drafted) ?_)
  intro started t drafted grown armed begun
  have running : (m.withCall call (.running phase.approval)).Active skipped := active.withCall rfl
  have startedType : started.eventType = .toolExecutionStarted := drafted.eventType
  refine Discipline.runs_bind _ (Discipline.runs_mono _ (attempt_runs begun rfl (armed.trans drafted.arms)) ?_
    fun _ _ _ impossible => impossible.elim)
  rintro attempted memory u ⟨rfl, published⟩
  cases attempted with
  | error typeName =>
    refine append_returns (acceptable_failed call _) begun (fun e drafted => .failed _ running rfl drafted) ?_
    intro ended v drafted more _ settled
    have endedType : ended.eventType = .toolExecutionFailed := drafted.eventType
    refine ⟨started, ended, _, ?_, startedType, by rw [endedType]; rfl, rfl, settled⟩
    rw [more]
    simp [DriverState.events] at grown ⊢
    simp [grown]
  | ok triple =>
    obtain ⟨data, encoded, records⟩ := triple
    obtain ⟨storable, rfl⟩ := published data encoded records rfl
    refine Discipline.runs_bind _ (append_runs begun (fun e drafted => .succeeded _ data running rfl storable drafted)
      ?_ ?_)
    · intro ended v drafted more _ settled
      have endedType : ended.eventType = .toolExecutionSucceeded := drafted.eventType
      have ready : Rests loop request ungated skipped v :=
        ⟨_, settled, active.readyWith rfl (fun same => by cases same)⟩
      refine Discipline.runs_bind _ (quiet_runs (projectSuccess_quiet ended) ⟨_, settled⟩ ?_ fun _ _ => ready)
      intro _ memory
      refine ⟨started, ended, _, ?_, startedType, by rw [endedType]; rfl, rfl, settled⟩
      rw [more]
      simp [DriverState.events] at grown ⊢
      simp [grown]
    · intro _ error
      exact ⟨_, begun, active.readyWith rfl (fun same => by cases same)⟩

end
end Molly
