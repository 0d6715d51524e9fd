import Molly.Run.Lifecycle

/-! Every history is well formed, and `_project` reads back what it says. -/
namespace Molly
open AgentLoop

theorem forall_snoc {P : α → Prop} {before : List α} {last : α} (all : ∀ p ∈ before, P p) (here : P last) :
    ∀ p ∈ before ++ [last], P p := by
  intro p member
  rcases List.mem_append.mp member with member | member
  · exact all p member
  · rw [List.mem_singleton.mp member]
    exact here

section
variable [Sha256]

/-- An element of an extended list is the new one, or one of the list before. -/
theorem split_snoc {es before after : List α} {last e : α} (split : es ++ [last] = before ++ e :: after) :
    (after = [] ∧ before = es ∧ last = e) ∨ ∃ rest, after = rest ++ [last] ∧ es = before ++ e :: rest := by
  rcases List.eq_nil_or_concat after with rfl | ⟨rest, other, rfl⟩
  · obtain ⟨same, here⟩ := List.append_inj' split rfl
    exact Or.inl ⟨rfl, same.symm, by simpa using here⟩
  · have regrouped : es ++ [last] = (before ++ e :: rest) ++ [other] := by simpa using split
    obtain ⟨earlier, here⟩ := List.append_inj' regrouped rfl
    obtain rfl : last = other := by simpa using here
    exact Or.inr ⟨rest, by simp, earlier⟩

/-- How a run ends, seen on its events. -/
def Ending.Shows : Ending → List LedgerEvent → Prop
  | .open, es => ∀ e ∈ es, e.eventType.endsRun = false ∧ e.eventType ≠ .reviewRequested
  | .review, es => ∃ before e, es = before ++ [e] ∧ e.eventType = .reviewRequested ∧
      ∀ p ∈ before, p.eventType.endsRun = false ∧ p.eventType ≠ .reviewRequested
  | .closed eventType, es => eventType.endsRun = true ∧ ∃ before e, es = before ++ [e] ∧
      e.eventType = eventType ∧ ∀ p ∈ before, p.eventType.endsRun = false ∧ p.eventType ≠ .reviewRequested

/-- A ledger represents a model: call by call, and as a run. -/
structure Represents (request : RunRequest) (es : List LedgerEvent) (m : RunModel) : Prop where
  begun : m.begun = true → ∃ start rest, es = start :: rest ∧ Drafted request (startDraft request) start ∧
    ∀ e ∈ rest, e.eventType ≠ .runStarted
  unbegun : m.begun = false → es = [] ∧ m = .unbegun
  run : ∀ e ∈ es, e.runId = request.runId
  collected : collect es = .ok (m.calls.map Prod.fst)
  calls : ∀ call phase, (call, phase) ∈ m.calls → CallHistory request call phase (related es call)
  named : ∀ e ∈ es, ∀ id, e.metadataCallId = some id → ∃ call phase, (call, phase) ∈ m.calls ∧ call.callId.text = id
  distinct : (m.calls.map fun c => c.1.callId.text).Nodup
  settled : ∀ call phase, (call, phase) ∈ m.settled → phase.settled = true
  ending : m.ending.Shows es

/-! ### One more event -/

theorem collect_snoc (es : List LedgerEvent) (e : LedgerEvent) (known : collect es = .ok calls)
    (added : collectEvent e = .ok more) : collect (es ++ [e]) = .ok (calls ++ more) := by
  induction es generalizing calls with
  | nil =>
    cases known
    simp [collect, added, bind, Except.bind, pure, Except.pure]
  | cons first rest ih =>
    simp only [collect, List.cons_append, bind, Except.bind] at known ⊢
    cases head : collectEvent first with
    | error _ => simp [head] at known
    | ok firstCalls =>
      simp only [head] at known ⊢
      cases tail : collect rest with
      | error _ => simp [tail] at known
      | ok restCalls =>
        simp only [tail, pure, Except.pure, Except.ok.injEq] at known
        simp [ih tail, ← known, pure, Except.pure]

omit [Sha256] in
theorem related_snoc (es : List LedgerEvent) (e : LedgerEvent) (call : MaterializedToolCall) :
    related (es ++ [e]) call =
      related es call ++ if e.metadataCallId = some call.callId.text then [e] else [] := by
  by_cases named : e.metadataCallId = some call.callId.text <;> simp [related, named]

theorem collectEvent_quiet {e : LedgerEvent} (unnamed : e.metadataCallId = none)
    (notSuccess : e.eventType ≠ .toolExecutionSucceeded) (notCall : e.eventType ≠ .toolCallMaterialized) :
    collectEvent e = .ok [] := by
  simp [collectEvent, unnamed, notSuccess, notCall, bind, Except.bind, pure, Except.pure]

theorem collectEvent_call {request : RunRequest} {eventType : EventType} {status : Identifier}
    {call : MaterializedToolCall} {outputs : List ArtifactId} {metadata : Fields}
    (drafted : Drafted request (callDraft eventType status call outputs metadata) e)
    (notSuccess : eventType ≠ .toolExecutionSucceeded) (notCall : eventType ≠ .toolCallMaterialized) :
    collectEvent e = .ok [] := by
  have same : e.eventType = eventType := drafted.eventType
  have named := drafted.callId
  have valid := drafted.callIdForEvent
  simp [collectEvent, same, named, valid, notSuccess, notCall, bind, Except.bind, pure, Except.pure]

theorem collectEvent_materialized {request : RunRequest} {call : MaterializedToolCall}
    (drafted : Drafted request (materializedDraft call) e) : collectEvent e = .ok [call] := by
  have same : e.eventType = .toolCallMaterialized := drafted.eventType
  have named := drafted.callId
  have valid := drafted.callIdForEvent
  simp [collectEvent, same, named, valid, drafted.materializedCall, bind, Except.bind, pure, Except.pure,
    Functor.map, Except.map]

theorem collectEvent_succeeded {request : RunRequest} {call : MaterializedToolCall}
    {outputs : List ArtifactId} {data : Json} (storable : Storable data)
    (drafted : Drafted request (succeededDraft call outputs data data.encode) e) :
    collectEvent e = .ok [] := by
  have same : e.eventType = .toolExecutionSucceeded := drafted.eventType
  have named := drafted.callId
  have valid := drafted.callIdForEvent
  simp [collectEvent, same, named, valid, drafted.resultData storable, bind, Except.bind, pure, Except.pure]

theorem CallHistory.nonempty {request : RunRequest} {call : MaterializedToolCall} {phase : CallPhase}
    {events : List LedgerEvent} (history : CallHistory request call phase events) : events ≠ [] := by
  cases history <;> simp

namespace Represents
variable {request : RunRequest} {es : List LedgerEvent} {m : RunModel}

omit [Sha256] in
theorem mem_current (call : MaterializedToolCall) (phase : CallPhase)
    (current : m.current = some (call, phase)) : (call, phase) ∈ m.calls := by
  simp [RunModel.calls, current]

/-- An event about the run as a whole. -/
theorem quiet (r : Represents request es m) (begun : m.begun = true) {ending : Ending}
    (run : e.runId = request.runId) (unnamed : e.metadataCallId = none)
    (notStart : e.eventType ≠ .runStarted) (notSuccess : e.eventType ≠ .toolExecutionSucceeded)
    (notCall : e.eventType ≠ .toolCallMaterialized) (shows : ending.Shows (es ++ [e])) :
    Represents request (es ++ [e]) { m with ending := ending } := by
  have same : ∀ call, related (es ++ [e]) call = related es call := by
    intro call
    simp [related_snoc, unnamed]
  refine ⟨?_, ?_, ?_, ?_, ?_, ?_, r.distinct, r.settled, shows⟩
  · intro _
    obtain ⟨start, rest, rfl, first, others⟩ := r.begun begun
    exact ⟨start, rest ++ [e], by simp, first, forall_snoc others notStart⟩
  · intro not
    exact absurd (not.symm.trans begun) (by decide)
  · exact forall_snoc r.run run
  · have added := collectEvent_quiet unnamed notSuccess notCall
    have whole := collect_snoc es e r.collected added
    simpa [RunModel.calls] using whole
  · intro call phase member
    rw [same]
    exact r.calls call phase member
  · intro p member id named
    rcases List.mem_append.mp member with member | member
    · exact r.named p member id named
    · rw [List.mem_singleton.mp member, unnamed] at named
      contradiction

/-- An event of the current call. -/
theorem advance (r : Represents request es m) (begun : m.begun = true) (going : m.ending = .open)
    (current : m.current = some (call, phase)) (named : e.metadataCallId = some call.callId.text)
    (run : e.runId = request.runId) (notStart : e.eventType ≠ .runStarted)
    (plain : e.eventType.endsRun = false ∧ e.eventType ≠ .reviewRequested)
    (collected : collectEvent e = .ok [])
    (history : CallHistory request call next (related es call ++ [e])) :
    Represents request (es ++ [e]) (m.withCall call next) := by
  have callsBefore : m.calls = m.settled ++ [(call, phase)] := by simp [RunModel.calls, current]
  have callsAfter : (m.withCall call next).calls = m.settled ++ [(call, next)] := rfl
  have distinct := r.distinct
  rw [callsBefore] at distinct
  refine ⟨?_, ?_, ?_, ?_, ?_, ?_, ?_, r.settled, ?_⟩
  · intro _
    obtain ⟨start, rest, rfl, first, others⟩ := r.begun begun
    exact ⟨start, rest ++ [e], by simp, first, forall_snoc others notStart⟩
  · intro not
    exact absurd (not.symm.trans begun) (by decide)
  · exact forall_snoc r.run run
  · have whole := collect_snoc es e r.collected collected
    simpa [callsBefore, callsAfter] using whole
  · intro other phase' member
    rw [callsAfter] at member
    rw [related_snoc]
    rcases List.mem_append.mp member with member | member
    · -- a settled call has another identifier
      have apart : other.callId.text ≠ call.callId.text := by
        have parts := List.nodup_append.mp (by simpa using distinct)
        exact parts.2.2 _ (List.mem_map.mpr ⟨_, member, rfl⟩) _ (by simp)
      have other := r.calls other phase' (by rw [callsBefore]; exact List.mem_append_left _ member)
      simpa [named, Ne.symm apart] using other
    · obtain ⟨rfl, rfl⟩ : other = call ∧ phase' = next := by simpa using member
      simpa [named] using history
  · intro p member id found
    rw [callsAfter]
    rcases List.mem_append.mp member with member | member
    · obtain ⟨other, phase', known, same⟩ := r.named p member id found
      rw [callsBefore] at known
      rcases List.mem_append.mp known with known | known
      · exact ⟨other, phase', List.mem_append_left _ known, same⟩
      · obtain ⟨rfl, rfl⟩ : other = call ∧ phase' = phase := by simpa using known
        exact ⟨other, next, by simp, same⟩
    · rw [List.mem_singleton.mp member, named] at found
      exact ⟨call, next, by simp, by simpa using found⟩
  · rw [callsAfter]
    simpa using distinct
  · have before := r.ending
    simp only [going, Ending.Shows] at before
    simp only [RunModel.withCall, going, Ending.Shows]
    exact forall_snoc before plain

/-- A new call, with an identifier no event has used. -/
theorem materialize (r : Represents request es m) (begun : m.begun = true) (going : m.ending = .open)
    (settled : ∀ call phase, m.current = some (call, phase) → phase.settled = true)
    (fresh : call.callId.text ∉ usedIds .callId es) (drafted : Drafted request (materializedDraft call) e) :
    Represents request (es ++ [e]) ⟨true, m.calls, some (call, .materialized), .open⟩ := by
  have named : e.metadataCallId = some call.callId.text := drafted.callId
  have eventType : e.eventType = .toolCallMaterialized := drafted.eventType
  have unused : ∀ p ∈ es, p.metadataCallId ≠ some call.callId.text := by
    intro p member same
    exact fresh (List.mem_filterMap.mpr ⟨p, member, same⟩)
  have new : ∀ other phase, (other, phase) ∈ m.calls → other.callId.text ≠ call.callId.text := by
    intro other phase member same
    obtain ⟨p, found⟩ := List.exists_mem_of_ne_nil _ (r.calls other phase member).nonempty
    have found := List.mem_filter.mp found
    simp only [decide_eq_true_eq, same] at found
    exact unused p found.1 found.2
  have none : related es call = [] := by
    simp only [related, List.filter_eq_nil_iff, decide_eq_true_eq]
    exact unused
  have callsAfter : (⟨true, m.calls, some (call, .materialized), .open⟩ : RunModel).calls =
      m.calls ++ [(call, .materialized)] := rfl
  refine ⟨?_, ?_, ?_, ?_, ?_, ?_, ?_, ?_, ?_⟩
  · intro _
    obtain ⟨start, rest, rfl, first, others⟩ := r.begun begun
    exact ⟨start, rest ++ [e], by simp, first, forall_snoc others (by rw [eventType]; decide)⟩
  · intro not
    contradiction
  · exact forall_snoc r.run drafted.run
  · have whole := collect_snoc es e r.collected (collectEvent_materialized drafted)
    simpa [callsAfter] using whole
  · intro other phase member
    rw [callsAfter] at member
    rw [related_snoc]
    rcases List.mem_append.mp member with member | member
    · have apart := new other phase member
      simpa [named, Ne.symm apart] using r.calls other phase member
    · obtain ⟨rfl, rfl⟩ : other = call ∧ phase = .materialized := by simpa using member
      simpa [named, none] using CallHistory.materialized drafted
  · intro p member id found
    rw [callsAfter]
    rcases List.mem_append.mp member with member | member
    · obtain ⟨other, phase, known, same⟩ := r.named p member id found
      exact ⟨other, phase, List.mem_append_left _ known, same⟩
    · rw [List.mem_singleton.mp member, named] at found
      exact ⟨call, .materialized, by simp, by simpa using found⟩
  · rw [callsAfter, List.map_append, List.nodup_append]
    refine ⟨r.distinct, by simp, ?_⟩
    intro id member other same
    obtain ⟨⟨known, phase⟩, found, rfl⟩ := List.mem_map.mp member
    obtain rfl : other = call.callId.text := by simpa using same
    exact new known phase found
  · intro other phase member
    rcases List.mem_append.mp member with member | member
    · exact r.settled other phase member
    · exact settled other phase (by simpa using member)
  · have before := r.ending
    simp only [going, Ending.Shows] at before ⊢
    exact forall_snoc before (by rw [eventType]; decide)

theorem plain (r : Represents request es m) (going : m.ending = .open) :
    ∀ e ∈ es, e.eventType.endsRun = false ∧ e.eventType ≠ .reviewRequested := by
  have shows := r.ending
  rw [going] at shows
  exact shows

theorem currentHistory (r : Represents request es m) (current : m.current = some (call, phase)) :
    CallHistory request call phase (related es call) :=
  r.calls call phase (mem_current call phase current)

end Represents

theorem represents_start {request : RunRequest} (drafted : Drafted request (startDraft request) e) :
    Represents request [e] ⟨true, [], none, .open⟩ := by
  have unnamed : e.metadataCallId = none := drafted.runCallId rfl
  have eventType : e.eventType = .runStarted := drafted.eventType
  have quiet := collectEvent_quiet unnamed (by rw [eventType]; decide) (by rw [eventType]; decide)
  refine ⟨?_, ?_, ?_, ?_, ?_, ?_, ?_, ?_, ?_⟩
  · intro _
    exact ⟨e, [], rfl, drafted, by simp⟩
  · intro not
    contradiction
  · intro p member
    rw [List.mem_singleton.mp member]
    exact drafted.run
  · simp [collect, quiet, RunModel.calls, bind, Except.bind, pure, Except.pure]
  · simp [RunModel.calls]
  · intro p member id named
    rw [List.mem_singleton.mp member, unnamed] at named
    contradiction
  · simp [RunModel.calls]
  · simp
  · intro p member
    rw [List.mem_singleton.mp member, eventType]
    decide

/-- Each event that may follow keeps the ledger well formed. -/
theorem Legal.represents {loop : AgentLoop} {request : RunRequest} {ungated skipped : Prop}
    {es : List LedgerEvent} {m n : RunModel} {e : LedgerEvent}
    (legal : Legal loop request ungated skipped es m e n) (ih : Represents request es m) :
    Represents request (es ++ [e]) n := by
  cases legal with
  | start _ drafted => exact represents_start drafted
  | intent idle eventType unnamed run =>
    have plain := ih.plain idle.going
    have shows : m.ending.Shows (es ++ [e]) := by
      rw [idle.going]
      exact forall_snoc plain (by rw [eventType]; decide)
    exact ih.quiet idle.begun run (by simp [LedgerEvent.metadataCallId, unnamed])
      (by rw [eventType]; decide) (by rw [eventType]; decide) (by rw [eventType]; decide) shows
  | decision action idle drafted =>
    have eventType : e.eventType = .decisionRecorded := drafted.eventType
    have shows : m.ending.Shows (es ++ [e]) := by
      rw [idle.going]
      exact forall_snoc (ih.plain idle.going) (by rw [eventType]; decide)
    exact ih.quiet idle.begun drafted.run (drafted.runCallId rfl) (by rw [eventType]; decide)
      (by rw [eventType]; decide) (by rw [eventType]; decide) shows
  | stopped action idle drafted =>
    have eventType : e.eventType = .runStopped := drafted.eventType
    exact ih.quiet idle.begun drafted.run (drafted.runCallId rfl) (by rw [eventType]; decide)
      (by rw [eventType]; decide) (by rw [eventType]; decide)
      ⟨rfl, es, e, rfl, eventType, ih.plain idle.going⟩
  | review action idle drafted =>
    have eventType : e.eventType = .reviewRequested := drafted.eventType
    exact ih.quiet idle.begun drafted.run (drafted.runCallId rfl) (by rw [eventType]; decide)
      (by rw [eventType]; decide) (by rw [eventType]; decide) ⟨es, e, rfl, eventType, ih.plain idle.going⟩
  | hardLimit reason counted active _ _ drafted =>
    have eventType : e.eventType = .budgetExhausted := drafted.eventType
    exact ih.quiet active.begun drafted.run (drafted.runCallId rfl) (by rw [eventType]; decide)
      (by rw [eventType]; decide) (by rw [eventType]; decide)
      ⟨rfl, es, e, rfl, eventType, ih.plain active.going⟩
  | materialized idle admitted drafted =>
    exact ih.materialize idle.begun idle.going idle.settled admitted.freshCall drafted
  | required active current drafted =>
    have eventType : e.eventType = .approvalRequired := drafted.eventType
    exact ih.advance active.begun active.going current drafted.callId drafted.run
      (by rw [eventType]; decide) (by rw [eventType]; decide)
      (collectEvent_call drafted (by decide) (by decide)) (.required (ih.currentHistory current) drafted)
  | recorded active current bound drafted =>
    have eventType : e.eventType = .approvalRecorded := drafted.eventType
    exact ih.advance active.begun active.going current drafted.callId drafted.run
      (by rw [eventType]; decide) (by rw [eventType]; decide)
      (collectEvent_call drafted (by decide) (by decide))
      (.recorded (ih.currentHistory current) bound drafted)
  | rejection begun going current refused drafted =>
    have eventType : e.eventType = .toolCallRejected := drafted.eventType
    exact ih.advance begun going current drafted.callId drafted.run
      (by rw [eventType]; decide) (by rw [eventType]; decide)
      (collectEvent_call drafted (by decide) (by decide))
      (.rejection (ih.currentHistory current) refused drafted)
  | runRejected begun going current drafted =>
    have eventType : e.eventType = .runRejected := drafted.eventType
    exact ih.quiet begun drafted.run drafted.runRejectedCallId (by rw [eventType]; decide)
      (by rw [eventType]; decide) (by rw [eventType]; decide) ⟨rfl, es, e, rfl, eventType, ih.plain going⟩
  | started active current _ drafted =>
    have eventType : e.eventType = .toolExecutionStarted := drafted.eventType
    exact ih.advance active.begun active.going current drafted.callId drafted.run
      (by rw [eventType]; decide) (by rw [eventType]; decide)
      (collectEvent_call drafted (by decide) (by decide)) (.started (ih.currentHistory current) drafted)
  | resumed active current approved drafted =>
    have eventType : e.eventType = .toolExecutionStarted := drafted.eventType
    exact ih.advance active.begun active.going current drafted.callId drafted.run
      (by rw [eventType]; decide) (by rw [eventType]; decide)
      (collectEvent_call drafted (by decide) (by decide))
      (.resumed (ih.currentHistory current) approved drafted)
  | succeeded outputs data active current storable drafted =>
    have eventType : e.eventType = .toolExecutionSucceeded := drafted.eventType
    exact ih.advance active.begun active.going current drafted.callId drafted.run
      (by rw [eventType]; decide) (by rw [eventType]; decide)
      (collectEvent_succeeded storable drafted)
      (.succeeded outputs data (ih.currentHistory current) storable drafted)
  | failed errorType active current drafted =>
    have eventType : e.eventType = .toolExecutionFailed := drafted.eventType
    exact ih.advance active.begun active.going current drafted.callId drafted.run
      (by rw [eventType]; decide) (by rw [eventType]; decide)
      (collectEvent_call drafted (by decide) (by decide))
      (.failed errorType (ih.currentHistory current) drafted)

/-- Every history is well formed. -/
theorem History.represents {loop : AgentLoop} {request : RunRequest} {ungated skipped : Prop}
    {es : List LedgerEvent} {m : RunModel} (history : History loop request ungated skipped es m) :
    Represents request es m := by
  induction history with
  | empty =>
    refine ⟨by simp [RunModel.unbegun], fun _ => ⟨rfl, rfl⟩, by simp, rfl, ?_, by simp, ?_, ?_, ?_⟩
    all_goals simp [RunModel.unbegun, RunModel.calls, Ending.Shows]
  | snoc _ legal ih => exact legal.represents ih

/-! ### Reading a call back -/

/-- What the events of a call in a phase show to `_project`. -/
structure CallFacts (call : MaterializedToolCall) (phase : CallPhase) (es : List LedgerEvent) : Prop where
  checked : checkRelated call es = .ok ()
  approvals : (ofType .approvalRecorded es).map (boundApproval call) = (phase.approval.map Except.ok).toList
  rejections : (ofType .toolCallRejected es).length = phase.wasRejected.toNat
  starts : (ofType .toolExecutionStarted es).length = phase.hasStarted.toNat
  ends : (es.filter (·.eventType.endsExecution)).length = phase.hasEnded.toNat
  required : es.any (·.eventType = .approvalRequired) = phase.wasAsked
  refused : ∀ a, phase.wasRejected = true → phase.approval = some a → a.decision = .rejected
  approved : ∀ a, phase.hasStarted = true → phase.approval = some a → a.decision = .approved

theorem checkRelated_snoc {call : MaterializedToolCall} {es : List LedgerEvent} {e : LedgerEvent}
    (checked : checkRelated call es = .ok ()) (step : e.stepId = some call.stepId)
    (digest : e.metadata.get "tool_call_digest" = some (.str call.digest.text)) :
    checkRelated call (es ++ [e]) = .ok () := by
  induction es with
  | nil => simp [checkRelated, step, digest]
  | cons first rest ih =>
    simp only [checkRelated, List.cons_append] at checked ⊢
    split
    · rename_i materialized
      exact ih (by simpa [materialized] using checked)
    · rename_i other
      simp only [other, ↓reduceIte] at checked
      split at checked
      · contradiction
      split at checked
      · contradiction
      rename_i sameDigest sameStep
      simp only [sameDigest, sameStep, ↓reduceIte]
      exact ih checked

omit [Sha256] in
theorem ofType_snoc (eventType : EventType) (es : List LedgerEvent) (e : LedgerEvent) :
    ofType eventType (es ++ [e]) = ofType eventType es ++ if e.eventType = eventType then [e] else [] := by
  by_cases same : e.eventType = eventType <;> simp [ofType, same]

theorem CallHistory.facts {request : RunRequest} {call : MaterializedToolCall} {phase : CallPhase}
    {es : List LedgerEvent} (history : CallHistory request call phase es) : CallFacts call phase es := by
  induction history with
  | @materialized e drafted =>
    have eventType : e.eventType = .toolCallMaterialized := drafted.eventType
    constructor <;> simp [checkRelated, ofType, eventType, EventType.endsExecution, CallPhase.approval, CallPhase.wasAsked,
      CallPhase.wasRejected, CallPhase.hasStarted, CallPhase.hasEnded]
  | @required es e _ drafted ih =>
    have eventType : e.eventType = .approvalRequired := drafted.eventType
    have checked := checkRelated_snoc ih.checked drafted.callStep drafted.callDigest
    obtain ⟨_, approvals, rejections, starts, ends, required, _, _⟩ := ih
    constructor
    all_goals simp_all [ofType_snoc, EventType.endsExecution, CallPhase.approval, CallPhase.wasAsked,
      CallPhase.wasRejected, CallPhase.hasStarted, CallPhase.hasEnded]
  | @recorded es a e _ bound drafted ih =>
    have eventType : e.eventType = .approvalRecorded := drafted.eventType
    have checked := checkRelated_snoc ih.checked drafted.callStep drafted.callDigest
    have read := drafted.approval bound
    obtain ⟨_, approvals, rejections, starts, ends, required, _, _⟩ := ih
    constructor
    all_goals simp_all [ofType_snoc, EventType.endsExecution, CallPhase.approval, CallPhase.wasAsked,
      CallPhase.wasRejected, CallPhase.hasStarted, CallPhase.hasEnded]
  | @rejection a es e _ refused drafted ih =>
    have eventType : e.eventType = .toolCallRejected := drafted.eventType
    have checked := checkRelated_snoc ih.checked drafted.callStep drafted.callDigest
    obtain ⟨_, approvals, rejections, starts, ends, required, _, _⟩ := ih
    constructor
    all_goals simp_all [ofType_snoc, EventType.endsExecution, CallPhase.approval, CallPhase.wasAsked,
      CallPhase.wasRejected, CallPhase.hasStarted, CallPhase.hasEnded]
  | @started es e _ drafted ih =>
    have eventType : e.eventType = .toolExecutionStarted := drafted.eventType
    have checked := checkRelated_snoc ih.checked drafted.callStep drafted.callDigest
    obtain ⟨_, approvals, rejections, starts, ends, required, _, _⟩ := ih
    constructor
    all_goals simp_all [ofType_snoc, EventType.endsExecution, CallPhase.approval, CallPhase.wasAsked,
      CallPhase.wasRejected, CallPhase.hasStarted, CallPhase.hasEnded]
  | @resumed a es e _ approved drafted ih =>
    have eventType : e.eventType = .toolExecutionStarted := drafted.eventType
    have checked := checkRelated_snoc ih.checked drafted.callStep drafted.callDigest
    obtain ⟨_, approvals, rejections, starts, ends, required, _, _⟩ := ih
    constructor
    all_goals simp_all [ofType_snoc, EventType.endsExecution, CallPhase.approval, CallPhase.wasAsked,
      CallPhase.wasRejected, CallPhase.hasStarted, CallPhase.hasEnded]
  | @succeeded a es e outputs data _ storable drafted ih =>
    have eventType : e.eventType = .toolExecutionSucceeded := drafted.eventType
    have checked := checkRelated_snoc ih.checked drafted.callStep drafted.callDigest
    obtain ⟨_, approvals, rejections, starts, ends, required, _, _⟩ := ih
    constructor
    all_goals simp_all [ofType_snoc, EventType.endsExecution, CallPhase.approval, CallPhase.wasAsked,
      CallPhase.wasRejected, CallPhase.hasStarted, CallPhase.hasEnded]
  | @failed a es e errorType _ drafted ih =>
    have eventType : e.eventType = .toolExecutionFailed := drafted.eventType
    have checked := checkRelated_snoc ih.checked drafted.callStep drafted.callDigest
    obtain ⟨_, approvals, rejections, starts, ends, required, _, _⟩ := ih
    constructor
    all_goals simp_all [ofType_snoc, EventType.endsExecution, CallPhase.approval, CallPhase.wasAsked,
      CallPhase.wasRejected, CallPhase.hasStarted, CallPhase.hasEnded]

/-- What the state of a call says, in terms of its phase. -/
structure Reflects (call : MaterializedToolCall) (phase : CallPhase) (state : CallState) : Prop where
  call : state.call = call
  approval : state.approval = phase.approval
  awaitsApproval : state.awaitsApproval = decide (phase = .waiting)
  awaitsExecution : state.awaitsExecution = phase.due
  interrupted : state.isInterrupted = phase.isRunning

omit [Sha256] in
theorem atMostOne_none {es : List LedgerEvent} (none : es.length = 0) (message : String) :
    atMostOne message es = .ok .none := by
  rw [List.length_eq_zero_iff.mp none]
  rfl

omit [Sha256] in
theorem atMostOne_one {es : List LedgerEvent} (one : es.length = 1) (message : String) :
    ∃ e, atMostOne message es = .ok (some e) := by
  obtain ⟨e, rfl⟩ := List.length_eq_one_iff.mp one
  exact ⟨e, rfl⟩

omit [Sha256] in
/-- At most one event of a kind, as a call's events show it. -/
theorem atMostOne_toNat {es : List LedgerEvent} {b : Bool} (size : es.length = b.toNat) (message : String) :
    ∃ found, atMostOne message es = .ok found ∧ found.isSome = b := by
  cases b with
  | false => exact ⟨none, atMostOne_none size message, rfl⟩
  | true =>
    obtain ⟨e, single⟩ := atMostOne_one size message
    exact ⟨some e, single, rfl⟩

theorem callState_reflects {call : MaterializedToolCall} {phase : CallPhase} {es : List LedgerEvent}
    (facts : CallFacts call phase (related es call)) :
    ∃ state, callState es call = .ok state ∧ Reflects call phase state := by
  obtain ⟨checked, approvals, rejections, starts, ends, required, refused, approved⟩ := facts
  have approvalRead : ∃ found, atMostOne "a materialized call has multiple approval records"
      (ofType .approvalRecorded (related es call)) = .ok found ∧
      readApproval call found = .ok phase.approval := by
    cases known : phase.approval with
    | none =>
      rw [known] at approvals
      have empty : ofType .approvalRecorded (related es call) = [] := by simpa using approvals
      exact ⟨none, by rw [empty]; rfl, rfl⟩
    | some a =>
      rw [known] at approvals
      obtain ⟨e, single, read⟩ := List.map_eq_singleton_iff.mp (by simpa using approvals)
      exact ⟨some e, by rw [single]; rfl, by simp [readApproval, read, Functor.map, Except.map]⟩
  obtain ⟨approvalEvent, approvalFound, approvalKnown⟩ := approvalRead
  obtain ⟨rejectedEvent, rejectedFound, rejectedKnown⟩ := atMostOne_toNat rejections
    "a materialized call has multiple rejection events"
  obtain ⟨startedEvent, startedFound, startedKnown⟩ := atMostOne_toNat starts
    "a materialized call has multiple execution starts"
  obtain ⟨terminal, terminalFound, terminalKnown⟩ := atMostOne_toNat ends
    "a materialized call has multiple execution terminals"
  have consistent : (phase.wasAsked && phase.approval.isNone && rejectedEvent.isSome) = false := by
    rw [rejectedKnown]
    cases phase <;> simp [CallPhase.wasAsked, CallPhase.approval, CallPhase.wasRejected]
  let last := if phase.approval.any (·.decision = .rejected) then rejectedEvent else terminal
  have ended : last.isSome = (phase.wasRejected || phase.hasEnded) := by
    simp only [last]
    cases phase with
    | rejected a =>
      have decision := refused a rfl rfl
      simp [CallPhase.approval, decision, rejectedKnown, CallPhase.wasRejected]
    | succeeded a | failed a =>
      cases a with
      | none => simp [CallPhase.approval, terminalKnown, CallPhase.wasRejected, CallPhase.hasEnded]
      | some a =>
        have decision := approved a rfl rfl
        simp [CallPhase.approval, decision, terminalKnown, CallPhase.wasRejected, CallPhase.hasEnded]
    | decided a =>
      cases decision : a.decision <;>
        simp [CallPhase.approval, decision, rejectedKnown, terminalKnown, CallPhase.wasRejected, CallPhase.hasEnded]
    | running a =>
      cases a with
      | none => simp [CallPhase.approval, terminalKnown, CallPhase.wasRejected, CallPhase.hasEnded]
      | some a =>
        have decision := approved a rfl rfl
        simp [CallPhase.approval, decision, terminalKnown, CallPhase.wasRejected, CallPhase.hasEnded]
    | materialized | waiting =>
      simp [CallPhase.approval, terminalKnown, CallPhase.wasRejected, CallPhase.hasEnded]
  have unended : last.isNone = !(phase.wasRejected || phase.hasEnded) := by simp [← ended]
  have quiet : startedEvent.isNone = !phase.hasStarted := by simp [← startedKnown]
  refine ⟨⟨call, phase.wasAsked, phase.approval, approvalEvent, rejectedEvent, startedEvent, last⟩, ?_, ?_⟩
  · simp [callState, checked, approvalFound, approvalKnown, rejectedFound, startedFound, terminalFound, required,
      consistent, bind, Except.bind, pure, Except.pure, last]
  · refine ⟨rfl, rfl, ?_, ?_, ?_⟩
    all_goals
      simp only [CallState.awaitsApproval, CallState.awaitsExecution, CallState.isInterrupted,
        CallState.unstarted, unended, quiet, startedKnown]
      cases phase <;> simp [CallPhase.wasAsked, CallPhase.approval, CallPhase.wasRejected, CallPhase.hasStarted,
        CallPhase.hasEnded, CallPhase.due, CallPhase.isRunning]

/-! ### Reading a run back -/

/-- What a projection says, in terms of the model. -/
structure Projects (es : List LedgerEvent) (m : RunModel) (p : RunProjection) : Prop where
  events : p.events = es
  pendingApproval : ∀ state, p.pendingApproval = some state →
    state.approval = none ∧ m.current = some (state.call, .waiting)
  asked : ∀ call, m.current = some (call, .waiting) → p.pendingApproval.isSome = true
  pendingExecution : ∀ state, p.pendingExecution = some state →
    ∃ phase, m.current = some (state.call, phase) ∧ phase.due = true ∧ state.approval = phase.approval
  due : ∀ call phase, m.current = some (call, phase) → phase.due = true → p.pendingExecution.isSome = true
  interrupted : p.interrupted = m.current.any (·.2.isRunning)
  waitingReview : p.waitingReview = decide (m.ending = .review)
  terminal : p.terminalEvent.map (·.eventType) = m.ending.terminal

theorem callStates_append {es : List LedgerEvent} {left right : List MaterializedToolCall}
    {first second : List CallState} (head : callStates es left = .ok first)
    (tail : callStates es right = .ok second) : callStates es (left ++ right) = .ok (first ++ second) := by
  induction left generalizing first with
  | nil =>
    cases head
    exact tail
  | cons call calls ih =>
    simp only [callStates, List.cons_append, bind, Except.bind] at head ⊢
    cases state : callState es call with
    | error _ => simp [state] at head
    | ok value =>
      simp only [state] at head ⊢
      cases states : callStates es calls with
      | error _ => simp [states] at head
      | ok values =>
        simp only [states, pure, Except.pure, Except.ok.injEq] at head
        simp [ih states, ← head, pure, Except.pure]

omit [Sha256] in
/-- A settled call waits for nothing. -/
theorem Reflects.quiet {call : MaterializedToolCall} {phase : CallPhase} {state : CallState}
    (reflects : Reflects call phase state) (settled : phase.settled = true) :
    state.awaitsApproval = false ∧ state.awaitsExecution = false ∧ state.isInterrupted = false := by
  rw [reflects.awaitsApproval, reflects.awaitsExecution, reflects.interrupted]
  cases phase with
  | decided a =>
    have decision : a.decision = .rejected := by simpa [CallPhase.settled, CallPhase.refused] using settled
    simp [CallPhase.due, CallPhase.isRunning, decision]
  | _ => simp_all [CallPhase.settled, CallPhase.refused, CallPhase.due, CallPhase.isRunning]

theorem settled_states {request : RunRequest} {es : List LedgerEvent}
    {calls : List (MaterializedToolCall × CallPhase)}
    (history : ∀ call phase, (call, phase) ∈ calls → CallHistory request call phase (related es call))
    (settled : ∀ call phase, (call, phase) ∈ calls → phase.settled = true) :
    ∃ states, callStates es (calls.map Prod.fst) = .ok states ∧ ∀ state ∈ states,
      state.awaitsApproval = false ∧ state.awaitsExecution = false ∧ state.isInterrupted = false := by
  induction calls with
  | nil => exact ⟨[], rfl, by simp⟩
  | cons first rest ih =>
    obtain ⟨call, phase⟩ := first
    obtain ⟨states, read, quiet⟩ := ih (fun c p member => history c p (List.mem_cons_of_mem _ member))
      fun c p member => settled c p (List.mem_cons_of_mem _ member)
    obtain ⟨state, known, reflects⟩ := callState_reflects (history call phase List.mem_cons_self).facts
    refine ⟨state :: states, by simp [callStates, known, read, bind, Except.bind, pure, Except.pure], ?_⟩
    intro s member
    rcases List.mem_cons.mp member with rfl | member
    · exact reflects.quiet (settled call phase List.mem_cons_self)
    · exact quiet s member

/-- The states of all calls: the settled ones, then the current one. -/
theorem Represents.states {request : RunRequest} {es : List LedgerEvent} {m : RunModel}
    (r : Represents request es m) : ∃ quiet last, callStates es (m.calls.map Prod.fst) = .ok (quiet ++ last) ∧
      (∀ state ∈ quiet,
        state.awaitsApproval = false ∧ state.awaitsExecution = false ∧ state.isInterrupted = false) ∧
      ((m.current = none ∧ last = []) ∨
        ∃ call phase state, m.current = some (call, phase) ∧ last = [state] ∧ Reflects call phase state) := by
  have known : ∀ call phase, (call, phase) ∈ m.settled → CallHistory request call phase (related es call) :=
    fun c p member => r.calls c p (List.mem_append_left _ member)
  obtain ⟨quiet, read, silent⟩ := settled_states known r.settled
  cases current : m.current with
  | none => exact ⟨quiet, [], by simpa [RunModel.calls, current] using read, silent, Or.inl ⟨rfl, rfl⟩⟩
  | some pair =>
    obtain ⟨call, phase⟩ := pair
    obtain ⟨state, known, reflects⟩ := callState_reflects (r.currentHistory current).facts
    have single : callStates es [call] = .ok [state] := by
      simp [callStates, known, bind, Except.bind, pure, Except.pure]
    refine ⟨quiet, [state], ?_, silent, Or.inr ⟨call, phase, state, rfl, rfl, reflects⟩⟩
    simpa [RunModel.calls, current] using callStates_append read single

omit [Sha256] in
theorem Ending.Shows.open_ended {es : List LedgerEvent} (shows : Ending.open.Shows es) :
    es.filter (·.eventType.endsRun) = [] ∧ ofType .reviewRequested es = [] := by
  constructor
  · rw [List.filter_eq_nil_iff]
    intro e member
    simp [(shows e member).1]
  · simp only [ofType, List.filter_eq_nil_iff, decide_eq_true_eq]
    intro e member
    exact (shows e member).2

omit [Sha256] in
/-- The last projected events of a run, by its ending. -/
theorem Ending.Shows.last {ending : Ending} {es : List LedgerEvent} (shows : ending.Shows es) :
    ∃ terminal review, (es.filter (·.eventType.endsRun)).getLast? = terminal ∧
      (ofType .reviewRequested es).getLast? = review ∧
      terminal.any (fun e => !lastIs es e) = false ∧
      terminal.map (·.eventType) = ending.terminal ∧
      ∀ b, review.any (fun e => b || lastIs es e) = decide (ending = .review) := by
  cases ending with
  | «open» =>
    obtain ⟨terminal, review⟩ := shows.open_ended
    exact ⟨none, none, by rw [terminal]; rfl, by rw [review]; rfl, rfl, rfl, fun _ => rfl⟩
  | review =>
    obtain ⟨before, e, rfl, eventType, plain⟩ := shows
    obtain ⟨terminal, review⟩ := Ending.Shows.open_ended plain
    have ended : e.eventType.endsRun = false := by rw [eventType]; rfl
    refine ⟨none, some e, ?_, ?_, rfl, rfl, ?_⟩
    · simp [terminal, ended]
    · simp only [ofType] at review ⊢
      simp [review, eventType]
    · intro b
      simp [lastIs]
  | closed kind =>
    obtain ⟨ends, before, e, rfl, rfl, plain⟩ := shows
    obtain ⟨terminal, review⟩ := Ending.Shows.open_ended plain
    have other : e.eventType ≠ .reviewRequested := by
      intro same
      rw [same] at ends
      contradiction
    refine ⟨some e, none, ?_, ?_, ?_, rfl, fun _ => rfl⟩
    · simp [terminal, ends]
    · simp only [ofType] at review ⊢
      simp [review, other]
    · simp [lastIs]

theorem Represents.project {request : RunRequest} {es : List LedgerEvent} {m : RunModel}
    (r : Represents request es m) : ∃ p, project es = .ok p ∧ Projects es m p := by
  obtain ⟨quiet, last, read, silent, shape⟩ := r.states
  obtain ⟨terminal, review, terminalRead, reviewRead, ordered, terminalType, reviewed⟩ := r.ending.last
  have approvals : (quiet ++ last).filter CallState.awaitsApproval = last.filter CallState.awaitsApproval := by
    rw [List.filter_append, List.filter_eq_nil_iff.mpr (fun s member => by simp [(silent s member).1])]
    rfl
  have executions : (quiet ++ last).filter CallState.awaitsExecution = last.filter CallState.awaitsExecution := by
    rw [List.filter_append, List.filter_eq_nil_iff.mpr (fun s member => by simp [(silent s member).2.1])]
    rfl
  have interruptions : (quiet ++ last).any CallState.isInterrupted = last.any CallState.isInterrupted := by
    rw [List.any_append, List.any_eq_false.mpr (fun s member => by simp [(silent s member).2.2])]
    rfl
  have single : (last.filter CallState.awaitsApproval ++ last.filter CallState.awaitsExecution).length ≤ 1 := by
    rcases shape with ⟨_, rfl⟩ | ⟨call, phase, state, _, rfl, reflects⟩
    · simp
    · have exclusive : state.awaitsApproval = true → state.awaitsExecution = false := by
        rw [reflects.awaitsApproval, reflects.awaitsExecution]
        intro waiting
        rw [of_decide_eq_true waiting]
        rfl
      cases approval : state.awaitsApproval <;> cases execution : state.awaitsExecution <;> simp_all
  refine ⟨⟨es, quiet ++ last, (last.filter CallState.awaitsApproval).head?,
    (last.filter CallState.awaitsExecution).head?, last.any CallState.isInterrupted,
    review.any fun e => (m.calls.map Prod.fst).isEmpty || lastIs es e, terminal⟩, ?_, ?_⟩
  · have bounded : ¬ (last.filter CallState.awaitsApproval ++ last.filter CallState.awaitsExecution).length > 1 := by
      omega
    simp only [AgentLoop.project, r.collected, read, terminalRead, reviewRead, ordered, approvals, executions,
      interruptions, bounded, bind, Except.bind, pure, Except.pure, Bool.false_eq_true, ↓reduceIte]
  · rcases shape with ⟨current, rfl⟩ | ⟨call, phase, state, current, rfl, reflects⟩
    · refine ⟨rfl, ?_, ?_, ?_, ?_, ?_, reviewed _, terminalType⟩
      all_goals simp [current]
    · have sameCall := reflects.call
      have sameApproval := reflects.approval
      refine ⟨rfl, ?_, ?_, ?_, ?_, ?_, reviewed _, terminalType⟩
      · intro s found
        cases approval : state.awaitsApproval with
        | false => simp [approval] at found
        | true =>
          obtain rfl : state = s := by simpa [approval] using found
          have waiting : phase = .waiting := of_decide_eq_true (reflects.awaitsApproval ▸ approval)
          subst waiting
          exact ⟨sameApproval, by rw [current, sameCall]⟩
      · intro c waiting
        rw [current] at waiting
        cases waiting
        simp [reflects.awaitsApproval]
      · intro s found
        cases execution : state.awaitsExecution with
        | false => simp [execution] at found
        | true =>
          obtain rfl : state = s := by simpa [execution] using found
          exact ⟨phase, by rw [current, sameCall], reflects.awaitsExecution ▸ execution, sameApproval⟩
      · intro c p known due
        rw [current] at known
        cases known
        simp [reflects.awaitsExecution, due]
      · simp [current, reflects.interrupted]

end
end Molly
