import Molly.Inspect.Partition
import Molly.Run.System

/-! The two readers of a run: what the inspector says of it is what the loop says of it. -/
namespace Molly
open AgentLoop

/-! ### The events of a history, call by call -/

section
variable [Sha256] {loop : AgentLoop} {request : RunRequest} {ungated skipped : Prop}

/-- The calls of a run, in the order of their materialization. -/
def RunModel.callList (m : RunModel) : List MaterializedToolCall := m.calls.map Prod.fst

omit [Sha256] in
theorem RunModel.callList_current {m : RunModel} (current : m.current = some (call, phase)) :
    m.callList = m.settled.map Prod.fst ++ [call] := by
  simp [callList, calls, current]

/-- What one more event does to the calls of a run: it is no success, and adds no call or a new one; or it is
the success of the current call. -/
theorem Legal.calls {es : List LedgerEvent} {m n : RunModel} {e : LedgerEvent}
    (legal : Legal loop request ungated skipped es m e n) :
    (e.eventType ≠ .toolExecutionSucceeded ∧ n.callList = m.callList) ∨
    (e.eventType ≠ .toolExecutionSucceeded ∧ ∃ call, n.callList = m.callList ++ [call] ∧ call.callId.text ∉ usedIds .callId es) ∨
    (e.eventType = .toolExecutionSucceeded ∧ n.callList = m.callList ∧
      ∃ call phase, m.current = some (call, phase) ∧ e.metadataCallId = some call.callId.text) := by
  have other {a b : EventType} (shown : e.eventType = a) (apart : a ≠ b) : e.eventType ≠ b := fun same => apart (shown.symm.trans same)
  have kept {call : MaterializedToolCall} {phase phase' : CallPhase} (current : m.current = some (call, phase)) :
      (m.withCall call phase').callList = m.callList := by
    simp [RunModel.callList, RunModel.calls, RunModel.withCall, current]
  cases legal with
  | start _ drafted => exact Or.inl ⟨other drafted.eventType (by rintro ⟨⟩), rfl⟩
  | intent _ shown => exact Or.inl ⟨other shown (by decide), rfl⟩
  | decision _ _ drafted => exact Or.inl ⟨other drafted.eventType (by rintro ⟨⟩), rfl⟩
  | stopped _ _ drafted => exact Or.inl ⟨other drafted.eventType (by rintro ⟨⟩), rfl⟩
  | review _ _ drafted => exact Or.inl ⟨other drafted.eventType (by rintro ⟨⟩), rfl⟩
  | hardLimit _ _ _ _ _ drafted => exact Or.inl ⟨other drafted.eventType (by rintro ⟨⟩), rfl⟩
  | materialized _ admitted drafted =>
    exact Or.inr (Or.inl ⟨other drafted.eventType (by rintro ⟨⟩), _, by simp [RunModel.callList, RunModel.calls], admitted.freshCall⟩)
  | required _ current drafted => exact Or.inl ⟨other drafted.eventType (by rintro ⟨⟩), kept current⟩
  | recorded _ current _ drafted => exact Or.inl ⟨other drafted.eventType (by rintro ⟨⟩), kept current⟩
  | rejection _ _ current _ drafted => exact Or.inl ⟨other drafted.eventType (by rintro ⟨⟩), kept current⟩
  | runRejected _ _ _ drafted => exact Or.inl ⟨other drafted.eventType (by rintro ⟨⟩), rfl⟩
  | started _ current _ drafted => exact Or.inl ⟨other drafted.eventType (by rintro ⟨⟩), kept current⟩
  | resumed _ current _ drafted => exact Or.inl ⟨other drafted.eventType (by rintro ⟨⟩), kept current⟩
  | succeeded _ _ _ current _ drafted => exact Or.inr (Or.inr ⟨drafted.eventType, kept current, _, _, current, drafted.callId⟩)
  | failed _ _ current drafted => exact Or.inl ⟨other drafted.eventType (by rintro ⟨⟩), kept current⟩

/-- An execution start names its call. -/
theorem Legal.start_named {es : List LedgerEvent} {m n : RunModel} {e : LedgerEvent}
    (legal : Legal loop request ungated skipped es m e n) (start : e.eventType = .toolExecutionStarted) :
    ∃ id, e.metadataCallId = some id := by
  have other {a : EventType} (shown : e.eventType = a) (apart : a ≠ .toolExecutionStarted) : False := apart (shown.symm.trans start)
  cases legal with
  | start _ drafted => exact (other drafted.eventType nofun).elim
  | intent _ shown => exact (other shown (by decide)).elim
  | decision _ _ drafted => exact (other drafted.eventType nofun).elim
  | stopped _ _ drafted => exact (other drafted.eventType nofun).elim
  | review _ _ drafted => exact (other drafted.eventType nofun).elim
  | hardLimit _ _ _ _ _ drafted => exact (other drafted.eventType nofun).elim
  | runRejected _ _ _ drafted => exact (other drafted.eventType nofun).elim
  | materialized _ _ drafted => exact ⟨_, drafted.callId⟩
  | required _ _ drafted => exact ⟨_, drafted.callId⟩
  | recorded _ _ _ drafted => exact ⟨_, drafted.callId⟩
  | rejection _ _ _ _ drafted => exact ⟨_, drafted.callId⟩
  | started _ _ _ drafted => exact ⟨_, drafted.callId⟩
  | resumed _ _ _ drafted => exact ⟨_, drafted.callId⟩
  | succeeded _ _ _ _ _ drafted => exact ⟨_, drafted.callId⟩
  | failed _ _ _ drafted => exact ⟨_, drafted.callId⟩

theorem History.starts_named {es : List LedgerEvent} {m : RunModel} (history : History loop request ungated skipped es m) :
    ∀ e ∈ es, e.eventType = .toolExecutionStarted → ∃ id, e.metadataCallId = some id := by
  induction history with
  | empty => simp
  | snoc _ legal ih =>
    intro e member start
    rcases List.mem_append.mp member with member | member
    · exact ih e member start
    · rw [List.mem_singleton.mp member] at start ⊢
      exact legal.start_named start

omit [Sha256] in
/-- Another event is no success of any call. -/
theorem successes_snoc {es : List LedgerEvent} {e : LedgerEvent} (other : e.eventType ≠ .toolExecutionSucceeded)
    (call : MaterializedToolCall) :
    ofType .toolExecutionSucceeded (related (es ++ [e]) call) = ofType .toolExecutionSucceeded (related es call) := by
  rw [related_snoc]
  split
  · rw [ofType_snoc, if_neg other, List.append_nil]
  · rw [List.append_nil]

omit [Sha256] in
theorem related_fresh {es : List LedgerEvent} {call : MaterializedToolCall} (fresh : call.callId.text ∉ usedIds .callId es) :
    related es call = [] := by
  simp only [related, List.filter_eq_nil_iff, decide_eq_true_eq]
  intro e member names
  exact fresh (List.mem_filterMap.mpr ⟨e, member, names⟩)

/-- The successes of a run are those of its calls, call by call. -/
theorem History.successes {es : List LedgerEvent} {m : RunModel} (history : History loop request ungated skipped es m) :
    ofType .toolExecutionSucceeded es = m.callList.flatMap fun call => ofType .toolExecutionSucceeded (related es call) := by
  induction history with
  | empty => rfl
  | @snoc es m e n history legal ih =>
    rcases legal.calls with ⟨other, same⟩ | ⟨other, call, grown, fresh⟩ | ⟨success, same, call, phase, current, names⟩
    · rw [same, ofType_snoc, if_neg other, List.append_nil, ih]
      simp only [successes_snoc other]
    · rw [grown, ofType_snoc, if_neg other, List.append_nil, ih, List.flatMap_append]
      have none : ofType .toolExecutionSucceeded (related es call) = [] := by
        rw [related_fresh fresh]
        rfl
      simp [successes_snoc other, none]
    · have distinct := history.represents.distinct
      have split := RunModel.callList_current current
      have ids : (m.callList.map fun call => call.callId.text).Nodup := by
        rw [RunModel.callList, List.map_map]
        exact distinct
      rw [split, List.map_append, List.nodup_append] at ids
      have apart : ∀ earlier ∈ m.settled.map Prod.fst, related (es ++ [e]) earlier = related es earlier := by
        intro earlier member
        have different : e.metadataCallId ≠ some earlier.callId.text := by
          rw [names]
          intro same
          exact ids.2.2 _ (List.mem_map_of_mem member) _ (by simp) (Option.some.inj same).symm
        rw [related_snoc, if_neg different, List.append_nil]
      rw [same, ofType_snoc, if_pos success, ih, split, List.flatMap_append, List.flatMap_append,
        List.flatMap_congr fun earlier member => congrArg (ofType .toolExecutionSucceeded) (apart earlier member)]
      have last : ofType .toolExecutionSucceeded (related (es ++ [e]) call) =
          ofType .toolExecutionSucceeded (related es call) ++ [e] := by
        rw [related_snoc, if_pos names, ofType_snoc, if_pos success]
      simp [last]

/-- A call runs exactly when one of its starts has no end. -/
theorem Represents.runs {es : List LedgerEvent} {m : RunModel} (r : Represents request es m)
    (named : ∀ e ∈ es, e.eventType = .toolExecutionStarted → ∃ id, e.metadataCallId = some id) :
    es.any (RunInspector.unfinished es) = m.current.any (·.2.isRunning) := by
  have text {e : LedgerEvent} {id : String} (shown : e.metadataCallId = some id) : e.metadataGet "call_id" = .str id := by
    unfold LedgerEvent.metadataCallId at shown
    split at shown
    · rename_i value found
      rw [LedgerEvent.metadataGet, found, ← Option.some.inj shown]
      rfl
    · contradiction
  have ended {later : LedgerEvent} {call : MaterializedToolCall} {phase : CallPhase} (known : (call, phase) ∈ m.calls)
      (member : later ∈ es) (ends : later.eventType.endsExecution = true)
      (names : later.metadataCallId = some call.callId.text) : phase.hasEnded = true := by
    have facts := (r.calls call phase known).facts
    have among : later ∈ (related es call).filter (·.eventType.endsExecution) :=
      List.mem_filter.mpr ⟨List.mem_filter.mpr ⟨member, by simpa using names⟩, ends⟩
    have size := List.length_pos_of_mem among
    rw [facts.ends] at size
    cases ended : phase.hasEnded with
    | true => rfl
    | false => simp [ended] at size
  rw [Bool.eq_iff_iff]
  constructor
  · intro some
    obtain ⟨e, member, unfinished⟩ := List.any_eq_true.mp some
    simp only [RunInspector.unfinished, Bool.and_eq_true, decide_eq_true_eq, Bool.not_eq_true', List.any_eq_false] at unfinished
    obtain ⟨start, alone⟩ := unfinished
    obtain ⟨id, names⟩ := named e member start
    obtain ⟨call, phase, known, rfl⟩ := r.named e member id names
    have facts := (r.calls call phase known).facts
    have among : e ∈ ofType .toolExecutionStarted (related es call) :=
      List.mem_filter.mpr ⟨List.mem_filter.mpr ⟨member, by simpa using names⟩, by simpa using start⟩
    have size := List.length_pos_of_mem among
    rw [facts.starts] at size
    have started : phase.hasStarted = true := by
      cases started : phase.hasStarted with
      | true => rfl
      | false => simp [started] at size
    have unended : phase.hasEnded = false := by
      cases finished : phase.hasEnded with
      | false => rfl
      | true =>
        have one := facts.ends
        rw [finished] at one
        obtain ⟨later, within⟩ := List.exists_mem_of_length_pos (show 0 < _ by rw [one]; decide)
        obtain ⟨within, ends⟩ := List.mem_filter.mp within
        obtain ⟨inside, shown⟩ := List.mem_filter.mp within
        have same := text (of_decide_eq_true shown)
        exact absurd (alone later inside) (by simp [ends, same, text names])
    have running : phase.isRunning = true := by
      cases phase <;> simp_all [CallPhase.hasStarted, CallPhase.hasEnded, CallPhase.isRunning]
    rcases List.mem_append.mp known with settled | current
    · have done := r.settled call phase settled
      cases phase <;> simp_all [CallPhase.settled, CallPhase.refused, CallPhase.isRunning]
    · rw [Option.mem_toList] at current
      simp [current, running]
  · intro runs
    obtain ⟨⟨call, phase⟩, current, running⟩ : ∃ c, m.current = some c ∧ c.2.isRunning = true := by
      cases current : m.current with
      | none => simp [current] at runs
      | some c => exact ⟨c, rfl, by simpa [current] using runs⟩
    have facts := (r.currentHistory current).facts
    have started : phase.hasStarted = true ∧ phase.hasEnded = false := by
      cases phase <;> simp_all [CallPhase.hasStarted, CallPhase.hasEnded, CallPhase.isRunning]
    have one := facts.starts
    rw [started.1] at one
    obtain ⟨e, within⟩ := List.exists_mem_of_length_pos (show 0 < _ by rw [one]; decide)
    obtain ⟨within, start⟩ := List.mem_filter.mp within
    obtain ⟨member, names⟩ := List.mem_filter.mp within
    refine List.any_eq_true.mpr ⟨e, member, ?_⟩
    simp only [RunInspector.unfinished, start, Bool.true_and, Bool.not_eq_true', List.any_eq_false]
    intro later inside both
    simp only [Bool.and_eq_true, decide_eq_true_eq] at both
    have shown : later.metadataCallId = some call.callId.text := by
      have same := both.2
      rw [text (of_decide_eq_true names)] at same
      exact metadataCallId_of_str same
    have finished := ended (Represents.mem_current call phase current) inside both.1 shown
    rw [started.2] at finished
    contradiction

end

/-! ### The calls that the two readers find -/

namespace RunInspector
variable [Sha256]

theorem collect_snoc_ok : ∀ {es : List LedgerEvent} {e : LedgerEvent} {calls : List MaterializedToolCall},
    collect (es ++ [e]) = .ok calls → ∃ before more, collect es = .ok before ∧ collectEvent e = .ok more ∧ calls = before ++ more
  | [], e, calls, read => by
    simp only [List.nil_append, collect, bind_ok] at read
    obtain ⟨more, added, rest, empty, shown⟩ := read
    cases empty
    cases shown
    exact ⟨[], more, rfl, added, by simp⟩
  | first :: es, e, calls, read => by
    simp only [List.cons_append, collect, bind_ok] at read
    obtain ⟨head, here, rest, others, shown⟩ := read
    cases shown
    obtain ⟨before, more, read, added, rfl⟩ := collect_snoc_ok others
    refine ⟨head ++ before, more, ?_, added, by simp⟩
    simp [collect, here, read, bind, Except.bind, pure, Except.pure]

/-- An event adds the call that it materializes, or none. -/
theorem collectEvent_calls {e : LedgerEvent} {more : List MaterializedToolCall} (added : collectEvent e = .ok more) :
    if e.eventType = .toolCallMaterialized then ∃ call, materializedCall e = .ok call ∧ more = [call] else more = [] := by
  have tail {calls : List MaterializedToolCall} (rest : (do
      if e.metadataCallId.isSome then
        let _ ← callIdForEvent e
      return calls) = Except.ok more) : more = calls := by
    by_cases names : e.metadataCallId.isSome = true
    · rw [if_pos names] at rest
      obtain ⟨_, -, shown⟩ := bind_ok.mp rest
      exact (Except.ok.inj shown).symm
    · rw [if_neg names] at rest
      exact (Except.ok.inj rest).symm
  unfold collectEvent at added
  by_cases materialized : e.eventType = .toolCallMaterialized
  · have other : e.eventType ≠ .toolExecutionSucceeded := by simp [materialized]
    rw [if_neg other] at added
    dsimp only at added
    rw [if_pos materialized] at added ⊢
    obtain ⟨calls, found, rest⟩ := bind_ok.mp added
    obtain ⟨call, parsed, rfl⟩ := map_ok.mp found
    exact ⟨call, parsed, tail rest⟩
  · rw [if_neg materialized]
    by_cases success : e.eventType = .toolExecutionSucceeded
    · rw [if_pos success] at added
      obtain ⟨_, -, added⟩ := bind_ok.mp added
      dsimp only at added
      rw [if_neg materialized] at added
      exact tail added
    · rw [if_neg success] at added
      dsimp only at added
      rw [if_neg materialized] at added
      exact tail added

/-- The inspector collects the calls that the loop collects. -/
theorem collected_calls {es : List LedgerEvent} {known : List CallEvents} {calls : List MaterializedToolCall}
    (collected : collectCalls es = .ok known) (read : collect es = .ok calls) : known.map (·.call) = calls := by
  induction es using List.reverseRecOn generalizing known calls with
  | nil =>
    cases collected
    cases read
    rfl
  | append_singleton es e ih =>
    simp only [collectCalls, List.foldlM_append, List.foldlM_cons, List.foldlM_nil, bind_ok] at collected
    obtain ⟨earlier, collected, next, step, shown⟩ := collected
    cases shown
    obtain ⟨before, more, earlierCalls, added, rfl⟩ := collect_snoc_ok read
    have same := ih collected earlierCalls
    have found := collectEvent_calls added
    rcases collectCall_cases step with ⟨call, materialized, -, -, parsed, rfl⟩ | ⟨other, -, rfl⟩ | ⟨id, other, -, -, -, rfl⟩
    · rw [if_pos materialized] at found
      obtain ⟨call', parsed', rfl⟩ := found
      obtain rfl := Except.ok.inj (parsed.symm.trans parsed')
      simp [same]
    · rw [if_neg other] at found
      simp [same, found]
    · rw [if_neg other] at found
      rw [found, List.append_nil, ← same, List.map_map]
      apply List.map_congr_left
      intro entry _
      by_cases named : entry.call.callId = id <;> simp [CallEvents.attach, named]

/-- What a projected call shows, by the phase of the call. -/
structure Projected (phase : CallPhase) (events : List LedgerEvent) (call : ToolCallInspection) : Prop where
  awaits : call.awaitsApproval = decide (phase = .waiting)
  outputs : call.outputArtifactIds.ids = (ofType .toolExecutionSucceeded events).flatMap (·.outputArtifactIds.ids)

theorem approvalOf_phase {call : MaterializedToolCall} {phase : CallPhase} {events : List LedgerEvent}
    {approval : Option ApprovalRecord} (read : approvalOf call (ofType .approvalRecorded events) = .ok approval)
    (shown : (ofType .approvalRecorded events).map (boundApproval call) = (phase.approval.map Except.ok).toList) :
    approval = phase.approval := by
  cases known : phase.approval with
  | none =>
    rw [known] at shown
    have empty : ofType .approvalRecorded events = [] := by simpa using shown
    rw [empty] at read
    exact (Except.ok.inj read).symm
  | some a =>
    rw [known] at shown
    obtain ⟨e, single, bound⟩ := List.map_eq_singleton_iff.mp (by simpa using shown)
    rw [single, approvalOf] at read
    unfold boundApproval at bound
    split at read
    · rename_i raw stored
      rw [stored] at bound
      obtain ⟨b, parsed, rfl⟩ := map_ok.mp read
      have same := (orRaise_eq_ok.mp parsed).symm.trans (orRaise_eq_ok.mp bound)
      rw [Except.ok.inj same]
    · contradiction

theorem projectCall_phase {entry : CallEvents} {phase : CallPhase} {call : ToolCallInspection}
    (facts : CallFacts entry.call phase (entry.event :: entry.related)) (materialized : entry.event.eventType = .toolCallMaterialized)
    (projected : projectCall entry = .ok call) : Projected phase (entry.event :: entry.related) call := by
  have skip {kind : EventType} (other : kind ≠ .toolCallMaterialized) :
      ofType kind (entry.event :: entry.related) = ofType kind entry.related :=
    List.filter_cons_of_neg (by simpa [materialized] using other.symm)
  have ends : (entry.event :: entry.related).filter (·.eventType.endsExecution) =
      entry.related.filter (·.eventType.endsExecution) := List.filter_cons_of_neg (by rw [materialized]; decide)
  have asked : entry.related.any (·.eventType = .approvalRequired) = phase.wasAsked := by
    rw [← facts.required, List.any_cons, materialized]
    rfl
  have approvals := facts.approvals
  have starts := facts.starts
  have finished := facts.ends
  rw [skip (by decide)] at approvals starts
  rw [ends] at finished
  simp only [projectCall, bind_ok, ensure_ok, exists_const] at projected
  obtain ⟨_, -, approval, decided, -, -, -, outcome, ended, shown⟩ := projected
  cases shown
  obtain rfl := approvalOf_phase decided approvals
  constructor
  · have status : approvalStatus phase.wasAsked phase.approval = some .required ↔ phase = .waiting := by
      cases phase with
      | running a | succeeded a | failed a => cases a <;> simp [approvalStatus, CallPhase.wasAsked, CallPhase.approval]
      | _ => simp [approvalStatus, CallPhase.wasAsked, CallPhase.approval]
    by_cases waiting : phase = .waiting
    · subst waiting
      have started := List.length_eq_zero_iff.mp starts
      have terminal := List.length_eq_zero_iff.mp finished
      simp [ToolCallInspection.awaitsApproval, ToolCallInspection.isPending, asked, started, terminal, approvalStatus,
        executionStatus, CallPhase.approval, CallPhase.wasAsked]
    · simp [ToolCallInspection.awaitsApproval, asked, status, waiting]
  · dsimp only
    have within : ofType .toolExecutionSucceeded entry.related =
        ofType .toolExecutionSucceeded (entry.related.filter (·.eventType.endsExecution)) := by
      rw [ofType, ofType, List.filter_filter]
      apply List.filter_congr
      intro e _
      by_cases success : e.eventType = .toolExecutionSucceeded <;> simp [success, EventType.endsExecution]
    rw [skip (by decide), within]
    generalize entry.related.filter (·.eventType.endsExecution) = terminal at ended finished
    cases terminal with
    | nil =>
      cases ended
      rfl
    | cons e more =>
      cases more with
      | nil =>
        by_cases success : e.eventType = .toolExecutionSucceeded
        · rw [outcomeOf, if_pos success] at ended
          obtain ⟨result, -, shown⟩ := bind_ok.mp ended
          cases shown
          simp [ofType, success]
        · rw [outcomeOf, if_neg success] at ended
          obtain ⟨failure, -, shown⟩ := bind_ok.mp ended
          cases shown
          simp [ofType, success, ArtifactIds.none]
      | cons _ _ =>
        have small := Bool.toNat_le phase.hasEnded
        simp only [List.length_cons] at finished
        omega

/-- The projected calls are those of the model, in order. -/
theorem calls_projected {request : RunRequest} {es : List LedgerEvent} {m : RunModel} {known : List CallEvents}
    {calls : List ToolCallInspection} (r : Represents request es m) (read : collectCalls es = .ok known)
    (each : List.Forall₂ (fun entry call => projectCall entry = .ok call) known calls) :
    List.Forall₂ (fun c entry => c.1 = entry.call) m.calls known ∧
      List.Forall₂ (fun c call => Projected c.2 (related es c.1) call) m.calls calls := by
  have same := collected_calls read r.collected
  have aligned : List.Forall₂ (fun (c : MaterializedToolCall × CallPhase) entry => c.1 = entry.call) m.calls known := by
    have equal : List.Forall₂ (· = ·) (m.calls.map Prod.fst) (known.map (·.call)) := by
      rw [same]
      exact List.forall₂_refl _
    rwa [List.forall₂_map_left_iff, List.forall₂_map_right_iff] at equal
  refine ⟨aligned, ?_⟩
  have c := collected read
  have left := (List.forall₂_and_left m.calls _).mpr ⟨fun _ member => member, aligned⟩
  have right := (List.forall₂_and_left known _).mpr ⟨fun _ member => member, each⟩
  refine (forall₂_comp left right).imp ?_
  rintro ⟨call, phase⟩ shown ⟨entry, ⟨known, rfl⟩, member, projected⟩
  have events : related es entry.call = entry.event :: entry.related := c.each entry member
  have facts := (r.calls _ phase known).facts
  rw [events] at facts ⊢
  exact projectCall_phase facts (c.source entry member).1 projected

end RunInspector

/-- The call that waits for its approval. -/
def RunModel.waitingCall (m : RunModel) : Option MaterializedToolCall :=
  match m.current with
  | some (call, .waiting) => some call
  | _ => none

section
variable [Sha256]

theorem Represents.waiting {request : RunRequest} {es : List LedgerEvent} {m : RunModel} (r : Represents request es m) :
    (m.calls.filter fun c => c.2 = .waiting).map Prod.fst = m.waitingCall.toList := by
  have none : m.settled.filter (fun c => c.2 = .waiting) = [] := by
    rw [List.filter_eq_nil_iff]
    rintro ⟨call, phase⟩ member
    have settled := r.settled call phase member
    cases phase <;> simp_all [CallPhase.settled, CallPhase.refused]
  rw [RunModel.calls, List.filter_append, none, List.nil_append]
  unfold RunModel.waitingCall
  split
  · rename_i call current
    simp [current]
  · rename_i other
    cases current : m.current with
    | none => rfl
    | some c =>
      have quiet : c.2 ≠ .waiting := fun same => other c.1 (by rw [current, ← same])
      simp [quiet]

omit [Sha256] in
theorem Projects.waiting {es : List LedgerEvent} {m : RunModel} {p : RunProjection} (projects : Projects es m p) :
    p.pendingApproval.map (·.call) = m.waitingCall := by
  cases pending : p.pendingApproval with
  | some state =>
    have current := (projects.pendingApproval state pending).2
    simp [RunModel.waitingCall, current]
  | none =>
    unfold RunModel.waitingCall
    split
    · rename_i call current
      have asked := projects.asked call current
      rw [pending] at asked
      contradiction
    · rfl

end

/-- The elements that pass are shown alike. -/
theorem filter_map_alike {R : α → β → Prop} {p : α → Bool} {q : β → Bool} {f : α → γ} {g : β → γ} {xs : List α} {ys : List β}
    (alike : List.Forall₂ R xs ys) (same : ∀ x y, R x y → p x = q y ∧ f x = g y) :
    (xs.filter p).map f = (ys.filter q).map g := by
  induction alike with
  | nil => rfl
  | @cons x y xs ys here _ ih =>
    obtain ⟨passes, shows⟩ := same x y here
    cases passed : p x with
    | true => rw [List.filter_cons_of_pos passed, List.filter_cons_of_pos (passes ▸ passed), List.map_cons, List.map_cons, shows, ih]
    | false =>
      rw [List.filter_cons_of_neg (by simp [passed]), List.filter_cons_of_neg (by simp [← passes, passed]), ih]

theorem forall₂_zip {R : α → β → Prop} {S : α → γ → Prop} {xs : List α} {ys : List β} {zs : List γ}
    (first : List.Forall₂ R xs ys) (second : List.Forall₂ S xs zs) :
    List.Forall₂ (fun x (pair : β × γ) => R x pair.1 ∧ S x pair.2) xs (ys.zip zs) := by
  induction first generalizing zs with
  | nil => exact .nil
  | cons here _ ih =>
    cases second with
    | cons there rest => exact .cons ⟨here, there⟩ (ih rest)

theorem addVisible_all (f : α → List ArtifactId) (xs : List α) (visible : List ArtifactId) :
    xs.foldl (fun visible x => addVisible visible (f x)) visible = addVisible visible (xs.flatMap f) := by
  induction xs generalizing visible with
  | nil => rfl
  | cons x xs ih => rw [List.foldl_cons, ih, List.flatMap_cons, addVisible, addVisible, addVisible, List.foldl_append]

/-! ### The two readers -/

namespace RunInspector
variable [Sha256] {request : RunRequest} {es : List LedgerEvent} {m : RunModel}

/-- The inspector sees the call that waits. -/
theorem pending_waiting (r : Represents request es m) {calls : List ToolCallInspection} {pending : Option MaterializedToolCall}
    (projected : projectCalls es = .ok (calls, pending)) : pending = m.waitingCall := by
  simp only [projectCalls, bind_ok, ensure_ok, exists_const] at projected
  obtain ⟨known, read, calls', each, -, shown⟩ := projected
  cases shown
  obtain ⟨aligned, shows⟩ := calls_projected r read (mapM_ok.mp each)
  have found := filter_map_alike (p := fun c => decide (c.2 = .waiting)) (q := fun pair => pair.2.awaitsApproval) (f := Prod.fst)
    (g := fun pair => pair.1.call) (forall₂_zip aligned shows) fun c pair both => ⟨both.2.awaits.symm, both.1⟩
  rw [← List.getLast?_map, ← found, r.waiting]
  cases m.waitingCall <;> rfl

/-- The inspector sees the outputs in the order of their events. -/
theorem final_visible {loop : AgentLoop} {ungated skipped : Prop} (history : History loop request ungated skipped es m)
    {calls : List ToolCallInspection} {pending : Option MaterializedToolCall} (projected : projectCalls es = .ok (calls, pending)) :
    calls.foldl (fun ids call => addVisible ids call.outputArtifactIds.ids) request.inputArtifactIds.ids =
      visibleArtifacts request es := by
  obtain ⟨known, -, read, each⟩ := projectCalls_ok projected
  obtain ⟨-, shows⟩ := calls_projected history.represents read each
  have outputs : calls.flatMap (·.outputArtifactIds.ids) =
      m.callList.flatMap fun call => (ofType .toolExecutionSucceeded (related es call)).flatMap (·.outputArtifactIds.ids) := by
    rw [RunModel.callList, List.flatMap_map]
    clear projected each read
    generalize m.calls = listed at shows ⊢
    induction shows with
    | nil => rfl
    | cons here _ ih => rw [List.flatMap_cons, List.flatMap_cons, here.outputs, ih]
  rw [addVisible_all, visibleArtifacts, addVisible_all, outputs, history.successes, List.flatMap_assoc]

omit [Sha256] in
/-- The last event of a run asks for a review exactly when the run waits for one. -/
theorem last_review {ending : Ending} (shows : ending.Shows es) (unended : ending.terminal = none) :
    es.getLast?.any (·.eventType = .reviewRequested) = decide (ending = .review) := by
  cases ending with
  | «open» =>
    cases last : es.getLast? with
    | none => rfl
    | some e =>
      have plain := (shows e (List.mem_of_getLast? last)).2
      simpa using plain
  | review =>
    obtain ⟨before, e, rfl, eventType, -⟩ := shows
    simp [eventType]
  | closed kind => contradiction

theorem status_agrees {loop : AgentLoop} {ungated skipped : Prop} (history : History loop request ungated skipped es m)
    {p : RunProjection} (projects : Projects es m p) {shown : RunStatus}
    (known : status es m.waitingCall = .ok shown) : shown = statusOf p := by
  have r := history.represents
  obtain ⟨terminal, review, terminalRead, -, ordered, terminalType, -⟩ := r.ending.last
  have kind := projects.terminal
  unfold status at known
  unfold statusOf
  rw [terminalRead] at known
  cases terminal with
  | some e =>
    have last : lastIs es e = true := by simpa using ordered
    simp only [last, ↓reduceIte, Except.ok.injEq] at known
    rw [Option.map_some] at terminalType
    rw [kind, ← terminalType, ← known]
    cases e.eventType <;> rfl
  | none =>
    rw [Option.map_none] at terminalType
    rw [kind, ← terminalType]
    simp only [r.runs history.starts_named, last_review r.ending terminalType.symm] at known
    rw [← projects.interrupted, ← projects.waitingReview, ← projects.waiting, Option.isSome_map] at known
    dsimp only
    split at known
    · rename_i interrupted
      rw [if_pos interrupted]
      exact (Except.ok.inj known).symm
    rename_i interrupted
    rw [if_neg interrupted]
    split at known
    · rename_i waits
      rw [if_pos waits]
      exact (Except.ok.inj known).symm
    rename_i waits
    rw [if_neg waits]
    split at known
    · rename_i reviewed
      rw [if_pos reviewed]
      exact (Except.ok.inj known).symm
    · rename_i reviewed
      rw [if_neg reviewed]
      exact (Except.ok.inj known).symm

omit [Sha256] in
/-- What is frozen of a value does not depend on where it stands. -/
theorem freezeOptional_agree {field field' : String} {value : Option Fields} {a b : Option JsonObject}
    (first : freezeOptional field value = .ok a) (second : freezeOptional field' value = .ok b) : a = b := by
  cases value with
  | none => exact (Except.ok.inj first).symm.trans (Except.ok.inj second)
  | some fields =>
    obtain ⟨x, made, rfl⟩ := map_ok.mp first
    obtain ⟨y, made', rfl⟩ := map_ok.mp second
    have same : x.fields = y.fields := (freezeFields_ok.mp made).2.trans (freezeFields_ok.mp made').2.symm
    cases x
    cases y
    cases same
    rfl

/-- The request of a begun run is the one that its start recorded. -/
theorem request_recorded {start : LedgerEvent} {read : RunRequest} (drafted : Drafted request (startDraft request) start)
    (found : requestFromStart start = .ok read) : read = request := by
  have stored : start.metadata.get "request" = some (.obj (Json.canonFields request.toDict)) := by
    have found := drafted.metadata "request"
    simpa [startDraft, runDraft, startMetadata, Json.canon] using found
  unfold requestFromStart at found
  rw [stored] at found
  simp only [RunRequest.fromDict_toDict, orRaise_ok, bind_ok, Except.ok.injEq] at found
  obtain ⟨_, rfl, _, -, _, -, _, -, _, -, _, -, shown⟩ := found
  exact (Except.ok.inj shown).symm

/-- What `status` returns of a begun run. -/
theorem status_ok {loop : AgentLoop} {ungated skipped : Prop} {ledger : List LedgerEvent} {result : RunResult}
    (history : History loop request ungated skipped (RunLedger.forRun request.runId ledger) m) (begun : m.begun = true)
    (returned : AgentLoop.status request.runId ledger = .ok result) :
    ∃ p, Projects (RunLedger.forRun request.runId ledger) m p ∧
      resultOf request (RunLedger.forRun request.runId ledger) p "" = .ok result := by
  obtain ⟨p, projected, projects⟩ := history.represents.project
  obtain ⟨start, rest, split, drafted, -⟩ := history.represents.begun begun
  have stored : start.metadata.get "request" = some (.obj (Json.canonFields request.toDict)) := by
    have found := drafted.metadata "request"
    simpa [startDraft, runDraft, startMetadata, Json.canon] using found
  have first : start.eventType = .runStarted := drafted.eventType
  refine ⟨p, projects, ?_⟩
  unfold AgentLoop.status at returned
  rw [split] at returned
  dsimp only at returned
  rw [if_neg (by simp), List.find?_cons_of_pos (by simpa using first), Option.bind_some, stored] at returned
  dsimp only at returned
  rw [RunRequest.fromDict_toDict] at returned
  obtain ⟨read, same, returned⟩ := bind_ok.mp returned
  cases same
  obtain ⟨q, again, returned⟩ := bind_ok.mp returned
  rw [projected] at again
  cases again
  exact returned

/-- Whatever the loop has written of a run, what the inspector says of it and what `status` says of it agree. -/
theorem readers_agree [JsonSchema] {loop : AgentLoop} {request : RunRequest} {site : Site} {inspector : RunInspector}
    {i : RunInspection} {result : RunResult} (reachable : Reachable loop request (fun _ => True) site)
    (same : inspector.ledger = site.world.ledger) (inspected : inspector.inspectRun request.runId = .ok i)
    (returned : AgentLoop.status request.runId site.world.ledger = .ok result) :
    i.status = result.status ∧ i.pendingCall = result.pendingCall ∧ i.finalArtifactIds = result.visibleArtifactIds.ids ∧
      (i.decisionCount, i.toolCallCount, i.stepCount) = AgentLoop.counts (RunLedger.forRun request.runId site.world.ledger) := by
  obtain ⟨m, history⟩ := (reachable.sound diesAtRest_anywhere).history
  obtain ⟨read, pending, shows⟩ := inspectRun_ok inspected
  rw [← same] at history returned ⊢
  obtain ⟨start, first, parsed⟩ := shows.started
  have begun : m.begun = true := by
    cases begun : m.begun with
    | true => rfl
    | false =>
      rw [(history.represents.unbegun begun).1] at first
      contradiction
  obtain ⟨start', rest, split, drafted, -⟩ := history.represents.begun begun
  obtain ⟨rest', split'⟩ := startOf_ok first
  obtain rfl : start = start' := (List.cons.inj (split'.symm.trans split)).1
  obtain rfl := request_recorded drafted parsed
  obtain ⟨p, projects, shown⟩ := status_ok history begun returned
  have waits := pending_waiting history.represents shows.calls
  simp only [resultOf, RunResult.create, bind_ok] at shown
  obtain ⟨visible, unique, frozen, kept, shown⟩ := shown
  cases shown
  refine ⟨?_, ?_, ?_, shows.counts⟩
  · exact status_agrees history projects (waits ▸ shows.status)
  · have asked : p.pendingApproval.map (·.call.toDict) = pending.map (·.toDict) := by
      rw [waits, ← projects.waiting, Option.map_map]
      rfl
    rw [asked] at kept
    exact freezeOptional_agree shows.pendingCall kept
  · rw [shows.final, final_visible history shows.calls]
    exact (uniqueArtifactIds_ok.mp unique).symm

end RunInspector

namespace Sample

attribute [local instance] standardSha256 noSchema

/-- Both readers return while the proposed call waits for its approval. -/
theorem readers_agree_waiting : ∃ site i result, Reachable loop request (fun _ => True) site ∧
    (inspecting site.world.ledger).inspectRun request.runId = .ok i ∧
    AgentLoop.status request.runId site.world.ledger = .ok result ∧ i.status = .waitingApproval ∧
    result.status = .waitingApproval ∧ i.pendingCall = result.pendingCall ∧
    i.finalArtifactIds = result.visibleArtifactIds.ids := by
  obtain ⟨site, reachable, passed⟩ := reaches (fun _ => True) [.invoke 3 none, .requests 40 proposing, .finish]
    (fun site => ((inspecting site.world.ledger).inspectRun request.runId).toOption.any (·.status = .waitingApproval) &&
      (AgentLoop.status request.runId site.world.ledger).toOption.isSome) (by simp) (by decide +kernel)
  rw [Bool.and_eq_true] at passed
  obtain ⟨i, inspected, waits⟩ := ok_of_any passed.1
  obtain ⟨result, returned⟩ := ok_of_some passed.2
  obtain ⟨status, pending, final, -⟩ := RunInspector.readers_agree reachable (show (inspecting site.world.ledger).ledger = _ from rfl)
    inspected returned
  have waiting := of_decide_eq_true waits
  exact ⟨site, i, result, reachable, inspected, returned, waiting, status ▸ waiting, pending, final⟩

end Sample
end Molly
