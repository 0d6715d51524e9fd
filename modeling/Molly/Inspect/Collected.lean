import Mathlib.Data.List.Induction
import Molly.Inspect.Inspection

/-! What the inspector has collected of a run's calls once it has read the run's events. -/
namespace Molly
open AgentLoop

theorem metadataCallId_of_null {e : LedgerEvent} (null : e.metadataGet "call_id" = .null) : e.metadataCallId = none := by
  unfold LedgerEvent.metadataGet at null
  unfold LedgerEvent.metadataCallId
  cases found : e.metadata.get "call_id" with
  | none => rfl
  | some value =>
    rw [found, Option.getD_some] at null
    subst null
    rfl

theorem metadataCallId_of_str {e : LedgerEvent} {id : String} (text : e.metadataGet "call_id" = .str id) : e.metadataCallId = some id := by
  unfold LedgerEvent.metadataGet at text
  unfold LedgerEvent.metadataCallId
  cases found : e.metadata.get "call_id" with
  | none => simp [found] at text
  | some value =>
    rw [found, Option.getD_some] at text
    subst text
    rfl

theorem validateIdentifier_eq_ok {field value : String} {id : Identifier} :
    validateIdentifier field value = .ok id ↔ id.text = value := by
  unfold validateIdentifier
  split
  · rename_i valid
    simp only [Except.ok.injEq]
    constructor
    · rintro rfl
      rfl
    · rintro rfl
      rfl
  · rename_i invalid
    simp only [reduceCtorEq, false_iff]
    rintro rfl
    exact invalid id.valid

/-! ### The records that were read -/

namespace RunLedger
variable [Sha256]

/-- What is read are the events themselves, under distinct identifiers. -/
theorem readFrom_ok : ∀ {events read : List LedgerEvent} {previous : Option Digest} {seen : List Identifier},
    readFrom previous seen events = .ok read →
      read = events ∧ (events.map (·.eventId)).Nodup ∧ ∀ e ∈ events, e.eventId ∉ seen
  | [], _, _, _, h => by
    cases h
    simp
  | event :: events, read, previous, seen, h => by
    cases sealed : event.eventSha256 with
    | none => simp [readFrom, sealed] at h
    | some digest =>
      simp only [readFrom, sealed, bind_ok, ensure_ok, exists_const, decide_eq_true_eq] at h
      obtain ⟨-, fresh, -, rest, tail, shown⟩ := h
      cases shown
      obtain ⟨rfl, distinct, unseen⟩ := readFrom_ok tail
      refine ⟨rfl, ?_, ?_⟩
      · rw [List.map_cons, List.nodup_cons]
        refine ⟨?_, distinct⟩
        intro again
        obtain ⟨e, member, same⟩ := List.mem_map.mp again
        exact unseen e member (same ▸ List.mem_cons_self)
      · intro e member
        rcases List.mem_cons.mp member with rfl | member
        · exact fresh
        · exact fun seen => unseen e member (List.mem_cons_of_mem _ seen)

end RunLedger

/-! ### The calls that were collected -/

namespace RunInspector
variable [Sha256]

/-- The events of a run that name a call. -/
def eventsNaming (events : List LedgerEvent) (id : String) : List LedgerEvent :=
  events.filter fun e => e.metadataCallId = some id

/-- The identifiers of the materialized calls, in order. -/
def callIds (events : List LedgerEvent) : List String :=
  (ofType .toolCallMaterialized events).filterMap LedgerEvent.metadataCallId

/-- The collected calls stand for the events that name a call. -/
structure Collected (events : List LedgerEvent) (known : List CallEvents) : Prop where
  each : ∀ entry ∈ known, eventsNaming events entry.call.callId.text = entry.event :: entry.related
  ids : known.map (·.call.callId.text) = callIds events
  distinct : (known.map (·.call.callId.text)).Nodup
  named : ∀ e ∈ events, ∀ id, e.metadataCallId = some id →
    e.eventType.isCall = true ∧ id ∈ known.map (·.call.callId.text)
  materialized : ∀ e ∈ events, e.eventType = .toolCallMaterialized → e.metadataCallId.isSome = true
  source : ∀ entry ∈ known, entry.event.eventType = .toolCallMaterialized ∧ materializedCall entry.event = .ok entry.call

/-- One event changes what is collected in one of three ways. -/
theorem collectCall_cases {known next : List CallEvents} {event : LedgerEvent}
    (collected : collectCall known event = .ok next) :
    (∃ call, event.eventType = .toolCallMaterialized ∧ event.metadataCallId = some call.callId.text ∧
      (∀ entry ∈ known, entry.call.callId ≠ call.callId) ∧ materializedCall event = .ok call ∧
      next = known ++ [⟨call, event, []⟩]) ∨
    (event.eventType ≠ .toolCallMaterialized ∧ event.metadataCallId = none ∧ next = known) ∨
    (∃ id : Identifier, event.eventType ≠ .toolCallMaterialized ∧ event.metadataCallId = some id.text ∧
      event.eventType.isCall = true ∧ (∃ entry ∈ known, entry.call.callId = id) ∧
      next = known.map (CallEvents.attach id event)) := by
  simp only [collectCall, bind_ok] at collected
  obtain ⟨named, found, collected⟩ := collected
  have shown : event.metadataCallId = named.map Identifier.text := by
    unfold callId at found
    split at found
    · rename_i null
      cases found
      exact metadataCallId_of_null null
    · rename_i value text
      obtain ⟨id, valid, rfl⟩ := map_ok.mp found
      have same := validateIdentifier_eq_ok.mp (orRaise_eq_ok.mp valid)
      rw [metadataCallId_of_str text, ← same]
      rfl
    · contradiction
  split at collected
  · rename_i isMaterialized
    unfold materialize at collected
    split at collected
    · rename_i raw stored
      simp only [bind_ok, ensure_ok, exists_const, Bool.and_eq_true, decide_eq_true_eq, List.all_eq_true, ne_eq,
        decide_not, Bool.not_eq_true', decide_eq_false_iff_not] at collected
      obtain ⟨call, parsed, ⟨same, step⟩, ⟨name, version⟩, inputs, digest, fresh, result⟩ := collected
      cases result
      have parsed := orRaise_eq_ok.mp parsed
      rw [same, Option.map_some] at shown
      refine Or.inl ⟨call, isMaterialized, shown, fresh, ?_, rfl⟩
      simp [materializedCall, stored, parsed, callIdForEvent, shown, step, name, version, inputs, bind, Except.bind,
        pure, Except.pure]
    · contradiction
  · rename_i other
    cases named with
    | none =>
      cases collected
      exact Or.inr (Or.inl ⟨other, shown, rfl⟩)
    | some id =>
      simp only [bind_ok, ensure_ok, exists_const, List.any_eq_true, decide_eq_true_eq] at collected
      obtain ⟨isCall, known, result⟩ := collected
      cases result
      exact Or.inr (Or.inr ⟨id, other, shown, isCall, known, rfl⟩)

omit [Sha256] in
theorem eventsNaming_snoc (events : List LedgerEvent) (e : LedgerEvent) (id : String) :
    eventsNaming (events ++ [e]) id = eventsNaming events id ++ if e.metadataCallId = some id then [e] else [] := by
  by_cases same : e.metadataCallId = some id <;> simp [eventsNaming, same]

omit [Sha256] in
theorem callIds_snoc (events : List LedgerEvent) (e : LedgerEvent) :
    callIds (events ++ [e]) =
      callIds events ++ if e.eventType = .toolCallMaterialized then e.metadataCallId.toList else [] := by
  by_cases same : e.eventType = .toolCallMaterialized
  · cases found : e.metadataCallId <;> simp [callIds, ofType, same, found]
  · simp [callIds, ofType, same]

omit [Sha256] in
theorem map_attach (known : List CallEvents) (id : Identifier) (e : LedgerEvent) :
    (known.map (CallEvents.attach id e)).map (·.call.callId.text) = known.map (·.call.callId.text) := by
  rw [List.map_map]
  apply List.map_congr_left
  intro entry _
  by_cases same : entry.call.callId = id <;> simp [CallEvents.attach, same]

/-- The step: one more event keeps what is collected in order. -/
theorem Collected.snoc {events : List LedgerEvent} {known next : List CallEvents} {event : LedgerEvent}
    (ih : Collected events known) (collected : collectCall known event = .ok next) :
    Collected (events ++ [event]) next := by
  rcases collectCall_cases collected with ⟨call, isMaterialized, names, fresh, parsed, rfl⟩ | ⟨other, unnamed, rfl⟩ |
    ⟨id, other, names, isCall, ⟨found, among, same⟩, rfl⟩
  · have new : call.callId.text ∉ known.map (·.call.callId.text) := by
      intro again
      obtain ⟨entry, member, same⟩ := List.mem_map.mp again
      exact fresh entry member (Identifier.ext same)
    refine ⟨?_, ?_, ?_, ?_, ?_, ?_⟩
    · intro entry member
      rw [eventsNaming_snoc]
      rcases List.mem_append.mp member with member | member
      · have apart : event.metadataCallId ≠ some entry.call.callId.text := by
          rw [names]
          intro same
          exact new (List.mem_map.mpr ⟨entry, member, (Option.some.inj same).symm⟩)
        simp [apart, ih.each entry member]
      · obtain rfl : entry = ⟨call, event, []⟩ := by simpa using member
        have none : eventsNaming events call.callId.text = [] := by
          simp only [eventsNaming, List.filter_eq_nil_iff, decide_eq_true_eq]
          intro e earlier same
          exact new (ih.named e earlier _ same).2
        simp [none, names]
    · simp [callIds_snoc, isMaterialized, names, ih.ids]
    · simp only [List.map_append, List.map_cons, List.map_nil]
      refine List.nodup_append.mpr ⟨ih.distinct, by simp, ?_⟩
      intro a member b single same
      rw [List.mem_singleton.mp single] at same
      exact new (same ▸ member)
    · intro e member id shown
      rcases List.mem_append.mp member with member | member
      · obtain ⟨isCall, known⟩ := ih.named e member id shown
        exact ⟨isCall, by simp only [List.map_append]; exact List.mem_append_left _ known⟩
      · obtain rfl : e = event := by simpa using member
        rw [names, Option.some.injEq] at shown
        exact ⟨by rw [isMaterialized]; rfl, by simp [shown]⟩
    · intro e member shown
      rcases List.mem_append.mp member with member | member
      · exact ih.materialized e member shown
      · obtain rfl : e = event := by simpa using member
        simp [names]
    · intro entry member
      rcases List.mem_append.mp member with member | member
      · exact ih.source entry member
      · obtain rfl : entry = ⟨call, event, []⟩ := by simpa using member
        exact ⟨isMaterialized, parsed⟩
  · refine ⟨?_, ?_, ih.distinct, ?_, ?_, ih.source⟩
    · intro entry member
      simp [eventsNaming_snoc, unnamed, ih.each entry member]
    · simp [callIds_snoc, other, ih.ids]
    · intro e member id shown
      rcases List.mem_append.mp member with member | member
      · exact ih.named e member id shown
      · obtain rfl : e = event := by simpa using member
        rw [unnamed] at shown
        contradiction
    · intro e member shown
      rcases List.mem_append.mp member with member | member
      · exact ih.materialized e member shown
      · obtain rfl : e = event := by simpa using member
        exact absurd shown other
  · refine ⟨?_, ?_, ?_, ?_, ?_, ?_⟩
    · intro entry member
      obtain ⟨before, earlier, rfl⟩ := List.mem_map.mp member
      have earlier := ih.each before earlier
      by_cases named : before.call.callId = id
      · rw [named] at earlier
        simp [CallEvents.attach, named, eventsNaming_snoc, names, earlier]
      · have apart : event.metadataCallId ≠ some before.call.callId.text := by
          rw [names]
          intro same
          exact named (Identifier.ext (Option.some.inj same)).symm
        simp [CallEvents.attach, named, eventsNaming_snoc, apart, earlier]
    · rw [map_attach]
      simp [callIds_snoc, other, ih.ids]
    · rw [map_attach]
      exact ih.distinct
    · rw [map_attach]
      intro e member id' shown
      rcases List.mem_append.mp member with member | member
      · exact ih.named e member id' shown
      · obtain rfl : e = event := by simpa using member
        rw [names, Option.some.injEq] at shown
        exact ⟨isCall, List.mem_map.mpr ⟨found, among, by rw [same, shown]⟩⟩
    · intro e member shown
      rcases List.mem_append.mp member with member | member
      · exact ih.materialized e member shown
      · obtain rfl : e = event := by simpa using member
        exact absurd shown other
    · intro entry member
      obtain ⟨before, earlier, rfl⟩ := List.mem_map.mp member
      have kept := ih.source before earlier
      unfold CallEvents.attach
      split <;> exact kept

/-- The run: what is collected from all events. -/
theorem collected {events : List LedgerEvent} {known : List CallEvents} (read : collectCalls events = .ok known) :
    Collected events known := by
  induction events using List.reverseRecOn generalizing known with
  | nil =>
    cases read
    exact ⟨by simp, rfl, by simp, by simp, by simp, by simp⟩
  | append_singleton events event ih =>
    simp only [collectCalls, List.foldlM_append, List.foldlM_cons, List.foldlM_nil, bind_ok] at read
    obtain ⟨before, read, next, added, shown⟩ := read
    cases shown
    exact (ih read).snoc added

/-- A projected call keeps the identity of the call and the order of its events. -/
theorem projectCall_ok {entry : CallEvents} {call : ToolCallInspection} (projected : projectCall entry = .ok call) :
    call.callId = entry.call.callId ∧ call.toolName = entry.call.toolName ∧
      call.eventIds = entry.event.eventId :: entry.related.map (·.eventId) := by
  simp only [projectCall, bind_ok, ensure_ok, exists_const] at projected
  obtain ⟨_, -, _, -, -, -, -, _, -, shown⟩ := projected
  cases shown
  exact ⟨rfl, rfl, rfl⟩

theorem projectCalls_ok {events : List LedgerEvent} {calls : List ToolCallInspection}
    {pending : Option MaterializedToolCall} (projected : projectCalls events = .ok (calls, pending)) :
    ∃ known, Collected events known ∧ collectCalls events = .ok known ∧
      List.Forall₂ (fun entry call => projectCall entry = .ok call) known calls := by
  simp only [projectCalls, bind_ok, ensure_ok, exists_const] at projected
  obtain ⟨known, read, calls', each, -, shown⟩ := projected
  cases shown
  exact ⟨known, collected read, read, mapM_ok.mp each⟩

/-! ### Inspections that return -/

/-- What an inspection says, in terms of what it has read. -/
structure Inspected (inspector : RunInspector) (runId : Identifier) (i : RunInspection) (request : RunRequest)
    (pending : Option MaterializedToolCall) : Prop where
  distinct : (inspector.ledger.map (·.eventId)).Nodup
  started : ∃ start, startOf (RunLedger.forRun runId inspector.ledger) = .ok start ∧ requestFromStart start = .ok request
  calls : projectCalls (RunLedger.forRun runId inspector.ledger) = .ok (i.materializedCalls, pending)
  status : RunInspector.status (RunLedger.forRun runId inspector.ledger) pending = .ok i.status
  run : i.runId = request.runId
  requestDigest : i.requestDigest = request.requestSha256
  policyDigest : i.policyDigest = request.toolPolicyDigest
  initial : i.initialArtifactIds = request.inputArtifactIds
  counts : (i.decisionCount, i.toolCallCount, i.stepCount) = AgentLoop.counts (RunLedger.forRun runId inspector.ledger)
  profileRef : RunInspector.profileRef request = .ok i.runtimeProfileRef
  profileDigest : RunInspector.profileDigest request = .ok i.runtimeProfileDigest
  pendingCall : freezeOptional "pending inspection call" (pending.map (·.toDict)) = .ok i.pendingCall
  final : i.finalArtifactIds = i.materializedCalls.foldl (fun ids call => addVisible ids call.outputArtifactIds.ids)
    request.inputArtifactIds.ids

theorem inspectRun_ok {inspector : RunInspector} {runId : Identifier} {i : RunInspection}
    (inspected : inspector.inspectRun runId = .ok i) : ∃ request pending, Inspected inspector runId i request pending := by
  simp only [inspectRun, bind_ok] at inspected
  obtain ⟨all, read, start, first, request, parsed, relations, -, _, -, _, -, ⟨calls, pending⟩, found, status, known, _, -,
    _, -, ref, refRead, digest, digestRead, pendingCall, frozen, _, -, _, -, shown⟩ := inspected
  obtain ⟨rfl, distinct, -⟩ := RunLedger.readFrom_ok (orRaise_eq_ok.mp read)
  cases shown
  exact ⟨request, pending, distinct, ⟨start, first, parsed⟩, found, known, rfl, rfl, rfl, rfl, rfl, refRead, digestRead, frozen,
    rfl⟩

omit [Sha256] in
theorem startOf_ok {events : List LedgerEvent} {start : LedgerEvent} (found : startOf events = .ok start) :
    ∃ rest, events = start :: rest := by
  cases events with
  | nil => contradiction
  | cons first rest =>
    simp only [startOf] at found
    split at found
    · cases found
      exact ⟨rest, rfl⟩
    · contradiction

/-- The events of a materialized call carry the identities of the call. -/
theorem materializedCall_ok {e : LedgerEvent} {call : MaterializedToolCall} (parsed : materializedCall e = .ok call) :
    e.stepId = some call.stepId ∧ e.toolName = some call.toolName ∧ e.toolVersion = some call.toolVersion := by
  unfold materializedCall at parsed
  split at parsed
  · simp only [bind_ok] at parsed
    obtain ⟨read, -, id, -, parsed⟩ := parsed
    split at parsed
    · contradiction
    split at parsed
    · contradiction
    split at parsed
    · contradiction
    cases parsed
    rename_i identity tool inputs
    simp only [Bool.or_eq_true, decide_eq_true_eq, not_or, not_not] at identity tool
    exact ⟨identity.2, tool.1, tool.2⟩
  · contradiction

end RunInspector
end Molly
