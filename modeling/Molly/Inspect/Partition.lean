import Molly.Effect.Buckets
import Molly.Inspect.Collected
import Molly.Inspect.Trace
import Molly.Run.System

/-! The spans of a trace and the events of its run: which event stands in which span. -/
namespace Molly
open AgentLoop RunInspector

/-- The events that belong to the run itself. -/
def rootEvents (events : List LedgerEvent) : List LedgerEvent := events.filter fun e => !e.eventType.isCall

/-- The events that belong to one call. -/
def callEvents (events : List LedgerEvent) (id : String) : List LedgerEvent :=
  events.filter fun e => e.eventType.isCall && e.metadataCallId = some id

section
variable [Sha256]

/-- The trace events of a span are those of some events, one for one and in order. -/
def TraceSpan.Shows (span : TraceSpan) (events : List LedgerEvent) : Prop :=
  List.Forall₂ (fun event shown => traceEvent event = .ok shown) events span.events

/-- A span begins with the first of some events and ends with the last. -/
def TraceSpan.Lasts (span : TraceSpan) (events : List LedgerEvent) : Prop :=
  ∃ first last, events.head? = some first ∧ events.getLast? = some last ∧
    span.startTime = first.timestamp ∧ span.endTime = some last.timestamp

/-- The spans of a trace share out the events of its run. -/
structure Partitioned (events : List LedgerEvent) (trace : RunTrace) : Prop where
  spans : ∃ root children, trace.spans = root :: children ∧ root.parentSpanId = none ∧
    root.Shows (rootEvents events) ∧ root.Lasts events ∧
    List.Forall₂ (fun id (child : TraceSpan) => child.parentSpanId = some root.spanId ∧
      child.Shows (callEvents events id) ∧ child.Lasts (callEvents events id)) (callIds events) children
  calls : (callIds events).length = (ofType .toolCallMaterialized events).length ∧ (callIds events).Nodup
  once : (rootEvents events ++ (callIds events).flatMap (callEvents events)).Perm events ∧
    (events.map (·.eventId)).Nodup
  distinct : (trace.spans.map (·.spanId)).Nodup

/-! ### Spans -/

omit [Sha256] in
theorem traceSpan_ok {spanId : HexId 16} {parent : Option (HexId 16)} {name : String} {spanned shown : List LedgerEvent}
    {attributes : Fields} {span : TraceSpan} (made : traceSpan spanId parent name spanned shown attributes = .ok span) :
    span.spanId = spanId ∧ span.parentSpanId = parent ∧ span.Shows shown ∧ span.Lasts spanned := by
  simp only [traceSpan, bind_ok] at made
  obtain ⟨events, each, made⟩ := made
  split at made
  · rename_i first last head tail
    simp only [bind_ok] at made
    obtain ⟨_, -, _, -, result⟩ := made
    cases result
    exact ⟨rfl, rfl, mapM_ok.mp each, first, last, head, tail, rfl, rfl⟩
  · contradiction

omit [Sha256] in
/-- Among events with distinct identifiers, each is found under its own. -/
theorem eventById_ok {events : List LedgerEvent} (distinct : (events.map (·.eventId)).Nodup) {e : LedgerEvent}
    (member : e ∈ events) : eventById events e.eventId = .ok e := by
  unfold eventById
  split
  · rename_i found search
    have among := List.mem_reverse.mp (List.mem_of_find?_eq_some search)
    have same : found.eventId = e.eventId := by simpa using List.find?_some search
    rw [List.inj_on_of_nodup_map distinct among member same]
  · rename_i search
    have missed := List.find?_eq_none.mp search e (List.mem_reverse.mpr member)
    simp at missed

omit [Sha256] in
theorem eventById_mapM {events : List LedgerEvent} (distinct : (events.map (·.eventId)).Nodup) :
    ∀ {some : List LedgerEvent}, (∀ e ∈ some, e ∈ events) → (some.map (·.eventId)).mapM (eventById events) = .ok some
  | [], _ => rfl
  | e :: rest, among => by
    rw [List.map_cons, List.mapM_cons, eventById_ok distinct (among e List.mem_cons_self),
      eventById_mapM distinct fun e member => among e (List.mem_cons_of_mem _ member)]
    rfl

/-- The events that name a call are its own: the inspector has let no others through. -/
theorem callEvents_eq {events : List LedgerEvent} {known : List CallEvents} (c : Collected events known)
    (id : String) : callEvents events id = eventsNaming events id := by
  unfold callEvents eventsNaming
  apply List.filter_congr
  intro e member
  by_cases names : e.metadataCallId = some id
  · simp [names, (c.named e member id names).1]
  · simp [names]

/-- The span of a call is made over the events collected for it. -/
theorem callSpan_eq {events : List LedgerEvent} {known : List CallEvents} (c : Collected events known)
    (distinct : (events.map (·.eventId)).Nodup) {entry : CallEvents} (member : entry ∈ known)
    {call : ToolCallInspection} (projected : projectCall entry = .ok call) (traceId : HexId 32) (rootId : HexId 16) :
    callSpan traceId events call rootId = traceSpan (spanIdFor traceId "call" call.callId) (some rootId)
      ("molly.tool." ++ call.toolName.text) (entry.event :: entry.related) (entry.event :: entry.related)
      (callSpanAttributes call) := by
  have among : ∀ e ∈ entry.event :: entry.related, e ∈ events := by
    intro e own
    rw [← c.each entry member] at own
    exact List.mem_of_mem_filter own
  have ids : call.eventIds = (entry.event :: entry.related).map (·.eventId) := (projectCall_ok projected).2.2
  simp only [callSpan, ids, eventById_mapM distinct among]
  rfl

theorem callSpan_ok {traceId : HexId 32} {rootId : HexId 16} {events : List LedgerEvent} {known : List CallEvents}
    (c : Collected events known) (distinct : (events.map (·.eventId)).Nodup) {entry : CallEvents} (member : entry ∈ known)
    {call : ToolCallInspection} (projected : projectCall entry = .ok call) {span : TraceSpan}
    (made : callSpan traceId events call rootId = .ok span) : span.parentSpanId = some rootId ∧
      span.Shows (callEvents events entry.call.callId.text) ∧ span.Lasts (callEvents events entry.call.callId.text) := by
  rw [callSpan_eq c distinct member projected] at made
  obtain ⟨-, parent, shows, lasts⟩ := traceSpan_ok made
  rw [callEvents_eq c, c.each entry member]
  exact ⟨parent, shows, lasts⟩

/-! ### Projections that return -/

/-- What `project_run` has read when it returns. -/
theorem projectRun_ok {inspector : RunInspector} {runId : Identifier} {trace : RunTrace}
    (projected : projectRun inspector runId = .ok trace) :
    ∃ inspection pending root children,
      (inspector.ledger.map (·.eventId)).Nodup ∧ inspector.inspectRun runId = .ok inspection ∧
      projectCalls (RunLedger.forRun runId inspector.ledger) = .ok (inspection.materializedCalls, pending) ∧
      traceSpan (spanIdFor (traceIdForRun inspection.runId) "run" inspection.runId) none "molly.run"
        (RunLedger.forRun runId inspector.ledger) (rootEvents (RunLedger.forRun runId inspector.ledger))
        (rootAttributes inspection) = .ok root ∧
      List.Forall₂ (fun call child => callSpan (traceIdForRun inspection.runId)
        (RunLedger.forRun runId inspector.ledger) call
        (spanIdFor (traceIdForRun inspection.runId) "run" inspection.runId) = .ok child)
        inspection.materializedCalls children ∧
      RunTrace.create (traceIdForRun inspection.runId) inspection.runId inspection.status inspection.ledgerSha256
        inspection.lineageSha256 (root :: children) = .ok trace := by
  simp only [projectRun, bind_ok] at projected
  obtain ⟨inspection, inspected, events, read, root, rooted, children, each, created⟩ := projected
  simp only [eventsForRun, bind_ok] at read
  obtain ⟨_, -, all, reads, shown⟩ := read
  cases shown
  have reads := RunLedger.readFrom_ok (orRaise_eq_ok.mp reads)
  obtain ⟨rfl, distinct, -⟩ := reads
  obtain ⟨request, pending, found⟩ := inspectRun_ok inspected
  exact ⟨inspection, pending, root, children, distinct, inspected, found.calls, rooted, mapM_ok.mp each, created⟩

omit [Sha256] in
theorem RunTrace.create_ok {traceId : HexId 32} {runId : Identifier} {status : RunStatus} {ledger lineage : Digest}
    {spans : List TraceSpan} {trace : RunTrace}
    (created : RunTrace.create traceId runId status ledger lineage spans = .ok trace) :
    trace.traceId = traceId ∧ trace.runId = runId ∧ trace.status = status ∧ trace.spans = spans := by
  unfold RunTrace.create at created
  split at created
  · contradiction
  split at created
  · split at created
    · cases created
      exact ⟨rfl, rfl, rfl, rfl⟩
    · contradiction
  · contradiction

/-- The place of an event: its own call, or the run. -/
def spanKey (e : LedgerEvent) : Option String := if e.eventType.isCall then e.metadataCallId else none

/-- Every event has a span exactly when every call event names its call. -/
theorem once_iff {events : List LedgerEvent} {known : List CallEvents} (c : Collected events known) :
    (rootEvents events ++ (callIds events).flatMap (callEvents events)).Perm events ↔
      ∀ e ∈ events, e.eventType.isCall = true → e.metadataCallId ≠ none := by
  constructor
  · intro perm e member isCall unnamed
    have placed := perm.mem_iff.mpr member
    rcases List.mem_append.mp placed with root | called
    · simp [rootEvents, isCall] at root
    · obtain ⟨id, -, found⟩ := List.mem_flatMap.mp called
      simp [callEvents, unnamed] at found
  · intro named
    have root : rootEvents events = Effect.Buckets.bucket spanKey events none := by
      apply List.filter_congr
      intro e member
      cases isCall : e.eventType.isCall with
      | false => simp [spanKey, isCall]
      | true => simp [spanKey, isCall, named e member isCall]
    have calls : ∀ id, callEvents events id = Effect.Buckets.bucket spanKey events (some id) := by
      intro id
      apply List.filter_congr
      intro e _
      cases isCall : e.eventType.isCall <;> simp [spanKey, isCall]
    have keys : (none :: (callIds events).map some).Nodup := by
      rw [List.nodup_cons]
      refine ⟨by simp, ?_⟩
      rw [← c.ids]
      exact c.distinct.map fun _ _ same => Option.some.inj same
    have covered : ∀ e ∈ events, spanKey e ∈ none :: (callIds events).map some := by
      intro e member
      cases key : spanKey e with
      | none => exact List.mem_cons_self
      | some id =>
        have names : e.metadataCallId = some id := by
          unfold spanKey at key
          split at key
          · exact key
          · contradiction
        have known := (c.named e member id names).2
        rw [c.ids] at known
        exact List.mem_cons_of_mem _ (List.mem_map.mpr ⟨id, known, rfl⟩)
    have perm := Effect.Buckets.flatMap_bucket_perm_self keys covered
    rw [List.flatMap_cons, List.flatMap_map] at perm
    rw [root, List.flatMap_congr fun id _ => calls id]
    exact perm

/-- The trace of a run shares out the run's events, each once and in order, exactly when
every call event of the run names its call. -/
theorem trace_partitions (inspector : RunInspector) (runId : Identifier) (trace : RunTrace)
    (projected : projectRun inspector runId = .ok trace) :
    Partitioned (RunLedger.forRun runId inspector.ledger) trace ↔
      ∀ e ∈ RunLedger.forRun runId inspector.ledger, e.eventType.isCall = true → e.metadataCallId ≠ none := by
  obtain ⟨inspection, pending, root, children, unique, -, calls, rooted, each, created⟩ := projectRun_ok projected
  obtain ⟨known, c, -, projections⟩ := projectCalls_ok calls
  have distinct : ((RunLedger.forRun runId inspector.ledger).map (·.eventId)).Nodup :=
    unique.sublist (List.filter_sublist.map _)
  obtain ⟨-, -, -, spans⟩ := RunTrace.create_ok created
  obtain ⟨rootId, orphan, rootShows, rootLasts⟩ := traceSpan_ok rooted
  have counted : (callIds (RunLedger.forRun runId inspector.ledger)).length =
      (ofType .toolCallMaterialized (RunLedger.forRun runId inspector.ledger)).length := by
    rw [callIds, List.length_filterMap_eq_countP, List.countP_eq_length]
    intro e member
    have member := List.mem_filter.mp member
    exact c.materialized e member.1 (of_decide_eq_true member.2)
  have childSpans : List.Forall₂ (fun id (child : TraceSpan) => child.parentSpanId = some root.spanId ∧
      child.Shows (callEvents (RunLedger.forRun runId inspector.ledger) id) ∧
      child.Lasts (callEvents (RunLedger.forRun runId inspector.ledger) id))
      (callIds (RunLedger.forRun runId inspector.ledger)) children := by
    rw [← c.ids, List.forall₂_map_left_iff]
    have members := (List.forall₂_and_left known _).mpr ⟨fun _ member => member, projections⟩
    refine (forall₂_comp members each).imp ?_
    rintro entry child ⟨call, ⟨member, projected⟩, made⟩
    rw [rootId]
    exact callSpan_ok c distinct member projected made
  constructor
  · intro partitioned
    exact (once_iff c).mp partitioned.once.1
  · intro named
    refine ⟨⟨root, children, spans, orphan, rootShows, rootLasts, childSpans⟩, ⟨counted, ?_⟩, ⟨(once_iff c).mpr named, distinct⟩,
      trace.distinct⟩
    rw [← c.ids]
    exact c.distinct

end

namespace Sample
attribute [local instance] standardSha256

/-- A ledger with one event for each draft. -/
def recorded (drafts : List EventDraft) : List LedgerEvent :=
  drafts.foldl (fun ledger draft =>
    match LedgerEvent.create (serverId "evt" ledger.length) request.runId noon draft with
    | .ok event => ledger ++ [RunLedger.chain ledger event]
    | .error _ => ledger) []

/-- An inspector of a ledger, over an empty lineage and a whole store. -/
def inspecting (ledger : List LedgerEvent) : RunInspector := ⟨fun _ => true, ledger, .fresh, []⟩

/-- A run whose call waits for its approval. -/
def waitingRun : List LedgerEvent := recorded [startDraft request, materializedDraft call, approvalRequiredDraft call]

theorem trace_partitions_waiting : ∃ trace, projectRun (inspecting waitingRun) request.runId = .ok trace ∧
    trace.spans.length = 2 ∧ Partitioned (RunLedger.forRun request.runId waitingRun) trace := by
  have passes : (projectRun (inspecting waitingRun) request.runId).toOption.any
      (fun trace => trace.spans.length = 2) = true := by decide +kernel
  obtain ⟨trace, projected, two⟩ := ok_of_any passes
  have named : ∀ e ∈ RunLedger.forRun request.runId waitingRun, e.eventType.isCall = true →
      e.metadataCallId ≠ none := by decide +kernel
  exact ⟨trace, projected, of_decide_eq_true two,
    (trace_partitions (inspecting waitingRun) request.runId trace projected).mpr named⟩

/-- A run with an execution start that does not say whose start it is. -/
def unnamedRun : List LedgerEvent :=
  recorded [startDraft request, ⟨.toolExecutionStarted, none, word "RUNNING", none, none, .none, [], []⟩]

/-- The inspector lets the start pass, and it stands in no span. -/
theorem trace_partitions_fails : ¬ ∀ (inspector : RunInspector) (runId : Identifier) (trace : RunTrace),
    projectRun inspector runId = .ok trace → Partitioned (RunLedger.forRun runId inspector.ledger) trace := by
  intro always
  have returns : (projectRun (inspecting unnamedRun) request.runId).toOption.isSome = true := by decide +kernel
  obtain ⟨trace, projected⟩ := ok_of_some returns
  have once := (always _ _ _ projected).once.1
  have lost : (rootEvents (RunLedger.forRun request.runId unnamedRun) ++
      (callIds (RunLedger.forRun request.runId unnamedRun)).flatMap
        (callEvents (RunLedger.forRun request.runId unnamedRun))).length ≠
      (RunLedger.forRun request.runId unnamedRun).length := by decide +kernel
  exact lost once.length_eq

end Sample
end Molly
