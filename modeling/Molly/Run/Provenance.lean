import Molly.Run.Approvals
import Molly.Run.Store

/-! Where the inputs of a run's calls come from: the request, or an earlier success of
the same run. -/
namespace Molly
open Effect AgentLoop

/-- The event types that carry the inputs of a call. -/
def EventType.carriesInputs : EventType → Bool
  | .toolCallMaterialized | .toolExecutionStarted | .toolExecutionSucceeded | .toolExecutionFailed => true
  | _ => false

/-- An artifact that a request declares or that an execution has produced. -/
def Provided (request : RunRequest) (es : List LedgerEvent) (id : ArtifactId) : Prop :=
  id ∈ request.inputArtifactIds.ids ∨
    ∃ e ∈ es, e.eventType = .toolExecutionSucceeded ∧ id ∈ e.outputArtifactIds.ids

theorem mem_addVisible {ids visible : List ArtifactId} {id : ArtifactId} :
    id ∈ addVisible visible ids ↔ id ∈ visible ∨ id ∈ ids := by
  induction ids generalizing visible with
  | nil => simp [addVisible]
  | cons first rest ih =>
    have step : addVisible visible (first :: rest) =
        addVisible (if first ∈ visible then visible else visible ++ [first]) rest := rfl
    rw [step, ih]
    by_cases seen : first ∈ visible
    · simp only [seen, ↓reduceIte, List.mem_cons]
      constructor
      · rintro (known | later)
        · exact Or.inl known
        · exact Or.inr (Or.inr later)
      · rintro (known | rfl | later)
        · exact Or.inl known
        · exact Or.inl seen
        · exact Or.inr later
    · simp only [seen, ↓reduceIte, List.mem_append, List.mem_cons, List.not_mem_nil, or_false, or_assoc]

/-- What a run can see is what has been provided to it. -/
theorem mem_visibleArtifacts {request : RunRequest} {es : List LedgerEvent} {id : ArtifactId} :
    id ∈ visibleArtifacts request es ↔ Provided request es id := by
  have fold (successes : List LedgerEvent) (visible : List ArtifactId) :
      id ∈ successes.foldl (fun visible event => addVisible visible event.outputArtifactIds.ids) visible ↔
        id ∈ visible ∨ ∃ e ∈ successes, id ∈ e.outputArtifactIds.ids := by
    induction successes generalizing visible with
    | nil => simp
    | cons first rest ih => simp [ih, mem_addVisible, or_assoc]
  simp only [visibleArtifacts, fold, Provided, ofType, List.mem_filter, decide_eq_true_eq, and_assoc]

section
variable [Sha256]
variable {loop : AgentLoop} {request : RunRequest} {ungated skipped : Prop} {es : List LedgerEvent}
  {m n : RunModel} {e : LedgerEvent}

/-- The call of an event: materialized no later, with the event's inputs, each of them
provided before. -/
structure Declares (request : RunRequest) (es : List LedgerEvent) (e : LedgerEvent)
    (call : MaterializedToolCall) : Prop where
  named : e.metadataCallId = some call.callId.text
  inputs : e.inputArtifactIds = call.inputArtifactIds
  provided : ∃ earlier mat later, es = earlier ++ mat :: later ∧ mat.eventType = .toolCallMaterialized ∧
    AgentLoop.materializedCall mat = .ok call ∧ ∀ id ∈ call.inputArtifactIds.ids, Provided request earlier id

/-- Every event of a call names one that the history has materialized. -/
def CallsDeclared (request : RunRequest) (es : List LedgerEvent) : Prop :=
  ∀ before e after, es = before ++ e :: after → (e.metadataCallId.isSome ∨ e.eventType.carriesInputs = true) →
    ∃ call, Declares request (before ++ [e]) e call

theorem Declares.materializedIn {call : MaterializedToolCall} (declares : Declares request es e call) :
    MaterializedIn es call := by
  obtain ⟨earlier, mat, later, split, eventType, known, _⟩ := declares.provided
  exact ⟨mat, by simp [split], eventType, known⟩

/-- The call behind a history's current one was materialized from what was visible. -/
theorem Represents.providedCurrent (r : Represents request es m) (declared : CallsDeclared request es)
    {call : MaterializedToolCall} {phase : CallPhase} (current : m.current = some (call, phase)) :
    ∃ earlier mat later, es = earlier ++ mat :: later ∧ mat.eventType = .toolCallMaterialized ∧
      AgentLoop.materializedCall mat = .ok call ∧ ∀ id ∈ call.inputArtifactIds.ids, Provided request earlier id := by
  obtain ⟨mat, member, drafted⟩ := (r.currentHistory current).materialized_mem
  have eventType : mat.eventType = .toolCallMaterialized := drafted.eventType
  obtain ⟨before, after, split⟩ := List.append_of_mem (mem_related member)
  obtain ⟨known, declares⟩ := declared before mat after split (Or.inr (by rw [eventType]; rfl))
  have here : MaterializedIn es known := by
    apply declares.materializedIn.mono
    simp [split]
  have sameId : known.callId.text = call.callId.text := by
    have named := declares.named
    rw [drafted.callId, Option.some.injEq] at named
    exact named.symm
  obtain rfl := r.call_unique here (r.materializedIn current) sameId
  obtain ⟨earlier, first, later, placed, facts⟩ := declares.provided
  refine ⟨earlier, first, later ++ after, ?_, facts⟩
  rw [split, ← List.singleton_append, ← List.append_assoc, placed]
  simp

/-- One more event of the run keeps every event's call declared. -/
theorem Legal.callsDeclared (legal : Legal loop request ungated skipped es m e n) (r : Represents request es m)
    (declared : CallsDeclared request es) : CallsDeclared request (es ++ [e]) := by
  have last (found : (e.metadataCallId.isSome ∨ e.eventType.carriesInputs = true) →
      ∃ call, Declares request (es ++ [e]) e call) : CallsDeclared request (es ++ [e]) := by
    intro before f after split carries
    rcases split_snoc split with ⟨rfl, rfl, rfl⟩ | ⟨after, rfl, earlier⟩
    · exact found carries
    · exact declared before f after earlier carries
  have ofCurrent {call : MaterializedToolCall} {phase : CallPhase} (current : m.current = some (call, phase))
      (named : e.metadataCallId = some call.callId.text) (inputs : e.inputArtifactIds = call.inputArtifactIds) :
      CallsDeclared request (es ++ [e]) := by
    apply last
    intro _
    obtain ⟨earlier, mat, later, split, facts⟩ := r.providedCurrent declared current
    exact ⟨call, named, inputs, earlier, mat, later ++ [e], by simp [split], facts⟩
  have ofRun {kind : EventType} (unnamed : e.metadataCallId = none) (eventType : e.eventType = kind)
      (plain : kind.carriesInputs = false) : CallsDeclared request (es ++ [e]) := by
    apply last
    rintro (named | carries)
    · rw [unnamed] at named
      contradiction
    · rw [eventType, plain] at carries
      contradiction
  cases legal with
  | start _ drafted | decision _ _ drafted | stopped _ _ drafted | review _ _ drafted
  | hardLimit _ _ _ _ _ drafted => exact ofRun (drafted.runCallId rfl) drafted.eventType rfl
  | runRejected _ _ _ drafted => exact ofRun drafted.runRejectedCallId drafted.eventType rfl
  | intent _ eventType unnamed => exact ofRun (by simp [LedgerEvent.metadataCallId, unnamed]) eventType rfl
  | required _ current drafted | recorded _ current _ drafted | rejection _ _ current _ drafted
  | started _ current _ drafted | resumed _ current _ drafted | succeeded _ _ _ current _ drafted
  | failed _ _ current drafted => exact ofCurrent current drafted.callId drafted.inputs
  | materialized _ admitted drafted =>
    apply last
    intro _
    refine ⟨_, drafted.callId, drafted.inputs, es, e, [], rfl, drafted.eventType, drafted.materializedCall, ?_⟩
    intro id member
    exact mem_visibleArtifacts.mp (admitted.visible id member)

theorem History.callsDeclared (history : History loop request ungated skipped es m) : CallsDeclared request es := by
  induction history with
  | empty =>
    intro before e after split
    simp at split
  | snoc history legal ih => exact legal.callsDeclared history.represents ih

/-- The provenance of a run's inputs. -/
structure RunScoped (request : RunRequest) (es : List LedgerEvent) : Prop where
  provided : ∀ before e after, es = before ++ e :: after → e.eventType.carriesInputs = true →
    ∃ earlier mat later call, before ++ [e] = earlier ++ mat :: later ∧ mat.eventType = .toolCallMaterialized ∧
      AgentLoop.materializedCall mat = .ok call ∧ e.metadataCallId = some call.callId.text ∧
      ∀ id ∈ e.inputArtifactIds.ids, Provided request earlier id
  agreed : ∀ p ∈ es, ∀ q ∈ es, ∀ callId, p.metadataCallId = some callId → q.metadataCallId = some callId →
    p.inputArtifactIds = q.inputArtifactIds

theorem History.runScoped (history : History loop request ungated skipped es m) : RunScoped request es := by
  have declared := history.callsDeclared
  constructor
  · intro before e after split carries
    obtain ⟨call, declares⟩ := declared before e after split (Or.inr carries)
    obtain ⟨earlier, mat, later, placed, eventType, known, provided⟩ := declares.provided
    refine ⟨earlier, mat, later, call, placed, eventType, known, declares.named, ?_⟩
    rw [declares.inputs]
    exact provided
  · have callOf : ∀ p ∈ es, ∀ callId, p.metadataCallId = some callId → ∃ call, MaterializedIn es call ∧
        call.callId.text = callId ∧ p.inputArtifactIds = call.inputArtifactIds := by
      intro p member callId named
      obtain ⟨before, after, split⟩ := List.append_of_mem member
      obtain ⟨call, declares⟩ := declared before p after split (Or.inl (by simp [named]))
      have same := declares.named
      rw [named, Option.some.injEq] at same
      refine ⟨call, ?_, same.symm, declares.inputs⟩
      apply declares.materializedIn.mono
      simp [split]
    intro p left q right callId named also
    obtain ⟨a, here, rfl, inputs⟩ := callOf p left callId named
    obtain ⟨b, there, same, others⟩ := callOf q right _ also
    obtain rfl := history.represents.call_unique here there same.symm
    rw [inputs, others]

/-- The inputs of a run's events are the run's own, and a tool reads the stored bytes of
the inputs that its started call declares. -/
theorem run_scoped_provenance [JsonSchema] {site : Site} (reachable : Reachable loop request (fun _ => True) site) :
    RunScoped request (RunLedger.forRun request.runId site.world.ledger) ∧
    ∀ spec context next, site.posture = .driving (.call (.execute spec context) next) →
      ∀ memory after artifactId bytes v u,
        Steps World.machine (context.readArtifact artifactId memory) v (.ret (.ok bytes, after)) u →
        ∃ e ∈ RunLedger.forRun request.runId site.world.ledger, e.eventType = .toolExecutionStarted ∧
          e.metadataCallId = some context.callId.text ∧ ∃ id ∈ e.inputArtifactIds.ids, id.text = artifactId ∧
            v.objects id.digest = some bytes ∧ sha256Bytes bytes = id.digest := by
  have sound := reachable.sound diesAtRest_anywhere
  constructor
  · obtain ⟨m, history⟩ := sound.history
    exact history.runScoped
  · intro spec context next posture memory after artifactId bytes v u steps
    obtain ⟨s, tracks, situation⟩ := sound
    rw [posture] at situation
    obtain ⟨_, kept⟩ := situation
    obtain ⟨m, call, approval, history, current, rfl, _⟩ := kept.1
    have same : s.events request = RunLedger.forRun request.runId site.world.ledger := by
      simp only [DriverState.events, tracks.ledger]
    rw [same] at history
    have represents := history.represents
    -- the start of the call carries the inputs of its materialization
    have one := represents.starts current
    obtain ⟨e, single⟩ := List.length_eq_one_iff.mp one
    have found : e ∈ ofType .toolExecutionStarted (related _ call) := single ▸ List.mem_singleton_self e
    simp only [ofType, related, List.mem_filter, decide_eq_true_eq] at found
    obtain ⟨⟨member, named⟩, eventType⟩ := found
    obtain ⟨mat, there, drafted⟩ := (represents.currentHistory current).materialized_mem
    have inputs : e.inputArtifactIds = call.inputArtifactIds := by
      rw [history.runScoped.agreed e member mat (mem_related there) _ named drafted.callId]
      exact drafted.inputs
    obtain ⟨_, id, declared, text, stored, digest⟩ :=
      (still v).keeps_returns steps rfl ((still_reading v).readArtifact (contextOf call) artifactId)
    refine ⟨e, member, eventType, named, id, ?_, text, stored, digest⟩
    rw [inputs]
    exact declared

end

/-! ### A deployment with one tool, which copies artifacts -/

namespace Sample
attribute [local instance] standardSha256 noSchema

def copy : ToolSpec := ⟨word "copy", word "1" isIdentifier_one, "copy", .empty, .empty, .localArtifact, false, none, by decide +kernel⟩

def copier : AgentLoop := ⟨⟨[copy], by decide +kernel⟩, ⟨[word "copy"], [.localArtifact], []⟩⟩

def original : ArtifactId := ⟨sha256Bytes [1]⟩

def copying : RunRequest :=
  ⟨word "run_2", "copy it", ⟨[original], List.nodup_singleton _⟩, copier.policy.policyDigest, noon, .empty, none,
    by decide +kernel⟩

def stored (content : Bytes) : ArtifactRecord :=
  ⟨⟨sha256Bytes content⟩, "text/plain", none, none, content.length, noon, by decide +kernel, by decide +kernel⟩

/-- A store that holds the original. -/
def stocked : World :=
  ⟨[], [], fun d => if d = original.digest then some [1] else none,
    fun d => if d = original.digest then some (.record (stored [1])) else none, []⟩

theorem stocked_untouched : Untouched copying.runId stocked := by
  constructor <;> simp [stocked]

/-- The provider proposes a copy, and the executor returns it and a stamp. -/
def copyingOnce : Script :=
  ⟨noon, eventIds 0 2 ++ [serverId "step" 0, serverId "call" 0] ++ eventIds 2 6,
    [.action (.toolCall ⟨word "copy", proposal.arguments, ⟨[original], List.nodup_singleton _⟩, .empty⟩), .stopIteration],
    [.returned .null [⟨[1], "text/plain", none, none⟩, ⟨[2], "text/plain", none, none⟩]]⟩

theorem copies (mayDie : World → Prop) (moves : List Move) (check : Site → Bool)
    (dies : Move.die ∈ moves → ∀ w, mayDie w)
    (played : ((Site.play copier copying moves ⟨.resting .fresh, stocked⟩).any check) = true) :
    ∃ site, Reachable copier copying mayDie site ∧ check site = true :=
  Site.reaches stocked_untouched dies played

def copyRun (site : Site) : List LedgerEvent := RunLedger.forRun copying.runId site.world.ledger

/-- The executor is called, and could read the original. -/
def readsOriginal (site : Site) : Bool :=
  match site.posture with
  | .driving (.call (.execute _ context) _) =>
    match World.follow 9 (context.readArtifact original.text .fresh) site.world copyingOnce with
    | some (.ret (.ok bytes, _), _) => bytes = [1]
    | _ => false
  | _ => false

/-- The executor of a started call, about to read the original. -/
theorem run_scoped_provenance_copying : ∃ site, RunScoped copying (copyRun site) ∧ ∃ e ∈ copyRun site,
    e.eventType = .toolExecutionStarted ∧ ∃ id ∈ e.inputArtifactIds.ids, id.text = original.text ∧
      sha256Bytes [1] = id.digest := by
  obtain ⟨site, reachable, reads⟩ := copies (fun _ => True)
    [.invoke 3 none, .requests 29 copyingOnce] readsOriginal (by simp) (by decide +kernel)
  obtain ⟨within, executing⟩ := run_scoped_provenance reachable
  refine ⟨site, within, ?_⟩
  simp only [readsOriginal] at reads
  split at reads
  · rename_i spec context next posture
    split at reads
    · rename_i bytes after t followed
      obtain rfl : bytes = [1] := of_decide_eq_true reads
      obtain ⟨e, member, eventType, _, id, declared, text, _, digest⟩ :=
        executing spec context next posture _ _ _ _ _ _ (World.steps_of_follow followed)
      exact ⟨e, member, eventType, id, declared, text, digest⟩
    · contradiction
  · contradiction

end Sample
end Molly
