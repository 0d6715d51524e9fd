import Molly.Run.Invocation

/-! The histories of a state root under one run: invocations in turn, by processes that
may die between any two requests, with other runs at work between processes. -/
namespace Molly
open Effect AgentLoop

/-- The process of a run, between two invocations or inside one. -/
inductive Posture where
  | resting (memory : LineageMemory)
  | driving (program : Prog host (Except PyError (Option RunResult) × LineageMemory))

structure Site where
  posture : Posture
  world : World

/-- The success event that a relation was projected from. -/
def LineageRelation.successEventId (r : LineageRelation) : Option String :=
  match r.metadata.get "success_event_id" with
  | some (.str id) => some id
  | _ => none

/-- What happens to the state root while no process of the run lives. -/
structure Elsewhere (runId : Identifier) (w t : World) : Prop where
  ledger : ∃ more, t.ledger = w.ledger ++ more ∧ ∀ e ∈ more, e.runId ≠ runId
  events : (t.ledger.map (·.eventId)).Nodup
  lineage : ∃ more, t.lineage = w.lineage ++ more ∧ ∀ r ∈ more, ∀ id, r.successEventId = some id →
    ∃ e ∈ t.ledger, e.runId ≠ runId ∧ e.eventId.text = id
  relations : (t.lineage.map (·.relationId)).Nodup
  store : w.Grows t
  log : t.log = w.log

/-- A state root that knows nothing of the run. -/
structure Untouched (runId : Identifier) (w : World) : Prop where
  noEvent : ∀ e ∈ w.ledger, e.runId ≠ runId
  events : (w.ledger.map (·.eventId)).Nodup
  lineage : ∀ r ∈ w.lineage, ∀ id, r.successEventId = some id → ∃ e ∈ w.ledger, e.eventId.text = id
  relations : (w.lineage.map (·.relationId)).Nodup
  log : w.log = []

section
variable [Sha256] [JsonSchema]

/-- One step of the system. The process may die wherever `mayDie` lets it. -/
inductive Next (loop : AgentLoop) (request : RunRequest) (mayDie : World → Prop) : Site → Site → Prop where
  | invoke (fuel : Nat) (approval : Option ApprovalRecord) : Next loop request mayDie
      ⟨.resting memory, w⟩ ⟨.driving (loop.run fuel request approval memory), w⟩
  | request : World.act op w reply t → Next loop request mayDie
      ⟨.driving (.call op next), w⟩ ⟨.driving (next reply), t⟩
  | finish : Next loop request mayDie ⟨.driving (.ret (outcome, memory)), w⟩ ⟨.resting memory, w⟩
  | die : mayDie w → Next loop request mayDie ⟨.driving program, w⟩ ⟨.resting .fresh, w⟩
  | restart : Elsewhere request.runId w t → Next loop request mayDie ⟨.resting memory, w⟩ ⟨.resting .fresh, t⟩

inductive Reachable (loop : AgentLoop) (request : RunRequest) (mayDie : World → Prop) : Site → Prop where
  | start : Untouched request.runId w → Reachable loop request mayDie ⟨.resting .fresh, w⟩
  | step : Reachable loop request mayDie a → Next loop request mayDie a b → Reachable loop request mayDie b

end

/-- The calls that executors were given. -/
def executedIds (log : List Activity) : List Identifier :=
  log.filterMap fun
    | .executed callId => some callId
    | .asked => none

theorem executedIds_snoc (log : List Activity) (activity : Activity) :
    executedIds (log ++ [activity]) = executedIds log ++ executedIds [activity] := by
  simp [executedIds, List.filterMap_append]

section
variable [Sha256]
variable {loop : AgentLoop} {request : RunRequest} {ungated skipped : Prop} {es : List LedgerEvent}
  {m n : RunModel} {e : LedgerEvent}

/-- A driver's state stands for a world: every executed call has been started, and the
call it is about to hand out has not been executed. -/
structure Tracks (request : RunRequest) (w : World) (s : DriverState) : Prop where
  ledger : s.ledger = w.ledger
  once : (executedIds w.log).Nodup
  started : ∀ id ∈ executedIds w.log, ∃ e ∈ s.events request, e.eventType = .toolExecutionStarted ∧
    e.metadataCallId = some id.text
  waiting : ∀ id ∈ executedIds w.log, s.armed ≠ some id.text

/-- The start events of a call, by the phase of the call. -/
theorem Represents.starts {request : RunRequest} {call : MaterializedToolCall} {phase : CallPhase}
    (r : Represents request es m) (current : m.current = some (call, phase)) :
    (ofType .toolExecutionStarted (related es call)).length = phase.hasStarted.toNat :=
  (r.currentHistory current).facts.starts

omit [Sha256] in
theorem no_start {call : MaterializedToolCall} (none : (ofType .toolExecutionStarted (related es call)).length = 0) :
    ∀ p ∈ es, p.eventType = .toolExecutionStarted → p.metadataCallId ≠ some call.callId.text := by
  intro p member eventType named
  have found : p ∈ ofType .toolExecutionStarted (related es call) := by
    simp [ofType, related, member, eventType, named]
  rw [List.length_eq_zero_iff.mp none] at found
  contradiction

/-- A call is started only while none of its starts is in the ledger. -/
theorem Legal.unstarted (legal : Legal loop request ungated skipped es m e n) (r : Represents request es m)
    {id : String} (starts : e.eventType = .toolExecutionStarted) (named : e.metadataCallId = some id) :
    ∀ p ∈ es, p.eventType = .toolExecutionStarted → p.metadataCallId ≠ some id := by
  have fresh {call : MaterializedToolCall} {phase : CallPhase} (current : m.current = some (call, phase))
      (quiet : phase.hasStarted = false) (drafted : Drafted request (startedDraft call) e) :
      ∀ p ∈ es, p.eventType = .toolExecutionStarted → p.metadataCallId ≠ some id := by
    have same : id = call.callId.text := by
      rw [drafted.callId, Option.some.injEq] at named
      exact named.symm
    rw [same]
    apply no_start
    rw [r.starts current, quiet]
    rfl
  cases legal with
  | started _ current _ drafted => exact fresh current rfl drafted
  | resumed _ current _ drafted => exact fresh current rfl drafted
  | intent _ eventType => cases eventType.symm.trans starts
  | start _ drafted | decision _ _ drafted | stopped _ _ drafted | review _ _ drafted
  | hardLimit _ _ _ _ _ drafted | materialized _ _ drafted | required _ _ drafted | recorded _ _ _ drafted
  | rejection _ _ _ _ drafted | runRejected _ _ _ drafted | succeeded _ _ _ _ _ drafted
  | failed _ _ _ drafted => cases drafted.eventType.symm.trans starts

omit [Sha256] in
theorem forRun_append (before after : List LedgerEvent) :
    RunLedger.forRun request.runId (before ++ after) =
      RunLedger.forRun request.runId before ++ RunLedger.forRun request.runId after := by
  simp [RunLedger.forRun]

omit [Sha256] in
theorem Tracks.of_grown {w t : World} {s u : DriverState} (tracks : Tracks request w s)
    (ledger : u.ledger = t.ledger) (grown : ∃ more, t.ledger = w.ledger ++ more) (log : t.log = w.log)
    (waiting : ∀ id ∈ executedIds w.log, u.armed ≠ some id.text) : Tracks request t u := by
  obtain ⟨more, grown⟩ := grown
  refine ⟨ledger, by rw [log]; exact tracks.once, ?_, by rw [log]; exact waiting⟩
  rw [log]
  intro id member
  obtain ⟨e, found, facts⟩ := tracks.started id member
  refine ⟨e, ?_, facts⟩
  simp only [DriverState.events, RunLedger.forRun, List.mem_filter] at found ⊢
  rw [ledger, grown]
  exact ⟨List.mem_append_left _ (tracks.ledger ▸ found.1), found.2⟩

theorem FreezesIntents.grown {runId : Identifier} (frozen : FreezesIntents runId ledger after) :
    ∃ more, after = ledger ++ more := by
  induction frozen with
  | none => exact ⟨[], by simp⟩
  | append _ _ _ _ _ ih =>
    obtain ⟨more, rfl⟩ := ih
    exact ⟨more ++ _, by rw [List.append_assoc]⟩

/-- The simulation: what the host does to a world, the contract does to a driver's state. -/
theorem Tracks.act {op : Op} {w t : World} {s : DriverState} {reply : op.Reply} (tracks : Tracks request w s)
    (may : (contract loop request ungated skipped).may op s) (acted : World.act op w reply t) :
    ∃ u, DriverState.act op s reply u ∧ Tracks request t u := by
  have same : t.ledger = w.ledger → t.log = w.log → Tracks request t s := fun ledger log =>
    tracks.of_grown (tracks.ledger.trans ledger.symm) ⟨[], by simpa using ledger⟩ log tracks.waiting
  cases op with
  | snapshot | readEvents =>
    obtain ⟨rfl, rfl⟩ := acted
    exact ⟨s, ⟨tracks.ledger.symm, rfl⟩, tracks⟩
  | newId =>
    obtain ⟨stem, fresh, rfl⟩ := acted
    exact ⟨s, ⟨stem, fresh, rfl⟩, tracks⟩
  | readRelations | appendRelation | readObject | linkObject | readRecord | linkRecord =>
    obtain ⟨_, rfl⟩ := acted
    exact ⟨s, rfl, same rfl rfl⟩
  | now =>
    cases acted
    exact ⟨s, rfl, tracks⟩
  | appendEvent event =>
    obtain ⟨rfl, rfl⟩ := acted
    obtain ⟨_, m, n, history, legal⟩ := may
    refine ⟨⟨s.ledger ++ appended (RunLedger.append s.ledger event), DriverState.arms event⟩,
      ⟨by rw [tracks.ledger], by rw [tracks.ledger]⟩, ?_⟩
    refine tracks.of_grown (by rw [tracks.ledger]) ⟨_, rfl⟩ rfl ?_
    intro id executed armed
    obtain ⟨p, member, eventType, named⟩ := tracks.started id executed
    simp only [DriverState.arms] at armed
    split at armed
    · rename_i starts
      exact legal.unstarted history.represents starts armed p member eventType named
    · contradiction
  | nextAction context tools =>
    obtain ⟨frozen, _, _, log⟩ := acted
    refine ⟨⟨t.ledger, none⟩, ⟨by rw [tracks.ledger]; exact frozen, rfl⟩, rfl, ?_, ?_, by simp⟩
    · rw [log, executedIds_snoc]
      simpa [executedIds] using tracks.once
    · rw [log, executedIds_snoc]
      intro id member
      obtain ⟨e, found, facts⟩ := tracks.started id (by simpa [executedIds] using member)
      obtain ⟨more, grown⟩ := frozen.grown
      refine ⟨e, ?_, facts⟩
      simp only [DriverState.events, RunLedger.forRun, List.mem_filter] at found ⊢
      rw [grown]
      exact ⟨List.mem_append_left _ (tracks.ledger ▸ found.1), found.2⟩
  | execute spec context =>
    obtain ⟨ledger, _, _, log⟩ := acted
    obtain ⟨m, call, approval, history, current, rfl, armed⟩ := may
    have unexecuted : call.callId ∉ executedIds w.log := fun executed => tracks.waiting _ executed armed
    refine ⟨{ s with armed := none }, rfl, tracks.ledger.trans ledger.symm, ?_, ?_, by simp⟩
    · rw [log, executedIds_snoc]
      have apart : ∀ id ∈ executedIds w.log, id ≠ call.callId := fun id member same => unexecuted (same ▸ member)
      refine List.nodup_append.mpr ⟨tracks.once, by simp [executedIds], ?_⟩
      intro id member other same
      obtain rfl : other = call.callId := by simpa [executedIds, contextOf] using same
      exact apart id member
    · rw [log, executedIds_snoc]
      intro id member
      rcases List.mem_append.mp member with member | member
      · exact tracks.started id member
      · obtain rfl : id = call.callId := by simpa [executedIds, contextOf] using member
        have one := history.represents.starts current
        obtain ⟨e, single⟩ := List.length_eq_one_iff.mp one
        have found : e ∈ ofType .toolExecutionStarted (related (s.events request) call) := by simp [single]
        simp only [ofType, related, List.mem_filter, decide_eq_true_eq] at found
        exact ⟨e, found.1.1, found.2, found.1.2⟩

/-- The simulation along a run: the contract that holds at its start holds at its end. -/
theorem Tracks.steps {α : Type} {post : α → DriverState → Prop} {p q : Prog host α} {w t : World}
    (steps : Steps World.machine p w q t) : ∀ {s : DriverState}, Tracks request w s →
    (contract loop request ungated skipped).inv s → (contract loop request ungated skipped).Keeps post p s →
    ∃ u, Tracks request t u ∧ (contract loop request ungated skipped).inv u ∧
      (contract loop request ungated skipped).Keeps post q u := by
  induction steps with
  | refl =>
    intro s tracks holds kept
    exact ⟨s, tracks, holds, kept⟩
  | step acted _ ih =>
    intro s tracks holds kept
    obtain ⟨u, did, tracked⟩ := tracks.act kept.1 acted
    obtain ⟨next, rest⟩ := kept.2 _ _ did
    exact ih tracked next rest

/-! ### Soundness of every site -/

/-- What every reachable site satisfies. -/
def Site.Sound (loop : AgentLoop) (request : RunRequest) (ungated skipped : Prop) (site : Site) : Prop :=
  ∃ s, Tracks request site.world s ∧
    match site.posture with
    | .resting _ => Rests loop request ungated skipped s
    | .driving program => (contract loop request ungated skipped).inv s ∧
        (contract loop request ungated skipped).Keeps (Task.outcome
          (Finished loop request ungated skipped False) fun _ _ t => Rests loop request ungated skipped t) program s

theorem Site.Sound.history {site : Site} (sound : site.Sound loop request ungated skipped) :
    ∃ m, History loop request ungated skipped (RunLedger.forRun request.runId site.world.ledger) m := by
  obtain ⟨s, tracks, situation⟩ := sound
  have same : s.events request = RunLedger.forRun request.runId site.world.ledger := by
    simp only [DriverState.events, tracks.ledger]
  rw [← same]
  obtain ⟨posture, world⟩ := site
  cases posture with
  | resting memory =>
    obtain ⟨m, history, _⟩ := situation
    exact ⟨m, history⟩
  | driving program => exact situation.1

/-- The process dies only where an invocation may end. -/
def DiesAtRest (loop : AgentLoop) (request : RunRequest) (ungated skipped : Prop) (mayDie : World → Prop) : Prop :=
  ∀ w m, mayDie w → History loop request ungated skipped (RunLedger.forRun request.runId w.ledger) m →
    m.Ready loop ungated skipped

theorem Site.Sound.next [JsonSchema] {mayDie : World → Prop} (dies : DiesAtRest loop request ungated skipped mayDie)
    {a b : Site} (next : Next loop request mayDie a b) (sound : a.Sound loop request ungated skipped) :
    b.Sound loop request ungated skipped := by
  obtain ⟨s, tracks, situation⟩ := sound
  cases next with
  | invoke fuel approval =>
    refine ⟨s, tracks, ?_, ?_⟩
    · obtain ⟨m, history, _⟩ := situation
      exact ⟨m, history⟩
    · refine Discipline.runs_mono _ (run_runs situation) ?_ fun _ _ _ rests => rests
      intro r memory t finished
      cases r with
      | some r => exact finished
      | none => exact ⟨id, finished.2⟩
  | request acted =>
    obtain ⟨_, kept⟩ := situation
    obtain ⟨u, did, tracked⟩ := tracks.act kept.1 acted
    obtain ⟨holds, rest⟩ := kept.2 _ _ did
    exact ⟨u, tracked, holds, rest⟩
  | @finish outcome memory w =>
    refine ⟨s, tracks, ?_⟩
    obtain ⟨_, kept⟩ := situation
    rcases outcome with error | (_ | r)
    · exact kept
    · exact kept.2
    · exact kept.rests
  | die allowed =>
    obtain ⟨⟨m, history⟩, _⟩ := situation
    refine ⟨s, tracks, m, history, ?_⟩
    apply dies _ m allowed
    rw [← tracks.ledger]
    exact history
  | @restart w t memory elsewhere =>
    obtain ⟨more, grown, others⟩ := elsewhere.ledger
    have none : RunLedger.forRun request.runId more = [] := by
      simp only [RunLedger.forRun, List.filter_eq_nil_iff, decide_eq_true_eq]
      exact others
    have same : DriverState.events request ⟨t.ledger, s.armed⟩ = s.events request := by
      simp only [DriverState.events, tracks.ledger, grown, forRun_append, none, List.append_nil]
    refine ⟨⟨t.ledger, s.armed⟩, tracks.of_grown rfl ⟨more, grown⟩ elsewhere.log tracks.waiting, ?_⟩
    obtain ⟨m, history, ready⟩ := situation
    refine ⟨m, ?_, ready⟩
    rw [same]
    exact history

theorem diesAtRest_anywhere : DiesAtRest loop request True True fun _ => True :=
  fun _ _ _ _ => ⟨fun _ _ _ _ => trivial, fun _ _ => trivial⟩

/-- The run lemma of the system. -/
theorem Reachable.sound [JsonSchema] {mayDie : World → Prop} {site : Site}
    (reachable : Reachable loop request mayDie site) (dies : DiesAtRest loop request ungated skipped mayDie) :
    site.Sound loop request ungated skipped := by
  induction reachable with
  | @start w untouched =>
    have none : RunLedger.forRun request.runId w.ledger = [] := by
      simp only [RunLedger.forRun, List.filter_eq_nil_iff, decide_eq_true_eq]
      exact untouched.noEvent
    refine ⟨⟨w.ledger, .none⟩, ⟨rfl, ?_, ?_, ?_⟩, .unbegun, ?_, ?_⟩
    · simp [untouched.log, executedIds]
    · simp [untouched.log, executedIds]
    · simp [untouched.log, executedIds]
    · simp only [DriverState.events, none]
      exact .empty
    · refine ⟨fun _ call current => by contradiction, ?_⟩
      rintro _ ⟨_, _, member, _⟩
      exact absurd member List.not_mem_nil
  | step _ next ih => exact ih.next dies next

/-! ### Scripted histories -/

/-- One stretch of a history, with the choices the host makes in it. -/
inductive Move where
  | invoke (fuel : Nat) (approval : Option ApprovalRecord)
  | requests (steps : Nat) (script : Script)
  | finish
  | die

namespace Site
variable [JsonSchema]

/-- A site after one stretch; nothing when the stretch does not apply. -/
def move (loop : AgentLoop) (request : RunRequest) : Move → Site → Option Site
  | .invoke fuel approval, ⟨.resting memory, w⟩ => some ⟨.driving (loop.run fuel request approval memory), w⟩
  | .requests steps script, ⟨.driving program, w⟩ =>
    (World.follow steps program w script).map fun (program, w) => ⟨.driving program, w⟩
  | .finish, ⟨.driving (.ret (_, memory)), w⟩ => some ⟨.resting memory, w⟩
  | .die, ⟨.driving _, w⟩ => some ⟨.resting .fresh, w⟩
  | _, _ => none

def play (loop : AgentLoop) (request : RunRequest) : List Move → Site → Option Site
  | [], site => some site
  | first :: moves, site => (site.move loop request first).bind (play loop request moves)

theorem reachable_of_steps {mayDie : World → Prop} {p q : Prog host (Except PyError (Option RunResult) × LineageMemory)}
    {w t : World} (steps : Steps World.machine p w q t)
    (reachable : Reachable loop request mayDie ⟨.driving p, w⟩) : Reachable loop request mayDie ⟨.driving q, t⟩ := by
  induction steps with
  | refl => exact reachable
  | step acted _ ih => exact ih (reachable.step (.request acted))

/-- A stretch that kills the process needs leave to do so. -/
theorem reachable_of_move {mayDie : World → Prop} {first : Move} {a b : Site}
    (dies : first = .die → ∀ w, mayDie w) (reachable : Reachable loop request mayDie a)
    (moved : a.move loop request first = some b) : Reachable loop request mayDie b := by
  obtain ⟨posture, w⟩ := a
  cases first with
  | invoke fuel approval =>
    cases posture with
    | resting memory =>
      cases moved
      exact reachable.step (.invoke fuel approval)
    | driving program => contradiction
  | requests steps script =>
    cases posture with
    | resting memory => contradiction
    | driving program =>
      simp only [move, Option.map_eq_some_iff] at moved
      obtain ⟨⟨q, t⟩, followed, rfl⟩ := moved
      exact reachable_of_steps (World.steps_of_follow followed) reachable
  | finish =>
    cases posture with
    | resting memory => contradiction
    | driving program =>
      cases program with
      | ret value =>
        cases moved
        exact reachable.step .finish
      | call op next => contradiction
  | die =>
    cases posture with
    | resting memory => contradiction
    | driving program =>
      cases moved
      exact reachable.step (.die (dies rfl w))

theorem reachable_of_play {mayDie : World → Prop} {moves : List Move} {a b : Site}
    (dies : Move.die ∈ moves → ∀ w, mayDie w) (reachable : Reachable loop request mayDie a)
    (played : a.play loop request moves = some b) : Reachable loop request mayDie b := by
  induction moves generalizing a with
  | nil =>
    cases played
    exact reachable
  | cons first moves ih =>
    simp only [play, Option.bind_eq_some_iff] at played
    obtain ⟨next, moved, rest⟩ := played
    refine ih (fun later => dies (List.mem_cons_of_mem _ later)) ?_ rest
    exact reachable_of_move (fun same => dies (same ▸ List.mem_cons_self)) reachable moved

/-- A scripted history reaches a site that passes a check. -/
theorem reaches {mayDie : World → Prop} {moves : List Move} {check : Site → Bool} {w : World}
    (untouched : Untouched request.runId w) (dies : Move.die ∈ moves → ∀ w, mayDie w)
    (played : ((Site.play loop request moves ⟨.resting .fresh, w⟩).any check) = true) :
    ∃ site, Reachable loop request mayDie site ∧ check site = true := by
  cases reached : Site.play loop request moves ⟨.resting .fresh, w⟩ with
  | none =>
    rw [reached] at played
    contradiction
  | some site =>
    rw [reached] at played
    exact ⟨site, reachable_of_play dies (.start untouched) reached, played⟩

end Site
end

/-! ### A deployment with one tool, which needs approval -/

namespace Sample

/-- Validation by schemas without constraints. -/
@[reducible] def noSchema : JsonSchema := ⟨fun _ _ => none⟩

attribute [local instance] standardSha256 noSchema

def erase : ToolSpec :=
  ⟨word "erase", word "1" isIdentifier_one, "erase", .empty, .empty, .externalWrite, true, none, by decide +kernel⟩

def loop : AgentLoop := ⟨⟨[erase], by decide +kernel⟩, ⟨[word "erase"], [.externalWrite], []⟩⟩

def noon : Timestamp := ⟨2025, 1, 1, 12, 0, 0, 0, by decide⟩

def request : RunRequest :=
  ⟨word "run_erase", "erase it", .none, loop.policy.policyDigest, noon, .empty, none, by decide +kernel⟩

def proposal : ToolCallProposal := ⟨word "erase", ⟨.empty, rfl⟩, .none, .empty⟩

def empty : World := ⟨[], [], fun _ => none, fun _ => none, []⟩

theorem empty_untouched : Untouched request.runId empty := by
  constructor <;> simp [empty]

/-- The n-th server identifier of a kind. -/
def serverId (stem : String) (n : Nat) : Identifier :=
  let text := stem ++ "_" ++ String.ofList (List.replicate 31 '0' ++ [hexDigit n])
  if valid : isIdentifier text = true then ⟨text, valid⟩ else word "invalid"

def eventIds (first count : Nat) : List Identifier := (List.range' first count).map (serverId "evt")

/-- The call that the server mints first for the proposal. -/
def call : MaterializedToolCall :=
  ⟨request.runId, serverId "step" 0, serverId "call" 0, word "erase", word "1" isIdentifier_one, erase.specDigest,
    request.toolPolicyDigest, ⟨.empty, rfl⟩, .none, noon, .empty⟩

def approval (decision : ApprovalDecision) : ApprovalRecord :=
  ⟨word "approval_1", call.digest, decision, (word "operator").reference, noon⟩

/-- The provider proposes the call. -/
def proposing : Script :=
  ⟨noon, eventIds 0 2 ++ [serverId "step" 0, serverId "call" 0] ++ eventIds 2 2, [.action (.toolCall proposal)], []⟩

/-- The provider has nothing more to propose, and executors return no artifact. -/
def resuming (first : Nat) : Script := ⟨noon, eventIds first 8, [.stopIteration], [.returned .null []]⟩

/-- A scripted history of the deployment reaches a site that passes a check. -/
theorem reaches (mayDie : World → Prop) (moves : List Move) (check : Site → Bool)
    (dies : Move.die ∈ moves → ∀ w, mayDie w)
    (played : ((Site.play loop request moves ⟨.resting .fresh, empty⟩).any check) = true) :
    ∃ site, Reachable loop request mayDie site ∧ check site = true :=
  Site.reaches empty_untouched dies played

/-- The events of a site's run. -/
def runOf (site : Site) : List LedgerEvent := RunLedger.forRun request.runId site.world.ledger

def starts (e : LedgerEvent) : Bool :=
  e.eventType = .toolExecutionStarted && e.metadataCallId = some call.callId.text

/-- The proposed call waits, is approved and is executed; the process lives. -/
def approvedMoves : List Move :=
  [.invoke 3 none, .requests 40 proposing, .finish, .invoke 3 (some (approval .approved)), .requests 60 (resuming 4),
    .finish]

def isResting (site : Site) : Bool :=
  match site.posture with
  | .resting _ => true
  | .driving _ => false

/-- A site at rest behind the execution of the approved call. -/
theorem reaches_approved (mayDie : World → Prop) :
    ∃ site, Reachable loop request mayDie site ∧ isResting site = true ∧ (runOf site).any starts = true := by
  obtain ⟨site, reachable, passed⟩ := reaches mayDie approvedMoves
    (fun site => isResting site && (runOf site).any starts) (by simp [approvedMoves]) (by decide +kernel)
  rw [Bool.and_eq_true] at passed
  exact ⟨site, reachable, passed⟩

end Sample
end Molly
