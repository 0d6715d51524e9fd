import Molly.Core.AgentLoop

/-! The state root that processes share, what it answers to each request, and the
histories of one run: invocations in turn, by one process at a time, each of which may
die between any two requests. -/
namespace Molly
open Effect

/-- The calls out of the loop, in order. -/
inductive Activity where
  | asked
  | executed (callId : Identifier)
  deriving DecidableEq

structure World where
  ledger : List LedgerEvent
  lineage : List LineageRelation
  objects : Digest → Option Bytes
  records : Digest → Option RecordFile
  log : List Activity

/-- Nothing that is stored is ever replaced. -/
structure World.Grows (w t : World) : Prop where
  objects : ∀ d payload, w.objects d = some payload → t.objects d = some payload
  records : ∀ d file, w.records d = some file → t.records d = some file

theorem World.Grows.refl (w : World) : w.Grows w := ⟨fun _ _ same => same, fun _ _ same => same⟩

theorem World.Grows.trans {w t u : World} (first : w.Grows t) (second : t.Grows u) : w.Grows u :=
  ⟨fun d payload same => second.objects d payload (first.objects d payload same),
    fun d file same => second.records d file (first.records d file same)⟩

/-- A new identifier: the stem and 32 hexadecimal digits. -/
def isServerId (stem : String) (id : Identifier) : Bool :=
  let chars := id.text.toList
  let size := stem.toList.length
  chars.take size = stem.toList && (chars.drop size).head? = some '_' &&
    (chars.drop (size + 1)).length = 32 && (chars.drop (size + 1)).all isHexChar

/-- What a locked section leaves behind the existing lines. -/
def appended : Except PyError α → List α
  | .ok line => [line]
  | .error _ => []

/-- The appends a decision provider may make for the run it decides on. -/
inductive FreezesIntents [Sha256] (runId : Identifier) : List LedgerEvent → List LedgerEvent → Prop where
  | none : FreezesIntents runId ledger ledger
  | append : FreezesIntents runId ledger before → RunLedger.append before event = .ok persisted →
      event.runId = runId → event.eventType = .intentFrozen → event.metadata.get "call_id" = .none →
      FreezesIntents runId ledger (before ++ [persisted])

namespace World
variable [Sha256]

/-- What the host does with a request of the running process. -/
def act : (op : Op) → World → op.Reply → World → Prop
  | .snapshot, w, reply, t => reply = w.ledger ∧ t = w
  | .readEvents, w, reply, t => reply = w.ledger ∧ t = w
  | .appendEvent event, w, reply, t =>
    reply = RunLedger.append w.ledger event ∧ t = { w with ledger := w.ledger ++ appended reply }
  | .readRelations, w, reply, t => reply = w.lineage ∧ t = w
  | .appendRelation memory candidate, w, reply, t =>
    reply = ArtifactLineage.append memory w.lineage candidate ∧
      t = { w with lineage := w.lineage ++ appended reply }
  | .readObject d, w, reply, t => reply = w.objects d ∧ t = w
  | .linkObject d payload, w, reply, t =>
    reply = (w.objects d).isNone ∧
      t = { w with objects := fun k => if k = d then some ((w.objects d).getD payload) else w.objects k }
  | .readRecord d, w, reply, t => reply = w.records d ∧ t = w
  | .linkRecord d record, w, reply, t =>
    reply = (w.records d).isNone ∧
      t = { w with records := fun k => if k = d then some ((w.records d).getD (.record record)) else w.records k }
  | .now, w, _, t => t = w
  | .newId stem used, w, reply, t => isServerId stem reply = true ∧ reply.text ∉ used ∧ t = w
  | .nextAction context _, w, _, t =>
    FreezesIntents context.runId w.ledger t.ledger ∧ t.lineage = w.lineage ∧ w.Grows t ∧
      t.log = w.log ++ [.asked]
  | .execute _ context, w, _, t =>
    t.ledger = w.ledger ∧ t.lineage = w.lineage ∧ w.Grows t ∧ t.log = w.log ++ [.executed context.callId]

def machine : Machine host World := ⟨act⟩

end World

/-! ### Scripted hosts -/

/-- The host's free choices, in the order they are asked for. -/
structure Script where
  clock : Timestamp
  ids : List Identifier
  actions : List ProviderOutcome
  outcomes : List ExecutorOutcome

namespace World
variable [Sha256]

/-- The answer of a scripted host; nothing when the script has none that is allowed. -/
def answer : (op : Op) → World → Script → Option (op.Reply × World × Script)
  | .snapshot, w, s => some (w.ledger, w, s)
  | .readEvents, w, s => some (w.ledger, w, s)
  | .appendEvent event, w, s =>
    let reply := RunLedger.append w.ledger event
    some (reply, { w with ledger := w.ledger ++ appended reply }, s)
  | .readRelations, w, s => some (w.lineage, w, s)
  | .appendRelation memory candidate, w, s =>
    let reply := ArtifactLineage.append memory w.lineage candidate
    some (reply, { w with lineage := w.lineage ++ appended reply }, s)
  | .readObject d, w, s => some (w.objects d, w, s)
  | .linkObject d payload, w, s =>
    some ((w.objects d).isNone,
      { w with objects := fun k => if k = d then some ((w.objects d).getD payload) else w.objects k }, s)
  | .readRecord d, w, s => some (w.records d, w, s)
  | .linkRecord d record, w, s =>
    some ((w.records d).isNone,
      { w with records := fun k => if k = d then some ((w.records d).getD (.record record)) else w.records k }, s)
  | .now, w, s => some (s.clock, w, s)
  | .newId stem used, w, s =>
    match s.ids with
    | id :: ids =>
      if isServerId stem id && id.text ∉ used then some (id, w, { s with ids := ids }) else none
    | [] => none
  | .nextAction _ _, w, s =>
    match s.actions with
    | action :: actions => some (action, { w with log := w.log ++ [.asked] }, { s with actions := actions })
    | [] => none
  | .execute _ context, w, s =>
    match s.outcomes with
    | outcome :: outcomes =>
      some (outcome, { w with log := w.log ++ [.executed context.callId] }, { s with outcomes := outcomes })
    | [] => none

/-- A scripted host is a host. -/
theorem act_of_answer {op : Op} {w t : World} {s u : Script} {reply : op.Reply}
    (answered : answer op w s = some (reply, t, u)) : act op w reply t := by
  cases op with
  | newId stem used =>
    simp only [answer] at answered
    split at answered
    · split at answered
      · rename_i allowed
        simp only [Bool.and_eq_true, decide_eq_true_eq] at allowed
        cases answered
        exact ⟨allowed.1, allowed.2, rfl⟩
      · contradiction
    · contradiction
  | nextAction =>
    simp only [answer] at answered
    split at answered
    · cases answered
      exact ⟨.none, rfl, ⟨fun _ _ same => same, fun _ _ same => same⟩, rfl⟩
    · contradiction
  | execute =>
    simp only [answer] at answered
    split at answered
    · cases answered
      exact ⟨rfl, rfl, ⟨fun _ _ same => same, fun _ _ same => same⟩, rfl⟩
    · contradiction
  | now =>
    cases answered
    rfl
  | _ =>
    cases answered
    exact ⟨rfl, rfl⟩

/-- Run a program for at most `steps` requests. -/
def follow : (steps : Nat) → Prog host α → World → Script → Option (Prog host α × World)
  | 0, p, w, _ => some (p, w)
  | _ + 1, .ret value, w, _ => some (.ret value, w)
  | steps + 1, .call op next, w, s =>
    match answer op w s with
    | some (reply, w, s) => follow steps (next reply) w s
    | none => none

theorem steps_of_follow : ∀ {steps : Nat} {p q : Prog host α} {w t : World} {s : Script},
    follow steps p w s = some (q, t) → Steps machine p w q t
  | 0, _, _, _, _, _, followed => by
    cases followed
    exact .refl
  | _ + 1, .ret _, _, _, _, _, followed => by
    cases followed
    exact .refl
  | steps + 1, .call op next, _, _, w, s, followed => by
    simp only [follow] at followed
    split at followed
    · rename_i reply w' s' answered
      exact .step (act_of_answer answered) (steps_of_follow followed)
    · contradiction

end World
end Molly
