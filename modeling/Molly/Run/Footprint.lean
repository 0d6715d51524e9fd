import Molly.Run.Projection

/-! The requests each operation can make: the store and the lineage never touch the
ledger, and only the head of a turn reads it afresh. -/
namespace Molly
open Effect

/-- Requests that neither change the ledger nor leave the loop. -/
def Op.Quiet : Op → Prop
  | .snapshot | .appendEvent _ | .nextAction _ _ | .execute _ _ => False
  | _ => True

/-- Requests other than the read at the head of a turn. -/
def Op.Inner : Op → Prop
  | .snapshot => False
  | _ => True

section
variable {allowed : Op → Prop}

theorem only_request {op : Op} (permitted : allowed op) : (request op).Only (S := host) allowed :=
  Task.only_ask permitted

/-- A computation over the values of another. -/
theorem only_then {m : Process α} {f : α → Process β} (first : m.Only allowed)
    (rest : ∀ value, (f value).Only allowed) : (m >>= f).Only allowed := Task.only_bind first rest

theorem only_guard {c : Prop} [Decidable c] {m n : Process α} (yes : m.Only allowed) (no : n.Only allowed) :
    (if c then m else n).Only allowed := by
  split
  · exact yes
  · exact no

end

namespace ArtifactStore
variable [Sha256]

theorem readVerifiedBytes_quiet (d : Digest) : (readVerifiedBytes d).Only Op.Quiet := by
  refine only_then (only_request trivial) fun reply => ?_
  cases reply with
  | none => exact Task.only_throw _
  | some payload => exact only_guard (Task.only_throw _) (Task.only_pure _)

omit [Sha256] in
theorem readRecord_quiet (d : Digest) : (readRecord d).Only Op.Quiet := by
  refine only_then (only_request trivial) fun reply => ?_
  rcases reply with _ | (record | _)
  · exact Task.only_throw _
  · exact Task.only_pure _
  · exact Task.only_throw _

theorem existingRecord_quiet (record : ArtifactRecord) : (existingRecord record).Only Op.Quiet := by
  refine only_then (readRecord_quiet _) fun existing => only_then (Task.only_ofExcept _) fun _ => ?_
  exact only_then (readVerifiedBytes_quiet _) fun _ => only_guard (Task.only_throw _) (Task.only_pure _)

theorem publishObject_quiet (d : Digest) (payload : Bytes) : (publishObject d payload).Only Op.Quiet := by
  refine only_then (only_request trivial) fun reply => ?_
  cases reply with
  | none => exact only_then (only_request trivial) fun _ => readVerifiedBytes_quiet _
  | some _ => exact readVerifiedBytes_quiet _

theorem put_quiet (draft : ArtifactDraft) : (put draft).Only Op.Quiet := by
  refine only_then (only_request trivial) fun _ => only_then (Task.only_ofExcept _) fun record => ?_
  refine only_then (publishObject_quiet _ _) fun _ => only_then (only_request trivial) fun reply => ?_
  cases reply with
  | none => exact only_then (only_request trivial) fun _ => existingRecord_quiet _
  | some _ => exact existingRecord_quiet _

theorem verify_quiet (id : ArtifactId) : (verify id).Only Op.Quiet := by
  refine only_then (readRecord_quiet _) fun record => only_guard (Task.only_throw _) ?_
  exact only_then (readVerifiedBytes_quiet _) fun _ => only_guard (Task.only_throw _) (Task.only_pure _)

theorem verifyAll_quiet : ∀ ids : List ArtifactId, (verifyAll ids).Only Op.Quiet
  | [] => Task.only_pure _
  | id :: ids => only_then (verify_quiet id) fun _ => verifyAll_quiet ids

theorem putAll_quiet : ∀ drafts : List ArtifactDraft, (putAll drafts).Only Op.Quiet
  | [] => Task.only_pure _
  | draft :: drafts => only_then (put_quiet draft) fun _ => only_then (putAll_quiet drafts) fun _ =>
      Task.only_pure _

end ArtifactStore

namespace ArtifactLineage

theorem registerIdentity_quiet (id : Reference) : (registerIdentity id).Only Op.Quiet := by
  have hydrate : hydratePersistedIdentities.Only Op.Quiet :=
    only_then Task.only_memory fun _ => only_guard (Task.only_pure _)
      (only_then (only_request trivial) fun _ => Task.only_remember _)
  exact only_then hydrate fun _ => only_then Task.only_memory fun _ => Task.only_remember _

theorem addRelationIdempotent_quiet (relationType : RelationType) (subject object : Reference)
    (relationId : Identifier) (createdAt : Timestamp) (metadata : Fields) :
    (addRelationIdempotent relationType subject object relationId createdAt metadata).Only Op.Quiet := by
  have reading : relations.Only Op.Quiet :=
    only_then Task.only_memory fun _ => only_then (only_request trivial) fun _ => Task.only_ofExcept _
  have adding (candidate : LineageRelation) : (addRelation candidate).Only Op.Quiet :=
    only_then Task.only_memory fun _ => only_then (Task.only_ofExcept _) fun _ =>
      only_then (only_request trivial) fun _ => Task.only_ofExcept _
  refine only_then (Task.only_ofExcept _) fun frozen => only_then reading fun existing => ?_
  split
  · exact only_guard (Task.only_pure _) (Task.only_throw _)
  · exact adding _

end ArtifactLineage

namespace AgentLoop
variable [Sha256]

theorem addFacts_quiet (event : LedgerEvent) (callId : String) :
    ∀ facts : List (RelationType × Reference × Reference), (addFacts event callId facts).Only Op.Quiet
  | [] => Task.only_pure _
  | fact :: facts => by
    refine only_then (Task.only_tryCatch ?_ fun e => only_guard (Task.only_throw _) (Task.only_throw _))
      fun _ => addFacts_quiet event callId facts
    exact only_then (ArtifactLineage.addRelationIdempotent_quiet _ _ _ _ _ _) fun _ => Task.only_pure _

theorem registerArtifacts_quiet : ∀ ids : List ArtifactId, (registerArtifacts ids).Only Op.Quiet
  | [] => Task.only_pure _
  | id :: ids => by
    refine only_then (Task.only_tryCatch ?_ fun _ => Task.only_throw _) fun _ =>
      only_then (ArtifactLineage.registerIdentity_quiet _) fun _ => registerArtifacts_quiet ids
    exact only_then (ArtifactStore.verify_quiet id) fun _ => Task.only_pure _

theorem projectSuccess_quiet (event : LedgerEvent) : (projectSuccess event).Only Op.Quiet := by
  refine only_guard (Task.only_throw _) (only_then (Task.only_ofExcept _) fun _ => ?_)
  split
  · exact Task.only_throw _
  · exact Task.only_throw _
  · exact only_then (ArtifactLineage.registerIdentity_quiet _) fun _ =>
      only_then (registerArtifacts_quiet _) fun _ => addFacts_quiet _ _ _

theorem reconcileSuccessLineage_quiet : ∀ events : List LedgerEvent,
    (reconcileSuccessLineage events).Only Op.Quiet
  | [] => Task.only_pure _
  | event :: events => only_guard
      (only_then (projectSuccess_quiet event) fun _ => reconcileSuccessLineage_quiet events)
      (reconcileSuccessLineage_quiet events)

omit [Sha256] in
theorem validateProposalInputs_quiet [Sha256] (visible : List ArtifactId) : ∀ ids : List ArtifactId,
    (validateProposalInputs visible ids).Only Op.Quiet
  | [] => Task.only_pure _
  | id :: ids => only_guard (Task.only_throw _)
      (only_then (ArtifactStore.verify_quiet id) fun _ => validateProposalInputs_quiet visible ids)

theorem publish_quiet [JsonSchema] (spec : ToolSpec) (data : Json) (drafts : List DraftFields) :
    (publish spec data drafts).Only Op.Quiet := by
  refine only_then (Task.only_ofExcept _) fun result => only_then (Task.only_ofExcept _) fun encoded => ?_
  refine only_guard (Task.only_throw _) (only_then (Task.only_ofExcept _) fun _ => ?_)
  exact only_then (ArtifactStore.putAll_quiet _) fun _ => Task.only_pure _

theorem admitProposal_quiet [JsonSchema] (loop : AgentLoop) (request : RunRequest) (events : List LedgerEvent)
    (proposal : ToolCallProposal) : (loop.admitProposal request events proposal).Only Op.Quiet := by
  refine Task.only_tryCatch ?_ fun e => only_guard (Task.only_throw _) (Task.only_throw _)
  exact only_then (Task.only_ofExcept _) fun spec => only_then (validateProposalInputs_quiet _ _) fun _ =>
    only_then (Task.only_ofExcept _) fun _ => only_then (Task.only_ofExcept _) fun _ => Task.only_pure _

end AgentLoop
end Molly
