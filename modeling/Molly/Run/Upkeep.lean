import Molly.Run.Approvals
import Molly.Run.Reconcile

/-! Every request of an invocation keeps the custody of its run: the turns of the loop
under that discipline, and every site of the system. -/
namespace Molly
open Effect AgentLoop

section
variable [Sha256]

/-- Nothing is left to project, and the artifacts at hand are stored. -/
structure Orderly (request : RunRequest) (ids : List ArtifactId) (memory : LineageMemory) (w : World) : Prop where
  custody : Custody request w
  settled : Settled request w
  covers : memory.Covers w.lineage
  inputs : ∀ id ∈ request.inputArtifactIds.ids, w.Stored id
  stored : ∀ id ∈ ids, w.Stored id

/-- A task that leaves things in order, or raises with a memory that still covers the
lineage. -/
def Upholds (request : RunRequest) (ids : List ArtifactId) (task : Process α) : Prop :=
  ∀ memory w, Orderly request ids memory w → (custody request).Runs (fun _ => Orderly request ids)
    (fun _ m t => m.Covers t.lineage) task memory w

variable {request : RunRequest} {ids : List ArtifactId} {memory : LineageMemory} {w : World} {loop : AgentLoop}

theorem Orderly.reading (orderly : Orderly request ids memory w) : Reading (Molly.custody request) w :=
  custody_reading orderly.custody

theorem custody_storing (holds : Custody request w) : Storing (custody request) w := by
  refine ⟨id, ?_, fun t restocked => holds.grows restocked.grows restocked.ledger restocked.lineage⟩
  intro op t stores _
  cases op <;> trivial

theorem Orderly.restocked (orderly : Orderly request ids memory w) {t : World} (restocked : Restocked w t) :
    Orderly request ids memory t := by
  refine ⟨orderly.custody.grows restocked.grows restocked.ledger restocked.lineage, ?_, ?_, ?_, ?_⟩
  · intro e member success
    simp only [World.events, restocked.ledger] at member
    rw [restocked.lineage]
    exact orderly.settled e member success
  · rw [restocked.lineage]
    exact orderly.covers
  · exact fun id member => restocked.grows.stored (orderly.inputs id member)
  · exact fun id member => restocked.grows.stored (orderly.stored id member)

/-- More artifacts at hand. -/
theorem Orderly.with (orderly : Orderly request ids memory w) {more : List ArtifactId}
    (stored : ∀ id ∈ more, w.Stored id) : Orderly request more memory w :=
  ⟨orderly.custody, orderly.settled, orderly.covers, orderly.inputs, stored⟩

theorem Upholds.pure (value : α) : Upholds request ids (pure value : Process α) := fun _ _ orderly => orderly

theorem Upholds.throw (error : PyError) : Upholds request ids (throw error : Process α) :=
  fun _ _ orderly => orderly.covers

theorem Upholds.ofExcept (value : Except PyError α) : Upholds request ids (Task.ofExcept value : Process α) :=
  fun _ _ orderly => (Discipline.runs_ofExcept _).mpr ⟨fun _ _ => orderly, fun _ _ => orderly.covers⟩

theorem Upholds.bind {m : Process α} {f : α → Process β} (first : Upholds request ids m)
    (rest : ∀ value, Upholds request ids (f value)) : Upholds request ids (m >>= f) := by
  intro memory w orderly
  apply Discipline.runs_bind
  refine Discipline.runs_mono _ (first memory w orderly) ?_ fun _ _ _ covers => covers
  exact fun value m t kept => rest value m t kept

theorem Upholds.reads {op : Op} (reads : op.Reads) : Upholds request ids (Molly.request op) :=
  fun _ _ orderly => orderly.reading.ask reads fun _ _ => orderly

/-- A draft whose artifacts are at hand, and which needs no projection. -/
structure EventDraft.Plain (draft : EventDraft) (ids : List ArtifactId) : Prop where
  notSuccess : draft.eventType ≠ .toolExecutionSucceeded
  artifacts : draft.eventType.needsArtifacts = true →
    draft.inputArtifactIds.ids ⊆ ids ∧ draft.outputArtifactIds ⊆ ids

/-- What an append leaves behind: the drafted event at the end of the run. -/
theorem append_custody {draft : EventDraft} (orderly : Orderly request ids memory w)
    (artifacts : draft.eventType.needsArtifacts = true →
      draft.inputArtifactIds.ids ⊆ ids ∧ draft.outputArtifactIds ⊆ ids) :
    (custody request).Runs (fun e m t => m = memory ∧ Custody request t ∧ Drafted request draft e ∧
        t = { w with ledger := w.ledger ++ [e] } ∧ t.events request = w.events request ++ [e])
      (fun _ m t => m.Covers t.lineage) (AgentLoop.append request draft) memory w := by
  have reading := orderly.reading
  apply Discipline.runs_bind
  apply Discipline.runs_bind
  refine reading.ask (by trivial) fun events _ => ?_
  refine reading.ask (by trivial) fun eventId _ => ?_
  apply Discipline.runs_bind
  refine reading.ask (by trivial) fun timestamp _ => ?_
  apply Discipline.runs_bind
  refine (Discipline.runs_ofExcept _).mpr ⟨fun event made => ?_, fun _ _ => orderly.covers⟩
  obtain ⟨_, run, eventType, _, _, _, inputs, outputs, _⟩ := create_ok made
  have stored : event.eventType.needsArtifacts = true → ∀ id ∈ event.artifacts, w.Stored id := by
    intro needs id member
    rw [eventType] at needs
    obtain ⟨known, made⟩ := artifacts needs
    simp only [LedgerEvent.artifacts, inputs, outputs, List.mem_append] at member
    rcases member with member | member
    · exact orderly.stored id (known member)
    · exact orderly.stored id (made member)
  apply Discipline.runs_bind
  have allowed : (custody request).may (.appendEvent event) w := ⟨run, orderly.settled, orderly.inputs, stored⟩
  apply Discipline.runs_ask _ allowed
  rintro reply t ⟨rfl, rfl⟩
  have kept := custody_act (.appendEvent event) _ orderly.custody allowed ⟨rfl, rfl⟩
  refine ⟨kept, ?_⟩
  cases written : RunLedger.append w.ledger event with
  | error _ => exact orderly.covers
  | ok persisted =>
    rw [written] at kept
    obtain ⟨_, rfl⟩ := append_ok.mp written
    exact ⟨rfl, kept, Drafted.chained made w.ledger, rfl, forRun_snoc w.ledger run⟩

theorem append_orderly {draft : EventDraft} (plain : draft.Plain ids) (orderly : Orderly request ids memory w) :
    (custody request).Runs (fun e m t => Drafted request draft e ∧ t.events request = w.events request ++ [e] ∧
        Orderly request ids m t)
      (fun _ m t => m.Covers t.lineage) (AgentLoop.append request draft) memory w := by
  refine Discipline.runs_mono _ (append_custody orderly plain.artifacts) ?_ fun _ _ _ covers => covers
  rintro e m t ⟨rfl, kept, drafted, rfl, known⟩
  refine ⟨drafted, known, kept, ?_, orderly.covers, orderly.inputs, orderly.stored⟩
  unfold Settled
  rw [known]
  apply forall_snoc orderly.settled
  intro success
  exact absurd (drafted.eventType.symm.trans success) plain.notSuccess

theorem Upholds.append {draft : EventDraft} (plain : draft.Plain ids) :
    Upholds request ids (AgentLoop.append request draft) := by
  intro memory w orderly
  exact Discipline.runs_mono _ (append_orderly plain orderly) (fun _ _ _ kept => kept.2.2) fun _ _ _ covers => covers

omit [Sha256] in
theorem EventDraft.Plain.free {draft : EventDraft} (other : draft.eventType.needsArtifacts = false) :
    draft.Plain ids := by
  refine ⟨?_, ?_⟩
  · intro success
    rw [success] at other
    contradiction
  · intro needs
    rw [other] at needs
    contradiction

/-! ### Turns that execute nothing -/

theorem Upholds.result {projection : Option RunProjection} {message : String} :
    Upholds request ids (AgentLoop.result request projection message) := by
  apply Upholds.bind (.reads (by trivial))
  intro ledger
  cases projection with
  | some p => exact .ofExcept _
  | none =>
    apply Upholds.bind (.ofExcept _)
    intro p
    exact .ofExcept _

theorem Upholds.done {projection : Option RunProjection} {message : String} : Upholds request ids
    (AgentLoop.result request projection message >>= fun r => Pure.pure (Turn.done r)) :=
  .bind .result fun _ => .pure _

theorem Upholds.limit {reason : String} {counted : Nat × Nat × Nat} : Upholds request ids
    (do appendHardLimit request reason counted; return Turn.done (← AgentLoop.result request none "")) := by
  apply Upholds.bind _ fun _ => .done
  apply Upholds.bind (.reads (by trivial))
  intro ledger
  dsimp only
  split
  · exact .pure _
  · exact .bind (.append (.free rfl)) fun _ => .pure _

theorem Upholds.approvalTurn {projection : RunProjection} {pending : CallState} {approval : Option ApprovalRecord}
    {approvalResume : Bool} :
    Upholds request ids (loop.approvalTurn request projection pending approval approvalResume) := by
  apply Upholds.bind (.ofExcept _)
  intro spec
  cases approval with
  | none => exact .done
  | some approval =>
    dsimp only
    split
    · split
      · exact .throw _
      · exact .pure _
    · apply Upholds.bind
      · exact .bind (.ofExcept _) fun _ => .append (.free rfl)
      · intro recorded
        split
        · exact .bind (.append (.free rfl)) fun _ => .bind (.append (.free rfl)) fun _ => .done
        · exact .pure _

theorem invokeProvider_custody {context : RunContext} (orderly : Orderly request ids memory w)
    (run : context.runId = request.runId) :
    (custody request).Runs (fun _ => Orderly request ids) (fun _ m t => m.Covers t.lineage)
      (loop.invokeProvider context) memory w := by
  apply Discipline.runs_bind
  have allowed : (custody request).may (.nextAction context loop.registry.modelVisibleTools) w :=
    ⟨run, orderly.settled, orderly.inputs⟩
  apply Discipline.runs_ask _ allowed
  intro outcome t acted
  have kept := custody_act (.nextAction context loop.registry.modelVisibleTools) outcome orderly.custody allowed acted
  obtain ⟨frozen, lineage, grown, _⟩ := acted
  rw [run] at frozen
  have settled : Settled request t := by
    intro e member success
    rw [lineage]
    exact (orderly.custody.freezes orderly.settled orderly.inputs frozen).2 e member success
  have covers : memory.Covers t.lineage := by
    rw [lineage]
    exact orderly.covers
  have after : Orderly request ids memory t :=
    ⟨kept, settled, covers, fun id member => grown.stored (orderly.inputs id member),
      fun id member => grown.stored (orderly.stored id member)⟩
  refine ⟨kept, ?_⟩
  cases outcome with
  | action | stopIteration => exact after
  | actionError | raised => exact covers

/-! ### Execution -/

/-- The guarded block publishes what it returns. -/
theorem attempt_custody [JsonSchema] {spec executor : ToolSpec} {call : MaterializedToolCall}
    (orderly : Orderly request ids memory w) :
    (custody request).Runs (fun attempted m t => Orderly request ids m t ∧ ∀ data encoded records,
        attempted = .ok (data, encoded, records) → ∀ r ∈ records, t.Stored r.artifactId)
      (fun _ m t => m.Covers t.lineage) (attempt spec executor call) memory w := by
  apply Discipline.runs_bind
  apply Discipline.runs_ask _ trivial
  rintro outcome t ⟨ledger, lineage, grown, log⟩
  have kept := orderly.custody.grows grown ledger lineage
  have after : Orderly request ids memory t := by
    refine ⟨kept, ?_, ?_, fun id member => grown.stored (orderly.inputs id member),
      fun id member => grown.stored (orderly.stored id member)⟩
    · intro e member success
      simp only [World.events, ledger] at member
      rw [lineage]
      exact orderly.settled e member success
    · rw [lineage]
      exact orderly.covers
  refine ⟨kept, ?_⟩
  cases outcome with
  | raised typeName =>
    refine ⟨after, ?_⟩
    intro _ _ _ same
    contradiction
  | returned data drafts =>
    apply Discipline.runs_tryCatch
    apply Discipline.runs_bind
    have failed : ∀ (error : PyError) (u : World), Restocked t u →
        Orderly request ids memory u ∧ ∀ (data : Json) (encoded : Bytes) (records : List ArtifactRecord),
          (Except.error error.cls.name : Except String (Json × Bytes × List ArtifactRecord)) =
            .ok (data, encoded, records) → ∀ r ∈ records, u.Stored r.artifactId := by
      intro error u restocked
      refine ⟨after.restocked restocked, ?_⟩
      intro _ _ _ same
      contradiction
    apply Discipline.runs_bind
    refine (Discipline.runs_ofExcept _).mpr ⟨fun result _ => ?_, fun error _ => failed error t (.refl t)⟩
    apply Discipline.runs_bind
    refine (Discipline.runs_ofExcept _).mpr ⟨fun encoded _ => ?_, fun error _ => failed error t (.refl t)⟩
    split
    · exact failed _ t (.refl t)
    · apply Discipline.runs_bind
      refine (Discipline.runs_ofExcept _).mpr ⟨fun _ _ => ?_, fun error _ => failed error t (.refl t)⟩
      apply Discipline.runs_bind
      refine Discipline.runs_mono _ ((custody_storing kept).putAll result.artifacts) ?_ ?_
      · rintro records m u ⟨rfl, restocked, stored⟩
        refine ⟨after.restocked restocked, ?_⟩
        intro _ _ _ same
        cases same
        exact stored
      · rintro error m u ⟨rfl, restocked⟩
        exact failed error u restocked

/-- Executing a call whose inputs are stored projects its success before it returns. -/
theorem executeCall_custody [JsonSchema] {call : MaterializedToolCall} (sub : call.inputArtifactIds.ids ⊆ ids)
    (orderly : Orderly request ids memory w) :
    (custody request).Runs (fun _ => Orderly request ids) (fun _ m t => m.Covers t.lineage)
      (loop.executeCall request call) memory w := by
  apply Discipline.runs_bind
  refine (Discipline.runs_ofExcept _).mpr ⟨fun spec _ => ?_, fun _ _ => orderly.covers⟩
  apply Discipline.runs_bind
  refine (Discipline.runs_ofExcept _).mpr ⟨fun executor _ => ?_, fun _ _ => orderly.covers⟩
  apply Discipline.runs_bind
  refine Discipline.runs_mono _ (append_orderly (.free rfl) orderly) ?_ fun _ _ _ covers => covers
  rintro started m t ⟨_, _, orderly⟩
  apply Discipline.runs_bind
  refine Discipline.runs_mono _ (attempt_custody orderly) ?_ fun _ _ _ covers => covers
  rintro attempted m u ⟨orderly, published⟩
  cases attempted with
  | error typeName => exact Upholds.append (.free rfl) m u orderly
  | ok triple =>
    obtain ⟨data, encoded, records⟩ := triple
    have stored := published data encoded records rfl
    have atHand : Orderly request (ids ++ records.map (·.artifactId)) m u := by
      apply orderly.with
      intro id member
      rcases List.mem_append.mp member with member | member
      · exact orderly.stored id member
      · obtain ⟨record, found, rfl⟩ := List.mem_map.mp member
        exact stored record found
    apply Discipline.runs_bind
    refine Discipline.runs_mono _ (append_custody atHand ?_) ?_ fun _ _ _ covers => covers
    · intro _
      exact ⟨List.subset_append_of_subset_left _ sub, List.subset_append_right _ _⟩
    rintro success m v ⟨rfl, kept, drafted, rfl, known⟩
    have member : success ∈ World.events request { u with ledger := u.ledger ++ [success] } := by
      rw [known]
      simp
    apply Discipline.runs_bind
    refine Discipline.runs_mono _ (projectSuccess_custody kept member orderly.covers) ?_ fun _ _ _ both => both.2
    rintro _ m x ⟨kept, grown, covers, projected⟩
    refine ⟨kept, ?_, covers, fun id member => grown.grows.stored (orderly.inputs id member),
      fun id member => grown.grows.stored (orderly.stored id member)⟩
    have same : x.events request = u.events request ++ [success] := by
      rw [← known]
      simp only [World.events, grown.ledger]
    unfold Settled
    rw [same]
    refine forall_snoc (P := fun e => e.eventType = .toolExecutionSucceeded → Projected x.lineage e) ?_ fun _ => projected
    intro e there success
    exact (orderly.settled e there success).mono grown.lineage

/-! ### Turns -/

theorem executionTurn_custody [JsonSchema] {events : List LedgerEvent} {pending : CallState} {approvalResume : Bool}
    (sub : pending.call.inputArtifactIds.ids ⊆ ids) (orderly : Orderly request ids memory w) :
    (custody request).Runs (fun _ => Orderly request ids) (fun _ m t => m.Covers t.lineage)
      (loop.executionTurn request events pending approvalResume) memory w := by
  unfold AgentLoop.executionTurn
  split
  · exact Upholds.limit memory w orderly
  · apply Discipline.runs_bind
    refine Discipline.runs_mono _ (executeCall_custody sub orderly) ?_ fun _ _ _ covers => covers
    rintro success m t orderly
    split
    · exact Upholds.done m t orderly
    · exact orderly

/-- The checks of a proposal verify its inputs, whatever they find. -/
theorem admitProposal_reads [JsonSchema] {D : Discipline host World} (reading : Reading D w)
    {events : List LedgerEvent} {proposal : ToolCallProposal} :
    D.Runs (fun _ m t => Unmoved w memory m t ∧ ∀ id ∈ proposal.inputArtifactIds.ids, w.Stored id)
      (fun _ m t => Unmoved w memory m t) (loop.admitProposal request events proposal) memory w := by
  have inputs (visible ids : List ArtifactId) : D.Runs (fun _ m t => Unmoved w memory m t ∧ ∀ id ∈ ids, w.Stored id)
      (fun _ m t => Unmoved w memory m t) (validateProposalInputs visible ids) memory w := by
    induction ids with
    | nil => exact ⟨⟨rfl, rfl⟩, by simp⟩
    | cons id ids ih =>
      unfold validateProposalInputs
      split
      · exact ⟨rfl, rfl⟩
      · apply Discipline.runs_bind
        refine Discipline.runs_mono _ (reading.verify id) ?_ fun _ _ _ both => both.1
        rintro record m t ⟨⟨rfl, rfl⟩, _, stored⟩
        refine Discipline.runs_mono _ ih ?_ fun _ _ _ unmoved => unmoved
        rintro _ m u ⟨unmoved, rest⟩
        exact ⟨unmoved, List.forall_mem_cons.mpr ⟨stored, rest⟩⟩
  have failed (error : PyError) : D.Runs
      (fun _ m t => Unmoved w memory m t ∧ ∀ id ∈ proposal.inputArtifactIds.ids, w.Stored id)
      (fun _ m t => Unmoved w memory m t)
      (if error.cls.isInstance .toolContract then throw error
        else throw ⟨.toolContract, "tool proposal failed closed"⟩ : Process ToolSpec) memory w := by
    split <;> exact ⟨rfl, rfl⟩
  apply Discipline.runs_tryCatch
  apply Discipline.runs_bind
  refine (Discipline.runs_ofExcept _).mpr ⟨fun spec _ => ?_, fun error _ => failed error⟩
  apply Discipline.runs_bind
  refine Discipline.runs_mono _ (inputs _ _) ?_ ?_
  · rintro _ m t ⟨⟨rfl, rfl⟩, stored⟩
    apply Discipline.runs_bind
    refine (Discipline.runs_ofExcept _).mpr ⟨fun _ _ => ?_, fun error _ => failed error⟩
    apply Discipline.runs_bind
    refine (Discipline.runs_ofExcept _).mpr ⟨fun _ _ => ?_, fun error _ => failed error⟩
    exact ⟨⟨rfl, rfl⟩, stored⟩
  · rintro error m t ⟨rfl, rfl⟩
    exact failed error

theorem proposalTurn_custody [JsonSchema] {events : List LedgerEvent} {proposal : ToolCallProposal}
    {approvalResume : Bool} (orderly : Orderly request ids memory w) :
    (custody request).Runs (fun _ => Orderly request []) (fun _ m t => m.Covers t.lineage)
      (loop.proposalTurn request events proposal approvalResume) memory w := by
  apply Discipline.runs_bind
  refine Discipline.runs_mono _ (admitProposal_reads orderly.reading) ?_ ?_
  · rintro spec m t ⟨⟨rfl, rfl⟩, stored⟩
    have atHand := orderly.with stored
    apply Discipline.runs_bind
    -- the call takes the inputs of the proposal
    have minted : (custody request).Runs (fun call m u => call.inputArtifactIds = proposal.inputArtifactIds ∧
        Orderly request proposal.inputArtifactIds.ids m u) (fun _ m u => m.Covers u.lineage)
        (materialize request proposal spec) m t := by
      have reading := atHand.reading
      apply Discipline.runs_bind
      apply Discipline.runs_bind
      refine reading.ask (by trivial) fun _ _ => ?_
      refine reading.ask (by trivial) fun _ _ => ?_
      apply Discipline.runs_bind
      apply Discipline.runs_bind
      refine reading.ask (by trivial) fun _ _ => ?_
      refine reading.ask (by trivial) fun _ _ => ?_
      apply Discipline.runs_bind
      refine reading.ask (by trivial) fun _ _ => ?_
      exact ⟨rfl, atHand⟩
    refine Discipline.runs_mono _ minted ?_ fun _ _ _ covers => covers
    rintro call m u ⟨inputs, orderly⟩
    have sub : call.inputArtifactIds.ids ⊆ proposal.inputArtifactIds.ids := by
      rw [inputs]
      exact List.Subset.refl _
    have plain : (materializedDraft call).Plain proposal.inputArtifactIds.ids :=
      ⟨(by intro same; cases same), fun _ => ⟨sub, List.nil_subset _⟩⟩
    apply Discipline.runs_bind
    refine Discipline.runs_mono _ (Upholds.append plain m u orderly) ?_ fun _ _ _ covers => covers
    rintro materialized m v orderly
    split
    · refine Discipline.runs_mono _ (Upholds.bind (.append (.free rfl)) (fun _ => .done) m v orderly) ?_
        fun _ _ _ covers => covers
      exact fun _ _ _ kept => kept.with (by simp)
    · apply Discipline.runs_bind
      refine Discipline.runs_mono _ (executeCall_custody sub orderly) ?_ fun _ _ _ covers => covers
      exact fun _ _ _ kept => kept.with (by simp)
  · rintro error m t ⟨rfl, rfl⟩
    exact orderly.covers

theorem providerTurn_custody [JsonSchema] {events : List LedgerEvent} {approvalResume : Bool}
    (orderly : Orderly request ids memory w) :
    (custody request).Runs (fun _ => Orderly request []) (fun _ m t => m.Covers t.lineage)
      (loop.providerTurn request events approvalResume) memory w := by
  have bare : Orderly request [] memory w := orderly.with (by simp)
  unfold AgentLoop.providerTurn
  split
  · exact Upholds.limit memory w bare
  · apply Discipline.runs_bind
    refine (Discipline.runs_ofExcept _).mpr ⟨fun context made => ?_, fun _ _ => orderly.covers⟩
    apply Discipline.runs_bind
    refine Discipline.runs_mono _ (invokeProvider_custody bare (context_runId made)) ?_ fun _ _ _ covers => covers
    rintro action m t orderly
    cases action with
    | none => exact Upholds.done m t orderly
    | some action =>
      apply Discipline.runs_bind
      refine Discipline.runs_mono _ (Upholds.append (.free rfl) m t orderly) ?_ fun _ _ _ covers => covers
      rintro decision m u orderly
      cases action with
      | stop action => exact Upholds.bind (.append (.free rfl)) (fun _ => .done) m u orderly
      | requestReview action => exact Upholds.bind (.append (.free rfl)) (fun _ => .done) m u orderly
      | toolCall proposal => exact proposalTurn_custody orderly

/-! ### What the projection hands out -/

theorem materializedCall_inputs {e : LedgerEvent} {call : MaterializedToolCall}
    (known : AgentLoop.materializedCall e = .ok call) : e.inputArtifactIds = call.inputArtifactIds := by
  unfold AgentLoop.materializedCall at known
  split at known
  · rename_i raw _
    cases read : (orRaise (MaterializedToolCall.fromDict (.obj raw)) .runState
        "materialization event contains an invalid call" : Except PyError MaterializedToolCall) with
    | error _ => simp [read, bind, Except.bind] at known
    | ok found =>
      cases named : callIdForEvent e with
      | error _ => simp [read, named, bind, Except.bind] at known
      | ok callId =>
        by_contra different
        simp only [read, named, bind, Except.bind, pure, Except.pure] at known
        split at known
        · contradiction
        split at known
        · contradiction
        split at known
        · contradiction
        · rename_i same
          cases known
          exact same different
  · contradiction

theorem collectEvent_mem {e : LedgerEvent} {calls : List MaterializedToolCall} {call : MaterializedToolCall}
    (collected : collectEvent e = .ok calls) (member : call ∈ calls) :
    e.eventType = .toolCallMaterialized ∧ AgentLoop.materializedCall e = .ok call := by
  by_cases eventType : e.eventType = .toolCallMaterialized
  · refine ⟨eventType, ?_⟩
    cases known : AgentLoop.materializedCall e with
    | error _ =>
      simp [collectEvent, eventType, known, bind, Except.bind, Functor.map, Except.map] at collected
    | ok found =>
      have only : calls = [found] := by
        simp only [collectEvent, eventType, known, bind, Except.bind, Functor.map, Except.map, pure, Except.pure,
          reduceCtorEq, ↓reduceIte] at collected
        split at collected
        · split at collected
          · contradiction
          · exact (Except.ok.inj collected).symm
        · exact (Except.ok.inj collected).symm
      subst only
      rw [List.mem_singleton.mp member]
  · have none : calls = [] := by
      simp only [collectEvent, eventType, bind, Except.bind, pure, Except.pure, ↓reduceIte] at collected
      repeat' split at collected
      all_goals first
        | contradiction
        | exact (Except.ok.inj collected).symm
    rw [none] at member
    contradiction

theorem collect_mem {es : List LedgerEvent} {calls : List MaterializedToolCall} {call : MaterializedToolCall}
    (collected : collect es = .ok calls) (member : call ∈ calls) : MaterializedIn es call := by
  induction es generalizing calls with
  | nil =>
    cases collected
    contradiction
  | cons first rest ih =>
    simp only [collect, bind, Except.bind] at collected
    cases head : collectEvent first with
    | error _ => simp [head] at collected
    | ok firstCalls =>
      cases tail : collect rest with
      | error _ => simp [head, tail] at collected
      | ok restCalls =>
        simp only [head, tail, pure, Except.pure, Except.ok.injEq] at collected
        subst collected
        rcases List.mem_append.mp member with member | member
        · exact ⟨first, List.mem_cons_self, collectEvent_mem head member⟩
        · exact (ih tail member).mono (List.subset_cons_self _ _)

theorem callState_call {es : List LedgerEvent} {call : MaterializedToolCall} {state : CallState}
    (known : callState es call = .ok state) : state.call = call := by
  simp only [callState, bind, Except.bind, pure, Except.pure] at known
  repeat' split at known
  all_goals first
    | contradiction
    | cases known; rfl

theorem callStates_mem {es : List LedgerEvent} {calls : List MaterializedToolCall} {states : List CallState}
    {state : CallState} (known : callStates es calls = .ok states) (member : state ∈ states) : state.call ∈ calls := by
  induction calls generalizing states with
  | nil =>
    cases known
    contradiction
  | cons call calls ih =>
    simp only [callStates, bind, Except.bind] at known
    cases head : callState es call with
    | error _ => simp [head] at known
    | ok first =>
      cases tail : callStates es calls with
      | error _ => simp [head, tail] at known
      | ok rest =>
        simp only [head, tail, pure, Except.pure, Except.ok.injEq] at known
        subst known
        rcases List.mem_cons.mp member with rfl | member
        · rw [callState_call head]
          exact List.mem_cons_self
        · exact List.mem_cons_of_mem _ (ih tail member)

/-- A pending execution is of a materialized call. -/
theorem project_pending {es : List LedgerEvent} {p : RunProjection} {state : CallState} (read : project es = .ok p)
    (pending : p.pendingExecution = some state) : MaterializedIn es state.call := by
  simp only [project, bind, Except.bind] at read
  cases collected : collect es with
  | error _ => simp [collected] at read
  | ok calls =>
    cases known : callStates es calls with
    | error _ => simp [collected, known] at read
    | ok states =>
      simp only [collected, known, pure, Except.pure] at read
      split at read
      · contradiction
      split at read
      · contradiction
      · cases read
        have member := List.mem_of_mem_head? (Option.mem_def.mpr pending)
        exact collect_mem collected (callStates_mem known (List.mem_filter.mp member).1)

/-! ### The loop -/

theorem turn_custody [JsonSchema] {approval : Option ApprovalRecord} {approvalResume : Bool}
    (orderly : Orderly request [] memory w) :
    (custody request).Runs (fun _ => Orderly request []) (fun _ m t => m.Covers t.lineage)
      (loop.turn request approval approvalResume) memory w := by
  apply Discipline.runs_bind
  refine orderly.reading.ask (by trivial) ?_
  rintro ledger ⟨rfl, -⟩
  apply Discipline.runs_bind
  refine (Discipline.runs_ofExcept _).mpr ⟨fun p read => ?_, fun _ _ => orderly.covers⟩
  unfold AgentLoop.turnOn
  split
  · split
    · exact orderly.covers
    · exact Upholds.done memory w orderly
  split
  · split
    · exact orderly.covers
    · exact Upholds.done memory w orderly
  split
  · exact Upholds.approvalTurn memory w orderly
  · apply Discipline.runs_bind
    refine (Discipline.runs_ofExcept _).mpr ⟨fun _ _ => ?_, fun _ _ => orderly.covers⟩
    split
    · exact Upholds.done memory w orderly
    split
    · rename_i pending due
      obtain ⟨e, member, eventType, known⟩ := project_pending read due
      have stored : ∀ id ∈ pending.call.inputArtifactIds.ids, w.Stored id := by
        intro id there
        rw [← materializedCall_inputs known] at there
        exact orderly.custody.artifacts e member (by rw [eventType]; rfl) id (List.mem_append_left _ there)
      refine Discipline.runs_mono _ (executionTurn_custody (List.Subset.refl _) (orderly.with stored)) ?_
        fun _ _ _ covers => covers
      exact fun _ _ _ kept => kept.with (by simp)
    · exact providerTurn_custody orderly

theorem drive_custody [JsonSchema] {fuel : Nat} : ∀ {approval : Option ApprovalRecord} {approvalResume : Bool}
    {memory : LineageMemory} {w : World}, Orderly request [] memory w →
    (custody request).Runs (fun _ => Orderly request []) (fun _ m t => m.Covers t.lineage)
      (loop.drive request fuel approval approvalResume) memory w := by
  induction fuel with
  | zero => exact fun orderly => orderly
  | succ fuel ih =>
    intro approval approvalResume memory w orderly
    apply Discipline.runs_bind
    refine Discipline.runs_mono _ (turn_custody orderly) ?_ fun _ _ _ covers => covers
    rintro outcome m t orderly
    cases outcome with
    | done r => exact orderly
    | again approval approvalResume => exact ih orderly

/-- The events of a run that has begun, with their inputs verified. -/
theorem initializeOrValidate_custody (holds : Custody request w) (covers : memory.Covers w.lineage) :
    (custody request).Runs (fun events m t => Custody request t ∧ m.Covers t.lineage ∧ events = t.events request ∧
        ∀ id ∈ request.inputArtifactIds.ids, t.Stored id)
      (fun _ m t => m.Covers t.lineage) (loop.initializeOrValidate request) memory w := by
  have reading := custody_reading holds
  apply Discipline.runs_bind
  refine (Discipline.runs_ofExcept _).mpr ⟨fun _ _ => ?_, fun _ _ => covers⟩
  apply Discipline.runs_bind
  refine reading.ask (by trivial) ?_
  rintro ledger ⟨rfl, -⟩
  dsimp only
  split
  · rename_i empty
    have none : w.events request = [] := List.isEmpty_iff.mp empty
    apply Discipline.runs_bind
    refine Discipline.runs_mono _ (reading.verifyAll _) ?_ ?_
    · rintro _ m t ⟨⟨rfl, rfl⟩, stored⟩
      have orderly : Orderly request [] m t := by
        refine ⟨holds, ?_, covers, stored, by simp⟩
        intro e member
        rw [none] at member
        contradiction
      apply Discipline.runs_bind
      refine Discipline.runs_mono _ (Upholds.append (.free rfl) m t orderly) ?_ fun _ _ _ covers => covers
      rintro started m u orderly
      apply Discipline.runs_bind
      refine orderly.reading.ask (by trivial) ?_
      rintro ledger ⟨rfl, -⟩
      exact ⟨orderly.custody, orderly.covers, rfl, orderly.inputs⟩
    · rintro error m t ⟨⟨rfl, rfl⟩, _⟩
      exact covers
  · apply Discipline.runs_bind
    refine (Discipline.runs_ofExcept _).mpr ⟨fun _ _ => ?_, fun _ _ => covers⟩
    apply Discipline.runs_bind
    refine Discipline.runs_mono _ (reading.verifyAll _) ?_ ?_
    · rintro _ m t ⟨⟨rfl, rfl⟩, stored⟩
      exact ⟨holds, covers, rfl, stored⟩
    · rintro error m t ⟨⟨rfl, rfl⟩, _⟩
      exact covers

/-- An invocation keeps the custody; it returns with every success projected. -/
theorem run_custody [JsonSchema] {fuel : Nat} {approval : Option ApprovalRecord} (holds : Custody request w)
    (covers : memory.Covers w.lineage) :
    (custody request).Runs (fun _ => Orderly request []) (fun _ m t => m.Covers t.lineage)
      (loop.run fuel request approval) memory w := by
  apply Discipline.runs_bind
  refine Discipline.runs_mono _ (initializeOrValidate_custody holds covers) ?_ fun _ _ _ covers => covers
  rintro events m t ⟨holds, covers, rfl, inputs⟩
  apply Discipline.runs_bind
  refine Discipline.runs_mono _ (reconcile_custody (List.Subset.refl _) holds covers) ?_ fun _ _ _ both => both.2
  rintro _ m u ⟨holds, grown, covers, projected⟩
  apply drive_custody
  refine ⟨holds, ?_, covers, fun id member => grown.grows.stored (inputs id member), by simp⟩
  intro e member success
  simp only [World.events, grown.ledger] at member
  exact projected e member success

/-! ### Every site -/

/-- What every reachable site keeps. -/
def Site.Kept (request : RunRequest) (site : Site) : Prop :=
  Custody request site.world ∧ match site.posture with
    | .resting memory => memory.Covers site.world.lineage
    | .driving program => (custody request).Keeps
        (Task.outcome (fun _ : Option RunResult => Orderly request []) fun _ m t => m.Covers t.lineage) program site.world

omit [Sha256] in
theorem covers_fresh (lineage : List LineageRelation) : LineageMemory.fresh.Covers lineage := fun _ _ => rfl

theorem Custody.elsewhere {t : World} (holds : Custody request w) (elsewhere : Elsewhere request.runId w t) :
    Custody request t := by
  obtain ⟨events, grown, others⟩ := elsewhere.ledger
  obtain ⟨relations, more, foreign⟩ := elsewhere.lineage
  have none : RunLedger.forRun request.runId events = [] := by
    simp only [RunLedger.forRun, List.filter_eq_nil_iff, decide_eq_true_eq]
    exact others
  have same : t.events request = w.events request := by
    simp only [World.events, grown, forRun_append, none, List.append_nil]
  have kept : w.lineage ⊆ t.lineage := by
    rw [more]
    exact List.subset_append_left _ _
  constructor
  · exact elsewhere.events
  · exact elsewhere.relations
  · intro r member id named
    rw [more] at member
    rcases List.mem_append.mp member with member | member
    · obtain ⟨e, there, identified⟩ := holds.backed r member id named
      exact ⟨e, by rw [grown]; exact List.mem_append_left _ there, identified⟩
    · obtain ⟨e, there, _, identified⟩ := foreign r member id named
      exact ⟨e, there, identified⟩
  · rw [same]
    intro e there r member named
    rw [more] at member
    rcases List.mem_append.mp member with member | member
    · exact holds.expected e there r member named
    · -- a relation of another run names an event of another run
      obtain ⟨other, known, different, identified⟩ := foreign r member _ named
      have here : e ∈ t.ledger := by
        rw [grown]
        exact List.mem_append_left _ (List.mem_filter.mp there).1
      obtain rfl := List.inj_on_of_nodup_map elsewhere.events known here (Identifier.ext identified)
      exact absurd (of_decide_eq_true (List.mem_filter.mp there).2) different
  · rw [same]
    exact fun e member success => (holds.projected e member success).mono kept
  · rw [same]
    exact fun begun id member => elsewhere.store.stored (holds.inputs begun id member)
  · rw [same]
    exact fun e member needs id artifact => elsewhere.store.stored (holds.artifacts e member needs id artifact)

theorem Site.Kept.next [JsonSchema] {mayDie : World → Prop} {a b : Site} (next : Next loop request mayDie a b)
    (kept : a.Kept request) : b.Kept request := by
  obtain ⟨holds, situation⟩ := kept
  cases next with
  | invoke fuel approval => exact ⟨holds, run_custody holds situation⟩
  | request acted =>
    have kept := situation.2 _ _ acted
    exact kept
  | @finish outcome memory w =>
    refine ⟨holds, ?_⟩
    cases outcome with
    | error e => exact situation
    | ok r => exact situation.covers
  | die => exact ⟨holds, covers_fresh _⟩
  | restart elsewhere => exact ⟨holds.elsewhere elsewhere, covers_fresh _⟩

theorem Reachable.kept [JsonSchema] {mayDie : World → Prop} {site : Site} (reachable : Reachable loop request mayDie site) :
    site.Kept request := by
  induction reachable with
  | @start w untouched =>
    have none : w.events request = [] := by
      simp only [World.events, RunLedger.forRun, List.filter_eq_nil_iff, decide_eq_true_eq]
      exact untouched.noEvent
    refine ⟨⟨untouched.events, untouched.relations, untouched.lineage, ?_, ?_, ?_, ?_⟩, covers_fresh _⟩
    · simp [none]
    · simp [none]
    · exact fun begun => absurd none begun
    · simp [none]
  | step _ next ih => exact ih.next next

end
end Molly
