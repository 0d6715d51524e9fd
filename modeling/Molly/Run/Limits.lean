import Mathlib.Data.List.Dedup
import Mathlib.Data.List.Perm.Subperm
import Molly.Run.System

/-! The server's safety limits in every history, and the passes of every invocation. -/
namespace Molly
open Effect AgentLoop

/-- The events that the limits count. -/
def EventType.isCounted : EventType → Bool
  | .decisionRecorded | .toolCallMaterialized => true
  | _ => false

/-- A safety limit of the server, or the lower one of a legacy request. -/
def ceiling (server : Nat) (legacy : Option Nat) : Nat :=
  match legacy with
  | none => server
  | some bound => min server bound

/-- The limits on decisions, tool calls and distinct steps of materialized calls. -/
structure WithinLimits (request : RunRequest) (es : List LedgerEvent) : Prop where
  decisions : (ofType .decisionRecorded es).length ≤ ceiling 12 (request.legacyBudget.map (·.maxDecisions))
  toolCalls : (ofType .toolCallMaterialized es).length ≤ ceiling 8 (request.legacyBudget.map (·.maxToolCalls))
  steps : ((ofType .toolCallMaterialized es).filterMap (·.stepId)).dedup.length ≤
    ceiling 8 (request.legacyBudget.map (·.maxSteps))

theorem effectiveHardLimits_eq (request : RunRequest) : effectiveHardLimits request =
    ⟨ceiling 12 (request.legacyBudget.map (·.maxDecisions)), ceiling 8 (request.legacyBudget.map (·.maxToolCalls)),
      ceiling 8 (request.legacyBudget.map (·.maxSteps))⟩ := by
  unfold effectiveHardLimits
  cases request.legacyBudget <;> rfl

theorem ceiling_le (server : Nat) (legacy : Option Nat) : ceiling server legacy ≤ server := by
  cases legacy with
  | none => exact Nat.le_refl _
  | some bound => exact Nat.min_le_left _ _

section
variable [Sha256]
variable {loop : AgentLoop} {request : RunRequest} {ungated skipped : Prop} {es : List LedgerEvent}
  {m n : RunModel} {e : LedgerEvent}

/-- The counts stay at what the limits allow. -/
def CountedWithin (request : RunRequest) (es : List LedgerEvent) : Prop :=
  (counts es).1 ≤ (effectiveHardLimits request).maxDecisions ∧
    (counts es).2.1 ≤ (effectiveHardLimits request).maxToolCalls ∧
    (counts es).2.2 ≤ (effectiveHardLimits request).maxSteps

omit [Sha256] in
theorem counts_snoc_quiet (quiet : e.eventType.isCounted = false) : counts (es ++ [e]) = counts es := by
  have other (kind : EventType) (counted : kind.isCounted = true) : e.eventType ≠ kind := by
    rintro rfl
    rw [quiet] at counted
    contradiction
  simp [counts, ofType_snoc, other .decisionRecorded rfl, other .toolCallMaterialized rfl]

omit [Sha256] in
/-- One more call is at most one more step. -/
theorem counts_snoc_call (es : List LedgerEvent) (eventType : e.eventType = .toolCallMaterialized) :
    (counts (es ++ [e])).1 = (counts es).1 ∧ (counts (es ++ [e])).2.1 = (counts es).2.1 + 1 ∧
      (counts (es ++ [e])).2.2 ≤ (counts es).2.2 + 1 := by
  refine ⟨by simp [counts, ofType_snoc, eventType], by simp [counts, ofType_snoc, eventType], ?_⟩
  have steps (known more : List Identifier) (few : more.length ≤ 1) :
      (known ++ more).dedup.length ≤ known.dedup.length + 1 := by
    have covered : (known ++ more).dedup ⊆ known.dedup ++ more := by
      intro step member
      rcases List.mem_append.mp (List.mem_dedup.mp member) with member | member
      · exact List.mem_append_left _ (List.mem_dedup.mpr member)
      · exact List.mem_append_right _ member
    have bounded := (List.subperm_of_subset (List.nodup_dedup (known ++ more)) covered).length_le
    rw [List.length_append] at bounded
    omega
  simp only [counts, ofType_snoc, eventType, ↓reduceIte, List.filterMap_append]
  exact steps _ _ (List.length_filterMap_le _ [e])

/-- Each step stays within the limits: the provider is asked, and a call materialized,
only below them. -/
theorem Legal.withinLimits (legal : Legal loop request ungated skipped es m e n) (within : CountedWithin request es) :
    CountedWithin request (es ++ [e]) := by
  have quiet {kind : EventType} (eventType : e.eventType = kind) (uncounted : kind.isCounted = false) :
      CountedWithin request (es ++ [e]) := by
    have same : counts (es ++ [e]) = counts es := counts_snoc_quiet (by rw [eventType, uncounted])
    unfold CountedWithin
    rw [same]
    exact within
  obtain ⟨decisions, toolCalls, steps⟩ := within
  cases legal with
  | decision action _ drafted below =>
    have eventType : e.eventType = .decisionRecorded := drafted.eventType
    have counted := decisions_snoc es e
    have others := counts_snoc_other es (by rw [eventType]; simp)
    simp only [eventType, ↓reduceIte] at counted
    unfold CountedWithin
    rw [others]
    omega
  | materialized _ admitted drafted =>
    obtain ⟨same, more, atMost⟩ := counts_snoc_call es drafted.eventType
    have fewerCalls := admitted.toolCalls
    have fewerSteps := admitted.steps
    unfold CountedWithin
    omega
  | intent _ eventType => exact quiet eventType rfl
  | start _ drafted | stopped _ _ drafted | review _ _ drafted | hardLimit _ _ _ _ _ drafted
  | required _ _ drafted | recorded _ _ _ drafted | rejection _ _ _ _ drafted | runRejected _ _ _ drafted
  | started _ _ _ drafted | resumed _ _ _ drafted | succeeded _ _ _ _ _ drafted
  | failed _ _ _ drafted => exact quiet drafted.eventType rfl

theorem History.withinLimits (history : History loop request ungated skipped es m) : WithinLimits request es := by
  have counted : CountedWithin request es := by
    induction history with
    | empty => exact ⟨Nat.zero_le _, Nat.zero_le _, Nat.zero_le _⟩
    | snoc _ legal ih => exact legal.withinLimits ih
  unfold CountedWithin at counted
  rw [effectiveHardLimits_eq] at counted
  exact ⟨counted.1, counted.2.1, counted.2.2⟩

omit [Sha256] in
/-- The passes of an invocation that needs every decision the server allows. -/
theorem maxPasses_le (request : RunRequest) : maxPasses request ≤ 39 := by
  have decisions : (effectiveHardLimits request).maxDecisions ≤ 12 := by
    rw [effectiveHardLimits_eq]
    exact ceiling_le _ _
  simp only [maxPasses]
  omega

/-- Every reachable ledger is within the limits, and every invocation of a resting
process, whatever it is answered, ends in at most 39 passes of its loop. -/
theorem server_limits [JsonSchema] {site : Site} (reachable : Reachable loop request (fun _ => True) site) :
    WithinLimits request (RunLedger.forRun request.runId site.world.ledger) ∧
    ∀ memory fuel approval, site.posture = .resting memory → 39 ≤ fuel → ∀ t after,
      ¬ Steps World.machine (loop.run fuel request approval memory) site.world (.ret (.ok none, after)) t := by
  have sound := reachable.sound diesAtRest_anywhere
  constructor
  · obtain ⟨m, history⟩ := sound.history
    exact history.withinLimits
  · intro memory fuel approval resting enough t after steps
    obtain ⟨s, tracks, situation⟩ := sound
    rw [resting] at situation
    obtain ⟨m, history, ready⟩ := situation
    obtain ⟨u, _, _, finished⟩ := tracks.steps steps ⟨m, history⟩ (run_runs ⟨m, history, ready⟩)
    have passes := maxPasses_le request
    exact finished.1 (by omega)

end

namespace Sample
attribute [local instance] standardSha256 noSchema

/-- The limits at a site where the approved call has been executed. -/
theorem server_limits_approved : ∃ site, (runOf site).any starts = true ∧ WithinLimits request (runOf site) ∧
    ∃ memory, site.posture = .resting memory ∧ ∀ t after, ¬ Steps World.machine
      (loop.run 39 request none memory) site.world (.ret (.ok none, after)) t := by
  obtain ⟨site, reachable, resting, started⟩ := reaches_approved fun _ => True
  obtain ⟨within, ends⟩ := server_limits reachable
  refine ⟨site, started, within, ?_⟩
  cases posture : site.posture with
  | resting memory => exact ⟨memory, rfl, ends memory 39 none posture (Nat.le_refl _)⟩
  | driving program =>
    simp only [isResting, posture] at resting
    contradiction

end Sample
end Molly
