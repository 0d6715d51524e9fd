import Molly.Br1.Intent

/-! Persisted run records survive the ledger: what a new process reads of the canonical bytes of a call,
a request, an approval or an intent is the record that was written, with its surrogate pairs joined. -/
namespace Molly

/-- What a process reads of these bytes. -/
def readRecord {ρ : Type} (fromDict : PyValue → Except PyError ρ) (bytes : Bytes) : Option ρ :=
  match decodeUtf8 bytes with
  | none => none
  | some text =>
    match loads text with
    | .error _ => none
    | .ok value => (fromDict value).toOption

/-- The record that is read has the digest of the record that was written, and its dict, in which a pair of
surrogates is the character it spells. -/
structure Survives {ρ δ : Type} (toDict : ρ → PyValue) (digest : ρ → δ) (fromDict : PyValue → Except PyError ρ)
    (r : ρ) (bytes : Bytes) : Prop where
  read : ∃ s, readRecord fromDict bytes = some s ∧ digest s = digest r ∧ (toDict s).canon = (toDict r).readBack ∧
    ((toDict r).Unpaired → toDict s = toDict r)

theorem survives_of_readBack {ρ δ : Type} {toDict : ρ → PyValue} {digest : ρ → δ} {fromDict : PyValue → Except PyError ρ}
    {r s : ρ} {bytes : Bytes} (written : (toDict r).canonicalBytes = .ok bytes) (keyed : (toDict r).Keyed)
    (read : fromDict (toDict r).readBack = .ok s) (digests : digest s = digest r)
    (dicts : (toDict s).canon = (toDict r).readBack) (same : (toDict r).Unpaired → s = r) :
    Survives toDict digest fromDict r bytes := by
  obtain ⟨text, decoded, loaded⟩ := loads_canonical written keyed
  refine ⟨s, ?_, digests, dicts, fun unpaired => by rw [same unpaired]⟩
  rw [readRecord, decoded]
  dsimp only
  rw [loaded]
  dsimp only
  rw [read]
  rfl

/-! ### Dicts with fixed keys -/

theorem named_accepted {entries : List (String × PyValue)}
    (keys : ((entries.map Prod.fst).all fun key => key ≠ "" && !sensitiveKey key) = true)
    (values : ∀ f ∈ entries, f.2.accepted = true) : (PyValue.named entries).accepted = true := by
  rw [PyValue.named, PyValue.accepted]
  refine acceptedFields_iff.mpr fun f member => ?_
  obtain ⟨entry, found, rfl⟩ := List.mem_map.mp member
  have plain := List.all_eq_true.mp keys entry.1 (List.mem_map_of_mem found)
  simp only [Bool.and_eq_true, decide_eq_true_eq, Bool.not_eq_true'] at plain
  refine ⟨?_, by rw [PyText.display_ofString]; exact plain.2, values entry found⟩
  intro empty
  exact plain.1 (PyText.ofString_injective (empty.trans (by simp [PyText.ofString])))

theorem named_fits {entries : List (String × PyValue)} (values : ∀ f ∈ entries, f.2.fits = true) :
    (PyValue.named entries).fits = true := by
  rw [PyValue.named, PyValue.fits]
  refine fitsFields_iff.mpr fun f member => ?_
  obtain ⟨entry, found, rfl⟩ := List.mem_map.mp member
  exact values entry found

theorem unpaired_entry {entries : List (String × PyValue)} (unpaired : (PyValue.named entries).Unpaired) (key : String)
    {v : PyValue} (listed : (key, v) ∈ entries) : v.Unpaired := by
  rw [PyValue.named, PyValue.Unpaired] at unpaired
  exact (unpairedFields_iff.mp unpaired _ (List.mem_map_of_mem listed)).2

theorem artifactIds_plain (a : ArtifactIds) : (pyArtifactIds a).accepted = true ∧ (pyArtifactIds a).fits = true := by
  rw [pyArtifactIds, PyValue.accepted, PyValue.fits]
  induction a.ids with
  | nil => exact ⟨rfl, rfl⟩
  | cons id ids ih => simp [PyValue.acceptedItems, PyValue.fitsItems, PyValue.accepted, PyValue.fits, ih]

namespace StoredCall
variable [Sha256]

theorem canonicalBytes_toDict (c : StoredCall) : c.toDict.canonicalBytes = .ok c.toDict.encode := by
  obtain ⟨accepted, fits⟩ := artifactIds_plain c.inputArtifactIds
  refine canonicalBytes_eq_ok.mpr ⟨named_accepted ?_ ?_, named_fits ?_, rfl⟩
  · have keys : (allowed.all fun key => key ≠ "" && !sensitiveKey key) = true := by decide +kernel
    exact keys
  · simp [entries, CallBody.entries, PyValue.accepted, accepted]
  · have arguments : c.arguments.toValue.fits = true := c.written
    simp [entries, CallBody.entries, PyValue.fits, arguments, fits]

theorem joined_of_unpaired {c : StoredCall} (unpaired : c.toDict.Unpaired) : c.joined = c := by
  have arguments : c.arguments.joined = c.arguments :=
    PyMapping.joined_of_unpaired (unpaired_entry unpaired "arguments" (by simp [entries, CallBody.entries]))
  have summary : c.reasonSummary.joined = c.reasonSummary :=
    PyText.joined_of_unpaired (unpaired_entry unpaired "reason_summary" (v := .str c.reasonSummary) (by simp [entries]))
  obtain ⟨⟨_, _, _, _, _, _, _, arguments', _, _, _, _⟩, summary', _⟩ := c
  simp only at arguments summary
  simp [joined, arguments, summary]

/-- A call is written, and read back with its texts joined. -/
theorem survives [PrintableText] (c : StoredCall) (keyed : c.toDict.Keyed) :
    ∃ bytes, c.toDict.canonicalBytes = .ok bytes ∧ Survives toDict (·.digest) fromDict c bytes :=
  ⟨_, c.canonicalBytes_toDict, survives_of_readBack c.canonicalBytes_toDict keyed c.fromDict_readBack c.digest_joined
    c.toDict_joined joined_of_unpaired⟩

end StoredCall

namespace StoredRequest

theorem joined_of_unpaired {r : StoredRequest} (unpaired : r.toDict.Unpaired) : r.joined = r := by
  have goal : r.goal.joined = r.goal :=
    PyText.joined_of_unpaired (unpaired_entry unpaired "goal" (v := .str r.goal) (by simp [entries]))
  have metadata : r.metadata.joined = r.metadata :=
    PyMapping.joined_of_unpaired (unpaired_entry unpaired "metadata" (by simp [entries]))
  obtain ⟨_, goal', _, _, _, metadata', _, _, _⟩ := r
  simp only at goal metadata
  simp [joined, goal, metadata]

theorem survives [Sha256] [PrintableText] (r : StoredRequest) (keyed : r.toDict.Keyed) {bytes : Bytes}
    (written : r.toDict.canonicalBytes = .ok bytes) : Survives toDict digest fromDict r bytes :=
  survives_of_readBack written keyed r.fromDict_readBack (r.digest_joined written) r.toDict_joined joined_of_unpaired

end StoredRequest

namespace StoredApproval

theorem canonicalBytes_toDict (a : StoredApproval) : a.toDict.canonicalBytes = .ok a.toDict.encode := by
  refine canonicalBytes_eq_ok.mpr ⟨named_accepted ?_ ?_, named_fits ?_, rfl⟩
  · have keys : (["approval_id", "tool_call_digest", "decision", "reviewer_ref", "created_at"].all fun key =>
        key ≠ "" && !sensitiveKey key) = true := by decide +kernel
    exact keys
  · simp [entries, PyValue.accepted]
  · simp [entries, PyValue.fits]

theorem joined_of_unpaired {a : StoredApproval} (unpaired : a.toDict.Unpaired) : a.joined = a := by
  have reviewer : a.reviewerRef.joined = a.reviewerRef :=
    PyText.joined_of_unpaired (unpaired_entry unpaired "reviewer_ref" (v := .str a.reviewerRef) (by simp [entries]))
  obtain ⟨_, _, _, reviewer', _, _⟩ := a
  simp only at reviewer
  simp [joined, reviewer]

theorem survives [Sha256] [CaseText] [PrintableText] (a : StoredApproval) :
    ∃ bytes, a.toDict.canonicalBytes = .ok bytes ∧ Survives toDict digest fromDict a bytes := by
  have keyed : a.toDict.Keyed := PyValue.keyed_named.mpr (by simp [entries])
  exact ⟨_, a.canonicalBytes_toDict, survives_of_readBack a.canonicalBytes_toDict keyed a.fromDict_readBack a.digest_joined
    a.toDict_joined joined_of_unpaired⟩

end StoredApproval

theorem Br1RunSpec.joined_of_unpaired {s : Br1RunSpec} (unpaired : s.toDict.Unpaired) : s.joined = s := by
  have profile := unpaired_entry unpaired "llm_profile_ref" (v := pyTextOrNull (s.llmProfileRef.map ProfileRef.text))
    (by simp [entries, fields])
  cases ref : s.llmProfileRef with
  | none =>
    rw [joined, ref, Option.map_none, ← ref]
  | some found =>
    rw [ref] at profile
    have same : found.joined = found := by
      have text : found.text.joined = found.text := PyText.joined_of_unpaired profile
      obtain ⟨text', _⟩ := found
      simp only at text
      simp [ProfileRef.joined, text]
    rw [joined, ref, Option.map_some, same, ← ref]

theorem intFits_bounded {minimum maximum : Int} (low : 0 ≤ minimum) (high : maximum ≤ 2 ^ 63 - 1) (n : BoundedInt minimum maximum) :
    intFits n.1 = true := by
  have long : 19 ≤ maxStrDigits := by decide
  have within := n.2
  unfold intFits
  generalize maxStrDigits = limit at long ⊢
  refine decide_eq_true (Nat.lt_of_lt_of_le (m := 10 ^ 19) ?_ (Nat.pow_le_pow_right (by decide) long))
  omega

theorem Br1RunSpec.toDict_plain (s : Br1RunSpec) : s.toDict.accepted = true ∧ s.toDict.fits = true := by
  constructor
  · refine named_accepted ?_ ?_
    · have keys : (["schema_name", "schema_version"] ++ fieldNames).all (fun key => key ≠ "" && !sensitiveKey key) = true := by
        decide +kernel
      exact keys
    · cases ref : s.llmProfileRef <;> simp [entries, fields, pyTextOrNull, ref, PyValue.accepted]
  · refine named_fits ?_
    have candidates := intFits_bounded (by decide) (by decide) s.candidateCount
    have top := intFits_bounded (by decide) (by decide) s.topN
    have seed := intFits_bounded (by decide) (by decide) s.seed
    have threads := intFits_bounded (by decide) (by decide) s.cpuThreads
    have gpus := intFits_bounded (by decide) (by decide) s.gpuCount
    have walltime := intFits_bounded (by decide) (by decide) s.walltimeSec
    cases ref : s.llmProfileRef <;>
      simp [entries, fields, pyTextOrNull, ref, PyValue.fits, candidates, top, seed, threads, gpus, walltime]

example : (Br1RunSpec.fieldNames.any sensitiveKey) = false := by decide +kernel

namespace Br1Intent
variable [Sha256]

omit [Sha256] in
theorem listed_plain (texts : List PyText) : (listed texts).accepted = true ∧ (listed texts).fits = true := by
  rw [listed, PyValue.accepted, PyValue.fits]
  induction texts with
  | nil => exact ⟨rfl, rfl⟩
  | cons t texts ih => simp [PyValue.acceptedItems, PyValue.fitsItems, PyValue.accepted, PyValue.fits, ih]

theorem canonicalBytes_toDict (i : Br1Intent) : i.toDict.canonicalBytes = .ok i.toDict.encode := by
  obtain ⟨accepted, fits⟩ := i.spec.toDict_plain
  obtain ⟨matched, matchedFits⟩ := listed_plain i.matchedFields
  obtain ⟨warned, warnedFits⟩ := listed_plain i.warnings
  refine canonicalBytes_eq_ok.mpr ⟨named_accepted ?_ ?_, named_fits ?_, rfl⟩
  · have keys : (["schema_name", "schema_version", "spec", "spec_digest", "matched_fields", "warnings", "intent_digest"].all
        fun key => key ≠ "" && !sensitiveKey key) = true := by decide +kernel
    exact keys
  · simp [entries, payload, PyValue.accepted, accepted, matched, warned]
  · simp [entries, payload, PyValue.fits, fits, matchedFits, warnedFits]

omit [Sha256] in
theorem joined_listed {texts : List PyText} (unpaired : (listed texts).Unpaired) : texts.map PyText.joined = texts := by
  induction texts with
  | nil => rfl
  | cons t texts ih =>
    obtain ⟨head, tail⟩ := unpaired
    have rest := ih tail
    rw [List.map_cons, rest]
    congr 1
    exact PyText.joined_of_unpaired head

theorem joined_of_unpaired {i : Br1Intent} (unpaired : i.toDict.Unpaired) : i.joined = i := by
  have spec : i.spec.joined = i.spec :=
    Br1RunSpec.joined_of_unpaired (unpaired_entry unpaired "spec" (by simp [entries, payload]))
  have matched : i.matchedFields.map PyText.joined = i.matchedFields :=
    joined_listed (unpaired_entry unpaired "matched_fields" (by simp [entries, payload]))
  have warned : i.warnings.map PyText.joined = i.warnings :=
    joined_listed (unpaired_entry unpaired "warnings" (by simp [entries, payload]))
  obtain ⟨spec', matched', warnings', _, _⟩ := i
  simp only at spec matched warned
  simp [joined, spec, matched, warned]

theorem keyed_toDict (i : Br1Intent) : i.toDict.Keyed := by
  have spec : i.spec.toDict.Keyed := by
    refine PyValue.keyed_named.mpr ?_
    cases ref : i.spec.llmProfileRef <;> simp [Br1RunSpec.entries, Br1RunSpec.fields, pyTextOrNull, ref]
  refine PyValue.keyed_named.mpr ?_
  simp [entries, payload, spec, listed]

theorem survives [CaseText] [PrintableText] (i : Br1Intent) :
    ∃ bytes, i.toDict.canonicalBytes = .ok bytes ∧ Survives toDict digest fromDict i bytes :=
  ⟨_, i.canonicalBytes_toDict, survives_of_readBack i.canonicalBytes_toDict i.keyed_toDict i.fromDict_readBack i.digest_joined
    i.toDict_joined joined_of_unpaired⟩

end Br1Intent

/-- Every record that is written is read back with the digest it had and with the dict it had, the
surrogate pairs of its texts joined, unless a key of a call's arguments or of a request's metadata holds
such a pair. A request is written when the integers of its metadata have decimal texts. -/
theorem records_survive [Sha256] [CaseText] [PrintableText] :
    (∀ c : StoredCall, c.toDict.Keyed → ∃ bytes, c.toDict.canonicalBytes = .ok bytes ∧
      Survives StoredCall.toDict (·.digest) StoredCall.fromDict c bytes) ∧
    (∀ r : StoredRequest, r.toDict.Keyed → ∀ bytes, r.toDict.canonicalBytes = .ok bytes →
      Survives StoredRequest.toDict (·.digest) StoredRequest.fromDict r bytes) ∧
    (∀ a : StoredApproval, ∃ bytes, a.toDict.canonicalBytes = .ok bytes ∧
      Survives StoredApproval.toDict (·.digest) StoredApproval.fromDict a bytes) ∧
    ∀ i : Br1Intent, ∃ bytes, i.toDict.canonicalBytes = .ok bytes ∧
      Survives Br1Intent.toDict (·.digest) Br1Intent.fromDict i bytes :=
  ⟨fun c keyed => c.survives keyed, fun r keyed _ written => r.survives keyed written, fun a => a.survives,
    fun i => i.survives⟩

namespace Sample
attribute [local instance] standardSha256 asciiPrintable asciiCase

/-- A request for a goal that is one pair of surrogates. -/
def pairedRequest : StoredRequest where
  runId := ⟨"run_paired", by decide⟩
  goal := [0xD83D, 0xDE00]
  inputArtifactIds := .none
  toolPolicyDigest := sha256Bytes []
  createdAt := ⟨2025, 1, 2, 12, 0, 0, 0, by decide⟩
  metadata := emptyMapping
  legacyBudget := none
  stated := by decide
  bounded := by decide

theorem pairedRequest_written : pairedRequest.toDict.canonicalBytes = .ok pairedRequest.toDict.encode := by
  have written : pairedRequest.toDict.accepted = true ∧ pairedRequest.toDict.fits = true := by decide +kernel
  exact canonicalBytes_eq_ok.mpr ⟨written.1, written.2, rfl⟩

theorem pairedRequest_keyed : pairedRequest.toDict.Keyed := by
  refine PyValue.keyed_named.mpr ?_
  have metadata : pairedRequest.metadata.toValue.Keyed := trivial
  have inputs : (pyArtifactIds ArtifactIds.none).Keyed := trivial
  have budget : pairedRequest.legacyBudget = none := rfl
  simp only [StoredRequest.entries, budget, List.append_nil, List.forall_mem_cons]
  exact ⟨PyValue.keyed_str _, PyValue.keyed_str _, inputs, PyValue.keyed_str _, PyValue.keyed_str _, metadata, fun _ inside => by cases inside⟩

theorem records_survive_paired : Survives StoredRequest.toDict (·.digest) StoredRequest.fromDict pairedRequest
    pairedRequest.toDict.encode :=
  records_survive.2.1 pairedRequest pairedRequest_keyed _ pairedRequest_written

/-- The request is read back with another goal. -/
theorem records_survive_fails : ¬∀ r : StoredRequest, ∃ bytes s, r.toDict.canonicalBytes = .ok bytes ∧
    readRecord StoredRequest.fromDict bytes = some s ∧ s.digest = r.digest ∧ s.toDict = r.toDict := by
  intro survive
  obtain ⟨bytes, s, written, read, _, same⟩ := survive pairedRequest
  obtain ⟨other, again, _, dict, _⟩ := (pairedRequest.survives pairedRequest_keyed written).read
  obtain rfl : s = other := Option.some.inj (read.symm.trans again)
  rw [same, StoredRequest.toDict, PyValue.named, PyValue.canon, PyValue.readBack_obj] at dict
  have goals := congrArg (fun fields => fields.lookup (PyText.ofString "goal")) (PyValue.obj.inj dict)
  simp only [canon_obj_entries, PyValue.lookup_readFields] at goals
  have listed : pairedRequest.entries.lookup "goal" = some (.str pairedRequest.goal) := rfl
  rw [listed, Option.map_some, Option.map_some, PyValue.readBack_str, PyValue.canon] at goals
  have joined : pairedRequest.goal = pairedRequest.goal.joined := PyValue.str.inj (Option.some.inj goals)
  exact absurd joined (by decide)

end Sample
end Molly
