import Molly.Br1.Evaluation
import Molly.Disk.Linearize
import Molly.Effect.Dict
import Molly.File.Joined

/-! The ranking that the evaluation publishes is the true top of the joined packages. -/
namespace Molly
open Effect (Precedence)

/-! ### Packages -/

theorem keyedRows_ok {read : PyValue → Except PyError (PyText × α)} {items : List PyValue} {result rows : List (PyText × α)} :
    keyedRows read duplicate result items = .ok rows ↔
      ∃ new, List.Forall₂ (fun raw row => read raw = .ok row) items new ∧ rows = result ++ new ∧
        (new.map Prod.fst).Nodup ∧ ∀ row ∈ new, row.1 ∉ result.map Prod.fst := by
  induction items generalizing result with
  | nil =>
    rw [keyedRows]
    constructor
    · intro done
      cases done
      exact ⟨[], .nil, by simp, by simp, by simp⟩
    · rintro ⟨new, each, rfl, -, -⟩
      cases each
      simp
  | cons raw rest ih =>
    simp only [keyedRows, bind_ok, ensure_ok, exists_const, decide_eq_true_eq, ih]
    constructor
    · rintro ⟨row, made, fresh, new, each, rfl, distinct, apart⟩
      refine ⟨row :: new, .cons made each, by simp, ?_, ?_⟩
      · rw [List.map_cons, List.nodup_cons]
        refine ⟨fun again => ?_, distinct⟩
        obtain ⟨other, member, same⟩ := List.mem_map.mp again
        exact apart other member (by simp [same])
      · intro other member
        rcases List.mem_cons.mp member with rfl | member
        · exact fresh
        · exact fun taken => apart other member (by simp [taken])
    · rintro ⟨all, each, rfl, distinct, apart⟩
      cases each with
      | cons made each =>
        rename_i row new
        rw [List.map_cons, List.nodup_cons] at distinct
        refine ⟨row, made, apart row List.mem_cons_self, new, each, by simp, distinct.2, ?_⟩
        intro other member taken
        rw [List.map_append, List.mem_append] at taken
        rcases taken with before | here
        · exact apart other (List.mem_cons_of_mem _ member) before
        · simp only [List.map_cons, List.map_nil, List.mem_singleton] at here
          exact distinct.1 (here ▸ List.mem_map_of_mem member)

/-- A package's header is the expected one. -/
def Headed (schemaName : String) (value : PyFields) : Prop :=
  DatasetGate.states value "schema_name" schemaName = true ∧ DatasetGate.states value "schema_version" "1" = true ∧
    DatasetGate.states value "claim_boundary" "COMPUTATIONAL_ONLY" = true

theorem packageRows_ok {read : PyValue → Except PyError (PyText × α)} {value : PyFields} {rows : List (PyText × α)} :
    packageRows kind schemaName duplicate empty read value = .ok rows ↔
      Headed schemaName value ∧ (∃ items, pyGet value "rows" .null = .arr items ∧
        List.Forall₂ (fun raw row => read raw = .ok row) items rows) ∧ (rows.map Prod.fst).Nodup ∧ rows ≠ [] := by
  have items (message : String) (found : List PyValue) :
      DatasetGate.rowItems value message = .ok found ↔ pyGet value "rows" .null = .arr found := by
    unfold DatasetGate.rowItems
    split
    · simp [*]
    · rename_i other
      simp only [reduceCtorEq, false_iff]
      exact other found
  simp only [packageRows, bind_ok, ensure_ok, exists_const, Bool.and_eq_true, items, keyedRows_ok, decide_eq_true_eq]
  constructor
  · rintro ⟨⟨name, version⟩, boundary, found, given, read, ⟨new, each, rfl, distinct, -⟩, filled, done⟩
    cases done
    exact ⟨⟨name, version, boundary⟩, ⟨found, given, each⟩, distinct, filled⟩
  · rintro ⟨⟨name, version, boundary⟩, ⟨found, given, each⟩, distinct, filled⟩
    exact ⟨⟨name, version⟩, boundary, found, given, rows, ⟨rows, each, rfl, distinct, by simp⟩, filled, rfl⟩

/-- The same package with its rows in another order. -/
def Reordered (value value' : PyFields) : Prop :=
  (∀ key ∈ ["schema_name", "schema_version", "claim_boundary"], pyGet value' key .null = pyGet value key .null) ∧
    ∀ items, pyGet value "rows" .null = .arr items → ∃ items', pyGet value' "rows" .null = .arr items' ∧ items'.Perm items

theorem packageRows_reordered {read : PyValue → Except PyError (PyText × α)} {value value' : PyFields}
    (accepted : packageRows kind schemaName duplicate empty read value = .ok rows) (reordered : Reordered value value') :
    ∃ rows', packageRows kind schemaName duplicate empty read value' = .ok rows' ∧ rows'.Perm rows := by
  obtain ⟨⟨name, version, boundary⟩, ⟨items, given, each⟩, distinct, filled⟩ := packageRows_ok.mp accepted
  obtain ⟨header, moved⟩ := reordered
  obtain ⟨items', given', perm⟩ := moved items given
  obtain ⟨rows', each', same⟩ := List.perm_comp_forall₂ perm each
  refine ⟨rows', packageRows_ok.mpr ⟨⟨?_, ?_, ?_⟩, ⟨items', given', each'⟩, ?_, ?_⟩, same⟩
  · rw [DatasetGate.states, header _ (by simp)]
    exact name
  · rw [DatasetGate.states, header _ (by simp)]
    exact version
  · rw [DatasetGate.states, header _ (by simp)]
    exact boundary
  · exact (same.map Prod.fst).nodup_iff.mpr distinct
  · rintro rfl
    exact filled same.symm.eq_nil

/-! ### Ranking -/

/-- The order of a ranking on the exact values: first by the prediction, then by ID. -/
def Precedes : RunDirection → EvaluationRow → EvaluationRow → Prop
  | .max, a, b => b.predictedProperty.exact.toRat < a.predictedProperty.exact.toRat ∨
      a.predictedProperty.exact.toRat = b.predictedProperty.exact.toRat ∧ PyText.lt a.candidateId b.candidateId = true
  | .min, a, b => a.predictedProperty.exact.toRat < b.predictedProperty.exact.toRat ∨
      a.predictedProperty.exact.toRat = b.predictedProperty.exact.toRat ∧ PyText.lt a.candidateId b.candidateId = true

theorem precedence_iff {direction : RunDirection} {a b : EvaluationRow} :
    (EvaluationRow.precedence direction).before a b = true ↔ Precedes direction a b := by
  have either {x y : ℚ} {p : Prop} : x < y ∨ (¬y < x ∧ p) ↔ x < y ∨ (x = y ∧ p) := by
    constructor
    · rintro (less | ⟨notMore, holds⟩)
      · exact .inl less
      · rcases lt_or_eq_of_le (not_lt.mp notMore) with less | same
        · exact .inl less
        · exact .inr ⟨same, holds⟩
    · rintro (less | ⟨same, holds⟩)
      · exact .inl less
      · exact .inr ⟨by rw [same]; exact lt_irrefl _, holds⟩
  have tested : (EvaluationRow.precedence direction).before a b = true ↔
      (EvaluationRow.key direction a).toRat < (EvaluationRow.key direction b).toRat ∨
        (¬(EvaluationRow.key direction b).toRat < (EvaluationRow.key direction a).toRat ∧
          PyText.lt a.candidateId b.candidateId = true) := by
    simp only [← Effect.Decimal.precedence_iff, Bool.not_eq_true]
    simp [EvaluationRow.precedence, Precedence.lex, Precedence.pull, PyText.precedence, Precedence.ofOrdering, keyOrder]
  rw [tested, either]
  cases direction with
  | max => simp only [Precedes, EvaluationRow.key, Effect.Decimal.toRat_neg, neg_lt_neg_iff, neg_inj]
  | min => rfl

/-- Candidates with an ID of their own leave no ties. -/
theorem precedence_decides (direction : RunDirection) {rows : List EvaluationRow}
    (distinct : (rows.map EvaluationRow.candidateId).Nodup) : (EvaluationRow.precedence direction).Decides rows := by
  intro a left b right differ
  have apart : a.candidateId ≠ b.candidateId := fun same => differ (List.inj_on_of_nodup_map distinct left right same)
  simp only [precedence_iff]
  cases direction <;> simp only [Precedes] <;>
    rcases lt_trichotomy a.predictedProperty.exact.toRat b.predictedProperty.exact.toRat with less | same | more <;>
    rcases PyText.lt_total apart with before | after <;> simp_all

/-- A row of a candidate with its own SMILES and prediction. -/
def JoinedRow (predictions : List (PyText × FiniteFloat)) (candidate : PyText × PyText) (row : EvaluationRow) : Prop :=
  row.candidateId = candidate.1 ∧ row.smiles = candidate.2 ∧ (candidate.1, row.predictedProperty) ∈ predictions

theorem joinRows_ok {predictions : List (PyText × FiniteFloat)} (distinct : (predictions.map Prod.fst).Nodup)
    {candidates : List (PyText × PyText)} {rows : List EvaluationRow} :
    joinRows predictions candidates = .ok rows ↔ List.Forall₂ (JoinedRow predictions) candidates rows := by
  rw [joinRows, mapM_ok]
  have known (candidate : PyText × PyText) (value : FiniteFloat) :
      predictions.lookup candidate.1 = some value ↔ (candidate.1, value) ∈ predictions := Effect.Dict.lookup_iff_mem distinct
  constructor
  · intro each
    refine each.imp fun candidate row made => ?_
    split at made
    · rename_i predicted found
      cases made
      exact ⟨rfl, rfl, (known candidate predicted).mp found⟩
    · cases made
  · intro each
    refine each.imp fun candidate row joined => ?_
    obtain ⟨id, smiles, value⟩ := row
    obtain ⟨rfl, rfl, listed⟩ := joined
    rw [(known candidate value).mpr listed]

theorem joined_ids {predictions : List (PyText × FiniteFloat)} {candidates : List (PyText × PyText)} {rows : List EvaluationRow}
    (each : List.Forall₂ (JoinedRow predictions) candidates rows) :
    rows.map EvaluationRow.candidateId = candidates.map Prod.fst := by
  induction each with
  | nil => rfl
  | cons joined _ ih => rw [List.map_cons, List.map_cons, joined.1, ih]

/-- The first `n` candidates in the order: each with its rank, its own SMILES and its prediction. -/
structure Ranked (direction : RunDirection) (n : Nat) (candidates : List (PyText × PyText))
    (predictions : List (PyText × FiniteFloat)) (ranked : List (EvaluationRow × Nat)) : Prop where
  count : ranked.length = min n candidates.length
  ranks : ranked.map Prod.snd = List.range' 1 ranked.length
  distinct : (ranked.map fun r => r.1.candidateId).Nodup
  own : ∀ r ∈ ranked, ∃ candidate ∈ candidates, JoinedRow predictions candidate r.1
  sorted : (ranked.map Prod.fst).Pairwise (Precedes direction)
  excluded : ∀ candidate ∈ candidates, candidate.1 ∉ ranked.map (fun r => r.1.candidateId) →
    ∀ row, JoinedRow predictions candidate row → ∀ r ∈ ranked, Precedes direction r.1 row

variable {predictions : List (PyText × FiniteFloat)} {candidates : List (PyText × PyText)} {rows : List EvaluationRow}

theorem ranking_rows (config : EvaluationConfig) (rows : List EvaluationRow) :
    (ranking config rows).map Prod.fst = (EvaluationRow.precedence config.direction).top config.topN.1.toNat rows :=
  List.zipIdx_map_fst _ _

theorem ranking_ranked (config : EvaluationConfig) (candidatesApart : (candidates.map Prod.fst).Nodup)
    (predictionsApart : (predictions.map Prod.fst).Nodup) (each : List.Forall₂ (JoinedRow predictions) candidates rows) :
    Ranked config.direction config.topN.1.toNat candidates predictions (ranking config rows) := by
  have idsApart : (rows.map EvaluationRow.candidateId).Nodup := by
    rw [joined_ids each]
    exact candidatesApart
  have decides := precedence_decides config.direction idsApart
  have kept {r : EvaluationRow × Nat} (member : r ∈ ranking config rows) :
      r.1 ∈ (EvaluationRow.precedence config.direction).top config.topN.1.toNat rows := by
    rw [← ranking_rows]
    exact List.mem_map_of_mem member
  have ids : (ranking config rows).map (fun r => r.1.candidateId) =
      ((EvaluationRow.precedence config.direction).top config.topN.1.toNat rows).map EvaluationRow.candidateId := by
    rw [← ranking_rows, List.map_map]
    rfl
  -- of two different rows one is before the other
  have before {a b : EvaluationRow} (left : a ∈ rows) (right : b ∈ rows) (differ : a ≠ b)
      (notAfter : (EvaluationRow.precedence config.direction).before b a = false) : Precedes config.direction a b := by
    rcases decides a left b right differ with first | second
    · exact precedence_iff.mp first
    · rw [notAfter] at second
      cases second
  constructor
  · rw [ranking, List.length_zipIdx, Precedence.length_top, each.length_eq]
  · rw [ranking, List.zipIdx_map_snd, List.length_zipIdx]
  · rw [ids]
    have sortedApart := ((Precedence.sorted_perm (EvaluationRow.precedence config.direction) rows).map
      EvaluationRow.candidateId).nodup_iff.mpr idsApart
    exact sortedApart.sublist ((List.take_sublist _ _).map _)
  · intro r member
    obtain ⟨candidate, there, joined⟩ := forall₂_right each (Precedence.mem_of_top (kept member))
    exact ⟨candidate, there, joined⟩
  · rw [ranking_rows]
    have apart := Precedence.nodup_top (p := EvaluationRow.precedence config.direction) idsApart.of_map config.topN.1.toNat
    refine (List.Pairwise.and (Precedence.top_pairwise _ _ rows) apart).imp_of_mem ?_
    intro a b left right both
    exact before (Precedence.mem_of_top left) (Precedence.mem_of_top right) both.2 both.1
  · intro candidate member left row joined r inRanked
    obtain ⟨own, there, own_joined⟩ := forall₂_left each member
    have same : row = own := by
      obtain ⟨id, smiles, value⟩ := row
      obtain ⟨id', smiles', value'⟩ := own
      obtain ⟨rfl, rfl, given⟩ := joined
      obtain ⟨rfl, rfl, given'⟩ := own_joined
      have first := (Effect.Dict.lookup_iff_mem predictionsApart).mpr given
      have second := (Effect.Dict.lookup_iff_mem predictionsApart).mpr given'
      dsimp only at first second ⊢
      rw [Option.some.inj (first.symm.trans second)]
    subst same
    have out : row ∉ (EvaluationRow.precedence config.direction).top config.topN.1.toNat rows := by
      intro inTop
      rw [ids, ← joined.1] at left
      exact left (List.mem_map_of_mem inTop)
    have differ : r.1 ≠ row := fun equal => out (equal ▸ kept inRanked)
    exact before (Precedence.mem_of_top (kept inRanked)) there differ (Precedence.top_excluded (kept inRanked) there out)

/-- Reordered rows join to a reordering of the rows, which has the same ranking. -/
theorem ranking_reordered (config : EvaluationConfig) {candidates' : List (PyText × PyText)}
    {predictions' : List (PyText × FiniteFloat)} (candidatesApart : (candidates.map Prod.fst).Nodup)
    (predictionsApart : (predictions.map Prod.fst).Nodup) (each : List.Forall₂ (JoinedRow predictions) candidates rows)
    (moved : candidates'.Perm candidates) (moved' : predictions'.Perm predictions) :
    ∃ rows', joinRows predictions' candidates' = .ok rows' ∧ rows'.length = rows.length ∧
      ranking config rows' = ranking config rows := by
  obtain ⟨rows', each', same⟩ := List.perm_comp_forall₂ moved each
  have apart' : (predictions'.map Prod.fst).Nodup := (moved'.map Prod.fst).nodup_iff.mpr predictionsApart
  refine ⟨rows', (joinRows_ok apart').mpr (each'.imp ?_), same.length_eq, ?_⟩
  · intro candidate row joined
    exact ⟨joined.1, joined.2.1, moved'.mem_iff.mpr joined.2.2⟩
  · have idsApart : (rows'.map EvaluationRow.candidateId).Nodup := by
      rw [(same.map EvaluationRow.candidateId).nodup_iff, joined_ids each]
      exact candidatesApart
    rw [ranking, ranking, Precedence.top_of_perm same (precedence_decides config.direction idsApart)]

/-! ### The service -/

namespace TopNEvaluationService
variable [Sha256] [CaseText]

/-- The bodies of the two packages that the store reads. -/
structure Reads (read : ArtifactId → Except PyError Bytes) (candidateId predictionId : ArtifactId)
    (candidateBody predictionBody : PyFields) : Prop where
  candidate : (read candidateId >>= packageObject "candidate package") = .ok candidateBody
  prediction : (read predictionId >>= packageObject "prediction package") = .ok predictionBody

/-- The run has the two packages as outputs, and the predictions name the candidates and the target. -/
structure BoundTo (events : List LedgerEvent) (runId : Identifier) (candidateId predictionId : ArtifactId)
    (predictionBody : PyFields) (target : PyText) : Prop where
  generated : ∃ e, successfulOutputEvent events runId "br1_generate_reinvent4" candidateId [] = .ok e
  predicted : ∃ e, successfulOutputEvent events runId "br1_predict_unimol" predictionId [candidateId] = .ok e
  candidate : (pyGet predictionBody "candidate_artifact_id" .null).equal (text candidateId.text) = true
  target : (pyGet predictionBody "target_property" .null).equal (.str target) = true

omit [Sha256] [CaseText] in
theorem jsonDraft_ok {value : PyValue} {name : Identifier} {draft : ArtifactDraft} (made : jsonDraft value name = .ok draft) :
    value.canonicalBytes = .ok draft.content := by
  obtain ⟨content, written, made⟩ := bind_ok.mp made
  cases made
  exact written

omit [Sha256] [CaseText] in
/-- Whatever the IDs are, the body of a ranking can be written when it can be under others. -/
theorem topNBody_written {candidateId predictionId : ArtifactId} {target : PyText} {digest : Digest}
    {ranked : List (EvaluationRow × Nat)} (candidateId' predictionId' : ArtifactId)
    (written : (topNBody candidateId predictionId target digest ranked).canonicalBytes = .ok bytes) :
    ∃ bytes', (topNBody candidateId' predictionId' target digest ranked).canonicalBytes = .ok bytes' := by
  obtain ⟨accepted, fits, -⟩ := canonicalBytes_eq_ok.mp written
  refine ⟨_, canonicalBytes_eq_ok.mpr ⟨?_, ?_, rfl⟩⟩
  · simpa [topNBody, PyValue.named, PyValue.accepted, PyValue.acceptedFields, text] using accepted
  · simpa [topNBody, PyValue.named, PyValue.fits, PyValue.fitsFields, text] using fits

omit [Sha256] [CaseText] in
theorem reportBody_written {candidateId predictionId : ArtifactId} {target : PyText} {digest : Digest} {count kept : Nat}
    (candidateId' predictionId' : ArtifactId)
    (written : (reportBody candidateId predictionId target digest count kept).canonicalBytes = .ok bytes) :
    ∃ bytes', (reportBody candidateId' predictionId' target digest count kept).canonicalBytes = .ok bytes' := by
  obtain ⟨accepted, fits, -⟩ := canonicalBytes_eq_ok.mp written
  refine ⟨_, canonicalBytes_eq_ok.mpr ⟨?_, ?_, rfl⟩⟩
  · simpa [reportBody, PyValue.named, PyValue.accepted, PyValue.acceptedFields, text] using accepted
  · simpa [reportBody, PyValue.named, PyValue.fits, PyValue.fitsFields, text] using fits

/-- What an accepted run read, and what it published. -/
theorem run_ok {read : ArtifactId → Except PyError Bytes} {outcome : EvaluationOutcome}
    (ran : run read events candidateId predictionId topN target direction runId stepId = .ok outcome) :
    ∃ candidateBody predictionBody candidates predictions config digest rows,
      Reads read candidateId predictionId candidateBody predictionBody ∧
      BoundTo events runId candidateId predictionId predictionBody target ∧
      candidateRows candidateBody = .ok candidates ∧ predictionRows predictionBody = .ok predictions ∧
      EvaluationConfig.create topN direction = .ok config ∧ config.digest = .ok digest ∧
      joinRows predictions candidates = .ok rows ∧
      (∀ id, id ∈ predictions.map Prod.fst ↔ id ∈ candidates.map Prod.fst) ∧
      (topNBody candidateId predictionId target digest (ranking config rows)).canonicalBytes = .ok outcome.topNDraft.content ∧
      (reportBody candidateId predictionId target digest rows.length (ranking config rows).length).canonicalBytes =
        .ok outcome.reportDraft.content := by
  simp only [run, bind_ok, ensure_ok, exists_const, Bool.and_eq_true, List.all_eq_true, decide_eq_true_eq] at ran
  obtain ⟨_, generated, _, predicted, bytes, stored, candidateBody, decoded, bytes', stored', predictionBody, decoded', ran⟩ := ran
  obtain ⟨candidates, listed, predictions, listed', config, configured, bound, targeted, ⟨known, known'⟩, ran⟩ := ran
  obtain ⟨rows, joined, digest, digested, topN, ranked, report, reported, ran⟩ := ran
  cases ran
  refine ⟨candidateBody, predictionBody, candidates, predictions, config, digest, rows,
    ⟨bind_ok.mpr ⟨_, stored, decoded⟩, bind_ok.mpr ⟨_, stored', decoded'⟩⟩, ⟨⟨_, generated⟩, ⟨_, predicted⟩, bound, targeted⟩,
    listed, listed', configured, digested, joined, ?_, jsonDraft_ok ranked, jsonDraft_ok reported⟩
  intro id
  constructor
  · intro member
    obtain ⟨row, there, rfl⟩ := List.mem_map.mp member
    exact known row there
  · intro member
    obtain ⟨row, there, rfl⟩ := List.mem_map.mp member
    exact known' row there

/-- An accepted evaluation publishes the first candidates of the order, and publishes the same rows for
any two packages that differ from the first ones in the order of their rows only. -/
theorem top_n_ranked {read : ArtifactId → Except PyError Bytes} {outcome : EvaluationOutcome}
    (ran : run read events candidateId predictionId topN target direction runId stepId = .ok outcome) :
    ∃ candidateBody predictionBody candidates predictions config digest ranked,
      Reads read candidateId predictionId candidateBody predictionBody ∧
      candidateRows candidateBody = .ok candidates ∧ predictionRows predictionBody = .ok predictions ∧
      EvaluationConfig.create topN direction = .ok config ∧
      (topNBody candidateId predictionId target digest ranked).canonicalBytes = .ok outcome.topNDraft.content ∧
      Ranked config.direction config.topN.1.toNat candidates predictions ranked ∧
      ∀ read' events' candidateId' predictionId' candidateBody' predictionBody' runId' stepId',
        Reads read' candidateId' predictionId' candidateBody' predictionBody' →
        BoundTo events' runId' candidateId' predictionId' predictionBody' target →
        Reordered candidateBody candidateBody' → Reordered predictionBody predictionBody' →
        ∃ outcome', run read' events' candidateId' predictionId' topN target direction runId' stepId' = .ok outcome' ∧
          (topNBody candidateId' predictionId' target digest ranked).canonicalBytes = .ok outcome'.topNDraft.content := by
  obtain ⟨candidateBody, predictionBody, candidates, predictions, config, digest, rows, reads, -, listed, listed', configured,
    digested, joined, sameIds, published, reported⟩ := run_ok ran
  obtain ⟨-, -, candidatesApart, -⟩ := packageRows_ok.mp listed
  obtain ⟨-, -, predictionsApart, -⟩ := packageRows_ok.mp listed'
  have each := (joinRows_ok predictionsApart).mp joined
  refine ⟨candidateBody, predictionBody, candidates, predictions, config, digest, ranking config rows, reads, listed, listed',
    configured, published, ranking_ranked config candidatesApart predictionsApart each, ?_⟩
  intro read' events' candidateId' predictionId' candidateBody' predictionBody' runId' stepId' reads' bound moved moved'
  obtain ⟨candidates', relisted, perm⟩ : ∃ candidates', candidateRows candidateBody' = .ok candidates' ∧
      candidates'.Perm candidates := packageRows_reordered listed moved
  obtain ⟨predictions', relisted', perm'⟩ : ∃ predictions', predictionRows predictionBody' = .ok predictions' ∧
      predictions'.Perm predictions := packageRows_reordered listed' moved'
  obtain ⟨rows', rejoined, sameLength, sameRanking⟩ := ranking_reordered config candidatesApart predictionsApart each perm perm'
  have sameIds' (id : PyText) : id ∈ predictions'.map Prod.fst ↔ id ∈ candidates'.map Prod.fst := by
    rw [(perm'.map Prod.fst).mem_iff, (perm.map Prod.fst).mem_iff]
    exact sameIds id
  obtain ⟨topNBytes, topNWritten⟩ := topNBody_written candidateId' predictionId' published
  obtain ⟨reportBytes, reportWritten⟩ := reportBody_written candidateId' predictionId' reported
  obtain ⟨bytes, stored, decoded⟩ := bind_ok.mp reads'.candidate
  obtain ⟨bytes', stored', decoded'⟩ := bind_ok.mp reads'.prediction
  obtain ⟨⟨_, generated⟩, ⟨_, predicted⟩, named, targeted⟩ := bound
  have known : (predictions'.all (·.1 ∈ candidates'.map Prod.fst) && candidates'.all (·.1 ∈ predictions'.map Prod.fst)) = true := by
    simp only [Bool.and_eq_true, List.all_eq_true, decide_eq_true_eq]
    exact ⟨fun row member => (sameIds' row.1).mp (List.mem_map_of_mem member),
      fun row member => (sameIds' row.1).mpr (List.mem_map_of_mem member)⟩
  have done : ∃ outcome', run read' events' candidateId' predictionId' topN target direction runId' stepId' = .ok outcome' ∧
      outcome'.topNDraft.content = topNBytes := by
    rw [run, generated, predicted, stored, stored']
    simp only [bind, Except.bind, decoded, decoded', relisted, relisted', configured, named, targeted, known, rejoined, digested,
      ensure, jsonDraft, if_true, sameRanking, sameLength, topNWritten, reportWritten, pure, Except.pure]
    exact ⟨_, rfl, rfl⟩
  obtain ⟨outcome', ran', content⟩ := done
  refine ⟨outcome', ran', ?_⟩
  rw [content]
  exact topNWritten

end TopNEvaluationService

/-! ### Three candidates, two of them tied -/

namespace Sample
open TopNEvaluationService
attribute [local instance] standardSha256 asciiCase

def candidateBytes : Bytes :=
  asciiBytes "\x7b\"claim_boundary\":\"COMPUTATIONAL_ONLY\",\"rows\":[\x7b\"candidate_id\":\"b\",\"smiles\":\"CC\"\x7d," ++
  asciiBytes "\x7b\"candidate_id\":\"c\",\"smiles\":\"CCC\"\x7d,\x7b\"candidate_id\":\"a\",\"smiles\":\"C\"\x7d]," ++
  asciiBytes "\"schema_name\":\"molly.br1.candidate-package\",\"schema_version\":\"1\"\x7d"

def candidateArtifact : ArtifactId := ⟨sha256Bytes candidateBytes⟩

def predictionBytes : Bytes :=
  asciiBytes "\x7b\"candidate_artifact_id\":\"" ++ asciiBytes candidateArtifact.text ++
  asciiBytes "\",\"claim_boundary\":\"COMPUTATIONAL_ONLY\",\"rows\":[\x7b\"candidate_id\":\"a\",\"predicted_value\":0.5\x7d," ++
  asciiBytes "\x7b\"candidate_id\":\"b\",\"predicted_value\":0.5\x7d,\x7b\"candidate_id\":\"c\",\"predicted_value\":-1\x7d]," ++
  asciiBytes "\"schema_name\":\"molly.br1.prediction-package\",\"schema_version\":\"1\",\"target_property\":\"gap\"\x7d"

def predictionArtifact : ArtifactId := ⟨sha256Bytes predictionBytes⟩

/-- A store of the two packages. -/
def packages (id : ArtifactId) : Except PyError Bytes :=
  if id = candidateArtifact then .ok candidateBytes
  else if id = predictionArtifact then .ok predictionBytes
  else .error ⟨.artifactNotFound, "no such artifact"⟩

def evaluationRun : Identifier := ⟨"run_top", by decide⟩

/-- A successful execution of a tool, with its inputs and its output. -/
def executed (eventId : Identifier) (tool : Identifier) (inputs : ArtifactIds) (output : ArtifactId) : LedgerEvent where
  eventId := eventId
  runId := evaluationRun
  eventType := .toolExecutionSucceeded
  stepId := none
  status := none
  toolName := some tool
  toolVersion := none
  inputArtifactIds := inputs
  outputArtifactIds := ⟨[output], List.nodup_singleton _⟩
  modelProfile := .empty
  providerProfile := .empty
  promptDigest := none
  configDigest := none
  seedMetadata := .empty
  timestamp := validationTimestamp
  metadata := .empty
  previousEventSha256 := none
  eventSha256 := none

def executions : List LedgerEvent :=
  [executed ⟨"e1", by decide⟩ ⟨"br1_generate_reinvent4", by decide⟩ ⟨[], List.nodup_nil⟩ candidateArtifact,
    executed ⟨"e2", by decide⟩ ⟨"br1_predict_unimol", by decide⟩ ⟨[candidateArtifact], List.nodup_singleton _⟩ predictionArtifact]

def evaluated : Except PyError EvaluationOutcome :=
  run packages executions candidateArtifact predictionArtifact (.int 2) (PyText.ofString "gap") (.str (PyText.ofString "max"))
    evaluationRun ⟨"step_1", by decide⟩

theorem top_n_ranked_three : ∃ outcome candidates predictions ranked, evaluated = .ok outcome ∧
    ∃ config, EvaluationConfig.create (.int 2) (.str (PyText.ofString "max")) = .ok config ∧
      Ranked config.direction config.topN.1.toNat candidates predictions ranked := by
  obtain ⟨outcome, ran⟩ : ∃ outcome, evaluated = .ok outcome := ok_of_some (by decide +kernel)
  obtain ⟨_, _, candidates, predictions, config, _, ranked, _, _, _, configured, _, top, _⟩ := top_n_ranked ran
  exact ⟨outcome, candidates, predictions, ranked, ran, config, configured, top⟩

end Sample
end Molly
