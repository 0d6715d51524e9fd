import Molly.Br1.Cleaning
import Molly.Effect.Firsts
import Molly.Disk.Linearize

/-! What the cleaning keeps of a dataset, and how it accounts for the rest. -/
namespace Molly
namespace Cleaning
open Effect (firsts firsts_old firsts_new firsts_sublist)

section
variable [CaseText] [DecimalText] [PrintableText]

/-- The record has the shape of a row, and a molecule. -/
def reaches (record : PyFields) : Bool := !(record.lookup invalidRowKey).isSome && smilesOf record ≠ []

/-- A record with a finite target, and its place in the source. -/
structure Usable where
  position : Nat
  record : PyFields
  formula : String
  condition : String
  value : FiniteFloat

def Usable.smiles (u : Usable) : PyText := smilesOf u.record

/-- The row that is kept of a record. -/
def Usable.row (a : CleaningArguments) (target : PyText) (u : Usable) : CleanRow :=
  ⟨rowIdOf a u.position, u.smiles, target, u.value, u.condition, referenceOf a (refcodeOf u.record) u.position⟩

def Target.usable? (taken : Target) (position : Nat) (record : PyFields) : Option Usable :=
  match taken.outcome with
  | .ok value => some ⟨position, record, taken.formula, taken.condition, value⟩
  | .error _ => none

def usable? (target : PyText) (position : Nat) (record : PyFields) : Option Usable :=
  if reaches record then
    match targetOf target record with
    | .ok taken => taken.usable? position record
    | .error _ => none
  else none

/-- The usable records of a source, in its order. -/
def usableRows (target : PyText) (records : List PyFields) : List Usable :=
  records.zipIdx.filterMap fun entry => usable? target entry.2 entry.1

/-- A usable record has a shape, a molecule and a finite target, which it is taken with. -/
theorem usable?_some {target : PyText} {position : Nat} {record : PyFields} {u : Usable}
    (used : usable? target position record = some u) :
    reaches record = true ∧ ∃ taken, targetOf target record = .ok taken ∧ taken.outcome = .ok u.value ∧
      u = ⟨position, record, taken.formula, taken.condition, u.value⟩ := by
  unfold usable? at used
  split at used
  · rename_i reached
    split at used
    · rename_i taken found
      unfold Target.usable? at used
      split at used
      · rename_i value outcome
        cases used
        exact ⟨reached, taken, found, outcome, rfl⟩
      · cases used
    · cases used
  · cases used

theorem usable_mem {target : PyText} {records : List PyFields} {u : Usable} (used : u ∈ usableRows target records) :
    u.record ∈ records ∧ reaches u.record = true ∧
      ∃ taken, targetOf target u.record = .ok taken ∧ taken.outcome = .ok u.value ∧ u.formula = taken.formula ∧
        u.condition = taken.condition := by
  obtain ⟨⟨record, position⟩, member, used⟩ := List.mem_filterMap.mp used
  obtain ⟨reached, taken, found, outcome, same⟩ := usable?_some used
  rw [same]
  exact ⟨(List.mem_zipIdx' member).2 ▸ List.getElem_mem _, reached, taken, found, outcome, rfl, rfl⟩

theorem usableRows_concat (target : PyText) (records : List PyFields) (record : PyFields) :
    usableRows target (records ++ [record]) = usableRows target records ++ (usable? target records.length record).toList := by
  rw [usableRows, List.zipIdx_append, List.filterMap_append, usableRows, List.zipIdx_singleton, Nat.zero_add]
  cases found : usable? target records.length record <;> simp [found]

/-- What the loop does with a usable record. -/
def CleaningState.take (s : CleaningState) (a : CleaningArguments) (target : PyText) (u : Usable) : CleaningState :=
  if u.smiles ∈ s.seenSmiles then { s with duplicateCount := s.duplicateCount + 1 }
  else { s with seenSmiles := u.smiles :: s.seenSmiles, rows := s.rows ++ [u.row a target] }

def CleaningState.reach (s : CleaningState) (taken : Target) : CleaningState :=
  { s with formula := taken.formula, targetUnit := taken.unit }

/-- A record is rejected before its target or for it, or it is taken. -/
theorem cleanRecord_cases {a : CleaningArguments} {target : PyText} {s s' : CleaningState} {position : Nat} {record : PyFields}
    (stepped : cleanRecord a target s position record = .ok s') :
    (reaches record = false ∧ ∃ reason, s' = s.rejected reason) ∨
      (reaches record = true ∧ ∃ taken, targetOf target record = .ok taken ∧
        ((∃ reason, taken.usable? position record = none ∧ s' = (s.reach taken).rejected reason) ∨
          ∃ u, taken.usable? position record = some u ∧ s' = (s.reach taken).take a target u)) := by
  unfold cleanRecord at stepped
  by_cases shaped : (record.lookup invalidRowKey).isSome = true
  · rw [if_pos shaped] at stepped
    cases stepped
    exact .inl ⟨by simp [reaches, shaped], _, rfl⟩
  · rw [if_neg shaped] at stepped
    dsimp only at stepped
    by_cases blank : smilesOf record = []
    · rw [if_pos blank] at stepped
      cases stepped
      exact .inl ⟨by simp [reaches, blank], _, rfl⟩
    · rw [if_neg blank] at stepped
      obtain ⟨taken, target_eq, stepped⟩ := bind_ok.mp stepped
      refine .inr ⟨by simp [reaches, shaped, blank], taken, target_eq, ?_⟩
      cases outcome : taken.outcome with
      | error reason =>
        rw [outcome] at stepped
        cases stepped
        exact .inl ⟨reason, by rw [Target.usable?, outcome], rfl⟩
      | ok value =>
        rw [outcome] at stepped
        refine .inr ⟨⟨position, record, taken.formula, taken.condition, value⟩, by rw [Target.usable?, outcome], ?_⟩
        dsimp only at stepped
        by_cases seen : smilesOf record ∈ s.seenSmiles
        · rw [if_pos seen] at stepped
          cases stepped
          exact (if_pos seen).symm
        · rw [if_neg seen] at stepped
          cases stepped
          exact (if_neg seen).symm

/-- What the variables of the loop say of the records behind it. -/
structure Accounts (a : CleaningArguments) (target : PyText) (done : List PyFields) (s : CleaningState) : Prop where
  rows : s.rows = (firsts Usable.smiles (usableRows target done)).map (Usable.row a target)
  seen : ∀ smiles, smiles ∈ s.seenSmiles ↔ smiles ∈ (usableRows target done).map Usable.smiles
  invalid : (s.reasonCounts.map Prod.snd).sum + (usableRows target done).length = done.length
  duplicates : s.duplicateCount + s.rows.length = (usableRows target done).length
  formula : ∀ record, (done.filter reaches).getLast? = some record → ∃ taken, targetOf target record = .ok taken ∧ s.formula = taken.formula

theorem Accounts.start (a : CleaningArguments) (target : PyText) : Accounts a target [] .start where
  rows := rfl
  seen := by simp [CleaningState.start, usableRows]
  invalid := rfl
  duplicates := rfl
  formula := by simp

variable {a : CleaningArguments} {target : PyText} {done : List PyFields} {s s' : CleaningState} {record : PyFields}

theorem Accounts.skip (accounts : Accounts a target done s) (skipped : reaches record = false) (reason : String) :
    Accounts a target (done ++ [record]) (s.rejected reason) := by
  have unusable : usableRows target (done ++ [record]) = usableRows target done := by
    rw [usableRows_concat, usable?, skipped]
    exact List.append_nil _
  have counted := Effect.Dict.sum_tally (PyText.ofString reason) s.reasonCounts
  constructor
  · rw [unusable]
    exact accounts.rows
  · rw [unusable]
    exact accounts.seen
  · rw [unusable, List.length_append, List.length_singleton, ← accounts.invalid]
    show ((Effect.Dict.tally _ s.reasonCounts).map Prod.snd).sum + _ = _
    omega
  · rw [unusable]
    exact accounts.duplicates
  · rw [List.filter_append, List.filter_cons_of_neg (by simp [skipped]), List.filter_nil, List.append_nil]
    exact accounts.formula

theorem reach_formula (reached : reaches record = true) {taken : Target} (target_eq : targetOf target record = .ok taken) :
    ∀ last, ((done ++ [record]).filter reaches).getLast? = some last →
      ∃ t, targetOf target last = .ok t ∧ (s.reach taken).formula = t.formula := by
  intro last found
  rw [List.filter_append, List.filter_cons_of_pos (by exact reached), List.filter_nil, List.getLast?_concat] at found
  cases found
  exact ⟨taken, target_eq, rfl⟩

theorem Accounts.reject (accounts : Accounts a target done s) (reached : reaches record = true) {taken : Target}
    (target_eq : targetOf target record = .ok taken) (refused : taken.usable? done.length record = none) (reason : String) :
    Accounts a target (done ++ [record]) ((s.reach taken).rejected reason) := by
  have unusable : usableRows target (done ++ [record]) = usableRows target done := by
    rw [usableRows_concat, usable?, if_pos reached, target_eq]
    dsimp only
    rw [refused]
    exact List.append_nil _
  have counted := Effect.Dict.sum_tally (PyText.ofString reason) s.reasonCounts
  constructor
  · rw [unusable]
    exact accounts.rows
  · rw [unusable]
    exact accounts.seen
  · rw [unusable, List.length_append, List.length_singleton, ← accounts.invalid]
    show ((Effect.Dict.tally _ s.reasonCounts).map Prod.snd).sum + _ = _
    omega
  · rw [unusable]
    exact accounts.duplicates
  · exact reach_formula (s := s) reached target_eq

theorem Accounts.take (accounts : Accounts a target done s) (reached : reaches record = true) {taken : Target}
    (target_eq : targetOf target record = .ok taken) {u : Usable} (used : taken.usable? done.length record = some u) :
    Accounts a target (done ++ [record]) ((s.reach taken).take a target u) := by
  have grown : usableRows target (done ++ [record]) = usableRows target done ++ [u] := by
    rw [usableRows_concat, usable?, if_pos reached, target_eq]
    dsimp only
    rw [used]
    rfl
  have formula : ∀ last, ((done ++ [record]).filter reaches).getLast? = some last →
      ∃ t, targetOf target last = .ok t ∧ (s.reach taken).formula = t.formula := reach_formula reached target_eq
  by_cases seen : u.smiles ∈ s.seenSmiles
  · have old := (accounts.seen _).mp seen
    have same : (s.reach taken).take a target u = { s.reach taken with duplicateCount := s.duplicateCount + 1 } := if_pos seen
    rw [same]
    constructor
    · rw [grown, firsts_old old]
      exact accounts.rows
    · intro smiles
      rw [grown, List.map_append, List.mem_append, List.map_singleton, List.mem_singleton]
      refine (accounts.seen smiles).trans ⟨.inl, ?_⟩
      intro either
      rcases either with there | rfl
      · exact there
      · exact old
    · rw [grown, List.length_append, List.length_append, ← accounts.invalid]
      rfl
    · show s.duplicateCount + 1 + s.rows.length = _
      rw [grown, List.length_append, ← accounts.duplicates, List.length_singleton]
      omega
    · exact formula
  · have fresh : u.smiles ∉ (usableRows target done).map Usable.smiles := mt (accounts.seen _).mpr seen
    have same : (s.reach taken).take a target u =
        { s.reach taken with seenSmiles := u.smiles :: s.seenSmiles, rows := s.rows ++ [u.row a target] } := if_neg seen
    rw [same]
    constructor
    · rw [grown, firsts_new fresh, List.map_append, ← accounts.rows]
      rfl
    · intro smiles
      rw [grown, List.map_append, List.mem_append, List.map_singleton, List.mem_singleton, ← accounts.seen]
      exact List.mem_cons.trans or_comm
    · rw [grown, List.length_append, List.length_append, ← accounts.invalid]
      rfl
    · show s.duplicateCount + (s.rows ++ [u.row a target]).length = _
      rw [grown, List.length_append, List.length_append, ← accounts.duplicates, List.length_singleton, List.length_singleton]
      omega
    · exact formula

theorem Accounts.step (accounts : Accounts a target done s) (stepped : cleanRecord a target s done.length record = .ok s') :
    Accounts a target (done ++ [record]) s' := by
  rcases cleanRecord_cases stepped with ⟨skipped, reason, rfl⟩ | ⟨reached, taken, target_eq, later⟩
  · exact accounts.skip skipped reason
  · rcases later with ⟨reason, refused, rfl⟩ | ⟨u, used, rfl⟩
    · exact accounts.reject reached target_eq refused reason
    · exact accounts.take reached target_eq used

/-- The loop keeps the accounts. -/
theorem Accounts.run (accounts : Accounts a target done s) {records : List PyFields}
    (cleaned : cleanRecords a target s done.length records = .ok s') : Accounts a target (done ++ records) s' := by
  induction records generalizing done s with
  | nil =>
    cases cleaned
    rwa [List.append_nil]
  | cons record rest ih =>
    obtain ⟨s₁, stepped, cleaned⟩ := bind_ok.mp cleaned
    have later := ih (accounts.step stepped) (by rwa [List.length_append, List.length_singleton])
    rwa [List.append_assoc] at later

/-! ### The names of rows -/

def paddedDigits (position : Nat) : List Char :=
  List.replicate (5 - (Nat.toDigits 10 position).length) '0' ++ Nat.toDigits 10 position

omit [CaseText] [DecimalText] [PrintableText] in
theorem paddedPosition_eq (position : Nat) : paddedPosition position = (paddedDigits position).map CodePoint.ofChar := by
  have digits : PyText.ofString (toString position) = (Nat.toDigits 10 position).map CodePoint.ofChar := by
    rw [PyText.ofString, Effect.chars_eq]
    exact congrArg _ Nat.toList_repr
  rw [paddedPosition, digits, paddedDigits, List.map_append, List.map_replicate, List.length_map]
  rfl

omit [CaseText] [DecimalText] [PrintableText] in
theorem paddedPosition_injective : Function.Injective paddedPosition := by
  intro m n same
  have value (k : Nat) : Nat.ofDigitChars 10 (paddedDigits k) 0 = k := by
    rw [paddedDigits, Nat.ofDigitChars_append, Nat.ofDigitChars_replicate_zero, Nat.mul_zero, Nat.ofDigitChars_ten_toDigits]
  rw [paddedPosition_eq, paddedPosition_eq] at same
  have same := List.map_injective_iff.mpr (fun _ _ => CodePoint.ofChar_injective) same
  rw [← value m, same, value]

omit [DecimalText] [PrintableText] in
theorem rowIdOf_injective (a : CleaningArguments) : Function.Injective (rowIdOf a) := by
  intro m n same
  unfold rowIdOf at same
  exact paddedPosition_injective (List.cons.inj (List.append_cancel_left same)).2

theorem usableRows_positions (target : PyText) (records : List PyFields) :
    ((usableRows target records).map Usable.position).Sublist (List.range records.length) := by
  induction records using List.reverseRecOn with
  | nil => exact List.Sublist.slnil
  | append_singleton records record ih =>
    rw [usableRows_concat, List.map_append, List.length_append, List.length_singleton, List.range_succ]
    refine ih.append ?_
    cases found : usable? target records.length record with
    | none => exact List.nil_sublist _
    | some u =>
      obtain ⟨_, taken, _, _, same⟩ := usable?_some found
      have place : u.position = records.length := by rw [same]
      simp [place]

/-- No two kept rows have one name. -/
theorem Accounts.distinct (accounts : Accounts a target done s) : (s.rows.map CleanRow.rowId).Nodup := by
  rw [accounts.rows, List.map_map]
  have positions : ((firsts Usable.smiles (usableRows target done)).map Usable.position).Nodup :=
    (((firsts_sublist _).map _).trans (usableRows_positions target done)).nodup List.nodup_range
  have named : CleanRow.rowId ∘ Usable.row a target = rowIdOf a ∘ Usable.position := rfl
  rw [named, ← List.map_map]
  exact positions.map (rowIdOf_injective a)

/-! ### What is published -/

/-- What a cleaning that ends has gone over. -/
structure Cleans (a : CleaningArguments) (c : Cleaned) : Prop where
  read : sourceRecords a.source a.sourceFormat = .ok (c.records, c.sourceFormat)
  target : c.target = a.targetProperty.strip
  reference : referenceFault c.target.display = none
  dataset : isSourceName a.sourceDataset = true
  subset : isSourceName a.sourceSubset = true
  ran : cleanRecords a c.target .start 0 (considered a c.records) = .ok c.final
  filled : c.final.rows ≠ []

theorem clean_ok {c : Cleaned} (cleaned : clean a = .ok c) : Cleans a c := by
  unfold clean at cleaned
  obtain ⟨named, _, cleaned⟩ := bind_ok.mp cleaned
  simp only [bind_ok, ensure_ok, exists_const] at cleaned
  obtain ⟨_, dataset, subset, ⟨records, format⟩, read, final, ran, filled, cleaned⟩ := cleaned
  cases cleaned
  exact ⟨read, named.2.1, named.2.2, dataset, subset, ran, of_decide_eq_true filled⟩

theorem Cleans.accounts {c : Cleaned} (cleans : Cleans a c) : Accounts a c.target (considered a c.records) c.final :=
  (Accounts.start a c.target).run cleans.ran

variable [Sha256] [Sha512]

theorem prepareRawDataset_ok {p : PreparedDataset} (prepared : prepareRawDataset a = .ok p) :
    ∃ c, clean a = .ok c ∧ ∃ digest, (PyValue.named (c.body a digest)).canonicalBytes = .ok p.content ∧
      (PyValue.named (c.report a digest)).canonicalBytes = .ok p.report ∧ p.transformationDigest = digest ∧
      (PyValue.named (c.transformation a)).digest = .ok digest ∧ p.rowCount = c.final.rows.length ∧
      p.sourceRowCount = c.records.length ∧ p.invalidRowCount = c.invalidCount ∧
      p.duplicateRowCount = c.final.duplicateCount ∧ p.sourceFormat = c.sourceFormat := by
  unfold prepareRawDataset at prepared
  obtain ⟨c, cleaned, prepared⟩ := bind_ok.mp prepared
  obtain ⟨digest, hashed, prepared⟩ := bind_ok.mp prepared
  obtain ⟨content, body, prepared⟩ := bind_ok.mp prepared
  obtain ⟨report, reported, prepared⟩ := bind_ok.mp prepared
  cases prepared
  exact ⟨c, cleaned, digest, body, reported, rfl, hashed, rfl, rfl, rfl, rfl, rfl⟩

/-- What a cleaned dataset says of the rows of its source, under `records` its records. -/
structure Conserved (a : CleaningArguments) (records : List PyFields) (p : PreparedDataset)
    (body report : List (String × PyValue)) (kept : List CleanRow) : Prop where
  published : (PyValue.named body).canonicalBytes = .ok p.content
  reported : (PyValue.named report).canonicalBytes = .ok p.report
  carried : body.lookup "cleaning_report" = some (.named report)
  listed : body.lookup "rows" = some (.arr (kept.map fun row => .named row.entries))
  first : kept = (firsts Usable.smiles (usableRows a.targetProperty.strip (considered a records))).map
    (Usable.row a a.targetProperty.strip)
  finite : ∀ row ∈ kept, ∃ x, row.entries.lookup "target_value" = some (.float x)
  distinct : (kept.map CleanRow.rowId).Nodup
  conserved : (considered a records).length = p.rowCount + p.invalidRowCount + p.duplicateRowCount
  invalid : p.invalidRowCount = (considered a records).length - (usableRows a.targetProperty.strip (considered a records)).length
  truncated : ∃ cut : Nat, report.lookup "truncated_row_count" = some (.int cut) ∧
    records.length = (considered a records).length + cut
  considered : report.lookup "considered_row_count" = some (.int (considered a records).length)
  rowCount : p.rowCount = kept.length ∧ body.lookup "row_count" = some (.int p.rowCount) ∧
    report.lookup "transformed_row_count" = some (.int p.rowCount)
  sourceRowCount : p.sourceRowCount = records.length ∧ body.lookup "source_row_count" = some (.int p.sourceRowCount) ∧
    report.lookup "source_row_count" = some (.int p.sourceRowCount)
  invalidRowCount : body.lookup "invalid_row_count" = some (.int p.invalidRowCount) ∧
    report.lookup "invalid_row_count" = some (.int p.invalidRowCount)
  duplicateRowCount : body.lookup "duplicate_row_count" = some (.int p.duplicateRowCount) ∧
    report.lookup "duplicate_row_count" = some (.int p.duplicateRowCount)

end

end Cleaning

open Cleaning

/-- A cleaning conserves the rows of its source. -/
theorem cleaning_conserves [CaseText] [DecimalText] [PrintableText] [Sha256] [Sha512] (a : CleaningArguments)
    {p : PreparedDataset} (prepared : prepareRawDataset a = .ok p) :
    ∃ records, sourceRecords a.source a.sourceFormat = .ok (records, p.sourceFormat) ∧
      ∃ body report kept, Conserved a records p body report kept := by
  obtain ⟨c, cleaned, digest, body, report, _, _, rows, sourceRows, invalid, duplicates, format⟩ := prepareRawDataset_ok prepared
  have cleans := clean_ok cleaned
  have named := cleans.target
  have accounts := cleans.accounts
  have unusable : c.invalidCount + (usableRows c.target (considered a c.records)).length = _ := accounts.invalid
  have repeated := accounts.duplicates
  refine ⟨c.records, by rw [cleans.read, format], c.body a digest, c.report a digest, c.final.rows, ?_⟩
  constructor
  · exact body
  · exact report
  · rfl
  · rfl
  · rw [← named]
    exact accounts.rows
  · intro row _
    exact ⟨row.targetValue, rfl⟩
  · exact accounts.distinct
  · omega
  · rw [← named]
    omega
  · refine ⟨c.records.length - (considered a c.records).length, ?_, ?_⟩
    · have fewer : (considered a c.records).length ≤ c.records.length := List.length_take_le' _ _
      have cut : ((c.records.length - (considered a c.records).length : Nat) : Int) =
          max 0 ((c.records.length : Int) - (considered a c.records).length) := by omega
      rw [cut]
      rfl
    · have fewer : (considered a c.records).length ≤ c.records.length := List.length_take_le' _ _
      omega
  · rfl
  · rw [rows]
    exact ⟨rfl, rfl, rfl⟩
  · rw [sourceRows]
    exact ⟨rfl, rfl, rfl⟩
  · rw [invalid]
    exact ⟨rfl, rfl⟩
  · rw [duplicates]
    exact ⟨rfl, rfl⟩

namespace Sample

attribute [local instance] standardSha256 asciiPrintable asciiDecimal asciiCase

/-- The SHA-512 digest of the source at hand. -/
@[reducible] def sha512Is (digest : String) : Sha512 := ⟨fun _ => digest⟩

def yieldSource : Bytes := asciiBytes "smiles,quantum_yield\nC,0.5\n"

@[reducible] def yieldSha512 : Sha512 := sha512Is
  ("c00c6ca24dae61c4c6d981267c83e02b3cd740b2cbe36de3b9b26546595fd186" ++
    "f8d8f23aa47af63ff129c01dc4f0cc4504df42c70d0952bb11d62abc05d0f47d")

attribute [local instance] yieldSha512

theorem rows_bounded : (1 : Int) ≤ 100000 ∧ (100000 : Int) ≤ 100000 := by decide

def yieldCleaning : CleaningArguments :=
  .standard yieldSource (PyText.ofString "quantum_yield") (PyText.ofString "auto") ⟨100000, rows_bounded⟩

theorem yieldCleaning_prepared : ∃ p, prepareRawDataset yieldCleaning = .ok p := ok_of_some (by decide +kernel)

theorem cleaning_conserves_yield :
    ∃ p, prepareRawDataset yieldCleaning = .ok p ∧ ∃ records, sourceRecords yieldSource (PyText.ofString "auto") = .ok (records, p.sourceFormat) ∧
      ∃ body report kept, Conserved yieldCleaning records p body report kept := by
  obtain ⟨p, prepared⟩ := yieldCleaning_prepared
  exact ⟨p, prepared, cleaning_conserves yieldCleaning prepared⟩

end Sample

end Molly
