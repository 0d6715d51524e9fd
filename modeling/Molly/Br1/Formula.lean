import Molly.Br1.Cleaned

/-! The formula that a cleaned dataset records, and those by which its targets were computed. -/
namespace Molly

namespace Cleaning
open Effect (firsts firsts_sublist firsts_keys firsts_nodup)

/-- Where a record has its gap. -/
inductive GapSource where
  | orbitals | gapColumn | nowhere
  deriving DecidableEq

/-- The formula that the cleaning assigns for it. -/
def GapSource.formula : GapSource → String
  | .orbitals => orbitalFormula
  | .gapColumn => gapFormula
  | .nowhere => columnFormula

theorem GapSource.formula_inj {x y : GapSource} (same : x.formula = y.formula) : x = y := by
  cases x <;> cases y <;> first | rfl | exact absurd same (by decide)

section
variable [CaseText] [DecimalText]

/-- The orbital energies come before the columns of the gap. -/
def gapSource (record : PyFields) : GapSource :=
  match numberArray (columnNamed record ["energies_occ_pbe0_vac_tier2"]), numberArray (columnNamed record ["energies_unocc_pbe0_vac_tier2"]) with
  | .ok (_ :: _), .ok (_ :: _) => .orbitals
  | _, _ => if (columnNamed record ["homo_lumo_gap", "target_value", "target"]).toFloat.isOk then .gapColumn else .nowhere

theorem gapTarget_formula {record : PyFields} {taken : Target} (found : gapTarget record = .ok taken) :
    taken.formula = (gapSource record).formula := by
  unfold gapTarget at found
  obtain ⟨occupied, first, found⟩ := bind_ok.mp found
  obtain ⟨unoccupied, second, found⟩ := bind_ok.mp found
  unfold gapSource
  rw [first, second]
  rcases occupied with _ | ⟨o, os⟩
  · dsimp only [List.getLast?_nil] at found ⊢
    split at found <;> rename_i number <;> cases found <;> rw [number] <;> rfl
  · rcases unoccupied with _ | ⟨n, ns⟩
    · rw [List.getLast?_cons] at found
      dsimp only [List.head?_nil] at found ⊢
      split at found <;> rename_i number <;> cases found <;> rw [number] <;> rfl
    · rw [List.getLast?_cons] at found
      cases found
      rfl

variable [PrintableText]

/-- The records whose rows are kept. -/
def keptOf (target : PyText) (records : List PyFields) : List Usable := firsts Usable.smiles (usableRows target records)

/-- The last record that gets as far as its target. -/
def lastReached (records : List PyFields) : Option PyFields := (records.filter reaches).getLast?

/-- The records that are kept, and the last one that gets as far as its target, have their gap in one
kind of place. No other target has more than one formula. -/
def OneGapSource (target : PyText) (records : List PyFields) : Prop :=
  isGap target = true → ∀ u ∈ keptOf target records, ∀ last, lastReached records = some last → gapSource u.record = gapSource last

/-- The recorded formula, which the digest of the transformation binds, is that of every kept row; and it is
recorded also when the rejected and the repeated records are left out. -/
def AppliedFormula [Sha256] (a : CleaningArguments) (p : PreparedDataset) : Prop :=
  ∃ c formula, clean a = .ok c ∧ (PyValue.named (c.transformation a)).digest = .ok p.transformationDigest ∧
    (c.transformation a).lookup "formula" = some (text formula) ∧
    (∀ u ∈ keptOf c.target (considered a c.records), u.formula = formula) ∧
    ∀ s, cleanRecords a c.target .start 0 ((keptOf c.target (considered a c.records)).map Usable.record) = .ok s → s.formula = formula

theorem keptOf_mem {target : PyText} {records : List PyFields} {u : Usable} (kept : u ∈ keptOf target records) :
    u ∈ usableRows target records := (firsts_sublist _).subset kept

/-- A cleaned dataset has a row, and some record was the last to get as far as its target. -/
theorem Cleans.last {a : CleaningArguments} {c : Cleaned} (cleans : Cleans a c) :
    (∃ u, u ∈ keptOf c.target (considered a c.records)) ∧
      ∃ last taken, lastReached (considered a c.records) = some last ∧ targetOf c.target last = .ok taken ∧ c.final.formula = taken.formula := by
  have rows := cleans.accounts.rows
  have filled : keptOf c.target (considered a c.records) ≠ [] := by
    intro empty
    apply cleans.filled
    rw [rows]
    exact congrArg _ empty
  obtain ⟨u, kept⟩ := List.exists_mem_of_ne_nil _ filled
  obtain ⟨there, reached, _⟩ := usable_mem (keptOf_mem kept)
  have some_reached : (considered a c.records).filter reaches ≠ [] :=
    List.ne_nil_of_mem (List.mem_filter.mpr ⟨there, reached⟩)
  have last := List.getLast?_eq_some_getLast some_reached
  obtain ⟨taken, found, formula⟩ := cleans.accounts.formula _ last
  exact ⟨⟨u, kept⟩, _, taken, last, found, formula⟩

omit [PrintableText] in
theorem columnTarget_formula (target : PyText) (record : PyFields) : (columnTarget target record).formula = columnFormula := by
  unfold columnTarget
  split <;> rfl

omit [PrintableText] in
/-- The formula of a record is that of the place where its target is. -/
theorem targetOf_formula {target : PyText} {record : PyFields} {taken : Target} (found : targetOf target record = .ok taken) :
    taken.formula = if isGap target then (gapSource record).formula else columnFormula := by
  unfold targetOf at found
  split at found
  · rename_i gap
    rw [if_pos gap]
    exact gapTarget_formula found
  · rename_i other
    rw [if_neg other]
    cases found
    exact columnTarget_formula target record

theorem usable_formula {target : PyText} {records : List PyFields} {u : Usable} (used : u ∈ usableRows target records) :
    u.formula = if isGap target then (gapSource u.record).formula else columnFormula := by
  obtain ⟨_, _, taken, found, _, formula, _⟩ := usable_mem used
  rw [formula, targetOf_formula found]

/-- The kept records alone lead to the formula that they have in common. -/
theorem kept_alone {a : CleaningArguments} {target : PyText} {records : List PyFields} {formula : String}
    (some_kept : ∃ u, u ∈ keptOf target records) (common : ∀ u ∈ keptOf target records, u.formula = formula) {s : CleaningState}
    (ran : cleanRecords a target .start 0 ((keptOf target records).map Usable.record) = .ok s) : s.formula = formula := by
  have accounts := (Accounts.start a target).run ran
  have reached : ((keptOf target records).map Usable.record).filter reaches = (keptOf target records).map Usable.record := by
    rw [List.filter_eq_self]
    intro record member
    obtain ⟨u, kept, rfl⟩ := List.mem_map.mp member
    exact (usable_mem (keptOf_mem kept)).2.1
  obtain ⟨v, some_kept⟩ := some_kept
  have filled : (keptOf target records).map Usable.record ≠ [] := List.ne_nil_of_mem (List.mem_map_of_mem some_kept)
  have last := List.getLast?_eq_some_getLast filled
  obtain ⟨u, kept, same⟩ := List.mem_map.mp (List.getLast_mem filled)
  obtain ⟨taken, found, ended⟩ := accounts.formula u.record (by rw [List.nil_append, reached, last, same])
  rw [ended, targetOf_formula found, ← usable_formula (keptOf_mem kept), common u kept]

omit [CaseText] [DecimalText] [PrintableText] in
theorem text_inj {s t : String} : text s = text t ↔ s = t := by
  constructor
  · intro same
    exact PyText.ofString_injective (PyValue.str.inj same)
  · exact congrArg text

variable [Sha256] {a : CleaningArguments} {p : PreparedDataset}

/-- The formula that is recorded is that of the last record that got as far as its target. -/
theorem AppliedFormula.recorded (applied : AppliedFormula a p) {c : Cleaned} (cleaned : clean a = .ok c) :
    ∀ u ∈ keptOf c.target (considered a c.records), u.formula = c.final.formula := by
  obtain ⟨c', formula, cleaned', _, recorded, common, _⟩ := applied
  rw [cleaned, Except.ok.injEq] at cleaned'
  subst cleaned'
  have same : c.final.formula = formula := text_inj.mp (Option.some.inj recorded)
  rw [same]
  exact common

theorem oneGapSource_of_applied (applied : AppliedFormula a p) {c : Cleaned} (cleaned : clean a = .ok c) :
    OneGapSource c.target (considered a c.records) := by
  intro gap u kept last reached
  obtain ⟨_, last', taken, reached', found, formula⟩ := (clean_ok cleaned).last
  rw [reached, Option.some.injEq] at reached'
  subst reached'
  apply GapSource.formula_inj
  have at_u := usable_formula (keptOf_mem kept)
  have at_last := targetOf_formula found
  rw [if_pos gap] at at_u at_last
  rw [← at_u, ← at_last, ← formula]
  exact applied.recorded cleaned u kept

theorem applied_of_oneGapSource {c : Cleaned} (cleaned : clean a = .ok c)
    (hashed : (PyValue.named (c.transformation a)).digest = .ok p.transformationDigest)
    (one : OneGapSource c.target (considered a c.records)) : AppliedFormula a p := by
  obtain ⟨some_kept, last, taken, reached, found, formula⟩ := (clean_ok cleaned).last
  have common : ∀ u ∈ keptOf c.target (considered a c.records), u.formula = c.final.formula := by
    intro u kept
    rw [usable_formula (keptOf_mem kept), formula, targetOf_formula found]
    by_cases gap : isGap c.target = true
    · rw [if_pos gap, if_pos gap, one gap u kept last reached]
    · rw [if_neg gap, if_neg gap]
  exact ⟨c, c.final.formula, cleaned, hashed, rfl, common, fun s ran => kept_alone some_kept common ran⟩

end

end Cleaning

open Cleaning

/-- The recorded formula is that of every kept row exactly where the gaps of the kept rows, and of the last
row that gets as far as its target, are in one kind of place. -/
theorem formula_applied [CaseText] [DecimalText] [PrintableText] [Sha256] [Sha512] (a : CleaningArguments)
    {p : PreparedDataset} (prepared : prepareRawDataset a = .ok p) :
    AppliedFormula a p ↔ ∀ records format, sourceRecords a.source a.sourceFormat = .ok (records, format) →
      OneGapSource a.targetProperty.strip (considered a records) := by
  obtain ⟨c, cleaned, digest, _, _, same, hashed, _⟩ := prepareRawDataset_ok prepared
  have cleans := clean_ok cleaned
  constructor
  · intro applied records format read
    rw [cleans.read, Except.ok.injEq, Prod.mk.injEq] at read
    rw [← read.1, ← cleans.target]
    exact oneGapSource_of_applied applied cleaned
  · intro one
    apply applied_of_oneGapSource cleaned (same ▸ hashed)
    rw [cleans.target]
    exact one _ _ cleans.read

namespace Sample

attribute [local instance] standardSha256 asciiPrintable asciiDecimal asciiCase

def gapSourceBytes : Bytes := asciiBytes "smiles,homo_lumo_gap\nC,3.5\n"

def gapCleaning : CleaningArguments :=
  .standard gapSourceBytes (PyText.ofString "homo_lumo_gap") (PyText.ofString "auto") ⟨100000, rows_bounded⟩

@[reducible] def gapSha512 : Sha512 := sha512Is
  ("19340fb80ff4c147b0c5c364d3ec37100a6f07f9aa3b797ef29f5ba65069bb11" ++
    "d60111a475c49afcbb21c6f1f247b1fa5022252c9a7613c0e8176053d8863eba")

section
attribute [local instance] gapSha512

theorem gapCleaning_prepared : ∃ p, prepareRawDataset gapCleaning = .ok p := ok_of_some (by decide +kernel)

theorem formula_applied_gap : ∃ p, prepareRawDataset gapCleaning = .ok p ∧ AppliedFormula gapCleaning p := by
  obtain ⟨p, prepared⟩ := gapCleaning_prepared
  refine ⟨p, prepared, (formula_applied gapCleaning prepared).mpr fun records format read _ u kept last reached => ?_⟩
  have same : ((sourceRecords gapCleaning.source gapCleaning.sourceFormat).toOption.any fun found =>
      (keptOf gapCleaning.targetProperty.strip (considered gapCleaning found.1)).all fun u =>
        (lastReached (considered gapCleaning found.1)).all fun last => gapSource u.record = gapSource last) = true := by
    decide +kernel
  rw [read] at same
  have at_u := List.all_eq_true.mp same u kept
  rw [reached] at at_u
  exact of_decide_eq_true at_u

end

/-- The first row has its gap in the orbital energies, the second in a column. -/
def mixedSource : Bytes := asciiBytes
  "smiles,energies_occ_pbe0_vac_tier2,energies_unocc_pbe0_vac_tier2,homo_lumo_gap\nC,[-6.5],[-1.5],\nN,,,3.5\n"

def mixedCleaning : CleaningArguments :=
  .standard mixedSource (PyText.ofString "homo_lumo_gap") (PyText.ofString "auto") ⟨100000, rows_bounded⟩

@[reducible] def mixedSha512 : Sha512 := sha512Is
  ("0419cbebfb617ca78de3d634854d80945c2ea0c3fc9961dabb84acdfae056d8f" ++
    "21b18f4d4df04dbdd16afe1aa9ac4883b99127a812010e0bead59df698de04a1")

section
attribute [local instance] mixedSha512

theorem formula_applied_fails : ∃ p, prepareRawDataset mixedCleaning = .ok p ∧ ¬AppliedFormula mixedCleaning p := by
  obtain ⟨p, prepared⟩ : ∃ p, prepareRawDataset mixedCleaning = .ok p := ok_of_some (by decide +kernel)
  refine ⟨p, prepared, fun applied => ?_⟩
  obtain ⟨c, cleaned, _⟩ := prepareRawDataset_ok prepared
  have differs : ((clean mixedCleaning).toOption.any fun c =>
      (keptOf c.target (considered mixedCleaning c.records)).any fun u => u.formula ≠ c.final.formula) = true := by
    decide +kernel
  rw [cleaned] at differs
  obtain ⟨u, kept, other⟩ := List.any_eq_true.mp differs
  exact of_decide_eq_true other (applied.recorded cleaned u kept)

end

end Sample

end Molly
