import Molly.Br1.Cleaned

/-! The gate of an upload admits every source that the cleaning makes something of. -/
namespace Molly

namespace Cleaning

section
variable [CaseText]

/-! ### Spellings of column names -/

/-- The name is compared as this column's. -/
def Spells (name column : String) : Prop :=
  ((PyText.ofString name).strip.all fun p => p.val < 128) = true ∧ (PyText.ofString name).strip.map lowerAscii = PyText.ofString column

instance (name column : String) : Decidable (Spells name column) := by
  unfold Spells
  infer_instance

theorem normalName_spells {name column : String} (spells : Spells name column) :
    normalName (PyText.ofString name) = PyText.ofString column := (PyText.casefold_lower spells.1).trans spells.2

/-! ### Cells and columns -/

/-- The gate sees the column of a cell that is read under one of some names. -/
theorem hasColumn_found {records : List PyFields} {record : PyFields} (member : record ∈ records) {names columns : List String}
    (spelled : ∀ name ∈ names, ∃ column ∈ columns, column ≠ "" ∧ Spells name column) (filled : columnNamed record names ≠ .null) :
    hasColumn (columnsOf records) columns = true := by
  obtain ⟨f, there, _, text, named, same⟩ := (column_cases _ _).resolve_left filled
  obtain ⟨name, listed, rfl⟩ := List.mem_map.mp named
  obtain ⟨column, admitted, visible, spells⟩ := spelled name listed
  rw [normalName_spells spells] at same
  have inked : f.1.strip ≠ [] := by
    intro blank
    rw [normalName, blank] at same
    exact visible (PyText.ofString_injective (s := "") same).symm
  refine List.any_eq_true.mpr ⟨column, admitted, List.contains_iff_mem.mpr (List.mem_flatMap.mpr ⟨record, member, ?_⟩)⟩
  rw [← same]
  exact List.mem_map_of_mem (List.mem_filter.mpr ⟨List.mem_map_of_mem there, by simpa using inked⟩)

/-! ### What a usable record holds -/

theorem molecule_filled [PrintableText] {record : PyFields} {names : List String} (drawn : cellText (columnNamed record names) ≠ []) :
    columnNamed record names ≠ .null := by
  intro null
  rw [null] at drawn
  exact drawn rfl

omit [CaseText] in
theorem number_filled [DecimalText] {value : PyValue} {x : PyFloat} (number : value.toFloat = .ok x) : value ≠ .null := by
  intro null
  rw [null] at number
  cases number

omit [CaseText] in
theorem array_filled [DecimalText] {value : PyValue} {numbers : List FiniteFloat} (read : numberArray value = .ok numbers)
    (held : numbers ≠ []) : value ≠ .null := by
  intro null
  rw [null] at read
  cases read
  exact held rfl

variable [DecimalText]

/-- The gap of a usable record is in one of the columns where the gate looks for it. -/
theorem gap_columns {records : List PyFields} {record : PyFields} (member : record ∈ records) {taken : Target}
    (found : gapTarget record = .ok taken) {value : FiniteFloat} (outcome : taken.outcome = .ok value) :
    (hasColumn (columnsOf records) ["energies_occ_pbe0_vac_tier2"] && hasColumn (columnsOf records) ["energies_unocc_pbe0_vac_tier2"] ||
      hasColumn (columnsOf records) ["homo_lumo_gap", "target_value", "target"]) = true := by
  unfold gapTarget at found
  obtain ⟨occupied, first, found⟩ := bind_ok.mp found
  obtain ⟨unoccupied, second, found⟩ := bind_ok.mp found
  rw [Bool.or_eq_true, Bool.and_eq_true]
  split at found
  · rename_i last head atLast atHead
    have filled : occupied ≠ [] ∧ unoccupied ≠ [] := by
      constructor
      · intro empty
        rw [empty] at atLast
        cases atLast
      · intro empty
        rw [empty] at atHead
        cases atHead
    exact .inl ⟨hasColumn_found member (by decide +kernel) (array_filled first filled.1),
      hasColumn_found member (by decide +kernel) (array_filled second filled.2)⟩
  · split at found
    · rename_i number
      exact .inr (hasColumn_found member (by decide +kernel) (number_filled number))
    · cases found
      cases outcome

theorem yield_columns {records : List PyFields} {record : PyFields} (member : record ∈ records) {value : FiniteFloat}
    (outcome : (columnTarget (PyText.ofString "quantum_yield") record).outcome = .ok value) :
    hasColumn (columnsOf records) ["quantum_yield", "quantum yield", "target_value", "target"] = true := by
  unfold columnTarget at outcome
  split at outcome
  · rename_i number
    have filled : columnNamed record ["quantum_yield", "target_value", "target", "quantum yield", "quantum_yield"] ≠ .null :=
      number_filled number
    exact hasColumn_found member (by decide +kernel) filled
  · cases outcome

end

end Cleaning

open Cleaning

/-- A target that is supported. -/
def IsSupported (target : PyText) : Prop := target = PyText.ofString "quantum_yield" ∨ target = PyText.ofString "homo_lumo_gap"

/-- The gate of an upload admits what the cleaning makes a dataset of, and finds the same format. -/
theorem upload_admits [CaseText] [DecimalText] [PrintableText] [Sha256] [Sha512] (a : CleaningArguments)
    (supported : IsSupported a.targetProperty.strip) {p : PreparedDataset} (prepared : prepareRawDataset a = .ok p) :
    validateRawDatasetSource a.source a.sourceFormat (some a.targetProperty) = .ok p.sourceFormat := by
  obtain ⟨c, cleaned, _, _, _, _, _, _, _, _, _, format⟩ := prepareRawDataset_ok prepared
  have cleans := clean_ok cleaned
  have used : usableRows c.target (considered a c.records) ≠ [] := by
    intro none
    apply cleans.filled
    rw [cleans.accounts.rows, none]
    rfl
  obtain ⟨u, used⟩ := List.exists_mem_of_ne_nil _ used
  obtain ⟨there, reached, taken, found, outcome, _⟩ := usable_mem used
  have member : u.record ∈ c.records := List.mem_of_mem_take there
  have filled : c.records ≠ [] := List.ne_nil_of_mem member
  have drawn : hasColumn (columnsOf c.records) ["canonical_smiles", "smiles", "chromophore"] = true := by
    have drawn : smilesOf u.record ≠ [] := by simpa [reaches] using (Bool.and_eq_true_iff.mp reached).2
    exact hasColumn_found member (by decide +kernel) (molecule_filled drawn)
  unfold validateRawDatasetSource
  rw [cleans.read, format]
  dsimp only [bind, Except.bind]
  rw [ensure, if_pos (by simpa using filled)]
  dsimp only [bind, Except.bind]
  rw [ensure, if_pos drawn]
  dsimp only [bind, Except.bind, Option.map_some, Option.getD_some]
  rcases supported with target | target
  · have spelled : normalName a.targetProperty = PyText.ofString "quantum_yield" := by
      rw [normalName, target, PyText.casefold_ascii (by decide +kernel)]
    have other : normalName a.targetProperty ≠ PyText.ofString "homo_lumo_gap" := by
      rw [spelled]
      decide +kernel
    have plain : isGap c.target = false := by
      rw [cleans.target, target]
      decide +kernel
    rw [targetOf, plain, cleans.target, target] at found
    cases found
    rw [if_neg other, if_pos (.inl spelled), ensure, if_pos (yield_columns member outcome)]
    rfl
  · have spelled : normalName a.targetProperty = PyText.ofString "homo_lumo_gap" := by
      rw [normalName, target, PyText.casefold_ascii (by decide +kernel)]
    have gap : isGap c.target = true := by
      rw [cleans.target, target]
      decide +kernel
    rw [targetOf, gap] at found
    rw [if_pos spelled, ensure, if_pos (gap_columns member found outcome)]
    rfl

namespace Sample

attribute [local instance] standardSha256 asciiPrintable asciiDecimal asciiCase yieldSha512

theorem upload_admits_yield :
    ∃ p, prepareRawDataset yieldCleaning = .ok p ∧
      validateRawDatasetSource yieldSource (PyText.ofString "auto") (some (PyText.ofString "quantum_yield")) = .ok p.sourceFormat := by
  obtain ⟨p, prepared⟩ := yieldCleaning_prepared
  exact ⟨p, prepared, upload_admits yieldCleaning (.inl (by decide +kernel)) prepared⟩

end Sample

end Molly
