import Molly.Effect.Dict
import Molly.File.Reading
import Molly.Oled.Texts

/-! The sources of raw datasets: CSV and JSON files as lists of records, and the gate of an upload. -/
namespace Molly
open Effect (Dict.assign)

/-! ### CSV -/

namespace Csv

inductive State where
  | startRecord | startField | inField | inQuotedField | quoteInQuotedField | eatCrnl
  deriving DecidableEq

/-- The parser between two characters: the field and the fields of the record so far. -/
structure Reader where
  state : State
  field : PyText
  fields : List PyText

def Reader.start : Reader := ⟨.startRecord, [], []⟩

def fieldLimit : Nat := 131072

/-- `parse_add_char`; nothing where it raises. -/
def Reader.add (r : Reader) (state : State) (p : CodePoint) : Option Reader :=
  if fieldLimit ≤ r.field.length then none else some { r with state := state, field := r.field ++ [p] }

/-- `parse_save_field`. -/
def Reader.save (r : Reader) (state : State) : Reader := ⟨state, [], r.fields ++ [r.field]⟩

def isBreak (p : CodePoint) : Bool := p = 10 || p = 13

/-- `parse_process_char` of the default dialect: comma, double quotes that are doubled inside a field. -/
def Reader.process (r : Reader) (p : CodePoint) : Option Reader :=
  let field (r : Reader) : Option Reader :=
    if isBreak p then some (r.save .eatCrnl)
    else if p = 34 then some { r with state := .inQuotedField }
    else if p = 44 then some (r.save .startField)
    else r.add .inField p
  match r.state with
  | .startRecord => if isBreak p then some { r with state := .eatCrnl } else field r
  | .startField => field r
  | .inField =>
    if isBreak p then some (r.save .eatCrnl) else if p = 44 then some (r.save .startField) else r.add .inField p
  | .inQuotedField => if p = 34 then some { r with state := .quoteInQuotedField } else r.add .inQuotedField p
  | .quoteInQuotedField =>
    if p = 34 then r.add .inQuotedField p
    else if p = 44 then some (r.save .startField)
    else if isBreak p then some (r.save .eatCrnl)
    else r.add .inField p
  | .eatCrnl => if isBreak p then some r else none

/-- The end of a line: it ends the record outside of quotes. -/
def Reader.endLine (r : Reader) : Reader :=
  match r.state with
  | .startRecord | .inQuotedField => r
  | .startField | .inField | .quoteInQuotedField => r.save .startRecord
  | .eatCrnl => { r with state := .startRecord }

/-- The lines of a text, each with its line break: `\n`, `\r` or `\r\n`. -/
def lines : PyText → PyText → List PyText
  | [], [] => []
  | line, [] => [line]
  | line, 13 :: 10 :: rest => (line ++ [13, 10]) :: lines [] rest
  | line, p :: rest => if isBreak p then (line ++ [p]) :: lines [] rest else lines (line ++ [p]) rest

/-- The records of the lines, up to the end or up to an error. -/
def records : List PyText → Reader → List (List PyText) × Bool
  | [], r => if r.field ≠ [] ∨ r.state = .inQuotedField then ([r.fields ++ [r.field]], false) else ([], false)
  | line :: rest, r =>
    match line.foldlM Reader.process r with
    | none => ([], true)
    | some r =>
      let r := r.endLine
      if r.state = .startRecord then
        let (later, failed) := records rest .start
        (r.fields :: later, failed)
      else records rest r

/-- A row of a `DictReader`: a later column of one name replaces an earlier one, and missing cells are
`None`. Cells beyond the header stand under a key that is no text, which nothing reads. -/
def dictRow (header row : List PyText) : PyFields :=
  Dict.assign (header.zip (row.map PyValue.str) ++ (header.drop row.length).map fun name => (name, .null))

end Csv

/-! ### Records -/

def invalidRowKey : PyText := PyText.ofString "__molly_invalid_row__"

/-- A row of a split table; a row of another shape is marked. -/
def splitRow (columns : List PyText) : PyValue → PyFields
  | .arr cells =>
    if cells.length = columns.length then columns.zip cells else [(invalidRowKey, .str (PyText.ofString "row_shape"))]
  | _ => [(invalidRowKey, .str (PyText.ofString "row_shape"))]

def textOf : PyValue → Option PyText
  | .str text => some text
  | _ => none

def fieldsOf : PyValue → Option PyFields
  | .obj fields => some fields
  | _ => none

/-- The columns of a split table. -/
def splitColumns (columns : List PyValue) : Except PyError (List PyText) := do
  let malformed : PyError := ⟨.br1Integrity, "split JSON dataset columns are malformed"⟩
  match columns.mapM textOf with
  | none => throw malformed
  | some names =>
    ensure (names ≠ [] && names.all fun name => name.strip ≠ []) malformed
    let names := names.map PyText.strip
    ensure (decide names.Nodup) ⟨.br1Integrity, "split JSON dataset columns are duplicated"⟩
    return names

/-- `_json_records`. -/
def jsonRecords (source : Bytes) : Except PyError (List PyFields × String) :=
  match decodeUtf8 source with
  | none => .error ⟨.br1Integrity, "JSON dataset source is not valid UTF-8 JSON"⟩
  | some text =>
    match loads text with
    | .error .decode => .error ⟨.br1Integrity, "JSON dataset source is not valid UTF-8 JSON"⟩
    | .error .digits => .error ⟨.valueError, "Exceeds the limit for integer string conversion"⟩
    | .ok (.obj value) =>
      match pyGet value "columns" .null, pyGet value "data" .null with
      | .arr columns, .arr data => do
        let names ← splitColumns columns
        return (data.map (splitRow names), "pandas_split_json")
      | _, _ => .error ⟨.br1Integrity, "JSON dataset must be pandas split JSON or an array of records"⟩
    | .ok (.arr items) =>
      match items.mapM fieldsOf with
      | some records => .ok (records, "json_records")
      | none => .error ⟨.br1Integrity, "JSON dataset must be pandas split JSON or an array of records"⟩
    | .ok _ => .error ⟨.br1Integrity, "JSON dataset must be pandas split JSON or an array of records"⟩

def csvRecords (source : Bytes) : Except PyError (List PyFields × String) :=
  let malformed : PyError := ⟨.br1Integrity, "CSV dataset source is not a UTF-8 CSV"⟩
  match decodeUtf8 source with
  | none => .error malformed
  | some text =>
    match Csv.records (Csv.lines [] (text.map CodePoint.ofChar)) .start with
    | ([], true) => .error malformed
    | ([], false) | ([] :: _, _) => .error ⟨.br1Integrity, "CSV dataset has no header"⟩
    | (_ :: _, true) => .error malformed
    | (header :: rows, false) => .ok ((rows.filter (· ≠ [])).map (Csv.dictRow header), "csv")

/-- `source.lstrip().startswith((b"{", b"["))`. -/
def looksJson (source : Bytes) : Bool :=
  match source.dropWhile fun b => b = 32 || (9 ≤ b && b ≤ 13) with
  | b :: _ => b = 123 || b = 91
  | [] => false

section
variable [CaseText]

def lowerAscii (p : CodePoint) : CodePoint := if 65 ≤ p.val ∧ p.val ≤ 90 then p + 32 else p

/-- In ASCII, only capital letters have other small ones. -/
theorem PyText.casefold_lower {text : PyText} (ascii : (text.all fun p => p.val < 128) = true) : text.casefold = text.map lowerAscii := by
  rw [PyText.casefold, List.map_eq_flatMap]
  apply List.flatMap_congr
  intro p member
  exact CaseText.fold_ascii p (of_decide_eq_true (List.all_eq_true.mp ascii p member))

/-- `_source_records`. -/
def sourceRecords (source : Bytes) (sourceFormat : PyText) : Except PyError (List PyFields × String) :=
  let normalized := sourceFormat.strip.casefold
  let spells (name : String) : Bool := normalized = PyText.ofString name
  if !(spells "auto" || spells "oe62_json" || spells "json" || spells "csv") then
    .error ⟨.br1, "source_format must be auto, oe62_json, json, or csv"⟩
  else if spells "oe62_json" || spells "json" || (spells "auto" && looksJson source) then jsonRecords source
  else csvRecords source

/-! ### Columns -/

/-- A column name as it is compared. -/
def normalName (name : PyText) : PyText := name.strip.casefold

/-- The names of all columns that have one. -/
def columnsOf (records : List PyFields) : List PyText :=
  records.flatMap fun record => ((record.map Prod.fst).filter fun key => key.strip ≠ []).map normalName

/-- `_column`: the cell under the first of the names that a record has, the last one of that name. -/
def column (record : PyFields) (names : List PyText) : PyValue :=
  (names.findSome? fun name => (Dict.assign (record.map fun f => (normalName f.1, f.2))).lookup (normalName name)).getD .null

/-- A cell that is read under one of some names is one of the record, under a name that is compared as it. -/
theorem column_cases (record : PyFields) (names : List PyText) : column record names = .null ∨
    ∃ f ∈ record, column record names = f.2 ∧ ∃ name ∈ names, normalName f.1 = normalName name := by
  unfold column
  cases found : names.findSome? fun name => (Dict.assign (record.map fun f => (normalName f.1, f.2))).lookup (normalName name) with
  | none => exact .inl rfl
  | some cell =>
    obtain ⟨name, named, there⟩ := List.exists_of_findSome?_eq_some found
    obtain ⟨before, after, split, _⟩ := List.lookup_eq_some_iff.mp there
    have entry : (normalName name, cell) ∈ Dict.assign (record.map fun f => (normalName f.1, f.2)) := by
      rw [split]
      exact List.mem_append_right _ List.mem_cons_self
    obtain ⟨f, member, same⟩ := List.mem_map.mp (Effect.Dict.mem_assign entry)
    obtain ⟨sameName, sameCell⟩ := Prod.mk.inj same
    exact .inr ⟨f, member, sameCell.symm, name, named, sameName⟩

def hasColumn (columns : List PyText) (names : List String) : Bool := names.any fun name => columns.contains (PyText.ofString name)

/-- `validate_raw_dataset_source`, of the bytes of a source. -/
def validateRawDatasetSource (source : Bytes) (sourceFormat : PyText) (targetProperty : Option PyText) : Except PyError String := do
  let (records, detected) ← sourceRecords source sourceFormat
  ensure (records ≠ []) ⟨.br1Integrity, "dataset source contains no data rows"⟩
  let columns := columnsOf records
  ensure (hasColumn columns ["canonical_smiles", "smiles", "chromophore"])
    ⟨.br1Integrity, "数据文件缺少必需的分子结构列（SMILES）"⟩
  let target := (targetProperty.map normalName).getD []
  let orbitals := hasColumn columns ["energies_occ_pbe0_vac_tier2"] && hasColumn columns ["energies_unocc_pbe0_vac_tier2"]
  if target = PyText.ofString "homo_lumo_gap" then
    ensure (orbitals || hasColumn columns ["homo_lumo_gap", "target_value", "target"])
      ⟨.br1Integrity, "数据文件缺少 HOMO-LUMO gap 所需的目标列"⟩
  else if target = PyText.ofString "quantum_yield" ∨ target = PyText.ofString "quantum yield" then
    ensure (hasColumn columns ["quantum_yield", "quantum yield", "target_value", "target"])
      ⟨.br1Integrity, "数据文件缺少 quantum yield 目标列"⟩
  else if target ≠ [] then
    ensure (columns.contains target || hasColumn columns ["target_value", "target"]) ⟨.br1Integrity, "数据文件缺少所选目标属性列"⟩
  else
    ensure (hasColumn columns ["quantum_yield", "quantum yield", "homo_lumo_gap", "target_value", "target"] || orbitals)
      ⟨.br1Integrity, "数据文件缺少受支持的目标属性列"⟩
  return detected

end

end Molly
