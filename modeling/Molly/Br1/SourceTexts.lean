import Molly.Br1.Source
import Molly.File.Lineage

/-! The texts of a source: no surrogate pair stands in one, so that they are written and read back unchanged. -/
namespace Molly
open StoredRelation (scalar_append)

namespace Csv

/-- The parser has met scalar values only. -/
def Reader.Scalar (r : Reader) : Prop := r.field.Scalar ∧ ∀ f ∈ r.fields, f.Scalar

theorem Reader.save_scalar {r : Reader} (scalar : r.Scalar) (state : State) : (r.save state).Scalar := by
  refine ⟨fun p member => (by cases member), fun f member => ?_⟩
  rcases List.mem_append.mp member with old | last
  · exact scalar.2 f old
  · rw [List.mem_singleton.mp last]
    exact scalar.1

theorem Reader.add_scalar {r r' : Reader} {state : State} {p : CodePoint} (scalar : r.Scalar) (plain : p.isSurrogate = false)
    (added : r.add state p = some r') : r'.Scalar := by
  unfold Reader.add at added
  split at added
  · cases added
  · cases added
    refine ⟨fun q member => ?_, scalar.2⟩
    rcases List.mem_append.mp member with old | last
    · exact scalar.1 q old
    · rwa [List.mem_singleton.mp last]

theorem Reader.process_scalar {r r' : Reader} {p : CodePoint} (scalar : r.Scalar) (plain : p.isSurrogate = false)
    (processed : r.process p = some r') : r'.Scalar := by
  have saved {state : State} {r' : Reader} (same : some (r.save state) = some r') : r'.Scalar := by
    cases same
    exact r.save_scalar scalar state
  have moved {state : State} {r' : Reader} (same : some { r with state := state } = some r') : r'.Scalar := by
    cases same
    exact scalar
  have begun {r' : Reader} (processed : (if p = 34 then some { r with state := .inQuotedField }
      else if p = 44 then some (r.save .startField) else r.add .inField p) = some r') : r'.Scalar := by
    split at processed
    · exact moved processed
    split at processed
    · exact saved processed
    · exact r.add_scalar scalar plain processed
  unfold Reader.process at processed
  dsimp only at processed
  split at processed
  · split at processed
    · exact moved processed
    · exact begun processed
  · split at processed
    · exact saved processed
    · exact begun processed
  · split at processed
    · exact saved processed
    split at processed
    · exact saved processed
    · exact r.add_scalar scalar plain processed
  · split at processed
    · exact moved processed
    · exact r.add_scalar scalar plain processed
  · split at processed
    · exact r.add_scalar scalar plain processed
    split at processed
    · exact saved processed
    split at processed
    · exact saved processed
    · exact r.add_scalar scalar plain processed
  · split at processed
    · cases processed
      exact scalar
    · cases processed

theorem Reader.line_scalar {line : PyText} (plain : line.Scalar) {r r' : Reader} (scalar : r.Scalar)
    (ran : line.foldlM Reader.process r = some r') : r'.Scalar := by
  induction line generalizing r with
  | nil =>
    cases ran
    exact scalar
  | cons p rest ih =>
    rw [List.foldlM_cons] at ran
    obtain ⟨next, processed, ran⟩ := Option.bind_eq_some_iff.mp ran
    exact ih (fun q member => plain q (List.mem_cons_of_mem _ member))
      (r.process_scalar scalar (plain p List.mem_cons_self) processed) ran

theorem Reader.endLine_scalar {r : Reader} (scalar : r.Scalar) : r.endLine.Scalar := by
  unfold Reader.endLine
  split
  · exact scalar
  · exact scalar
  · exact r.save_scalar scalar _
  · exact r.save_scalar scalar _
  · exact r.save_scalar scalar _
  · exact scalar

theorem Reader.start_scalar : Reader.start.Scalar := ⟨fun _ member => (by cases member), fun _ member => (by cases member)⟩

/-- The cells of a table hold scalar values, where its lines do. -/
theorem records_scalar {ls : List PyText} (plain : ∀ line ∈ ls, line.Scalar) {r : Reader} (scalar : r.Scalar) :
    ∀ row ∈ (records ls r).1, ∀ cell ∈ row, cell.Scalar := by
  induction ls generalizing r with
  | nil =>
    intro row member
    unfold records at member
    split at member
    · rw [List.mem_singleton.mp member]
      exact (r.save_scalar scalar .startRecord).2
    · cases member
  | cons line rest ih =>
    have later := fun l member => plain l (List.mem_cons_of_mem line member)
    unfold records
    cases ran : line.foldlM Reader.process r with
    | none =>
      intro row member
      cases member
    | some next =>
      have met := next.endLine_scalar (r.line_scalar (plain line List.mem_cons_self) scalar ran)
      dsimp only
      split
      · intro row member
        rcases List.mem_cons.mp member with rfl | member
        · exact met.2
        · exact ih later Reader.start_scalar row member
      · exact ih later met

theorem scalar_nil : PyText.Scalar [] := fun _ member => (by cases member)

theorem lines_scalar {line text : PyText} (first : line.Scalar) (plain : text.Scalar) : ∀ l ∈ lines line text, l.Scalar := by
  fun_induction lines line text with
  | case1 => simp
  | case2 line filled =>
    intro l member
    rwa [List.mem_singleton.mp member]
  | case3 line rest ih =>
    have ended : PyText.Scalar [13, 10] := by
      intro p member
      simp only [List.mem_cons, List.not_mem_nil, or_false] at member
      rcases member with rfl | rfl <;> rfl
    intro l member
    rcases List.mem_cons.mp member with rfl | member
    · exact scalar_append first ended
    · exact ih scalar_nil (fun p there => plain p (by simp [there])) l member
  | case4 line p rest _ ended ih =>
    have last : PyText.Scalar [p] := fun q member => plain q (by simpa using .inl (List.mem_singleton.mp member))
    intro l member
    rcases List.mem_cons.mp member with rfl | member
    · exact scalar_append first last
    · exact ih scalar_nil (fun q there => plain q (List.mem_cons_of_mem _ there)) l member
  | case5 line p rest _ _ ih =>
    have last : PyText.Scalar [p] := fun q member => plain q (by simpa using .inl (List.mem_singleton.mp member))
    exact ih (scalar_append first last) (fun q there => plain q (List.mem_cons_of_mem _ there))

end Csv

/-! ### The cells of the records -/

/-- The cells of a record are values that a reader of JSON makes. -/
def CleanCells (record : PyFields) : Prop := ∀ f ∈ record, f.2.Clean

theorem clean_text {text : PyText} (unpaired : text.Unpaired) : (PyValue.str text).Clean := ⟨rfl, unpaired⟩

theorem dictRow_clean {header row : List PyText} (plain : ∀ cell ∈ row, cell.Scalar) : CleanCells (Csv.dictRow header row) := by
  intro f member
  rcases List.mem_append.mp (Effect.Dict.mem_assign member) with read | missing
  · obtain ⟨cell, there, same⟩ := List.mem_map.mp (List.of_mem_zip read).2
    rw [← same]
    exact clean_text (plain cell there).unpaired
  · obtain ⟨name, _, rfl⟩ := List.mem_map.mp missing
    exact ⟨rfl, trivial⟩

theorem splitRow_clean {columns : List PyText} {row : PyValue} (clean : row.Clean) : CleanCells (splitRow columns row) := by
  have marked : CleanCells [(invalidRowKey, .str (PyText.ofString "row_shape"))] := by
    intro f member
    rw [List.mem_singleton.mp member]
    exact clean_text (PyText.ofString_scalar _).unpaired
  unfold splitRow
  split
  · split
    · intro f member
      exact clean_arr.mp clean _ (List.of_mem_zip member).2
    · exact marked
  · exact marked

theorem pyGet_clean {fields : PyFields} (clean : CleanFields fields) (key : String) : (pyGet fields key .null).Clean := by
  unfold pyGet
  cases found : fields.lookup (PyText.ofString key) with
  | none => exact ⟨rfl, trivial⟩
  | some v =>
    obtain ⟨before, after, split, _⟩ := List.lookup_eq_some_iff.mp found
    have member : (PyText.ofString key, v) ∈ fields := by
      rw [split]
      exact List.mem_append_right _ List.mem_cons_self
    exact (clean _ member).2

/-- The records of a list of values, which are all objects. -/
theorem mapM_fieldsOf {items : List PyValue} {records : List PyFields} (taken : items.mapM fieldsOf = some records) :
    ∀ record ∈ records, .obj record ∈ items := by
  induction items generalizing records with
  | nil =>
    cases taken
    intro record member
    cases member
  | cons item rest ih =>
    rw [List.mapM_cons] at taken
    obtain ⟨fields, first, taken⟩ := Option.bind_eq_some_iff.mp taken
    obtain ⟨later, others, taken⟩ := Option.bind_eq_some_iff.mp taken
    cases taken
    intro record member
    rcases List.mem_cons.mp member with rfl | member
    · cases item <;> cases first
      exact List.mem_cons_self
    · exact List.mem_cons_of_mem _ (ih others record member)

theorem jsonRecords_clean {source : Bytes} {records : List PyFields} {format : String}
    (read : jsonRecords source = .ok (records, format)) : ∀ record ∈ records, CleanCells record := by
  unfold jsonRecords at read
  split at read
  · cases read
  split at read
  · cases read
  · cases read
  · rename_i value parsed
    have clean := clean_obj.mp (loads_clean parsed)
    split at read
    · rename_i columns data _ listed
      obtain ⟨names, _, read⟩ := bind_ok.mp read
      cases read
      intro record member
      obtain ⟨row, there, rfl⟩ := List.mem_map.mp member
      have rows := pyGet_clean clean "data"
      rw [listed] at rows
      exact splitRow_clean (clean_arr.mp rows row there)
    · cases read
  · rename_i items parsed
    have clean := clean_arr.mp (loads_clean parsed)
    split at read
    · rename_i found taken
      cases read
      intro record member
      exact fun f there => (clean_obj.mp (clean _ (mapM_fieldsOf taken record member)) f there).2
    · cases read
  · cases read

theorem csvRecords_clean {source : Bytes} {records : List PyFields} {format : String}
    (read : csvRecords source = .ok (records, format)) : ∀ record ∈ records, CleanCells record := by
  unfold csvRecords at read
  dsimp only at read
  split at read
  · cases read
  · rename_i text _
    have plain : PyText.Scalar (text.map CodePoint.ofChar) := by
      intro p member
      obtain ⟨c, _, rfl⟩ := List.mem_map.mp member
      exact CodePoint.ofChar_scalar c
    have cells := Csv.records_scalar (Csv.lines_scalar Csv.scalar_nil plain) Csv.Reader.start_scalar
    split at read
    · cases read
    · cases read
    · cases read
    · cases read
    · rename_i header rows parsed
      cases read
      intro record member
      obtain ⟨row, there, rfl⟩ := List.mem_map.mp member
      rw [parsed] at cells
      exact dictRow_clean (cells row (List.mem_cons_of_mem _ (List.mem_of_mem_filter there)))

theorem sourceRecords_clean [CaseText] {source : Bytes} {sourceFormat : PyText} {records : List PyFields} {format : String}
    (read : sourceRecords source sourceFormat = .ok (records, format)) : ∀ record ∈ records, CleanCells record := by
  unfold sourceRecords at read
  dsimp only at read
  split at read
  · cases read
  split at read
  · exact jsonRecords_clean read
  · exact csvRecords_clean read

end Molly
