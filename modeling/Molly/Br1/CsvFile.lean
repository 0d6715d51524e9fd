import Molly.Acquisition.SecretScan
import Molly.Br1.Reviewed
import Molly.Br1.SourceTexts
import Molly.Evidence.Dataset

/-! The CSV files that the program writes, and what its reader of raw datasets makes of them. -/
namespace Molly

namespace Csv

/-! ### The writer -/

/-- How lines end, with `\r\n` or with `\n`, and whether the interpreter quotes for a carriage return
that is not part of the line end, which not every one does. -/
structure Dialect where
  returns : Bool
  quotesReturns : Bool

namespace Dialect
variable (d : Dialect)

def lineEnd : PyText := if d.returns then [13, 10] else [10]

/-- What makes the writer quote a cell. -/
def special (p : CodePoint) : Bool := p = 44 || p = 34 || p = 10 || (p = 13 && (d.returns || d.quotesReturns))

end Dialect

/-- A quotation mark inside of a quoted cell is doubled. -/
def doubled (text : PyText) : PyText := text.flatMap fun p => if p = 34 then [34, 34] else [p]

/-- A cell as it is written; an empty one that stands alone in its row is quoted as well. -/
def cell (d : Dialect) (alone : Bool) (text : PyText) : PyText :=
  if text.any d.special || (alone && text = []) then 34 :: (doubled text ++ [34]) else text

/-- The cells of a row, separated by commas. -/
def cells (d : Dialect) (alone : Bool) : List PyText → PyText
  | [] => []
  | [text] => cell d alone text
  | text :: next :: rest => cell d alone text ++ 44 :: cells d alone (next :: rest)

/-- `writer.writerow`. -/
def row (d : Dialect) (texts : List PyText) : PyText := cells d (texts.length = 1) texts ++ d.lineEnd

/-- The text of a file with these rows. -/
def write (d : Dialect) (rows : List (List PyText)) : PyText := rows.flatMap (row d)

/-! ### Reading inside of a line -/

/-- Wherever a line has brought the reader to this state, the rest of the text gives these records. -/
def Rest (now : Reader) (text : PyText) (result : List (List PyText) × Bool) : Prop :=
  ∀ line r, line.foldlM Reader.process r = some now → (text = [] → line = []) → records (lines line text) r = result

variable {now next : Reader} {p : CodePoint} {text : PyText} {result : List (List PyText) × Bool}

theorem foldlM_snoc {line : PyText} {r : Reader} (read : line.foldlM Reader.process r = some now) :
    (line ++ [p]).foldlM Reader.process r = now.process p := by
  rw [List.foldlM_append, read]
  simp

theorem lines_plain (line text : PyText) (plain : isBreak p = false) : lines line (p :: text) = lines (line ++ [p]) text := by
  rw [lines]
  · simp [plain]
  · rintro rest rfl
    simp [isBreak] at plain

theorem lines_feed (line text : PyText) : lines line (10 :: text) = (line ++ [10]) :: lines [] text := by
  rw [lines]
  · rfl
  · intro rest same
    simp at same

theorem lines_return (line text : PyText) (other : text.head? ≠ some 10) :
    lines line (13 :: text) = (line ++ [13]) :: lines [] text := by
  rw [lines]
  · rfl
  · rintro rest _ rfl
    exact other rfl

/-- What does not end a line leads on. -/
theorem Rest.plain (plain : isBreak p = false) (read : now.process p = some next) (filled : text ≠ [])
    (rest : Rest next text result) : Rest now (p :: text) result := by
  intro line r before _
  rw [lines_plain line text plain]
  exact rest _ r ((foldlM_snoc before).trans read) fun none => absurd none filled

/-- A line break inside of quotation marks belongs to the cell. -/
theorem Rest.quotedBreak (ends : isBreak p = true) (read : now.process p = some next) (quoted : next.state = .inQuotedField)
    (filled : text ≠ []) (rest : Rest next text result) : Rest now (p :: text) result := by
  intro line r before _
  have ended : next.endLine = next := by simp [Reader.endLine, quoted]
  have whole : (line ++ [p]).foldlM Reader.process r = some next := (foldlM_snoc before).trans read
  have goesOn : records ((line ++ [p]) :: lines [] text) r = result := by
    rw [records, whole]
    dsimp only
    rw [ended, if_neg (by rw [quoted]; decide)]
    exact rest [] next rfl fun none => absurd none filled
  by_cases feed : p = 10
  · subst feed
    rw [lines_feed]
    exact goesOn
  · have back : p = 13 := by simpa [isBreak, feed] using ends
    subst back
    by_cases pair : text.head? = some 10
    · obtain ⟨more, rfl⟩ : ∃ more, text = 10 :: more := by
        cases text with
        | nil => cases pair
        | cons q more => exact ⟨more, by rw [Option.some.inj pair]⟩
      have one : lines line (13 :: 10 :: more) = lines (line ++ [13]) (10 :: more) := by
        rw [lines_feed, lines]
        simp
      rw [one]
      exact rest _ r whole fun none => absurd none filled
    · rw [lines_return line text pair]
      exact goesOn

theorem lines_opens (line text : PyText) (filled : line ≠ []) : ∃ more later, lines line text = (line ++ more) :: later := by
  fun_induction lines line text with
  | case1 => exact absurd rfl filled
  | case2 line => exact ⟨[], [], by simp⟩
  | case3 line rest => exact ⟨[13, 10], lines [] rest, rfl⟩
  | case4 line p rest _ ends => exact ⟨[p], lines [] rest, rfl⟩
  | case5 line p rest _ plain ih =>
    obtain ⟨more, later, shown⟩ := ih (by simp)
    exact ⟨p :: more, later, by rw [shown, List.append_assoc, List.singleton_append]⟩

/-- The first line holds the first character. -/
theorem lines_cons (line text : PyText) (p : CodePoint) : ∃ more later, lines line (p :: text) = (line ++ p :: more) :: later := by
  by_cases ends : isBreak p = true
  · by_cases pair : p = 13 ∧ text.head? = some 10
    · obtain ⟨rfl, pair⟩ := pair
      obtain ⟨rest, rfl⟩ := List.head?_eq_some_iff.mp pair
      exact ⟨[10], lines [] rest, by rw [lines]⟩
    · refine ⟨[], lines [] text, ?_⟩
      rw [lines, if_pos ends]
      rintro rest rfl rfl
      exact pair ⟨rfl, rfl⟩
  · rw [lines_plain line text (Bool.eq_false_iff.mpr ends)]
    obtain ⟨more, later, shown⟩ := lines_opens (line ++ [p]) text (by simp)
    exact ⟨more, later, by rw [shown, List.append_assoc, List.singleton_append]⟩

/-- What the reader refuses ends the records. -/
theorem Rest.refused (refused : now.process p = none) : Rest now (p :: text) ([], true) := by
  intro line r before _
  obtain ⟨more, later, shown⟩ := lines_cons line text p
  rw [shown, records, List.foldlM_append, before, Option.bind_eq_bind, Option.bind_some, List.foldlM_cons, refused]
  rfl

/-! ### Reading what is written -/

section
variable {fields : List PyText} {field more : PyText}

/-- Characters that do not end a cell go to it, up to the limit. -/
theorem Rest.bare (plain : ∀ p ∈ text, p ≠ 44 ∧ isBreak p = false) (room : field.length ≤ fieldLimit) (filled : more ≠ [])
    (rest : Rest ⟨.inField, field ++ text, fields⟩ more result) :
    Rest ⟨.inField, field, fields⟩ (text ++ more) (if field.length + text.length ≤ fieldLimit then result else ([], true)) := by
  induction text generalizing field with
  | nil => simpa [room] using rest
  | cons p text ih =>
    obtain ⟨comma, inside⟩ := plain p List.mem_cons_self
    have read : Reader.process ⟨.inField, field, fields⟩ p = Reader.add ⟨.inField, field, fields⟩ .inField p := by
      simp [Reader.process, comma, inside]
    by_cases full : fieldLimit ≤ field.length
    · rw [if_neg (by simp only [List.length_cons]; omega)]
      exact Rest.refused (by rw [read, Reader.add, if_pos full])
    · have longer : Rest ⟨.inField, field ++ [p], fields⟩ (text ++ more)
          (if (field ++ [p]).length + text.length ≤ fieldLimit then result else ([], true)) :=
        ih (fun q member => plain q (List.mem_cons_of_mem _ member)) (by rw [List.length_append, List.length_singleton]; omega)
          (by simpa using rest)
      refine Rest.plain inside (by rw [read, Reader.add, if_neg full]) (by simp [filled]) ?_
      simpa [Nat.add_assoc, Nat.add_comm 1] using longer

/-- The same between quotation marks, where nothing ends the cell but a mark that is not doubled. -/
theorem Rest.quoted (room : field.length ≤ fieldLimit) (filled : more ≠ [])
    (rest : Rest ⟨.inQuotedField, field ++ text, fields⟩ more result) :
    Rest ⟨.inQuotedField, field, fields⟩ (doubled text ++ more)
      (if field.length + text.length ≤ fieldLimit then result else ([], true)) := by
  induction text generalizing field with
  | nil => simpa [room, doubled] using rest
  | cons p text ih =>
    have added : Reader.add ⟨.inQuotedField, field, fields⟩ .inQuotedField p =
        if fieldLimit ≤ field.length then none else some ⟨.inQuotedField, field ++ [p], fields⟩ := rfl
    have shown : doubled (p :: text) ++ more = (if p = 34 then [34, 34] else [p]) ++ (doubled text ++ more) := by
      rw [doubled, List.flatMap_cons, List.append_assoc]
      rfl
    have tail : doubled text ++ more ≠ [] := by simp [filled]
    have goesOn (room : ¬fieldLimit ≤ field.length) : Rest ⟨.inQuotedField, field ++ [p], fields⟩ (doubled text ++ more)
        (if field.length + (p :: text).length ≤ fieldLimit then result else ([], true)) := by
      have longer : Rest ⟨.inQuotedField, field ++ [p], fields⟩ (doubled text ++ more)
          (if (field ++ [p]).length + text.length ≤ fieldLimit then result else ([], true)) :=
        ih (by rw [List.length_append, List.length_singleton]; omega) (by simpa using rest)
      simpa [Nat.add_assoc, Nat.add_comm 1] using longer
    have beyond (full : fieldLimit ≤ field.length) : ¬field.length + (p :: text).length ≤ fieldLimit := by
      simp only [List.length_cons]
      omega
    rw [shown]
    by_cases mark : p = 34
    · subst mark
      -- the first mark may close the cell, the second one stands for itself
      have first : Reader.process ⟨.inQuotedField, field, fields⟩ 34 = some ⟨.quoteInQuotedField, field, fields⟩ := by
        simp [Reader.process]
      refine Rest.plain (by decide) first (by simp) ?_
      have second : Reader.process ⟨.quoteInQuotedField, field, fields⟩ 34 =
          if fieldLimit ≤ field.length then none else some ⟨.inQuotedField, field ++ [34], fields⟩ := rfl
      by_cases full : fieldLimit ≤ field.length
      · rw [if_neg (beyond full)]
        exact Rest.refused (by rw [second, if_pos full])
      · exact Rest.plain (by decide) (by rw [second, if_neg full]) tail (goesOn full)
    · rw [if_neg mark, List.singleton_append]
      have read : Reader.process ⟨.inQuotedField, field, fields⟩ p =
          if fieldLimit ≤ field.length then none else some ⟨.inQuotedField, field ++ [p], fields⟩ := by
        simp only [Reader.process, mark, if_false, added]
      by_cases full : fieldLimit ≤ field.length
      · rw [if_neg (beyond full)]
        exact Rest.refused (by rw [read, if_pos full])
      · rw [if_neg full] at read
        by_cases ends : isBreak p = true
        · exact Rest.quotedBreak ends read rfl tail (goesOn full)
        · exact Rest.plain (Bool.eq_false_iff.mpr ends) read tail (goesOn full)

end

/-- The reader behind a cell, with what it has read of it. -/
structure Behind (start : State) (fields : List PyText) (text : PyText) (alone : Bool) (now : Reader) : Prop where
  field : now.field = text
  fields : now.fields = fields
  state : now.state = .inField ∨ now.state = .quoteInQuotedField ∨ (now.state = start ∧ alone = false)

variable {d : Dialect} {alone : Bool} {start : State} {fields : List PyText} {more : PyText}

theorem not_special (plain : text.any d.special = false) (quoted : 13 ∈ text → d.returns = true ∨ d.quotesReturns = true) :
    ∀ p ∈ text, p ≠ 34 ∧ p ≠ 44 ∧ isBreak p = false := by
  intro p member
  have own := List.any_eq_false.mp plain p member
  simp only [Dialect.special, Bool.or_eq_true, Bool.and_eq_true, decide_eq_true_eq, not_or, not_and] at own
  obtain ⟨⟨⟨comma, mark⟩, feed⟩, back⟩ := own
  refine ⟨mark, comma, ?_⟩
  have noReturn : p ≠ 13 := by
    rintro rfl
    rcases quoted member with returns | quotes
    · exact (back rfl).1 returns
    · exact (back rfl).2 quotes
  simp [isBreak, feed, noReturn]

/-- A cell is read as what it was made of, where it is within the limit. -/
theorem Rest.cell (opens : start = .startField ∨ start = .startRecord)
    (quoted : 13 ∈ text → d.returns = true ∨ d.quotesReturns = true) (filled : more ≠ [])
    (rest : ∀ now, Behind start fields text alone now → Rest now more result) :
    Rest ⟨start, [], fields⟩ (cell d alone text ++ more) (if text.length ≤ fieldLimit then result else ([], true)) := by
  by_cases marked : (text.any d.special || (alone && text = [])) = true
  · -- between quotation marks
    rw [Csv.cell, if_pos marked, List.cons_append, List.append_assoc]
    have opened : Reader.process ⟨start, [], fields⟩ 34 = some ⟨.inQuotedField, [], fields⟩ := by
      rcases opens with rfl | rfl <;> simp [Reader.process, isBreak]
    have closed : Reader.process ⟨.inQuotedField, text, fields⟩ 34 = some ⟨.quoteInQuotedField, text, fields⟩ := by
      simp [Reader.process]
    refine Rest.plain (by decide) opened (by simp) ?_
    have inside : Rest ⟨.inQuotedField, [] ++ text, fields⟩ (34 :: more) result :=
      Rest.plain (by decide) closed filled (rest _ ⟨rfl, rfl, .inr (.inl rfl)⟩)
    simpa using Rest.quoted (by decide) (List.cons_ne_nil _ _) inside
  · rw [Csv.cell, if_neg marked]
    simp only [Bool.or_eq_true, Bool.and_eq_true, decide_eq_true_eq, not_or, not_and, Bool.not_eq_true] at marked
    have plain := not_special marked.1 quoted
    cases text with
    | nil =>
      have several : alone = false := by
        cases alone with
        | false => rfl
        | true => exact absurd rfl (marked.2 rfl)
      simpa using rest ⟨start, [], fields⟩ ⟨rfl, rfl, .inr (.inr ⟨rfl, several⟩)⟩
    | cons p text =>
      -- the first character opens the cell
      obtain ⟨mark, comma, inside⟩ := plain p List.mem_cons_self
      have opened : Reader.process ⟨start, [], fields⟩ p = some ⟨.inField, [p], fields⟩ := by
        rcases opens with rfl | rfl <;> simp [Reader.process, Reader.add, fieldLimit, mark, comma, inside]
      have others : Rest ⟨.inField, [p], fields⟩ (text ++ more)
          (if [p].length + text.length ≤ fieldLimit then result else ([], true)) :=
        Rest.bare (fun q member => (plain q (List.mem_cons_of_mem _ member)).2) (by simp [fieldLimit]) filled
          (rest _ ⟨rfl, rfl, .inl rfl⟩)
      refine Rest.plain inside opened (by simp [filled]) ?_
      simpa [Nat.add_comm] using others

/-- Behind a cell, a comma opens the next one. -/
theorem Behind.comma {now : Reader} (behind : Behind start fields text alone now) (opens : start = .startField ∨ start = .startRecord) :
    now.process 44 = some ⟨.startField, [], fields ++ [text]⟩ := by
  obtain ⟨state, field, others⟩ := now
  obtain ⟨rfl, rfl, at_⟩ := behind
  rcases at_ with rfl | rfl | ⟨rfl, _⟩
  · simp [Reader.process, Reader.save, isBreak]
  · simp [Reader.process, Reader.save]
  · rcases opens with rfl | rfl <;> simp [Reader.process, Reader.save, isBreak]

/-- Behind the last cell, a line end ends the record. -/
theorem Behind.lineEnd {now : Reader} (behind : Behind start fields text alone now)
    (opens : start = .startField ∨ start = .startRecord ∧ alone = true) :
    Rest now (d.lineEnd ++ more)
      ((fields ++ [text]) :: (records (lines [] more) .start).1, (records (lines [] more) .start).2) := by
  have ends (p : CodePoint) (breaks : isBreak p = true) : now.process p = some ⟨.eatCrnl, [], fields ++ [text]⟩ := by
    have apart : p ≠ 34 ∧ p ≠ 44 := ⟨fun same => by simp [same, isBreak] at breaks, fun same => by simp [same, isBreak] at breaks⟩
    obtain ⟨state, field, others⟩ := now
    obtain ⟨rfl, rfl, at_⟩ := behind
    rcases at_ with rfl | rfl | ⟨rfl, several⟩
    · simp [Reader.process, Reader.save, breaks]
    · simp [Reader.process, Reader.save, breaks, apart]
    · rcases opens with rfl | ⟨_, single⟩
      · simp [Reader.process, Reader.save, breaks]
      · rw [single] at several
        cases several
  intro line r before _
  have ended : ∀ last : PyText, (line ++ last).foldlM Reader.process r = some ⟨.eatCrnl, [], fields ++ [text]⟩ →
      records ((line ++ last) :: lines [] more) r =
        ((fields ++ [text]) :: (records (lines [] more) .start).1, (records (lines [] more) .start).2) := by
    intro last read
    rw [records, read]
    rfl
  unfold Dialect.lineEnd
  split
  · have pair : lines line ([13, 10] ++ more) = (line ++ [13, 10]) :: lines [] more := by
      rw [List.cons_append, List.singleton_append, lines]
    rw [pair]
    refine ended [13, 10] ?_
    rw [List.foldlM_append, before, Option.bind_eq_bind, Option.bind_some, List.foldlM_cons, ends 13 (by decide)]
    simp [Reader.process, isBreak]
  · rw [List.singleton_append, lines_feed]
    exact ended [10] ((foldlM_snoc before).trans (ends 10 (by decide)))

/-- A cell that the reader takes whole. -/
def fits (text : PyText) : Bool := text.length ≤ fieldLimit

/-- What the records behind a row are with the row before them, if it could be read. -/
def prepend (fields : List PyText) (texts : List PyText) (later : List (List PyText) × Bool) : List (List PyText) × Bool :=
  if texts.all fits then ((fields ++ texts) :: later.1, later.2) else ([], true)

theorem Rest.row {texts : List PyText} (several : texts ≠ [])
    (opens : start = .startField ∨ start = .startRecord ∧ (alone = true ↔ texts.length = 1))
    (quoted : ∀ text ∈ texts, 13 ∈ text → d.returns = true ∨ d.quotesReturns = true) :
    Rest ⟨start, [], fields⟩ (cells d alone texts ++ (d.lineEnd ++ more)) (prepend fields texts (records (lines [] more) .start)) := by
  induction texts generalizing start fields with
  | nil => exact absurd rfl several
  | cons text texts ih =>
    have begins : start = .startField ∨ start = .startRecord := opens.imp_right And.left
    have own := quoted text List.mem_cons_self
    have ends : d.lineEnd ++ more ≠ [] := by
      unfold Dialect.lineEnd
      split <;> simp
    cases texts with
    | nil =>
      have ended (now : Reader) (behind : Behind start fields text alone now) : Rest now (d.lineEnd ++ more)
          ((fields ++ [text]) :: (records (lines [] more) .start).1, (records (lines [] more) .start).2) :=
        behind.lineEnd (opens.imp_right fun single => ⟨single.1, single.2.mpr rfl⟩)
      simpa [cells, prepend, fits] using Rest.cell begins own ends ended
    | cons next texts =>
      have rest : Rest ⟨.startField, [], fields ++ [text]⟩ (cells d alone (next :: texts) ++ (d.lineEnd ++ more))
          (prepend (fields ++ [text]) (next :: texts) (records (lines [] more) .start)) :=
        ih (by simp) (.inl rfl) fun other member => quoted other (List.mem_cons_of_mem _ member)
      have whole : cells d alone (text :: next :: texts) ++ (d.lineEnd ++ more) =
          Csv.cell d alone text ++ (44 :: (cells d alone (next :: texts) ++ (d.lineEnd ++ more))) := by
        rw [cells, List.append_assoc, List.cons_append]
      have filled : cells d alone (next :: texts) ++ (d.lineEnd ++ more) ≠ [] := fun none => ends (List.append_eq_nil_iff.mp none).2
      have first := Rest.cell begins own (List.cons_ne_nil _ _) fun now (behind : Behind start fields text alone now) =>
        Rest.plain (by decide) (behind.comma begins) filled rest
      rw [whole]
      by_cases taken : text.length ≤ fieldLimit <;> simpa [prepend, fits, taken] using first

/-- The records of a file with these rows: all of them, up to the first one with a cell that is too long. -/
theorem records_write {rows : List (List PyText)} (several : ∀ texts ∈ rows, texts ≠ [])
    (quoted : ∀ texts ∈ rows, ∀ text ∈ texts, 13 ∈ text → d.returns = true ∨ d.quotesReturns = true) :
    records (lines [] (write d rows)) .start = (rows.takeWhile (·.all fits), !rows.all (·.all fits)) := by
  induction rows with
  | nil => rfl
  | cons texts rows ih =>
    have later := ih (fun other member => several other (List.mem_cons_of_mem _ member))
      fun other member => quoted other (List.mem_cons_of_mem _ member)
    have whole : write d (texts :: rows) = cells d (texts.length = 1) texts ++ (d.lineEnd ++ write d rows) := by
      rw [write, List.flatMap_cons, row, List.append_assoc]
      rfl
    have rest : Rest .start (cells d (texts.length = 1) texts ++ (d.lineEnd ++ write d rows))
        (prepend [] texts (records (lines [] (write d rows)) .start)) :=
      Rest.row (several texts List.mem_cons_self) (.inr ⟨rfl, by simp⟩) (quoted texts List.mem_cons_self)
    rw [whole, rest [] .start rfl fun _ => rfl, later, prepend, List.takeWhile_cons, List.all_cons]
    by_cases taken : texts.all fits = true <;> simp [taken]

/-- What the writer adds to the cells. -/
def marks : PyText := [44, 34, 10, 13]

theorem mem_cell {text : PyText} {p : CodePoint} (member : p ∈ Csv.cell d alone text) : p ∈ text ∨ p ∈ marks := by
  have mark : (34 : CodePoint) ∈ marks := by decide
  unfold Csv.cell at member
  split at member
  · simp only [List.mem_cons, List.mem_append, List.not_mem_nil, or_false, doubled, List.mem_flatMap] at member
    rcases member with rfl | ⟨q, inside, copied⟩ | rfl
    · exact .inr mark
    · split at copied
      · simp only [List.mem_cons, List.not_mem_nil, or_false, or_self] at copied
        exact .inr (copied ▸ mark)
      · rw [List.mem_singleton] at copied
        exact .inl (copied ▸ inside)
    · exact .inr mark
  · exact .inl member

theorem mem_cells {texts : List PyText} {p : CodePoint} (member : p ∈ cells d alone texts) :
    (∃ text ∈ texts, p ∈ text) ∨ p ∈ marks := by
  fun_induction cells d alone texts with
  | case1 => cases member
  | case2 text => exact (mem_cell member).imp_left fun inside => ⟨text, List.mem_cons_self, inside⟩
  | case3 text next rest ih =>
    rcases List.mem_append.mp member with first | member
    · exact (mem_cell first).imp_left fun inside => ⟨text, List.mem_cons_self, inside⟩
    rcases List.mem_cons.mp member with rfl | member
    · exact .inr (by decide)
    · rcases ih member with ⟨other, listed, inside⟩ | mark
      · exact .inl ⟨other, List.mem_cons_of_mem _ listed, inside⟩
      · exact .inr mark

theorem mem_write {rows : List (List PyText)} {p : CodePoint} (member : p ∈ write d rows) :
    (∃ texts ∈ rows, ∃ text ∈ texts, p ∈ text) ∨ p ∈ marks := by
  obtain ⟨texts, listed, member⟩ := List.mem_flatMap.mp member
  rcases List.mem_append.mp member with inside | ends
  · exact (mem_cells inside).imp_left fun found => ⟨texts, listed, found⟩
  · have brk : p = 13 ∨ p = 10 := by
      rw [Dialect.lineEnd] at ends
      split at ends <;> simp only [List.mem_cons, List.not_mem_nil, or_false] at ends
      · exact ends
      · exact .inr ends
    rcases brk with rfl | rfl <;> exact .inr (by decide)

/-- Cells without surrogates make a text without surrogates. -/
theorem write_scalar {rows : List (List PyText)} (scalar : ∀ texts ∈ rows, ∀ text ∈ texts, text.any CodePoint.isSurrogate = false) :
    (write d rows).any CodePoint.isSurrogate = false := by
  rw [List.any_eq_false]
  intro p member
  rcases mem_write member with ⟨texts, listed, text, inside, found⟩ | mark
  · exact List.any_eq_false.mp (scalar texts listed text inside) p found
  · simp only [marks, List.mem_cons, List.not_mem_nil, or_false] at mark
    rcases mark with rfl | rfl | rfl | rfl <;> decide

end Csv

/-! ### Files -/

theorem decodeUtf8_encode (text : List Char) : decodeUtf8 (Effect.Utf8.encode text) = some text := by
  unfold decodeUtf8
  split
  · rename_i cs read
    rw [Effect.ascii_encode read]
  · have whole : (⟨(Effect.Utf8.encode text).toArray⟩ : ByteArray) = text.utf8Encode := by
      apply ByteArray.ext
      apply Array.toList_inj.mp
      rw [List.utf8Encode, List.toList_data_toByteArray]
      rfl
    rw [whole, List.utf8Decode?_utf8Encode]
    simp

/-- The reader of raw datasets gives back the cells of a file, under the columns of its first row, where all are
within its limit; otherwise it refuses the file. -/
theorem csvRecords_write {d : Csv.Dialect} {header : List PyText} {rows : List (List PyText)} {file : Bytes}
    (columns : header ≠ []) (several : ∀ texts ∈ rows, texts ≠ [])
    (quoted : ∀ texts ∈ header :: rows, ∀ text ∈ texts, 13 ∈ text → d.returns = true ∨ d.quotesReturns = true)
    (encoded : (Csv.write d (header :: rows)).encodeUtf8 = .ok file) :
    csvRecords file = if (header :: rows).all (·.all Csv.fits) then .ok (rows.map (Csv.dictRow header), "csv")
      else .error ⟨.br1Integrity, "CSV dataset source is not a UTF-8 CSV"⟩ := by
  have scalar : (Csv.write d (header :: rows)).any CodePoint.isSurrogate = false := by
    by_contra surrogate
    rw [PyText.encodeUtf8, if_pos (by simpa using surrogate)] at encoded
    cases encoded
  rw [PyText.encodeUtf8, scalar, if_neg Bool.false_ne_true] at encoded
  cases encoded
  have back : ((Csv.write d (header :: rows)).map CodePoint.toChar).map CodePoint.ofChar = Csv.write d (header :: rows) := by
    rw [List.map_map]
    refine (List.map_congr_left fun p member => ?_).trans (List.map_id _)
    exact Urls.ofChar_toChar (Bool.eq_false_iff.mpr (List.any_eq_false.mp scalar p member))
  have filled : ∀ texts ∈ header :: rows, texts ≠ [] := fun texts member =>
    (List.mem_cons.mp member).elim (fun same => same ▸ columns) (several texts)
  have read := Csv.records_write filled quoted
  rw [csvRecords, decodeUtf8_encode]
  dsimp only
  rw [back, read]
  by_cases whole : (header :: rows).all (·.all Csv.fits) = true
  · have all : (header :: rows).takeWhile (·.all Csv.fits) = header :: rows :=
      List.takeWhile_eq_self_iff.mpr (List.all_eq_true.mp whole)
    have kept : rows.filter (· ≠ []) = rows := List.filter_eq_self.mpr fun texts member => decide_eq_true (several texts member)
    rw [all, whole, if_pos rfl]
    obtain ⟨name, names, rfl⟩ := List.exists_cons_of_ne_nil columns
    simp only [Bool.not_true, kept]
  · rw [if_neg whole, Bool.eq_false_iff.mpr whole]
    by_cases first : header.all Csv.fits = true
    · obtain ⟨name, names, rfl⟩ := List.exists_cons_of_ne_nil columns
      rw [List.takeWhile_cons, if_pos first]
      rfl
    · rw [List.takeWhile_cons, if_neg first]
      rfl

/-- Where the columns are distinct and no cell is missing, a row is its cells under the columns. -/
theorem dictRow_zip {header texts : List PyText} (distinct : header.Nodup) (shape : texts.length = header.length) :
    Csv.dictRow header texts = header.zip (texts.map PyValue.str) := by
  have full : header.drop texts.length = [] := List.drop_eq_nil_of_le (by omega)
  have names : (header.zip (texts.map PyValue.str)).map Prod.fst = header := List.map_fst_zip (by simp [shape])
  rw [Csv.dictRow, full, List.map_nil, List.append_nil, Effect.Dict.assign_distinct (by rw [names]; exact distinct)]

/-! ### The CSV file of an exported dataset -/

section
variable [Sha256]

/-- The bytes of the CSV draft. -/
def DatasetExport.csvFile (out : DatasetExport) (quotesReturns : Bool) : Except PyError Bytes :=
  (Csv.write ⟨false, quotesReturns⟩ out.csv).encodeUtf8

variable {config : DatasetExportConfig} {bundle : ReviewBundle} {review : ReviewRecord} {out : DatasetExport}
  {declaredId declaredSha : Option PyText}

/-- The cells of an export: the columns, then those of each record, none of them with a surrogate. -/
theorem exportDataset_csv (exported : exportDataset config bundle review declaredId declaredSha = .ok out) :
    ∃ lines, out.csv = DatasetExportConfig.columns.map PyText.ofString :: lines ∧
      List.Forall₂ (fun record line => csvCells config.numericPrecision record out.reviewBundleArtifactId = .ok line)
        (sortedBy (fun r => r.recordId.pyText) bundle.records) lines ∧
      ∀ line ∈ out.csv, ∀ text ∈ line, text.any CodePoint.isSurrogate = false := by
  unfold exportDataset at exported
  obtain ⟨bundleId, _, exported⟩ := bind_ok.mp exported
  obtain ⟨own, found, exported⟩ := bind_ok.mp exported
  obtain ⟨_, _, exported⟩ := bind_ok.mp exported
  obtain ⟨_, _, exported⟩ := bind_ok.mp exported
  obtain ⟨_, _, exported⟩ := bind_ok.mp exported
  obtain ⟨_, _, exported⟩ := bind_ok.mp exported
  obtain ⟨_, _, exported⟩ := bind_ok.mp exported
  obtain ⟨_, _, exported⟩ := bind_ok.mp exported
  obtain ⟨json, _, exported⟩ := bind_ok.mp exported
  obtain ⟨lines, read, exported⟩ := bind_ok.mp exported
  obtain ⟨_, scalar, exported⟩ := bind_ok.mp exported
  cases exported
  refine ⟨lines, rfl, mapM_ok.mp read, ?_⟩
  rw [ensure_ok] at scalar
  intro line listed text inside
  have each := List.all_eq_true.mp (List.all_eq_true.mp (List.all_eq_true.mp scalar line listed) text inside)
  rw [List.any_eq_false]
  intro p member
  simpa using each p member

omit [Sha256] in
theorem csvCells_length {precision : Nat} {record : OledRecord} {bundleId : ArtifactId} {line : List PyText}
    (made : csvCells precision record bundleId = .ok line) : line.length = DatasetExportConfig.columns.length := by
  unfold csvCells at made
  obtain ⟨_, _, made⟩ := bind_ok.mp made
  obtain ⟨_, _, made⟩ := bind_ok.mp made
  obtain ⟨_, _, made⟩ := bind_ok.mp made
  cases made
  rfl

theorem csvFile_ok (exported : exportDataset config bundle review declaredId declaredSha = .ok out) (quotesReturns : Bool) :
    ∃ file, out.csvFile quotesReturns = .ok file := by
  obtain ⟨_, _, _, scalar⟩ := exportDataset_csv exported
  have none := Csv.write_scalar (d := ⟨false, quotesReturns⟩) scalar
  exact ⟨_, by rw [DatasetExport.csvFile, PyText.encodeUtf8, none, if_neg Bool.false_ne_true]⟩

/-- Every export has a CSV file, and it is read as one record for each exported one, every cell under its column as it
was made, if no cell is beyond the limit of the reader; if one is, the whole file is refused. -/
theorem csvFile_read (exported : exportDataset config bundle review declaredId declaredSha = .ok out) {quotesReturns : Bool}
    (returns : quotesReturns = true ∨ ∀ line ∈ out.csv, ∀ text ∈ line, 13 ∉ text) :
    ∃ file lines, out.csvFile quotesReturns = .ok file ∧ out.csv = DatasetExportConfig.columns.map PyText.ofString :: lines ∧
      List.Forall₂ (fun record line => csvCells config.numericPrecision record out.reviewBundleArtifactId = .ok line)
        (sortedBy (fun r => r.recordId.pyText) bundle.records) lines ∧
      csvRecords file = if lines.all (·.all Csv.fits)
        then .ok (lines.map fun line => (DatasetExportConfig.columns.map PyText.ofString).zip (line.map PyValue.str), "csv")
        else .error ⟨.br1Integrity, "CSV dataset source is not a UTF-8 CSV"⟩ := by
  obtain ⟨lines, whole, made, scalar⟩ := exportDataset_csv exported
  obtain ⟨file, written⟩ := csvFile_ok exported quotesReturns
  refine ⟨file, lines, written, whole, made, ?_⟩
  have columns : DatasetExportConfig.columns.map PyText.ofString ≠ [] := by simp [DatasetExportConfig.columns]
  have shaped : ∀ line ∈ lines, line.length = (DatasetExportConfig.columns.map PyText.ofString).length := by
    intro line listed
    obtain ⟨_, _, cells⟩ := forall₂_right made listed
    rw [csvCells_length cells, List.length_map]
  have filled : ∀ line ∈ lines, line ≠ [] := by
    intro line listed none
    have same := shaped line listed
    rw [none] at same
    exact absurd same (by decide)
  have quoted : ∀ texts ∈ DatasetExportConfig.columns.map PyText.ofString :: lines, ∀ text ∈ texts, 13 ∈ text →
      (⟨false, quotesReturns⟩ : Csv.Dialect).returns = true ∨ (⟨false, quotesReturns⟩ : Csv.Dialect).quotesReturns = true := by
    intro texts listed text inside member
    rcases returns with quotes | plain
    · exact .inr quotes
    · exact absurd member (plain texts (whole ▸ listed) text inside)
  rw [DatasetExport.csvFile, whole] at written
  have header : (DatasetExportConfig.columns.map PyText.ofString).all Csv.fits = true := by decide +kernel
  have distinct : (DatasetExportConfig.columns.map PyText.ofString).Nodup := by decide +kernel
  rw [csvRecords_write columns filled quoted written, List.all_cons, header, Bool.true_and]
  split
  · rw [List.map_congr_left fun line listed => dictRow_zip distinct (shaped line listed)]
  · rfl

end

namespace Sample
attribute [local instance] standardSha256 asciiPrintable asciiCase

/-- The published record is read back from the CSV file. -/
theorem csvFile_read_published : ∃ bundle review out file records, bundle.records ≠ [] ∧
    exportDataset exportConfig bundle review none none = .ok out ∧ out.csvFile true = .ok file ∧
      csvRecords file = .ok (records, "csv") ∧ records.length = bundle.records.length := by
  obtain ⟨made, ran, filled⟩ := published_filled
  have exported := published_ok ran
  obtain ⟨file, lines, written, whole, cells, read⟩ := csvFile_read exported (.inl (Eq.refl true))
  have short : (published.toOption.map fun made => made.2.2.csv.all (·.all Csv.fits)) = some true := by decide +kernel
  rw [ran, Except.toOption, Option.map_some, whole, List.all_cons, Option.some.injEq, Bool.and_eq_true] at short
  rw [if_pos short.2] at read
  refine ⟨_, _, _, file, _, filled, exported, written, read, ?_⟩
  rw [List.length_map, ← cells.length_eq, (sortedBy_perm _ _).length_eq]

end Sample
end Molly
