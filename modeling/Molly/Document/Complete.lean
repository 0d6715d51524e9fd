import Molly.Document.Locators
import Molly.Document.Queries

/-! The cells of XML tables: which of the cells of a source reach a table of the document. -/
namespace Molly
open Effect (RoseTree Step Place)

section
variable [CaseText]

namespace XmlParser

/-- A cell whose row lies in a table. -/
def TableCell (q : Place Element) : Prop :=
  named ["td", "th"] q = true ∧ ∃ row, nearestAncestor ["tr"] q = some row ∧ isInside ["table"] row = true

/-- The table is the one that a container gives: it is in no wrap, or it is the first one of a wrap. -/
def Taken (root table : Place Element) : Prop :=
  nearestAncestor ["table-wrap"] table = none ∨
    ∃ wrap, Place.Under root wrap ∧ named ["table-wrap"] wrap = true ∧ wrap.iter.find? (named ["table"]) = some table

/-- The cell is, or lies in, a cell of a row of a table that is taken. -/
def InTakenTable (root q : Place Element) : Prop :=
  ∃ p row table, Place.Under root p ∧ Place.Under p q ∧ named ["td", "th"] p = true ∧ nearestAncestor ["tr"] p = some row ∧
    nearestAncestor ["table"] row = some table ∧ Taken root table

omit [CaseText] in
theorem oneOf_swap (tag : PyText) : oneOf ["th", "td"] tag = oneOf ["td", "th"] tag := by
  simp only [oneOf, List.map_cons, List.map_nil, List.contains_cons, List.contains_nil, Bool.or_false]
  exact Bool.or_comm _ _

/-- The cells of the rows of a table. -/
theorem mem_cells {table p : Place Element} (filled : table ≠ []) :
    p ∈ ((tableRows table).map rowCells).flatten ↔ Place.Under table p ∧ named ["td", "th"] p = true ∧
      ∃ row, nearestAncestor ["tr"] p = some row ∧ nearestAncestor ["table"] row = some table := by
  simp only [List.mem_flatten, List.mem_map, exists_exists_and_eq_and, tableRows, rowCells, List.mem_filter, Bool.and_eq_true]
  constructor
  · rintro ⟨row, ⟨inTable, -, ofTable⟩, inRow, ⟨-, isCell⟩, ofRow⟩
    have under := (Place.mem_iter filled).mp inTable
    have under' := (Place.mem_iter (under.ne_nil filled)).mp inRow
    refine ⟨under.trans under', by rw [named, ← oneOf_swap]; exact isCell, row, ?_, ?_⟩
    · exact (nearestIs_iff under'.suffix).mp ofRow
    · exact (nearestIs_iff under.suffix).mp ofTable
  · rintro ⟨under, isCell, row, nearRow, nearTable⟩
    obtain ⟨aboveCell, rowFilled, isRow⟩ := nearestAncestor_ok nearRow
    obtain ⟨aboveRow, -, -⟩ := nearestAncestor_ok nearTable
    have tableRow := aboveRow.trans (List.tail_suffix row)
    have rowCell := aboveCell.trans (List.tail_suffix p)
    have rowUnder := under.of_above tableRow rowCell
    have cellUnder := under.of_suffix tableRow rowCell
    refine ⟨row, ⟨(Place.mem_iter filled).mpr rowUnder, isRow, (nearestIs_iff tableRow).mpr nearTable⟩,
      (Place.mem_iter rowFilled).mpr cellUnder, ⟨?_, ?_⟩, (nearestIs_iff rowCell).mpr nearRow⟩
    · simpa using keys_ne aboveCell (under.ne_nil filled)
    · rw [named, oneOf_swap]
      exact isCell

/-- The walk from a place meets the place first. -/
theorem find_self {tags : List String} {p : Place Element} (filled : p ≠ []) (isNamed : named tags p = true) :
    p.iter.find? (named tags) = some p := by
  obtain ⟨⟨index, label, children⟩, up, rfl⟩ := List.exists_cons_of_ne_nil filled
  rw [Place.iter, RoseTree.placesFrom, List.find?_cons, isNamed]

/-- A table that is taken is the one some container gives. -/
theorem Taken.container {root table : Place Element} (filled : root ≠ []) (under : Place.Under root table)
    (isTable : named ["table"] table = true) (taken : Taken root table) : ∃ w ∈ tableElements root, tableIn w = table := by
  rcases taken with free | ⟨wrap, inRoot, isWrap, first⟩
  · refine ⟨table, List.mem_filter.mpr ⟨(Place.mem_iter filled).mpr under, by simp [isTable, free]⟩, ?_⟩
    rw [tableIn, find_self (under.ne_nil filled) isTable, Option.getD_some]
  · exact ⟨wrap, List.mem_filter.mpr ⟨(Place.mem_iter filled).mpr inRoot, by simp [isWrap]⟩, by rw [tableIn, first, Option.getD_some]⟩

/-- The table that a container gives is taken. -/
theorem taken_of_container {root w table : Place Element} (filled : root ≠ []) (given : w ∈ tableElements root)
    (isTable : named ["table"] table = true) (shown : tableIn w = table) : Taken root table := by
  obtain ⟨inRoot, kind⟩ := List.mem_filter.mp given
  have under := (Place.mem_iter filled).mp inRoot
  by_cases isWrap : named ["table-wrap"] w = true
  · cases found : w.iter.find? (named ["table"]) with
    | some first =>
      rw [tableIn, found, Option.getD_some] at shown
      exact .inr ⟨w, under, isWrap, shown ▸ found⟩
    | none =>
      rw [tableIn, found, Option.getD_none] at shown
      rw [shown, find_self (shown ▸ under.ne_nil filled) isTable] at found
      cases found
  · simp only [isWrap, Bool.false_or, Bool.and_eq_true, Option.isNone_iff_eq_none] at kind
    rw [tableIn, find_self (under.ne_nil filled) kind.1, Option.getD_some] at shown
    exact .inl (shown ▸ kind.2)

/-- The rows of a container are those of the table that it gives, if that is one. -/
theorem cell_of_container {root w p : Place Element} (filled : root ≠ []) (given : w ∈ tableElements root)
    (member : p ∈ ((tableRows (tableIn w)).map rowCells).flatten) : ∃ row, named ["td", "th"] p = true ∧
      nearestAncestor ["tr"] p = some row ∧ ∃ table, nearestAncestor ["table"] row = some table ∧ Taken root table := by
  have under := (Place.mem_iter filled).mp (List.mem_of_mem_filter given)
  have inside : tableIn w ≠ [] := by
    unfold tableIn
    cases found : w.iter.find? (named ["table"]) with
    | none => exact under.ne_nil filled
    | some table => exact ((Place.mem_iter (under.ne_nil filled)).mp (List.mem_of_find?_eq_some found)).ne_nil (under.ne_nil filled)
  obtain ⟨-, isCell, row, nearRow, nearTable⟩ := (mem_cells inside).mp member
  exact ⟨row, isCell, nearRow, tableIn w, nearTable,
    taken_of_container filled given (nearestAncestor_ok nearTable).2.2 rfl⟩

end XmlParser

/-! ### Documents -/

variable [NormalText] [PrintableText] [DecimalText] [WordText] [Sha256]

/-- The text of the element is a part of that of an element of which a cell of the document is made. -/
def XmlParser.Contributes (config : DocumentParserConfig) (source : PyText) (root : Place Element) (document : CanonicalDocument)
    (q : Place Element) : Prop :=
  ∃ t ∈ document.tables, ∃ c ∈ t.cells, ∃ p, Place.Under root p ∧ Place.Under p q ∧ (cellRules config source root).Makes p c ∧
    textParts [] q.tree <:+: textParts [] p.tree

variable [XmlLibrary] {config : DocumentParserConfig} {source mediaType : PyText} {bytes : Bytes} {document : CanonicalDocument}
  {jats : Bool}

theorem XmlParser.contributes_iff (folds : FoldsSlash) (plain : XmlLibrary.PlainTags bytes) {root q : Place Element}
    (parsed : (parse config source mediaType jats bytes).1 = .ok document) (tree : (treeDetails config bytes).1 = .ok root)
    (inRoot : Place.Under root q) : Contributes config source root document q ↔ InTakenTable root q := by
  obtain ⟨root', sections, tree', extracted⟩ := parse_ok parsed
  cases tree.symm.trans tree'
  obtain ⟨filled, names⟩ := plainNames folds plain tree
  constructor
  · rintro ⟨t, known, c, inTable, p, under, above, makes, -⟩
    obtain ⟨w, given, made⟩ := forall₂_right (tables_ok extracted) known
    obtain ⟨p', inRows, makes'⟩ := forall₂_right made.cells_made inTable
    have below := (Place.mem_iter filled).mp (List.mem_of_mem_filter given)
    have under' := below.trans (under_cells (below.ne_nil filled) inRows)
    obtain rfl := locateAt_injective filled names under under' makes.located makes'.located
    obtain ⟨row, isCell, nearRow, table, nearTable, taken⟩ := cell_of_container filled given inRows
    exact ⟨p, row, table, under, above, isCell, nearRow, nearTable, taken⟩
  · rintro ⟨p, row, table, under, above, isCell, nearRow, nearTable, taken⟩
    obtain ⟨aboveCell, -, -⟩ := nearestAncestor_ok nearRow
    obtain ⟨aboveRow, tableFilled, isTable⟩ := nearestAncestor_ok nearTable
    have inside := (aboveRow.trans (List.tail_suffix row)).trans (aboveCell.trans (List.tail_suffix p))
    have onTop : root <:+ table := by
      obtain ⟨top, -, rfl⟩ := treeDetails_ok tree
      exact List.suffix_of_suffix_length_le under.suffix inside (List.length_pos_of_ne_nil tableFilled)
    obtain ⟨w, given, shown⟩ := taken.container filled (under.of_above onTop inside) isTable
    obtain ⟨t, known, made⟩ := forall₂_left (tables_ok extracted) given
    have inRows : p ∈ ((tableRows (tableIn w)).map rowCells).flatten := by
      rw [shown]
      exact (mem_cells tableFilled).mpr ⟨under.of_suffix onTop inside, isCell, row, nearRow, nearTable⟩
    obtain ⟨c, inTable, makes⟩ := forall₂_left made.cells_made inRows
    exact ⟨t, known, c, inTable, p, under, above, makes, textParts_infix above⟩

/-- Every cell whose row lies in a table reaches a table of the document exactly when each is, or lies in, a cell of a table
that is in no wrap or the first of a wrap. -/
theorem xml_tables_complete (folds : FoldsSlash) (plain : XmlLibrary.PlainTags bytes)
    (parsed : (XmlParser.parse config source mediaType jats bytes).1 = .ok document) :
    (∀ root q, (XmlParser.treeDetails config bytes).1 = .ok root → Place.Under root q → XmlParser.TableCell q →
      XmlParser.Contributes config source root document q) ↔
    ∀ root q, (XmlParser.treeDetails config bytes).1 = .ok root → Place.Under root q → XmlParser.TableCell q →
      XmlParser.InTakenTable root q := by
  constructor
  · intro complete root q tree inRoot isCell
    exact (XmlParser.contributes_iff folds plain parsed tree inRoot).mp (complete root q tree inRoot isCell)
  · intro taken root q tree inRoot isCell
    exact (XmlParser.contributes_iff folds plain parsed tree inRoot).mpr (taken root q tree inRoot isCell)

end

/-! ### A wrap of two tables -/

namespace Sample
attribute [local instance] standardSha256 asciiPrintable asciiDecimal asciiCase asciiNormal asciiWords

/-- An element without attributes. -/
def xmlNode (tag text : String) (children : List (RoseTree Element)) : RoseTree Element :=
  .node ⟨PyText.ofString tag, [], PyText.ofString text, []⟩ children

def xmlTable (text : String) : RoseTree Element := xmlNode "table" "" [xmlNode "tr" "" [xmlNode "td" text []]]

def wrapped : RoseTree Element := xmlNode "doc" "" [xmlNode "table-wrap" "" [xmlTable "a", xmlTable "b"]]

/-- The library on the source below. -/
@[reducible] def wrapLibrary : XmlLibrary := ⟨fun _ => .ok wrapped, fun _ => false⟩

attribute [local instance] wrapLibrary

def wrapSource : Bytes := asciiBytes
  "<doc><table-wrap><table><tr><td>a</td></tr></table><table><tr><td>b</td></tr></table></table-wrap></doc>"

def wrapDocument : Except PyError CanonicalDocument :=
  (XmlParser.parse parserConfig sourceId (PyText.ofString "application/xml") false wrapSource).1

theorem wrapDocument_returned : ∃ document, wrapDocument = .ok document := ok_of_some (by decide +kernel)

theorem wrapLibrary_plain : XmlLibrary.PlainTags wrapSource := by
  intro tree parsed
  cases parsed
  simp only [wrapped, xmlTable, xmlNode, RoseTree.Every, RoseTree.EveryOf, and_true]
  decide

theorem xml_tables_complete_wrapped : ∃ document, wrapDocument = .ok document ∧
    ((∀ root q, (XmlParser.treeDetails parserConfig wrapSource).1 = .ok root → Place.Under root q → XmlParser.TableCell q →
        XmlParser.Contributes parserConfig sourceId root document q) ↔
      ∀ root q, (XmlParser.treeDetails parserConfig wrapSource).1 = .ok root → Place.Under root q → XmlParser.TableCell q →
        XmlParser.InTakenTable root q) := by
  obtain ⟨document, returned⟩ := wrapDocument_returned
  exact ⟨document, returned, xml_tables_complete asciiCase_slash wrapLibrary_plain returned⟩

/-- The second cell and the places above it. -/
def lostCell : Place Element := [⟨0, xmlNode "td" "b" []⟩, ⟨0, xmlNode "tr" "" [xmlNode "td" "b" []]⟩, ⟨1, xmlTable "b"⟩,
  ⟨0, xmlNode "table-wrap" "" [xmlTable "a", xmlTable "b"]⟩, ⟨0, wrapped⟩]

theorem lostCell_under : Place.Under [⟨0, wrapped⟩] lostCell :=
  .down (.down (.down (.down .here rfl) rfl) rfl) rfl

theorem lostCell_row : nearestAncestor ["tr"] lostCell = some lostCell.tail := by rfl

theorem lostCell_table : nearestAncestor ["table"] lostCell.tail = some (lostCell.drop 2) := by rfl

theorem lostCell_lost : ¬XmlParser.InTakenTable [⟨0, wrapped⟩] lostCell := by
  rintro ⟨p, row, table, under, above, isCell, nearRow, nearTable, taken⟩
  -- no place above the cell is a cell
  have alone : nearestFrom ["td", "th"] lostCell.tail = none := by rfl
  have same : p = lostCell := by
    rcases List.suffix_cons_iff.mp above.suffix with same | inTail
    · exact same
    · obtain ⟨s, up, rfl⟩ := List.exists_cons_of_ne_nil (under.ne_nil (by simp))
      have other := nearestFrom_none.mp alone s (inTail.subset List.mem_cons_self)
      exact absurd (isCell.symm.trans other) (by decide)
  subst same
  cases nearRow.symm.trans lostCell_row
  cases nearTable.symm.trans lostCell_table
  rcases taken with free | ⟨wrap, inRoot, isWrap, first⟩
  · have inWrap : (nearestAncestor ["table-wrap"] (lostCell.drop 2)).isSome = true := by rfl
    rw [free] at inWrap
    cases inWrap
  · have others : ((Place.iter [⟨0, wrapped⟩]).all fun w => !XmlParser.named ["table-wrap"] w ||
        (w.iter.find? (XmlParser.named ["table"])).map Place.keys ≠ some (Place.keys (lostCell.drop 2))) = true := by decide +kernel
    have other := List.all_eq_true.mp others wrap ((Place.mem_iter (by simp)).mpr inRoot)
    rw [isWrap, first] at other
    simp at other

/-- Only the first table of a wrap is looked at. -/
theorem xml_table_lost : ∃ document, wrapDocument = .ok document ∧
    ¬∀ root q, (XmlParser.treeDetails parserConfig wrapSource).1 = .ok root → Place.Under root q → XmlParser.TableCell q →
      XmlParser.Contributes parserConfig sourceId root document q := by
  obtain ⟨document, returned⟩ := wrapDocument_returned
  refine ⟨document, returned, fun complete => ?_⟩
  obtain ⟨root, tree⟩ : ∃ root, (XmlParser.treeDetails parserConfig wrapSource).1 = .ok root := ok_of_some (by decide +kernel)
  obtain ⟨_, parsed, rfl⟩ := XmlParser.treeDetails_ok tree
  cases parsed
  have contributes := complete _ lostCell tree lostCell_under ⟨by decide, _, lostCell_row, by decide⟩
  exact lostCell_lost ((XmlParser.contributes_iff asciiCase_slash wrapLibrary_plain returned tree lostCell_under).mp contributes)

end Sample
end Molly
