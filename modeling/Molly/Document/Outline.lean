import Molly.Document.Locators

/-! The outline of an HTML document without section elements: sections made of headings, and the
headings that blocks and tables stand behind. -/
namespace Molly
open Effect (RoseTree Step Place)

namespace HtmlParser

/-! ### Headings -/

def isHeading (p : Place Element) : Bool := oneOf headingTags p.label.tag

/-- The headings of the source, in document order. -/
def headingsOf (document : RoseTree Element) : List (Place Element) := document.places.filter isHeading

/-- The last heading that begins at a place or before it. -/
def headingBefore (document : RoseTree Element) (p : Place Element) : Option (Place Element) :=
  ((document.places.takeWhile fun q => q.keys ≠ p.keys) ++ [p]).reverse.find? isHeading

/-- The innermost of the headings at a place or above it. -/
def headingAround (headings : List (Place Element)) : Place Element → Option (Place Element)
  | [] => none
  | s :: up => if headings.any fun h => h.keys = Place.keys (s :: up) then some (s :: up) else headingAround headings up

theorem headingAround_ok {headings : List (Place Element)} {q : Place Element} : ∀ {p : Place Element},
    headingAround headings p = some q → q <:+ p ∧ ∃ h ∈ headings, h.keys = q.keys
  | s :: up, found => by
    rw [headingAround] at found
    split at found
    · rename_i met
      cases found
      exact ⟨List.suffix_refl _, by simpa using met⟩
    · obtain ⟨above, among⟩ := headingAround_ok found
      exact ⟨above.trans (List.suffix_cons s up), among⟩

/-- The headings under the root are headings of the source, in the same order. -/
theorem headingElements_sublist (tree : RoseTree Element) : (headingElements (extractionRoot tree)).Sublist (headingsOf tree) :=
  (List.filter_sublist.trans (extractionRoot_under tree).iter_sublist).filter isHeading

theorem headingsOf_unique {tree : RoseTree Element} {h h' : Place Element} (one : h ∈ headingsOf tree) (other : h' ∈ headingsOf tree)
    (same : h.keys = h'.keys) : h = h' :=
  (RoseTree.mem_places.mp (List.mem_of_mem_filter one)).unique (RoseTree.mem_places.mp (List.mem_of_mem_filter other)) same

/-- The heading around a place of the source is one of its headings. -/
theorem headingAround_mem {tree : RoseTree Element} {p q : Place Element} (under : Place.Under [⟨0, tree⟩] p)
    (found : headingAround (headingsOf tree) p = some q) : q ∈ headingsOf tree := by
  obtain ⟨above, h, known, same⟩ := headingAround_ok found
  have inTree := RoseTree.mem_places.mp (List.mem_of_mem_filter known)
  have long : [(⟨0, tree⟩ : Step Element)].length ≤ q.length := by
    have lengths := congrArg List.length same
    simp only [Place.keys, List.length_map] at lengths
    rw [← lengths]
    exact inTree.suffix.length_le
  have below := List.suffix_of_suffix_length_le under.suffix above long
  rwa [← inTree.unique (under.of_above below above) same]

theorem entry_of_lookup {made : SectionIds} {k : List Nat} {s : CanonicalSection} (found : made.lookup k = some s) :
    ∃ j : Nat, made[j]? = some (k, s) := by
  obtain ⟨front, back, rfl, -⟩ := List.lookup_eq_some_iff.mp found
  exact ⟨front.length, by simp⟩

/-- The section of a place is that of the heading around it. -/
theorem nearestSectionId_around {made : SectionIds} {headings : List (Place Element)}
    (keys : made.map Prod.fst = headings.map Place.keys) : ∀ p : Place Element,
    nearestSectionId made p = (headingAround headings p).bind fun h => (made.lookup h.keys).map CanonicalSection.sectionId
  | [] => rfl
  | s :: up => by
    have known : (made.lookup (Place.keys (s :: up))).isSome = true ↔ (headings.any fun h => h.keys = Place.keys (s :: up)) = true := by
      have among : Place.keys (s :: up) ∈ made.map Prod.fst ↔ Place.keys (s :: up) ∈ headings.map Place.keys := by rw [keys]
      rw [List.lookup_isSome_iff, List.any_eq_true]
      simp only [List.mem_map, beq_iff_eq, decide_eq_true_eq] at among ⊢
      simpa only [eq_comm] using among
    rw [nearestSectionId, headingAround]
    by_cases met : (headings.any fun h => h.keys = Place.keys (s :: up)) = true
    · obtain ⟨found, same⟩ := Option.isSome_iff_exists.mp (known.mpr met)
      rw [if_pos met, same, Option.bind_some, same]
      rfl
    · have none : made.lookup (Place.keys (s :: up)) = none := by
        rw [← Option.not_isSome_iff_eq_none, known]
        exact met
      rw [if_neg met, none]
      exact nearestSectionId_around keys up

/-! ### Sections -/

end HtmlParser

theorem CanonicalSection.create_ok {id : Identifier} {title : PyText} {level : Nat} {parent : Option Identifier}
    {locator : SourceLocator} {s : CanonicalSection} (made : CanonicalSection.create id title level parent locator = .ok s) :
    s.sectionId = id ∧ s.title = title ∧ s.level = level ∧ s.parentSectionId = parent ∧ s.locator = locator := by
  unfold CanonicalSection.create at made
  split at made
  · split at made
    · cases made
      exact ⟨rfl, rfl, rfl, rfl, rfl⟩
    · cases made
  · cases made

/-- The identity of a section names it. -/
theorem CanonicalDocument.section_index {document : CanonicalDocument} {i j : Nat} {s s' : CanonicalSection} (one : document.sections[i]? = some s)
    (other : document.sections[j]? = some s') (same : s.sectionId = s'.sectionId) : i = j := by
  have ids : document.sectionIds.Nodup := by
    have all := document.objectIds_nodup
    simp only [DocumentBody.objectIds, List.append_assoc] at all
    exact (List.nodup_append.mp all).1
  have left : document.sectionIds[i]? = some s.sectionId := by rw [DocumentBody.sectionIds, List.getElem?_map, one]; rfl
  have right : document.sectionIds[j]? = some s'.sectionId := by rw [DocumentBody.sectionIds, List.getElem?_map, other]; rfl
  rw [← same] at right
  exact (List.getElem?_inj (List.getElem?_eq_some_iff.mp left).1 ids).mp (left.trans right.symm)

theorem safeTextSkipping_ok [CaseText] [NormalText] {skip : List String} {config : DocumentParserConfig} {field : String} {required : Bool}
    {t : RoseTree Element} {text : PyText} (written : safeTextSkipping skip config field required t = .ok text) :
    elementText skip t = .ok text := by
  obtain ⟨value, read, written⟩ := bind_ok.mp written
  obtain ⟨_, -, written⟩ := bind_ok.mp written
  obtain ⟨_, -, written⟩ := bind_ok.mp written
  cases written
  exact read

namespace HtmlParser

section
variable [CaseText] [NormalText] [PrintableText] [Sha256]
variable {config : DocumentParserConfig} {source : PyText} {root p : Place Element}

/-- The turns of the loop over the section elements. -/
theorem sectionsFrom_ok {explicit : Bool} : ∀ {items : List (Place Element)} {made all : SectionIds},
    sectionsFrom config source root explicit made items = .ok all → ∃ more, all = made ++ more ∧
      more.map Prod.fst = items.map Place.keys ∧
      ∀ i p s, items[i]? = some p → more[i]? = some s →
        sectionOf config source root explicit (made ++ more.take i) p = .ok s.2
  | [], made, all, done => by
    cases done
    exact ⟨[], by simp, rfl, fun i p s item => by simp at item⟩
  | element :: rest, made, all, done => by
    rw [sectionsFrom] at done
    obtain ⟨found, turn, done⟩ := bind_ok.mp done
    obtain ⟨_, -, done⟩ := bind_ok.mp done
    obtain ⟨more, shown, keys, each⟩ := sectionsFrom_ok done
    refine ⟨(element.keys, found) :: more, by simpa using shown, by simp [keys], fun i p s item section' => ?_⟩
    cases i with
    | zero =>
      cases item
      cases section'
      simpa using turn
    | succ i =>
      have later := each i p s item section'
      rwa [List.append_assoc, List.singleton_append] at later

/-- The text of a heading is that of the child its section takes the title from. -/
def TitledByChild (h : Place Element) : Prop :=
  match childWith ("title" :: headingTags) h with
  | none => elementText skipTags h.tree = .ok []
  | some t => elementText skipTags h.tree = elementText skipTags t

/-- What a section says of its heading. -/
theorem sectionOf_ok {made : SectionIds} {s : CanonicalSection} (turn : sectionOf config source root false made p = .ok s) :
    locate source root p = .ok s.locator ∧ (elementText skipTags p.tree = .ok s.title ↔ TitledByChild p) ∧
      s.level = headingLevel p.label ∧ s.parentSectionId = (headingParent made p).1 := by
  unfold sectionOf at turn
  obtain ⟨locator, located, turn⟩ := bind_ok.mp turn
  obtain ⟨⟨parent, level⟩, nested, turn⟩ := bind_ok.mp turn
  obtain ⟨id, -, turn⟩ := bind_ok.mp turn
  obtain ⟨title, titled, turn⟩ := bind_ok.mp turn
  cases nested
  obtain ⟨-, title', level', parent', locator'⟩ := CanonicalSection.create_ok turn
  refine ⟨by rw [locator']; exact located, ?_, level', parent'⟩
  rw [title', TitledByChild]
  cases child : childWith ("title" :: headingTags) p with
  | none =>
    rw [child] at titled
    cases titled
    rfl
  | some t =>
    rw [child] at titled
    obtain ⟨text, written, rfl⟩ := map_ok.mp titled
    dsimp only [Option.getD_some]
    rw [safeTextSkipping_ok written]

/-- The sections of headings, in order. -/
structure SectionsMade (config : DocumentParserConfig) (source : PyText) (root : Place Element) (made : SectionIds)
    (sections : List CanonicalSection) : Prop where
  keys : made.map Prod.fst = (headingElements root).map Place.keys
  listed : sections = made.map Prod.snd
  each : ∀ i h s, (headingElements root)[i]? = some h → sections[i]? = some s →
    locate source root h = .ok s.locator ∧ (elementText skipTags h.tree = .ok s.title ↔ TitledByChild h) ∧
      s.level = headingLevel h.label ∧
      s.parentSectionId = ((sections.take i).reverse.find? fun up => up.level < s.level).map CanonicalSection.sectionId

theorem makeSections_ok {made : SectionIds} (bare : sectionElements root = []) (done : makeSections config source root = .ok made) :
    SectionsMade config source root made (made.map Prod.snd) := by
  rw [makeSections, if_pos bare] at done
  obtain ⟨more, rfl, keys, turns⟩ := sectionsFrom_ok done
  refine ⟨keys, rfl, fun i h s heading section' => ?_⟩
  rw [List.getElem?_map, Option.map_eq_some_iff] at section'
  obtain ⟨entry, found, rfl⟩ := section'
  obtain ⟨located, titled, level, parent⟩ := sectionOf_ok (turns i h entry heading found)
  refine ⟨located, titled, level, ?_⟩
  rw [parent, level, headingParent, List.nil_append, ← List.map_take, ← List.map_reverse, List.find?_map]
  simp [Function.comp_def]

end

/-! ### Blocks and tables -/

section
variable [CaseText] [NormalText] [PrintableText] [DecimalText] [WordText] [Sha256]
variable {config : DocumentParserConfig} {source : PyText} {root p : Place Element} {made : SectionIds} {document : CanonicalDocument}

/-- The block is made of the element. -/
def BlockOf (config : DocumentParserConfig) (source : PyText) (root p : Place Element) (b : CanonicalBlock) : Prop :=
  ∃ made n, makeSections config source root = .ok made ∧ (elements root)[n]? = some p ∧
    blockOf config source root made (titleElement root) n p = .ok (some b)

/-- The table is made of the element. -/
def TableOf (config : DocumentParserConfig) (source : PyText) (root p : Place Element) (t : CanonicalTable) : Prop :=
  ∃ made n, makeSections config source root = .ok made ∧ (tableElements root)[n]? = some p ∧
    tableOf config source root made n p = .ok t

/-- A block or a table of the document is made of the element and is in this section. -/
def Carries (config : DocumentParserConfig) (source : PyText) (root : Place Element) (document : CanonicalDocument)
    (p : Place Element) (sectionId : Option Identifier) : Prop :=
  (∃ b ∈ document.blocks, BlockOf config source root p b ∧ b.sectionId = sectionId) ∨
    ∃ t ∈ document.tables, TableOf config source root p t ∧ t.sectionId = sectionId

/-- The element makes a block with text, or a table. -/
def Emits (root p : Place Element) : Prop :=
  (p ∈ elements root ∧ (blockKind (titleElement root) p).isSome = true ∧ elementText skipTags p.tree ≠ .ok []) ∨
    p ∈ tableElements root

omit [PrintableText] [DecimalText] [WordText] [Sha256] in
/-- What makes something lies in the source. -/
theorem Emits.under {tree : RoseTree Element} (emits : Emits (extractionRoot tree) p) : Place.Under [⟨0, tree⟩] p := by
  have listed : p ∈ elements (extractionRoot tree) := by
    rcases emits with ⟨listed, -⟩ | listed
    · exact listed
    · exact List.mem_of_mem_filter listed
  exact (extractionRoot_under tree).trans (under_elements (extractionRoot_ne_nil tree) listed)

omit [DecimalText] [WordText] in
theorem blockOf_filled {title : Option (Place Element)} {n : Nat} {b : CanonicalBlock}
    (turn : blockOf config source root made title n p = .ok (some b)) : b.text ≠ [] := by
  intro empty
  obtain ⟨kinded, written, -⟩ := blockOf_ok turn
  rw [blockOf, kinded] at turn
  obtain ⟨text, same, turn⟩ := bind_ok.mp turn
  rw [empty] at written
  cases written.symm.trans same
  rw [if_pos rfl] at turn
  cases turn

omit [DecimalText] [WordText] in
/-- An element that gives no block is of no kind, or has no text. -/
theorem blockOf_none {title : Option (Place Element)} {n : Nat} (turn : blockOf config source root made title n p = .ok none)
    (kinded : (blockKind title p).isSome = true) : elementText skipTags p.tree = .ok [] := by
  obtain ⟨kind, same⟩ := Option.isSome_iff_exists.mp kinded
  rw [blockOf, same] at turn
  obtain ⟨text, written, turn⟩ := bind_ok.mp turn
  split at turn
  · rename_i empty
    rw [← empty]
    exact safeTextSkipping_ok written
  · obtain ⟨_, -, turn⟩ := bind_ok.mp turn
    obtain ⟨_, -, turn⟩ := bind_ok.mp turn
    obtain ⟨_, -, turn⟩ := bind_ok.mp turn
    cases turn

/-- The elements that carry a section are those that make something, and the section is the nearest one. -/
theorem carries_iff (extracted : Extracted config source root made document) {sectionId : Option Identifier} :
    Carries config source root document p sectionId ↔ Emits root p ∧ sectionId = nearestSectionId made p := by
  constructor
  · rintro (⟨b, -, ⟨made', n, sectioned, listed, turn⟩, rfl⟩ | ⟨t, -, ⟨made', n, sectioned, listed, turn⟩, rfl⟩)
    · cases extracted.sections.symm.trans sectioned
      obtain ⟨kinded, written, -, nearest⟩ := blockOf_ok turn
      refine ⟨.inl ⟨List.mem_of_getElem? listed, by rw [kinded]; rfl, fun empty => ?_⟩, nearest⟩
      exact blockOf_filled turn (Except.ok.inj ((safeTextSkipping_ok written).symm.trans empty))
    · cases extracted.sections.symm.trans sectioned
      exact ⟨.inr (List.mem_of_getElem? listed), (tableOf_ok turn).sectioned⟩
  · rintro ⟨⟨listed, kinded, filled⟩ | listed, rfl⟩
    · obtain ⟨given, shown, turns⟩ := gather_ok extracted.blocks
      obtain ⟨n, at_⟩ := List.mem_iff_getElem?.mp listed
      obtain ⟨o, among, turn⟩ := forall₂_left turns (List.mem_zipIdx_iff_getElem?.mpr at_ : (p, n) ∈ (elements root).zipIdx 0)
      cases o with
      | none => exact absurd (blockOf_none turn kinded) filled
      | some b =>
        have inBlocks : b ∈ document.blocks := by
          rw [shown]
          simpa using among
        exact .inl ⟨b, inBlocks, ⟨made, n, extracted.sections, at_, turn⟩, (blockOf_ok turn).2.2.2⟩
    · obtain ⟨given, shown, turns⟩ := gather_ok extracted.tables
      obtain ⟨n, at_⟩ := List.mem_iff_getElem?.mp listed
      obtain ⟨o, among, turn⟩ := forall₂_left turns (List.mem_zipIdx_iff_getElem?.mpr at_ : (p, n) ∈ (tableElements root).zipIdx 0)
      obtain ⟨t, made', rfl⟩ := map_ok.mp turn
      have inTables : t ∈ document.tables := by
        rw [shown]
        simpa using among
      exact .inr ⟨t, inTables, ⟨made, n, extracted.sections, at_, made'⟩, (tableOf_ok made').sectioned⟩

/-! ### The outline -/

/-- The sections are the headings of the source, in order, and each block and table is in the section of
the heading that it stands behind. -/
structure Outlined (config : DocumentParserConfig) (source : PyText) (tree : RoseTree Element) (root : Place Element)
    (document : CanonicalDocument) : Prop where
  matched : document.sections.length = (headingsOf tree).length
  titled : ∀ i h s, (headingsOf tree)[i]? = some h → document.sections[i]? = some s →
    locate source root h = .ok s.locator ∧ elementText skipTags h.tree = .ok s.title ∧ s.level = headingLevel h.label ∧
      s.parentSectionId = ((document.sections.take i).reverse.find? fun up => up.level < s.level).map CanonicalSection.sectionId
  behind : ∀ p sectionId, Carries config source root document p sectionId → ∀ h, headingBefore tree p = some h →
    ∃ (i : Nat) (s : CanonicalSection), (headingsOf tree)[i]? = some h ∧ document.sections[i]? = some s ∧ sectionId = some s.sectionId

/-- No heading stands outside the root, each has the text of the child its title is taken from, and
what makes a block or a table stands inside the heading that it stands behind. -/
structure HeadingsEnclose (tree : RoseTree Element) (root : Place Element) : Prop where
  inside : headingsOf tree = headingElements root
  titled : ∀ h ∈ headingsOf tree, TitledByChild h
  around : ∀ p, Emits root p → ∀ h, headingBefore tree p = some h → headingAround (headingsOf tree) p = some h

omit [DecimalText] [WordText] [Sha256] in
/-- The section of a place with a heading around it is that heading's. -/
theorem SectionsMade.nearest {sections : List CanonicalSection} {tree : RoseTree Element} {q : Place Element}
    (from_ : SectionsMade config source root made sections) (inside : headingsOf tree = headingElements root)
    (under : Place.Under [⟨0, tree⟩] p) (around : headingAround (headingsOf tree) p = some q) :
    ∃ (i : Nat) (s : CanonicalSection), (headingsOf tree)[i]? = some q ∧ sections[i]? = some s ∧
      nearestSectionId made p = some s.sectionId := by
  have known := headingAround_mem under around
  have keyed : q.keys ∈ made.map Prod.fst := by
    rw [from_.keys, ← inside]
    exact List.mem_map_of_mem known
  obtain ⟨entry, listed, same⟩ := List.mem_map.mp keyed
  obtain ⟨s, found⟩ : ∃ s, made.lookup q.keys = some s :=
    Option.isSome_iff_exists.mp (List.lookup_isSome_iff.mpr ⟨entry, listed, by simp [same]⟩)
  obtain ⟨i, at_⟩ := entry_of_lookup found
  have both : (made.map Prod.fst)[i]? = some q.keys := by rw [List.getElem?_map, at_]; rfl
  rw [from_.keys, ← inside, List.getElem?_map, Option.map_eq_some_iff] at both
  obtain ⟨h, heading, keys⟩ := both
  cases headingsOf_unique (List.mem_of_getElem? heading) known keys
  refine ⟨i, s, heading, by rw [from_.listed, List.getElem?_map, at_]; rfl, ?_⟩
  rw [nearestSectionId_around from_.keys, ← inside, around, Option.bind_some, found]
  rfl

/-- Sections made of headings are an outline of the source exactly when the headings enclose what they head. -/
theorem outlined_iff {tree : RoseTree Element} (extracted : Extracted config source (extractionRoot tree) made document)
    (bare : sectionElements (extractionRoot tree) = []) :
    Outlined config source tree (extractionRoot tree) document ↔ HeadingsEnclose tree (extractionRoot tree) := by
  have sections := makeSections_ok bare extracted.sections
  rw [← extracted.listed] at sections
  have count : document.sections.length = (headingElements (extractionRoot tree)).length := by
    have lengths := congrArg List.length sections.keys
    rw [extracted.listed]
    simpa using lengths
  constructor
  · intro outlined
    have inside : headingsOf tree = headingElements (extractionRoot tree) :=
      ((headingElements_sublist tree).eq_of_length (count.symm.trans outlined.matched)).symm
    refine ⟨inside, fun h known => ?_, fun p emits h before => ?_⟩
    · obtain ⟨i, heading⟩ := List.mem_iff_getElem?.mp known
      have short : i < document.sections.length := by
        rw [outlined.matched]
        exact (List.getElem?_eq_some_iff.mp heading).1
      have listed := List.getElem?_eq_getElem short
      obtain ⟨-, titled, -⟩ := outlined.titled i h _ heading listed
      rw [inside] at heading
      exact (sections.each i h _ heading listed).2.1.mp titled
    · obtain ⟨i, s, heading, listed, nearest⟩ := outlined.behind p _ ((carries_iff extracted).mpr ⟨emits, rfl⟩) h before
      obtain ⟨q, around, -⟩ := Option.bind_eq_some_iff.mp ((nearestSectionId_around sections.keys p).symm.trans nearest)
      rw [← inside] at around
      obtain ⟨j, s', heading', listed', nearest'⟩ := sections.nearest inside emits.under around
      rw [nearest'] at nearest
      -- sections with one identity are one section, of one heading
      have equal : i = j := CanonicalDocument.section_index listed listed' (Option.some.inj nearest).symm
      rw [← equal, heading] at heading'
      rw [around]
      exact heading'.symm
  · intro enclose
    have count' : document.sections.length = (headingsOf tree).length := by rw [count, enclose.inside]
    refine ⟨count', fun i h s heading listed => ?_, fun p sectionId carries h before => ?_⟩
    · have titled := enclose.titled h (List.mem_of_getElem? heading)
      rw [enclose.inside] at heading
      obtain ⟨located, iff, rest⟩ := sections.each i h s heading listed
      exact ⟨located, iff.mpr titled, rest⟩
    · obtain ⟨emits, rfl⟩ := (carries_iff extracted).mp carries
      exact sections.nearest enclose.inside emits.under (enclose.around p emits h before)

end

end HtmlParser

section
variable [CaseText] [NormalText] [PrintableText] [DecimalText] [WordText] [Sha256] [HtmlLibrary]

/-- Of an accepted source without section elements, the document is the outline exactly when the headings
enclose what they head. -/
theorem heading_outline {config : DocumentParserConfig} {source mediaType : PyText} {bytes : Bytes} {text : List Char}
    {tree : RoseTree Element} {document : CanonicalDocument} (decoded : decodeUtf8 bytes = some text)
    (built : HtmlParser.treeOf config (text.map CodePoint.ofChar) = .ok tree)
    (parsed : HtmlParser.parse config source mediaType bytes = .ok document)
    (bare : ∀ p ∈ tree.places, oneOf HtmlParser.sectionTags p.label.tag = false) :
    HtmlParser.Outlined config source tree (HtmlParser.extractionRoot tree) document ↔
      HtmlParser.HeadingsEnclose tree (HtmlParser.extractionRoot tree) := by
  obtain ⟨root, made, read, extracted⟩ := HtmlParser.parse_ok parsed
  obtain ⟨text', tree', decoded', built', rooted⟩ := HtmlParser.treeDetails_ok read
  cases decoded.symm.trans decoded'
  cases built.symm.trans built'
  cases HtmlParser.rootOf_ok rooted
  refine HtmlParser.outlined_iff extracted (List.filter_eq_nil_iff.mpr fun p listed => ?_)
  have inTree := (HtmlParser.extractionRoot_under tree).iter_sublist.subset (List.mem_of_mem_filter listed)
  rw [bare p inTree]
  exact Bool.false_ne_true

end
/-! ### A heading before its paragraph, and a heading around its title -/

namespace Sample
attribute [local instance] standardSha256 asciiPrintable asciiDecimal asciiCase asciiNormal asciiWords

/-- The heading of the two examples; its text is its own, or that of a child. -/
def outlineEvents (nested : Bool) : List HtmlEvent :=
  if nested then [opened "h1", opened "title", written "T", ended "title", ended "h1"]
  else [opened "h1", written "T", ended "h1", opened "p", written "x", ended "p"]

def outlineSource (nested : Bool) : String := if nested then "<h1><title>T</title></h1>" else "<h1>T</h1><p>x</p>"

@[reducible] def outlineLibrary (nested : Bool) : HtmlLibrary := reporting (outlineSource nested) (outlineEvents nested)

def outlineTree (nested : Bool) : RoseTree Element :=
  htmlNode "document" "" (if nested then [htmlNode "h1" "" [htmlNode "title" "T" []]] else [htmlNode "h1" "T" [], htmlNode "p" "x" []])

def outlineDocument (nested : Bool) : Except PyError CanonicalDocument :=
  letI := outlineLibrary nested
  HtmlParser.parse parserConfig sourceId (PyText.ofString "text/html") (asciiBytes (outlineSource nested))

example : (outlineTree true).places.length = 3 := by decide +kernel

theorem outlineTree_built (nested : Bool) : letI := outlineLibrary nested
    HtmlParser.treeOf parserConfig ((outlineSource nested).toList.map CodePoint.ofChar) = .ok (outlineTree nested) := by
  cases nested <;> rfl

theorem outlineSource_decoded (nested : Bool) : decodeUtf8 (asciiBytes (outlineSource nested)) = some (outlineSource nested).toList := by
  cases nested <;> decide +kernel

theorem outlineTree_bare (nested : Bool) : ∀ p ∈ (outlineTree nested).places, oneOf HtmlParser.sectionTags p.label.tag = false := by
  have none : ((outlineTree nested).places.all fun p => !oneOf HtmlParser.sectionTags p.label.tag) = true := by
    cases nested <;> decide
  intro p listed
  simpa using List.all_eq_true.mp none p listed

/-- The heading, and the title in it. -/
def nestedHeading : Place Element := [⟨0, htmlNode "h1" "" [htmlNode "title" "T" []]⟩, ⟨0, outlineTree true⟩]
def nestedTitle : Place Element := ⟨0, htmlNode "title" "T" []⟩ :: nestedHeading

theorem nested_encloses : HtmlParser.HeadingsEnclose (outlineTree true) (HtmlParser.extractionRoot (outlineTree true)) where
  inside := rfl
  titled h known := by
    obtain rfl : h = nestedHeading := List.mem_singleton.mp known
    rfl
  around p emits h before := by
    have listed : p ∈ [nestedHeading, nestedTitle] := by
      rcases emits with ⟨listed, -⟩ | listed
      · exact listed
      · exact List.mem_of_mem_filter listed
    simp only [List.mem_cons, List.not_mem_nil, or_false] at listed
    rcases listed with rfl | rfl
    · exact before
    · exact before

theorem heading_outline_nested : ∃ document, outlineDocument true = .ok document ∧
    HtmlParser.Outlined parserConfig sourceId (outlineTree true) (HtmlParser.extractionRoot (outlineTree true)) document := by
  let _ := outlineLibrary true
  obtain ⟨document, returned⟩ : ∃ document, outlineDocument true = .ok document := ok_of_some (by decide +kernel)
  exact ⟨document, returned, (heading_outline (outlineSource_decoded true) (outlineTree_built true) returned (outlineTree_bare true)).mpr
    nested_encloses⟩

/-- The heading's section has no title, and the paragraph behind the heading is in no section. -/
theorem heading_outline_fails : ∃ document, outlineDocument false = .ok document ∧
    document.sections.map CanonicalSection.title = [[]] ∧ (document.blocks.map fun b => b.sectionId.isSome) = [true, false] ∧
    ¬HtmlParser.Outlined parserConfig sourceId (outlineTree false) (HtmlParser.extractionRoot (outlineTree false)) document := by
  let _ := outlineLibrary false
  obtain ⟨document, returned, shown⟩ : ∃ document, outlineDocument false = .ok document ∧
      decide (document.sections.map CanonicalSection.title = [[]] ∧ (document.blocks.map fun b => b.sectionId.isSome) = [true, false]) =
        true := ok_of_any (by decide +kernel)
  obtain ⟨titles, carried⟩ := of_decide_eq_true shown
  refine ⟨document, returned, titles, carried, fun outlined => ?_⟩
  cases all : document.sections with
  | nil =>
    rw [all] at titles
    cases titles
  | cons s rest =>
    rw [all] at titles
    obtain ⟨-, titled, -⟩ := outlined.titled 0 _ s rfl (by rw [all]; rfl)
    rw [(List.cons.inj titles).1] at titled
    cases titled

example : (outlineTree false).places.length = 3 := by decide +kernel

end Sample
end Molly
