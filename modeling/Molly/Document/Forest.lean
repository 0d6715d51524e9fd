import Molly.Document.Outline
import Molly.Document.Queries
import Molly.Effect.Forest

/-! The hierarchy of sections: what its check accepts, and what the parsers build. -/
namespace Molly
open Effect (RoseTree Step Place Climbs walk)

/-! ### The check -/

/-- The section that a section names as its parent. -/
def parentIn (sections : List CanonicalSection) (s : CanonicalSection) : Option CanonicalSection :=
  s.parentSectionId.bind fun parent => sections.find? fun up => up.sectionId = parent

/-- Every parent is a section of the list, and from every section a root is reached. -/
def IsForest (sections : List CanonicalSection) : Prop :=
  ∀ s ∈ sections, (∀ id ∈ s.parentSectionId, id ∈ sections.map CanonicalSection.sectionId) ∧ ∃ n, Climbs (parentIn sections) n s

/-- What the constructor of a document asks of the parents of its sections. -/
def hierarchy (sections : List CanonicalSection) : Except PyError Unit := do
  sections.forM fun s => ensure (∀ id ∈ s.parentSectionId, id ∈ sections.map CanonicalSection.sectionId)
    ⟨.coreContract, "section references an unknown parent"⟩
  ensure (sections.all fun s => DocumentBody.climbs sections (sections.length + 1) [] s)
    ⟨.coreContract, "section hierarchy contains a cycle"⟩

section
variable {sections : List CanonicalSection}

theorem parentIn_closed : ∀ s ∈ sections, ∀ up, parentIn sections s = some up → up ∈ sections := by
  intro s _ up found
  obtain ⟨parent, _, found⟩ := Option.bind_eq_some_iff.mp found
  exact List.mem_of_find?_eq_some found

theorem parentIn_some {s : CanonicalSection} {parent : Identifier} (named : s.parentSectionId = some parent)
    (known : parent ∈ sections.map CanonicalSection.sectionId) :
    ∃ up, (sections.find? fun up => up.sectionId = parent) = some up ∧ parentIn sections s = some up := by
  obtain ⟨up, among, same⟩ := List.mem_map.mp known
  have found : (sections.find? fun up => up.sectionId = parent).isSome = true := by
    rw [List.find?_isSome]
    exact ⟨up, among, decide_eq_true same⟩
  obtain ⟨first, found⟩ := Option.isSome_iff_exists.mp found
  exact ⟨first, found, by rw [parentIn, named, Option.bind_some, found]⟩

theorem sections_distinct (ids : (sections.map CanonicalSection.sectionId).Nodup) :
    ∀ s ∈ sections, ∀ s' ∈ sections, s.sectionId = s'.sectionId → s = s' := by
  intro s among s' among' same
  exact List.inj_on_of_nodup_map ids among among' same

/-- Where all parents are known, the walk of the check is the walk over the nodes. -/
theorem climbs_eq (known : ∀ s ∈ sections, ∀ id ∈ s.parentSectionId, id ∈ sections.map CanonicalSection.sectionId) :
    ∀ {steps : Nat} {seen : List Identifier} {s : CanonicalSection}, s ∈ sections →
      DocumentBody.climbs sections steps seen s = (walk CanonicalSection.sectionId (parentIn sections) steps seen s).getD true
  | 0, _, _, _ => rfl
  | steps + 1, seen, s, among => by
    rw [DocumentBody.climbs, walk]
    cases named : s.parentSectionId with
    | none =>
      rw [parentIn, named]
      rfl
    | some parent =>
      obtain ⟨up, found, above⟩ := parentIn_some named (known s among parent named)
      rw [above]
      dsimp only
      rw [found]
      by_cases again : s.sectionId ∈ seen
      · simp [again]
      · simp [again, climbs_eq known (parentIn_closed s among up above)]

/-- The walk from a section comes to its end within the bound, and tells whether a root is reached. -/
theorem climbs_decides (ids : (sections.map CanonicalSection.sectionId).Nodup)
    (known : ∀ s ∈ sections, ∀ id ∈ s.parentSectionId, id ∈ sections.map CanonicalSection.sectionId) {s : CanonicalSection}
    (among : s ∈ sections) :
    walk CanonicalSection.sectionId (parentIn sections) (sections.length + 1) [] s =
        some (DocumentBody.climbs sections (sections.length + 1) [] s) ∧
      (DocumentBody.climbs sections (sections.length + 1) [] s = true ↔ ∃ n, Climbs (parentIn sections) n s) := by
  obtain ⟨reached, done, iff⟩ := Effect.walk_decides parentIn_closed (sections_distinct ids) among
  have same : DocumentBody.climbs sections (sections.length + 1) [] s =
      (walk CanonicalSection.sectionId (parentIn sections) (sections.length + 1) [] s).getD true := climbs_eq known among
  rw [done, Option.getD_some] at same
  rw [same]
  exact ⟨done, iff⟩

theorem hierarchy_ok : hierarchy sections = .ok () ↔
    (∀ s ∈ sections, ∀ id ∈ s.parentSectionId, id ∈ sections.map CanonicalSection.sectionId) ∧
      ∀ s ∈ sections, DocumentBody.climbs sections (sections.length + 1) [] s = true := by
  unfold hierarchy
  rw [bind_ok]
  simp only [ensure_ok, List.all_eq_true]
  constructor
  · rintro ⟨_, known, climbs⟩
    exact ⟨fun s among => by simpa using forM_ok.mp known s among, climbs⟩
  · rintro ⟨known, climbs⟩
    exact ⟨(), forM_ok.mpr fun s among => by simpa using known s among, climbs⟩

theorem hierarchy_iff (ids : (sections.map CanonicalSection.sectionId).Nodup) : hierarchy sections = .ok () ↔ IsForest sections := by
  rw [hierarchy_ok]
  constructor
  · rintro ⟨known, climbs⟩ s among
    exact ⟨known s among, (climbs_decides ids known among).2.mp (climbs s among)⟩
  · intro forest
    have known : ∀ s ∈ sections, ∀ id ∈ s.parentSectionId, id ∈ sections.map CanonicalSection.sectionId :=
      fun s among => (forest s among).1
    exact ⟨known, fun s among => (climbs_decides ids known among).2.mpr (forest s among).2⟩

/-- Where parents stand before their sections, the sections are a forest. -/
theorem isForest_of_ordered (ids : (sections.map CanonicalSection.sectionId).Nodup)
    (ordered : ∀ (i : Nat) s, sections[i]? = some s → ∀ id ∈ s.parentSectionId, ∃ j < i, ∃ up, sections[j]? = some up ∧ up.sectionId = id) :
    IsForest sections := by
  intro s among
  obtain ⟨i, here⟩ := List.mem_iff_getElem?.mp among
  refine ⟨fun id named => ?_, Effect.climbs_of_ordered (fun i s here up above => ?_) i s here⟩
  · obtain ⟨j, _, up, there, rfl⟩ := ordered i s here id named
    exact List.mem_map_of_mem (List.mem_of_getElem? there)
  · obtain ⟨parent, named, found⟩ := Option.bind_eq_some_iff.mp above
    obtain ⟨j, before, first, there, same⟩ := ordered i s here parent named
    have other := List.find?_some found
    obtain rfl := sections_distinct ids first (List.mem_of_getElem? there) up (List.mem_of_find?_eq_some found)
      (same.trans (of_decide_eq_true other).symm)
    exact ⟨j, before, there⟩

end

theorem hierarchy_of_checkObjects {d : DocumentBody} (checked : d.checkObjects = .ok ()) : hierarchy d.sections = .ok () := by
  simp only [DocumentBody.checkObjects, bind_ok, ensure_ok, exists_const] at checked
  obtain ⟨-, -, -, -, -, -, _, known, climbs, -⟩ := checked
  refine hierarchy_ok.mpr ⟨fun s among => ?_, List.all_eq_true.mp climbs⟩
  have here := forM_ok.mp known s among
  simp only [bind_ok, ensure_ok, exists_const] at here
  exact of_decide_eq_true here.1

/-- The constructor raises the error of the hierarchy, where the identities differ and the locators name the source. -/
theorem checkObjects_of_hierarchy {d : DocumentBody} {e : PyError}
    (ids : d.sectionIds.Nodup ∧ (d.blocks.map CanonicalBlock.blockId).Nodup ∧ (d.tables.map CanonicalTable.tableId).Nodup ∧
      (d.figures.map CanonicalFigure.figureId).Nodup ∧ (d.references.map CanonicalReference.referenceId).Nodup ∧ d.objectIds.Nodup)
    (sourced : ∀ s ∈ d.sections, s.locator.sourceArtifactId = d.sourceArtifactId)
    (failed : hierarchy d.sections = .error e) : d.checkObjects = .error e := by
  obtain ⟨sections, blocks, tables, figures, references, objects⟩ := ids
  have loop (known sourced' : CanonicalSection → Except PyError Unit) (fine : ∀ s ∈ d.sections, sourced' s = .ok ()) :
      (d.sections.forM fun s => do known s; sourced' s) = d.sections.forM known := by
    generalize d.sections = sections at fine
    induction sections with
    | nil => rfl
    | cons s rest ih =>
      have step (f : CanonicalSection → Except PyError Unit) : (s :: rest).forM f = (f s >>= fun _ => rest.forM f) := rfl
      rw [step, step, ih fun s' member => fine s' (List.mem_cons_of_mem s member), fine s List.mem_cons_self]
      cases known s <;> rfl
  have fine : ∀ s ∈ d.sections, ensure (s.locator.sourceArtifactId = d.sourceArtifactId)
      ⟨.coreContract, "section" ++ " locator source does not match document source"⟩ = .ok () :=
    fun s among => by simpa using sourced s among
  unfold DocumentBody.checkObjects
  dsimp only
  rw [loop _ _ fine]
  simp only [sections, blocks, tables, figures, references, objects, decide_true]
  rcases bind_error.mp failed with unknown | ⟨_, known, cyclic⟩
  · have unknown' : (d.sections.forM fun s => ensure (∀ id ∈ s.parentSectionId, id ∈ d.sectionIds)
      ⟨.coreContract, "section references an unknown parent"⟩) = .error e := unknown
    rw [unknown']
    rfl
  · have known' : (d.sections.forM fun s => ensure (∀ id ∈ s.parentSectionId, id ∈ d.sectionIds)
      ⟨.coreContract, "section references an unknown parent"⟩) = .ok () := known
    rw [known', cyclic]
    rfl

/-! ### Sections made one after the other -/

/-- Sections that name only earlier ones as parents pass the check. -/
theorem hierarchy_of_turns {made : SectionIds} (ids : ((made.map Prod.snd).map CanonicalSection.sectionId).Nodup)
    (turns : ∀ (i : Nat) m, made[i]? = some m → ∀ id ∈ m.2.parentSectionId, ∃ up ∈ made.take i, up.2.sectionId = id) :
    hierarchy (made.map Prod.snd) = .ok () := by
  refine (hierarchy_iff ids).mpr (isForest_of_ordered ids fun i s here id named => ?_)
  rw [List.getElem?_map, Option.map_eq_some_iff] at here
  obtain ⟨m, here, rfl⟩ := here
  obtain ⟨up, earlier, same⟩ := turns i m here id named
  obtain ⟨j, there⟩ := List.mem_iff_getElem?.mp earlier
  rw [List.getElem?_take] at there
  by_cases before : j < i
  · rw [if_pos before] at there
    exact ⟨j, before, up.2, by rw [List.getElem?_map, there]; rfl, same⟩
  · rw [if_neg before] at there
    cases there

theorem lookup_of_key {made : SectionIds} {k : List Nat} (known : k ∈ made.map Prod.fst) : (made.lookup k).isSome = true := by
  obtain ⟨m, among, rfl⟩ := List.mem_map.mp known
  exact List.lookup_isSome_iff.mpr ⟨m, among, beq_self_eq_true m.1⟩

/-- A place of the list that stands above another one stands before it. -/
theorem precedes {root element up : Place Element} {before after : List (Place Element)}
    (listed : (before ++ element :: after).Sublist root.iter) (among : up ∈ before ++ element :: after) (above : up <:+ element.tail)
    (filled : element ≠ []) : up ∈ before := by
  have order := (Place.iter_descends root).sublist listed
  rcases List.mem_append.mp among with earlier | later
  · exact earlier
  · rcases List.mem_cons.mp later with rfl | later
    · have short := above.length_le
      have long := List.length_pos_of_ne_nil filled
      rw [List.length_tail] at short
      omega
    · exact absurd above (List.rel_of_pairwise_cons (List.pairwise_append.mp order).2.1 later)

/-! ### XML -/

section
variable [CaseText] [NormalText] [PrintableText] [Sha256]
variable {config : DocumentParserConfig} {source : PyText} {root p : Place Element} {made : SectionIds}

omit [NormalText] [PrintableText] [Sha256] in
theorem isInside_above {names : List String} {up : Place Element} (above : up <:+ p) (inside : isInside names up = true) :
    isInside names p = true := by
  cases found : nearestAncestor names p with
  | some _ => simp [isInside, found]
  | none =>
    have outside := nearestFrom_none.mp found
    have none : nearestAncestor names up = none := by
      refine nearestFrom_none.mpr fun s member => outside s ?_
      obtain ⟨front, rfl⟩ := above
      cases front with
      | nil => exact member
      | cons _ front => exact List.mem_append_right front (List.mem_of_mem_tail member)
    simp [isInside, none] at inside

namespace XmlParser

/-- The branch is taken in which an element's parent is no section yet. -/
def RefusesHierarchy (config : DocumentParserConfig) (source : PyText) (root : Place Element) : Prop :=
  ∃ before element after made, sectionElements root = before ++ element :: after ∧
    makeSections config source root [] before = .ok made ∧
    parentOf made element = .error (malformedError "section hierarchy cannot be normalized")

/-- The turns of the loop over the section elements. -/
theorem makeSections_ok : ∀ {items : List (Place Element)} {made all : SectionIds},
    makeSections config source root made items = .ok all → ∃ more, all = made ++ more ∧ more.map Prod.fst = items.map Place.keys ∧
      ∀ (i : Nat) m, more[i]? = some m → ∃ p, sectionOf config source root (made ++ more.take i) p = .ok m.2
  | [], made, all, done => by
    cases done
    exact ⟨[], by simp, rfl, fun i m item => by simp at item⟩
  | element :: rest, made, all, done => by
    rw [makeSections] at done
    obtain ⟨found, turn, done⟩ := bind_ok.mp done
    obtain ⟨more, shown, keys, each⟩ := makeSections_ok done
    refine ⟨(element.keys, found) :: more, by simpa using shown, by simp [keys], fun i m item => ?_⟩
    cases i with
    | zero =>
      cases item
      exact ⟨element, by simpa using turn⟩
    | succ i =>
      obtain ⟨p, later⟩ := each i m item
      rw [List.append_assoc, List.singleton_append] at later
      exact ⟨p, later⟩

theorem sectionOf_parent {s : CanonicalSection} (turn : sectionOf config source root made p = .ok s) :
    ∀ id ∈ s.parentSectionId, ∃ up ∈ made, up.2.sectionId = id := by
  simp only [sectionOf, bind_ok] at turn
  obtain ⟨_, -, _, -, parent, nested, _, -, turn⟩ := turn
  obtain ⟨-, -, -, same, -⟩ := CanonicalSection.create_ok turn
  rw [same]
  unfold parentOf at nested
  split at nested
  · cases nested
    nofun
  · split at nested
    · rename_i found looked
      cases nested
      intro id named
      cases named
      obtain ⟨j, there⟩ := HtmlParser.entry_of_lookup looked
      exact ⟨_, List.mem_of_getElem? there, rfl⟩
    · cases nested

theorem hierarchy_made {items : List (Place Element)} (done : makeSections config source root [] items = .ok made)
    (ids : ((made.map Prod.snd).map CanonicalSection.sectionId).Nodup) : hierarchy (made.map Prod.snd) = .ok () := by
  obtain ⟨more, rfl, -, turns⟩ := makeSections_ok done
  refine hierarchy_of_turns ids fun i m here id named => ?_
  obtain ⟨p, turn⟩ := turns i m here
  exact sectionOf_parent turn id named

/-- A section element above another one is met before it. -/
theorem never_refuses (tree : RoseTree Element) : ¬RefusesHierarchy config source [⟨0, tree⟩] := by
  rintro ⟨before, element, after, made, split', done, refused⟩
  unfold parentOf at refused
  split at refused
  · cases refused
  · rename_i parent found
    split at refused
    · cases refused
    · rename_i missing
      have listed : element ∈ sectionElements [⟨0, tree⟩] := by
        rw [split']
        exact List.mem_append_right _ List.mem_cons_self
      obtain ⟨visited, plain⟩ := List.mem_filter.mp listed
      have under := (Place.mem_iter (by simp)).mp visited
      have filled := under.ne_nil (by simp)
      obtain ⟨above, some, named'⟩ := nearestAncestor_ok found
      have suffix := above.trans (List.tail_suffix element)
      have base : [(⟨0, tree⟩ : Step Element)] <:+ parent :=
        List.suffix_of_suffix_length_le under.suffix suffix (List.length_pos_iff.mpr some)
      have outside : isInside apartTags parent = false := by
        rw [Bool.eq_false_iff]
        intro inside
        simp [isInside_above suffix inside] at plain
      have among : parent ∈ sectionElements [⟨0, tree⟩] := List.mem_filter.mpr
        ⟨(Place.mem_iter (by simp)).mpr (under.of_above base suffix), by simp [named, named', outside]⟩
      have sublist : (sectionElements [⟨0, tree⟩]).Sublist (Place.iter [⟨0, tree⟩]) := List.filter_sublist
      rw [split'] at among sublist
      have earlier := precedes sublist among above filled
      obtain ⟨more, same, keys, -⟩ := makeSections_ok done
      have known : parent.keys ∈ more.map Prod.fst := keys ▸ List.mem_map_of_mem earlier
      have there := lookup_of_key known
      rw [List.nil_append] at same
      rw [← same, missing] at there
      cases there

end XmlParser

/-! ### HTML -/

namespace HtmlParser

omit [NormalText] [PrintableText] [Sha256] in
theorem explicitParent_mem {element : Place Element} {parent : Option Identifier} {level : Nat}
    (nested : explicitParent made element = .ok (parent, level)) : ∀ id ∈ parent, ∃ up ∈ made, up.2.sectionId = id := by
  unfold explicitParent at nested
  split at nested
  · cases nested
    nofun
  · split at nested
    · cases nested
    · rename_i found looked
      obtain ⟨j, there⟩ := entry_of_lookup looked
      have among := List.mem_of_getElem? there
      split at nested
      · cases nested
        intro id named
        cases named
        exact ⟨_, among, rfl⟩
      · cases nested
        intro id named
        cases named
        exact ⟨_, among, rfl⟩

theorem sectionOf_parent {explicit : Bool} {s : CanonicalSection} (turn : sectionOf config source root explicit made p = .ok s) :
    ∀ id ∈ s.parentSectionId, ∃ up ∈ made, up.2.sectionId = id := by
  unfold sectionOf at turn
  obtain ⟨locator, -, turn⟩ := bind_ok.mp turn
  cases explicit with
  | true =>
    obtain ⟨⟨parent, level⟩, nested, turn⟩ := bind_ok.mp turn
    obtain ⟨_, -, turn⟩ := bind_ok.mp turn
    obtain ⟨_, -, turn⟩ := bind_ok.mp turn
    obtain ⟨-, -, -, same, -⟩ := CanonicalSection.create_ok turn
    rw [same]
    exact explicitParent_mem nested
  | false =>
    obtain ⟨⟨parent, level⟩, nested, turn⟩ := bind_ok.mp turn
    obtain ⟨_, -, turn⟩ := bind_ok.mp turn
    obtain ⟨_, -, turn⟩ := bind_ok.mp turn
    obtain ⟨-, -, -, same, -⟩ := CanonicalSection.create_ok turn
    rw [same]
    cases nested
    intro id named
    obtain ⟨up, found, rfl⟩ := Option.map_eq_some_iff.mp named
    exact ⟨up, List.mem_reverse.mp (List.mem_of_find?_eq_some found), rfl⟩

theorem hierarchy_made (done : makeSections config source root = .ok made)
    (ids : ((made.map Prod.snd).map CanonicalSection.sectionId).Nodup) : hierarchy (made.map Prod.snd) = .ok () := by
  have loop : ∃ explicit items, sectionsFrom config source root explicit [] items = .ok made := by
    unfold makeSections at done
    split at done
    · exact ⟨false, _, done⟩
    · exact ⟨true, _, done⟩
  obtain ⟨explicit, items, done⟩ := loop
  obtain ⟨more, same, keys, turns⟩ := sectionsFrom_ok done
  rw [List.nil_append] at same
  subst same
  refine hierarchy_of_turns ids fun i m here id named => ?_
  have length := congrArg List.length keys
  simp only [List.length_map] at length
  have bound : i < items.length := length ▸ (List.getElem?_eq_some_iff.mp here).1
  have turn := turns i items[i] m (List.getElem?_eq_getElem bound) here
  rw [List.nil_append] at turn
  exact sectionOf_parent turn id named

/-! #### The outermost element -/

/-- The tags from the innermost open element outwards. -/
def openTags (inner : OpenNode) (outer : List OpenNode) : List PyText := (inner :: outer).map fun n => n.label.tag

omit [CaseText] [NormalText] [PrintableText] [Sha256] in
theorem closing_last : ∀ (n : Nat) (inner : OpenNode) (outer : List OpenNode),
    (openTags (TreeParser.closing n inner outer).1 (TreeParser.closing n inner outer).2).getLast? = (openTags inner outer).getLast?
  | 0, _, _ => by simp [TreeParser.closing]
  | n + 1, _, [] => by simp [TreeParser.closing]
  | n + 1, inner, next :: rest => by
    rw [TreeParser.closing, closing_last n]
    rfl

omit [CaseText] [NormalText] [PrintableText] [Sha256] in
theorem closing_outer : ∀ (inner : OpenNode) (outer : List OpenNode), (TreeParser.closing outer.length inner outer).2 = []
  | _, [] => rfl
  | _, _ :: rest => closing_outer _ rest

omit [NormalText] [PrintableText] [Sha256] in
/-- The outermost element stays the same. -/
theorem step_last {config : DocumentParserConfig} {p q : TreeParser} {event : HtmlEvent} (stepped : p.step config event = .ok q) :
    (openTags q.innermost q.outer).getLast? = (openTags p.innermost p.outer).getLast? := by
  cases event with
  | start tag attrs =>
    obtain ⟨_, -, stepped⟩ := bind_ok.mp stepped
    split at stepped
    · cases stepped
      rfl
    · obtain ⟨_, -, stepped⟩ := bind_ok.mp stepped
      cases stepped
      rfl
  | startEnd tag attrs =>
    obtain ⟨_, -, stepped⟩ := bind_ok.mp stepped
    cases stepped
    rfl
  | close tag =>
    cases stepped
    exact closing_last _ _ _
  | data text =>
    cases stepped
    rfl

omit [NormalText] [PrintableText] [Sha256] in
theorem feed_last {config : DocumentParserConfig} : ∀ {events : List HtmlEvent} {p q : TreeParser}, TreeParser.feed config p events = .ok q →
    (openTags q.innermost q.outer).getLast? = (openTags p.innermost p.outer).getLast?
  | [], p, q, fed => by
    cases fed
    rfl
  | event :: rest, p, q, fed => by
    rw [TreeParser.feed, List.foldlM_cons] at fed
    obtain ⟨between, stepped, fed⟩ := bind_ok.mp fed
    exact (feed_last fed).trans (step_last stepped)

omit [NormalText] [PrintableText] [Sha256] in
theorem treeOf_document [HtmlLibrary] {text : PyText} {tree : RoseTree Element} (built : treeOf config text = .ok tree) :
    tree.label.tag = PyText.ofString "document" := by
  obtain ⟨parser, fed, built⟩ := bind_ok.mp built
  obtain ⟨_, -, built⟩ := bind_ok.mp built
  cases built
  have last := (closing_last parser.outer.length parser.innermost parser.outer).trans (feed_last fed)
  rw [closing_outer] at last
  exact Option.some.inj last

/-! #### The branch -/

/-- The branch is taken in which an element's parent is no section yet. -/
def RefusesHierarchy (config : DocumentParserConfig) (source : PyText) (root : Place Element) : Prop :=
  ∃ before element after made locator, sectionElements root = before ++ element :: after ∧
    sectionsFrom config source root true [] before = .ok made ∧ locate source root element = .ok locator ∧
    explicitParent made element = .error (malformedError "HTML section hierarchy cannot be normalized")

/-- Each section element that is reached has a nearest section above it, by the local name, that is a section by its tag. -/
def PlainParents (config : DocumentParserConfig) (source : PyText) (root : Place Element) : Prop :=
  ∀ before element after made locator, sectionElements root = before ++ element :: after →
    sectionsFrom config source root true [] before = .ok made → locate source root element = .ok locator →
    ∀ up, nearestAncestor sectionTags element = some up → oneOf sectionTags up.label.tag = true

omit [CaseText] [NormalText] [PrintableText] [Sha256] in
theorem section_kept {tag : PyText} (section' : oneOf sectionTags tag = true) : oneOf skipTags tag = false := by
  simp only [oneOf, sectionTags, List.map_cons, List.map_nil, List.contains_cons, List.contains_nil, Bool.or_false, Bool.or_eq_true,
    beq_iff_eq] at section'
  rcases section' with rfl | rfl
  · decide
  · decide

omit [NormalText] [PrintableText] [Sha256] in
theorem explicitParent_refuses {element : Place Element} :
    explicitParent made element = .error (malformedError "HTML section hierarchy cannot be normalized") ↔
      ∃ up, nearestAncestor sectionTags element = some up ∧ made.lookup up.keys = none := by
  unfold explicitParent
  cases found : nearestAncestor sectionTags element with
  | none => simp
  | some up =>
    dsimp only
    cases looked : made.lookup up.keys with
    | none => exact ⟨fun _ => ⟨up, rfl, looked⟩, fun _ => rfl⟩
    | some s =>
      dsimp only
      constructor
      · intro refused
        split at refused <;> cases refused
      · rintro ⟨up', same, missing⟩
        cases same
        rw [looked] at missing
        cases missing

/-- A section above an element is one of those before it just when its own tag is a section's. -/
theorem lookup_above {tree : RoseTree Element} (document : tree.label.tag = PyText.ofString "document") {before after : List (Place Element)}
    {element up : Place Element} (split' : sectionElements (extractionRoot tree) = before ++ element :: after)
    (done : sectionsFrom config source (extractionRoot tree) true [] before = .ok made)
    (found : nearestAncestor sectionTags element = some up) : made.lookup up.keys = none ↔ ¬oneOf sectionTags up.label.tag = true := by
  have sublist : (sectionElements (extractionRoot tree)).Sublist (extractionRoot tree).iter :=
    List.filter_sublist.trans List.filter_sublist
  have listed : element ∈ sectionElements (extractionRoot tree) := by
    rw [split']
    exact List.mem_append_right _ List.mem_cons_self
  have below := (Place.mem_iter (extractionRoot_ne_nil tree)).mp (sublist.subset listed)
  have under := (extractionRoot_under tree).trans below
  have filled := under.ne_nil (by simp)
  obtain ⟨above, some, named⟩ := nearestAncestor_ok found
  have suffix := above.trans (List.tail_suffix element)
  have base : [(⟨0, tree⟩ : Step Element)] <:+ up :=
    List.suffix_of_suffix_length_le under.suffix suffix (List.length_pos_iff.mpr some)
  obtain ⟨more, same, keys, -⟩ := sectionsFrom_ok done
  rw [List.nil_append] at same
  subst same
  constructor
  · intro missing plain
    have inside : extractionRoot tree <:+ up := by
      rcases List.suffix_or_suffix_of_suffix below.suffix suffix with inside | outside
      · exact inside
      · -- Above the root there is nothing but the document.
        unfold extractionRoot at outside ⊢
        split at outside
        · rcases List.suffix_cons_iff.mp outside with rfl | outer
          · exact List.suffix_refl _
          · have top := outer.eq_of_length (Nat.le_antisymm outer.length_le base.length_le)
            rw [top] at plain
            change oneOf sectionTags tree.label.tag = true at plain
            rw [document] at plain
            exact absurd plain (by decide)
        · exact base
    have among : up ∈ sectionElements (extractionRoot tree) := by
      refine List.mem_filter.mpr ⟨List.mem_filter.mpr ⟨?_, by simp [section_kept plain]⟩, plain⟩
      exact (Place.mem_iter (extractionRoot_ne_nil tree)).mpr (below.of_above inside suffix)
    rw [split'] at among sublist
    have known : up.keys ∈ made.map Prod.fst := keys ▸ List.mem_map_of_mem (precedes sublist among above filled)
    have there := lookup_of_key known
    rw [missing] at there
    cases there
  · intro other
    by_contra there
    obtain ⟨s, looked⟩ := Option.ne_none_iff_exists'.mp there
    obtain ⟨j, here⟩ := entry_of_lookup looked
    have known : up.keys ∈ before.map Place.keys := keys ▸ List.mem_map_of_mem (List.mem_of_getElem? here)
    obtain ⟨q, earlier, same⟩ := List.mem_map.mp known
    have member : q ∈ sectionElements (extractionRoot tree) := by
      rw [split']
      exact List.mem_append_left _ earlier
    have place := (extractionRoot_under tree).trans ((Place.mem_iter (extractionRoot_ne_nil tree)).mp (sublist.subset member))
    rw [← place.unique (under.of_above base suffix) same] at other
    exact other (List.mem_filter.mp member).2

theorem refuses_iff [HtmlLibrary] {bytes : Bytes} (read : treeDetails config bytes = .ok root) :
    ¬RefusesHierarchy config source root ↔ PlainParents config source root := by
  obtain ⟨text, tree, -, built, rooted⟩ := treeDetails_ok read
  rw [rootOf_ok rooted]
  have document := treeOf_document built
  constructor
  · intro never before element after made locator split' done located up found
    by_contra other
    exact never ⟨before, element, after, made, locator, split', done, located,
      explicitParent_refuses.mpr ⟨up, found, (lookup_above document split' done found).mpr other⟩⟩
  · rintro plain ⟨before, element, after, made, locator, split', done, located, refused⟩
    obtain ⟨up, found, missing⟩ := explicitParent_refuses.mp refused
    exact (lookup_above document split' done found).mp missing (plain before element after made locator split' done located up found)

end HtmlParser

/-- The check of a list of sections with unique identities comes to its end, and accepts just the forests. The sections made of
XML and of HTML pass it, and of an XML tree none is refused for its parent; of an HTML source none is, if and only if the
nearest section above each section element that is reached is one by its tag, not only by its local name. -/
theorem section_forests :
    (∀ sections : List CanonicalSection, (sections.map CanonicalSection.sectionId).Nodup →
      ((∀ s ∈ sections, ∀ id ∈ s.parentSectionId, id ∈ sections.map CanonicalSection.sectionId) → ∀ s ∈ sections,
        walk CanonicalSection.sectionId (parentIn sections) (sections.length + 1) [] s =
          some (DocumentBody.climbs sections (sections.length + 1) [] s)) ∧
      (hierarchy sections = .ok () ↔ IsForest sections)) ∧
    (∀ (config : DocumentParserConfig) (source : PyText) (tree : RoseTree Element),
      ¬XmlParser.RefusesHierarchy config source [⟨0, tree⟩] ∧
      ∀ made, XmlParser.makeSections config source [⟨0, tree⟩] [] (XmlParser.sectionElements [⟨0, tree⟩]) = .ok made →
        ((made.map Prod.snd).map CanonicalSection.sectionId).Nodup → hierarchy (made.map Prod.snd) = .ok ()) ∧
    ∀ [HtmlLibrary] (config : DocumentParserConfig) (source : PyText) (bytes : Bytes) (root : Place Element),
      HtmlParser.treeDetails config bytes = .ok root →
        (∀ made, HtmlParser.makeSections config source root = .ok made →
          ((made.map Prod.snd).map CanonicalSection.sectionId).Nodup → hierarchy (made.map Prod.snd) = .ok ()) ∧
        (¬HtmlParser.RefusesHierarchy config source root ↔ HtmlParser.PlainParents config source root) := by
  refine ⟨fun sections ids => ⟨fun known s among => (climbs_decides ids known among).1, hierarchy_iff ids⟩,
    fun config source tree => ⟨XmlParser.never_refuses tree, fun made done ids => XmlParser.hierarchy_made done ids⟩,
    fun config source bytes root read => ⟨fun made done ids => HtmlParser.hierarchy_made done ids, HtmlParser.refuses_iff read⟩⟩

end

namespace Sample
attribute [local instance] standardSha256 asciiPrintable asciiDecimal asciiCase asciiNormal asciiWords

/-- A section in an element whose local name is that of a section. -/
def bracedSource : String := "<a\x7dsection><section><p>x</p></section></a\x7dsection>"

@[reducible] def bracedLibrary : HtmlLibrary := reporting bracedSource
  [opened "a\x7dsection", opened "section", opened "p", written "x", ended "p", ended "section", ended "a\x7dsection"]

def bracedTree : RoseTree Element :=
  htmlNode "document" "" [htmlNode "a\x7dsection" "" [htmlNode "section" "" [htmlNode "p" "x" []]]]

def bracedSection : Place Element :=
  ⟨0, htmlNode "section" "" [htmlNode "p" "x" []]⟩ :: HtmlParser.extractionRoot bracedTree

/-- The source is refused for its hierarchy. -/
theorem section_forests_fails : letI := bracedLibrary
    ∃ root, HtmlParser.treeDetails parserConfig (asciiBytes bracedSource) = .ok root ∧
      HtmlParser.RefusesHierarchy parserConfig sourceId root ∧
      HtmlParser.makeSections parserConfig sourceId root = .error (malformedError "HTML section hierarchy cannot be normalized") ∧
      HtmlParser.parse parserConfig sourceId (PyText.ofString "text/html") (asciiBytes bracedSource) =
        .error (malformedError "HTML section hierarchy cannot be normalized") := by
  let _ := bracedLibrary
  obtain ⟨locator, located⟩ : ∃ locator, HtmlParser.locate sourceId (HtmlParser.extractionRoot bracedTree) bracedSection = .ok locator :=
    ok_of_some (by decide +kernel)
  exact ⟨HtmlParser.extractionRoot bracedTree, rfl, ⟨[], bracedSection, [], [], locator, rfl, rfl, located, rfl⟩, rfl, rfl⟩

end Sample
end Molly
