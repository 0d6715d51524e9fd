import Molly.Document.Locators
import Molly.Document.Queries
import Molly.Effect.Reshape

/-! What stands inside script, style and noscript elements: the tree without their character data and
attribute values, and when the parser makes the same of it. -/
namespace Molly
open Effect (RoseTree Step Place Reshape)

namespace HtmlParser

/-! ### Erasure -/

def isSkip (e : Element) : Bool := oneOf skipTags e.tag

/-- An element without its character data, and without its attribute values if it stands inside an element to skip. -/
def erased (inside : Bool) (e : Element) : Element :=
  if inside then ⟨e.tag, e.attrs.map fun a => (a.1, []), [], []⟩ else if isSkip e then { e with text := [] } else e

mutual
def eraseTree (inside : Bool) : RoseTree Element → RoseTree Element
  | .node e children => .node (erased inside e) (eraseAll (inside || isSkip e) children)

def eraseAll (inside : Bool) : List (RoseTree Element) → List (RoseTree Element)
  | [] => []
  | t :: ts => eraseTree inside t :: eraseAll inside ts
end

theorem eraseAll_eq (inside : Bool) (ts : List (RoseTree Element)) : eraseAll inside ts = ts.map (eraseTree inside) := by
  induction ts with
  | nil => rfl
  | cons t ts ih => rw [eraseAll, ih, List.map_cons]

@[simp] theorem erased_tag (inside : Bool) (e : Element) : (erased inside e).tag = e.tag := by
  unfold erased
  split
  · rfl
  · split <;> rfl

@[simp] theorem label_eraseTree (inside : Bool) (t : RoseTree Element) : (eraseTree inside t).label = erased inside t.label := by
  cases t
  rfl

/-- The change of a tree whose context tells whether an element to skip is above. -/
def erasure : Reshape Bool Element Element where
  tree := eraseTree
  inside c t := c || isSkip t.label
  children_tree c t := by
    cases t
    exact eraseAll_eq _ _

/-- The place in the erased tree. -/
def erasedPlace (p : Place Element) : Place Element := erasure.place false p

/-- An element to skip stands above the place. -/
def within (p : Place Element) : Bool := p.tail.any fun s => isSkip s.tree.label

theorem context_erasure (p : Place Element) : erasure.context false p = p.any fun s => isSkip s.tree.label := by
  induction p with
  | nil => rfl
  | cons s up ih =>
    rw [Reshape.context, ih, List.any_cons, Bool.or_comm]
    rfl

@[simp] theorem keys_erasedPlace (p : Place Element) : (erasedPlace p).keys = p.keys := erasure.keys_place false p

@[simp] theorem length_erasedPlace (p : Place Element) : (erasedPlace p).length = p.length := erasure.length_place false p

theorem tail_erasedPlace (p : Place Element) : (erasedPlace p).tail = erasedPlace p.tail := erasure.tail_place false p

theorem iter_erasedPlace (p : Place Element) : (erasedPlace p).iter = p.iter.map erasedPlace := erasure.iter_place false p

theorem tree_erasedPlace {p : Place Element} (filled : p ≠ []) : (erasedPlace p).tree = eraseTree (within p) p.tree := by
  rw [erasedPlace, erasure.tree_place false filled, context_erasure]
  rfl

theorem label_erasedPlace {p : Place Element} (filled : p ≠ []) : (erasedPlace p).label = erased (within p) p.label := by
  rw [Place.label, tree_erasedPlace filled, label_eraseTree]
  rfl

@[simp] theorem tag_erasedPlace (p : Place Element) : (erasedPlace p).label.tag = p.label.tag := by
  cases p with
  | nil => rfl
  | cons s up => rw [label_erasedPlace (by simp), erased_tag]

@[simp] theorem within_erasedPlace (p : Place Element) : within (erasedPlace p) = within p := by
  have general : ∀ q : Place Element, (erasedPlace q).any (fun s => isSkip s.tree.label) = q.any fun s => isSkip s.tree.label := by
    intro q
    induction q with
    | nil => rfl
    | cons s up ih =>
      have first : erasedPlace (s :: up) = ⟨s.index, eraseTree (erasure.context false up) s.tree⟩ :: erasedPlace up := rfl
      rw [first, List.any_cons, List.any_cons, ih]
      simp [isSkip]
  rw [within, tail_erasedPlace, general]
  rfl

/-! ### Queries on the erased tree -/

/-- Tests that see the same in both trees choose the same places. -/
theorem filter_erased {test test' : Place Element → Bool} (blind : ∀ p, test' (erasedPlace p) = test p)
    (places : List (Place Element)) : (places.map erasedPlace).filter test' = (places.filter test).map erasedPlace := by
  rw [List.filter_map]
  exact congrArg _ (List.filter_congr fun p _ => blind p)

theorem elements_erased (root : Place Element) : elements (erasedPlace root) = (elements root).map erasedPlace := by
  rw [elements, iter_erasedPlace]
  exact filter_erased (fun p => by rw [tag_erasedPlace]) _

theorem tagged_erased (tags : List String) (root : Place Element) :
    (elements (erasedPlace root)).filter (fun p => oneOf tags p.label.tag) =
      ((elements root).filter fun p => oneOf tags p.label.tag).map erasedPlace := by
  rw [elements_erased]
  exact filter_erased (fun p => by rw [tag_erasedPlace]) _

theorem childWith_erased (tags : List String) {p : Place Element} (filled : p ≠ []) :
    childWith tags (erasedPlace p) = (childWith tags p).map (eraseTree (within p || isSkip p.label)) := by
  have children : (eraseTree (within p) p.tree).children = p.tree.children.map (eraseTree (within p || isSkip p.label)) :=
    erasure.children_tree (within p) p.tree
  have blind : ((fun t : RoseTree Element => oneOf tags t.label.tag) ∘ eraseTree (within p || isSkip p.label)) =
      fun t => oneOf tags t.label.tag := by
    funext t
    simp
  rw [childWith, tree_erasedPlace filled, children, List.find?_map, blind]
  rfl

theorem titleElement_erased (root : Place Element) : titleElement (erasedPlace root) = (titleElement root).map erasedPlace := by
  have first (tags : List String) : (elements (erasedPlace root)).find? (fun p => oneOf tags p.label.tag) =
      ((elements root).find? fun p => oneOf tags p.label.tag).map erasedPlace := by
    have blind : ((fun p : Place Element => oneOf tags p.label.tag) ∘ erasedPlace) = fun p => oneOf tags p.label.tag := by
      funext p
      simp
    rw [elements_erased, List.find?_map, blind]
  rw [titleElement, titleElement, first, first]
  cases (elements root).find? fun p => oneOf ["title"] p.label.tag <;> rfl

section
variable [CaseText]

theorem name_eraseTree (inside : Bool) (t : RoseTree Element) : (eraseTree inside t).label.name = t.label.name := by
  rw [Element.name, label_eraseTree, erased_tag]
  rfl

theorem nearestFrom_erased (names : List String) : ∀ p : Place Element,
    nearestFrom names (erasedPlace p) = (nearestFrom names p).map erasedPlace
  | [] => rfl
  | s :: up => by
    have first : erasedPlace (s :: up) = ⟨s.index, eraseTree (erasure.context false up) s.tree⟩ :: erasedPlace up := rfl
    rw [first, nearestFrom, nearestFrom]
    dsimp only
    rw [name_eraseTree]
    split
    · exact congrArg some first.symm
    · exact nearestFrom_erased names up

theorem nearestAncestor_erased (names : List String) (p : Place Element) :
    nearestAncestor names (erasedPlace p) = (nearestAncestor names p).map erasedPlace := by
  rw [nearestAncestor, tail_erasedPlace, nearestFrom_erased]
  rfl

@[simp] theorem isInside_erased (names : List String) (p : Place Element) : isInside names (erasedPlace p) = isInside names p := by
  rw [isInside, nearestAncestor_erased, Option.isSome_map]
  rfl

@[simp] theorem nearestIs_erased (names : List String) (p other : Place Element) :
    nearestIs names (erasedPlace p) (erasedPlace other) = nearestIs names p other := by
  rw [nearestIs, nearestAncestor_erased, Option.any_map]
  simp [nearestIs]

theorem tableRows_erased (table : Place Element) : tableRows (erasedPlace table) = (tableRows table).map erasedPlace := by
  rw [tableRows, iter_erasedPlace]
  refine filter_erased (fun p => ?_) _
  rw [keys_erasedPlace, keys_erasedPlace, tag_erasedPlace, nearestIs_erased]

theorem rowCells_erased (row : Place Element) : rowCells (erasedPlace row) = (rowCells row).map erasedPlace := by
  rw [rowCells, iter_erasedPlace]
  refine filter_erased (fun p => ?_) _
  rw [keys_erasedPlace, keys_erasedPlace, tag_erasedPlace, nearestIs_erased]

theorem siblingIndex_erased (inside : Bool) (s : Step Element) (siblings : List (RoseTree Element)) :
    siblingIndex ⟨s.index, eraseTree inside s.tree⟩ (siblings.map (eraseTree inside)) = siblingIndex s siblings := by
  simp only [siblingIndex, name_eraseTree, ← List.map_take, List.filter_map, List.length_map, Function.comp_def]

theorem structuralPath_erased (depth : Nat) : ∀ p : Place Element, structuralPath depth (erasedPlace p) = structuralPath depth p
  | [] => rfl
  | [s] => by
    have first : erasedPlace [s] = [⟨s.index, eraseTree false s.tree⟩] := rfl
    have alone : siblingIndex ⟨s.index, eraseTree false s.tree⟩ [] = siblingIndex s [] := siblingIndex_erased false s []
    simp only [first, structuralPath, name_eraseTree, alone]
  | s :: parent :: up => by
    have inner : erasedPlace (parent :: up) = ⟨parent.index, eraseTree (erasure.context false up) parent.tree⟩ :: erasedPlace up := rfl
    have first : erasedPlace (s :: parent :: up) =
        ⟨s.index, eraseTree (erasure.context false (parent :: up)) s.tree⟩ :: erasedPlace (parent :: up) := rfl
    have children : (eraseTree (erasure.context false up) parent.tree).children =
        parent.tree.children.map (eraseTree (erasure.context false (parent :: up))) := erasure.children_tree _ parent.tree
    have length := length_erasedPlace (parent :: up)
    have above := structuralPath_erased depth (parent :: up)
    rw [first]
    rw [inner] at length above ⊢
    by_cases short : (parent :: up).length < depth
    · rw [structuralPath.eq_def depth (_ :: _ :: _), structuralPath.eq_def depth (s :: parent :: up)]
      dsimp only
      rw [length, if_pos short, if_pos short, name_eraseTree]
    · rw [structuralPath_child (by omega), structuralPath_child (by omega), above, children, siblingIndex_erased, name_eraseTree]

omit [CaseText] in
theorem nearestSectionId_erased (made : SectionIds) : ∀ p : Place Element, nearestSectionId made (erasedPlace p) = nearestSectionId made p
  | [] => rfl
  | s :: up => by
    have first : erasedPlace (s :: up) = ⟨s.index, eraseTree (erasure.context false up) s.tree⟩ :: erasedPlace up := rfl
    have keys := keys_erasedPlace (s :: up)
    rw [first] at keys ⊢
    rw [nearestSectionId, nearestSectionId, keys, nearestSectionId_erased made up]

/-! ### Texts -/

/-- A tag of small ASCII letters is its own name. -/
theorem name_of_tag {e : Element} {tag : String} (same : e.tag = PyText.ofString tag)
    (plain : localPart (PyText.ofString tag) = PyText.ofString tag)
    (lower : ((PyText.ofString tag).all fun p => p.val < 128 && !(65 ≤ p.val && p.val ≤ 90)) = true) :
    e.name = PyText.ofString tag := by
  have folded : e.name = (localPart e.tag).casefold := rfl
  rw [folded, same, plain, PyText.casefold_ascii lower]

theorem isSkip_name {e : Element} (skip : isSkip e = true) : oneOf skipTags e.name = true := by
  have cases : e.tag = PyText.ofString "script" ∨ e.tag = PyText.ofString "style" ∨ e.tag = PyText.ofString "noscript" := by
    simpa [isSkip, oneOf, skipTags] using skip
  rcases cases with same | same | same
  · rw [name_of_tag same (by decide) (by decide)]
    decide
  · rw [name_of_tag same (by decide) (by decide)]
    decide
  · rw [name_of_tag same (by decide) (by decide)]
    decide

theorem within_isInside {p : Place Element} (inside : within p = true) : isInside skipTags p = true := by
  rw [within, List.any_eq_true] at inside
  obtain ⟨s, above, skip⟩ := inside
  rw [isInside, nearestAncestor, Option.isSome_iff_ne_none]
  intro none
  exact absurd (nearestFrom_none.mp none s above) (by simp [isSkip_name skip])

mutual
/-- The text of an element does not tell the tree from the erased one, the element itself being outside. -/
theorem textParts_erased : ∀ t : RoseTree Element, textParts skipTags (eraseTree false t) = textParts skipTags t
  | .node e children => by
    have name : (erased false e).name = e.name := name_eraseTree false (.node e children)
    rw [eraseTree, textParts, textParts, name]
    by_cases skip : oneOf skipTags e.name = true
    · rw [if_pos skip, if_pos skip]
    · have plain : isSkip e = false := by
        rw [← Bool.not_eq_true]
        exact fun found => skip (isSkip_name found)
      have same : erased false e = e := by simp [erased, plain]
      rw [if_neg skip, if_neg skip, same, plain, Bool.or_false, textPartsOfAll_erased children]

theorem textPartsOfAll_erased : ∀ ts : List (RoseTree Element), textPartsOfAll skipTags (eraseAll false ts) = textPartsOfAll skipTags ts
  | [] => rfl
  | t :: ts => by
    have tail : (eraseTree false t).label.tail = t.label.tail := by
      rw [label_eraseTree]
      unfold erased
      split
      · contradiction
      · split <;> rfl
    rw [eraseAll, textPartsOfAll, textPartsOfAll, tail, textParts_erased t, textPartsOfAll_erased ts]
end

/-! ### Outside elements to skip -/

theorem elementText_erased [NormalText] {p : Place Element} (filled : p ≠ []) (outside : within p = false) :
    elementText skipTags (erasedPlace p).tree = elementText skipTags p.tree := by
  rw [tree_erasedPlace filled, outside, elementText, elementText, textParts_erased]

theorem safeText_erased [NormalText] (config : DocumentParserConfig) (field : String) (required : Bool) {p : Place Element}
    (filled : p ≠ []) (outside : within p = false) :
    safeText config field required (erasedPlace p).tree = safeText config field required p.tree := by
  rw [safeText, safeTextSkipping, elementText_erased filled outside]
  rfl

/-- The text of a child is the same when the parent stands outside, and there is none to tell apart otherwise. -/
theorem childText_erased [NormalText] (config : DocumentParserConfig) (field : String) (tags : List String) {p : Place Element}
    (filled : p ≠ []) (visible : isSkip p.label = false) (known : within p = true → childWith tags p = none) :
    safeOptional skipTags config field (childWith tags (erasedPlace p)) = safeOptional skipTags config field (childWith tags p) := by
  rw [childWith_erased tags filled]
  cases child : childWith tags p with
  | none => rfl
  | some t =>
    have outside : within p = false := by
      rw [← Bool.not_eq_true]
      intro inside
      rw [known inside] at child
      cases child
    rw [outside, visible, Bool.or_self, Option.map_some, safeOptional, safeOptional, safeTextSkipping, elementText, textParts_erased]
    rfl

omit [CaseText] in
theorem label_outside {p : Place Element} (filled : p ≠ []) (visible : isSkip p.label = false) (outside : within p = false) :
    (erasedPlace p).label = p.label := by
  rw [label_erasedPlace filled, outside]
  simp [erased, visible]

end

/-! ### Loops -/

theorem mapM_erased {make make' : Place Element → Except PyError β} : ∀ {places : List (Place Element)},
    (∀ p ∈ places, make' (erasedPlace p) = make p) → (places.map erasedPlace).mapM make' = places.mapM make
  | [], _ => rfl
  | p :: rest, same => by
    rw [List.map_cons, List.mapM_cons, List.mapM_cons, same p List.mem_cons_self,
      mapM_erased fun q member => same q (List.mem_cons_of_mem _ member)]

theorem gather_erased {limit : Nat} {fault : PyError} {make make' : Nat → Place Element → Except PyError (Option β)} :
    ∀ {places : List (Place Element)} {n : Nat} {made : List β}, (∀ p ∈ places, ∀ n, make' n (erasedPlace p) = make n p) →
      gather limit fault make' n made (places.map erasedPlace) = gather limit fault make n made places
  | [], n, made, _ => rfl
  | p :: rest, n, made, same => by
    have later (n : Nat) (made : List β) : gather limit fault make' n made (rest.map erasedPlace) = gather limit fault make n made rest :=
      gather_erased fun q member => same q (List.mem_cons_of_mem p member)
    rw [List.map_cons, gather, gather, same p List.mem_cons_self]
    simp only [later]

/-! ### Attributes -/

def hasAttr (e : Element) (key : String) : Bool := e.attrs.any fun a => a.1 = PyText.ofString key

@[simp] theorem hasAttr_erased (inside : Bool) (e : Element) (key : String) : hasAttr (erased inside e) key = hasAttr e key := by
  cases inside with
  | true => simp [hasAttr, erased, Function.comp_def]
  | false =>
    unfold erased
    split
    · contradiction
    · split <;> rfl

theorem getAttr_missing {e : Element} {key : String} (missing : hasAttr e key = false) (default : PyText) :
    getAttr e key default = default := by
  have none : e.attrs.lookup (PyText.ofString key) = none := by
    rw [List.lookup_eq_none_iff]
    intro a member
    have other := List.any_eq_false.mp missing a member
    rw [decide_eq_true_eq] at other
    exact bne_iff_ne.mpr fun same => other same.symm
  rw [getAttr, none]
  rfl

theorem getAttr_erased_true (e : Element) (key : String) : getAttr (erased true e) key [] = [] := by
  have general : ∀ attrs : List (PyText × PyText), ((attrs.map fun a => (a.1, ([] : PyText))).lookup (PyText.ofString key)).getD [] = [] := by
    intro attrs
    induction attrs with
    | nil => rfl
    | cons a rest ih =>
      rw [List.map_cons, List.lookup_cons]
      split
      · rfl
      · exact ih
  exact general e.attrs

theorem attrs_erased_false (e : Element) : (erased false e).attrs = e.attrs := by
  unfold erased
  split
  · contradiction
  · split <;> rfl

section
variable [CaseText]

theorem isHinted_blank {e : Element} (blank : ∀ key ∈ ["id", "class", "role"], getAttr e key [] = []) : isHinted e = false := by
  have texts : (["id", "class", "role"].map fun key => (getAttr e key []).casefold) = [[], [], []] := by
    simp only [List.map_cons, List.map_nil, blank "id" (by simp), blank "class" (by simp), blank "role" (by simp)]
    rfl
  have none : (PyText.joinSpaced [[], [], []]).words = [] := by decide
  rw [isHinted, hintWords, texts, none]
  rfl

theorem isHinted_erased_true (e : Element) : isHinted (erased true e) = false :=
  isHinted_blank fun key _ => getAttr_erased_true e key

theorem isHinted_erased_false (e : Element) : isHinted (erased false e) = isHinted e := by
  simp only [isHinted, hintWords, getAttr, attrs_erased_false]

theorem isHinted_missing {e : Element} (missing : ["id", "class", "role"].any (hasAttr e) = false) : isHinted e = false :=
  isHinted_blank fun key member => getAttr_missing (by simpa using List.any_eq_false.mp missing key member) []

/-- A place at or above one with a hint, or inside an element to skip with an attribute that can be one. -/
def mayBeHinted : Place Element → Bool
  | [] => false
  | s :: up => (if within (s :: up) then ["id", "class", "role"].any (hasAttr s.tree.label) else isHinted s.tree.label) || mayBeHinted up

/-- Without a hint that may be, neither tree has one. -/
theorem not_hinted : ∀ p : Place Element, mayBeHinted (erasedPlace p) = false →
    (p.any fun s => isHinted s.tree.label) = false ∧ ((erasedPlace p).any fun s => isHinted s.tree.label) = false
  | [], _ => ⟨rfl, rfl⟩
  | s :: up, quiet => by
    have first : erasedPlace (s :: up) = ⟨s.index, eraseTree (within (s :: up)) s.tree⟩ :: erasedPlace up := by
      have context := context_erasure up
      rw [erasedPlace, Reshape.place, context]
      rfl
    have inside := within_erasedPlace (s :: up)
    rw [first] at quiet inside ⊢
    rw [mayBeHinted, Bool.or_eq_false_iff, inside, label_eraseTree] at quiet
    obtain ⟨here, above⟩ := quiet
    obtain ⟨later, later'⟩ := not_hinted up above
    rw [List.any_cons, List.any_cons, later, later', label_eraseTree, Bool.or_false, Bool.or_false]
    cases flag : within (s :: up) with
    | true =>
      rw [flag, if_pos rfl] at here
      refine ⟨isHinted_missing ?_, isHinted_erased_true _⟩
      simpa using here
    | false =>
      rw [flag, if_neg (by simp)] at here
      exact ⟨(isHinted_erased_false _).symm.trans here, here⟩

/-- Outside elements to skip, both trees have the same hints. -/
theorem hinted_erased : ∀ p : Place Element, (p.any fun s => isSkip s.tree.label) = false →
    ((erasedPlace p).any fun s => isHinted s.tree.label) = p.any fun s => isHinted s.tree.label
  | [], _ => rfl
  | s :: up, outside => by
    rw [List.any_cons, Bool.or_eq_false_iff] at outside
    have first : erasedPlace (s :: up) = ⟨s.index, eraseTree false s.tree⟩ :: erasedPlace up := by
      have context := context_erasure up
      rw [outside.2] at context
      rw [erasedPlace, Reshape.place, context]
      rfl
    rw [first, List.any_cons, List.any_cons, hinted_erased up outside.2, label_eraseTree, isHinted_erased_false]

end

/-! ### What is read -/

section
variable [CaseText]

/-- A `meta` element with the attributes of an identifier. -/
def declares (e : Element) : Bool := oneOf ["meta"] e.tag && hasAttr e "content" && (hasAttr e "name" || hasAttr e "property")

/-- Nothing that the parser reads stands inside an element to skip: not the title, no identifier, no title of a
section, no cell, no caption or label, and no item of a list of references. -/
structure ReadsOutside (root : Place Element) : Prop where
  title : ∀ p, titleElement root = some p → within p = false
  identifiers : ∀ p ∈ elements root, within p = true → declares p.label = false
  sections : ∀ p ∈ (if sectionElements root = [] then headingElements root else sectionElements root), within p = true →
    childWith ("title" :: headingTags) p = none
  captions : ∀ p ∈ tableElements root, within p = true → childWith ["caption"] p = none
  cells : ∀ p ∈ tableElements root, ∀ cell ∈ ((tableRows p).map rowCells).flatten, within cell = false
  figures : ∀ p ∈ figureElements root, within p = true → hasAttr p.label "aria-label" = false ∧ childWith ["figcaption"] p = none
  references : ∀ p ∈ itemElements root, within p = true → isInside ["ol", "ul", "div", "section"] p = true →
    mayBeHinted p.tail = false

variable [NormalText] [PrintableText] [DecimalText] [WordText] [Sha256]
variable {config : DocumentParserConfig} {source : PyText} {root p : Place Element} {made : SectionIds}

omit [NormalText] [DecimalText] [WordText] [Sha256] in
theorem locate_erased : locate source (erasedPlace root) (erasedPlace p) = locate source root p := by
  rw [locate, locateAt, length_erasedPlace, structuralPath_erased]
  rfl

omit [CaseText] [PrintableText] [DecimalText] [WordText] [Sha256] in
theorem normalizeText_nil (field : String) (maximum : Nat) : normalizeText field maximum [] = .ok [] := by
  have none : (PyText.collapse (nfc (PyText.lineFeeds false []))).strip = [] := by
    rw [PyText.strip_collapse, ← normalWords_eq]
    rfl
  rw [normalizeText, none]
  rfl

omit [PrintableText] [DecimalText] [WordText] [Sha256] in
/-- An element without the attributes of an identifier declares none. -/
theorem identifierOf_none {e : Element} (missing : declares e = false) : identifierOf e = .ok none := by
  unfold declares at missing
  rw [Bool.and_eq_false_iff, Bool.and_eq_false_iff, Bool.or_eq_false_iff] at missing
  unfold identifierOf
  rcases missing with (other | blank) | ⟨name, property⟩
  · rw [other]
    rfl
  · rw [getAttr_missing blank, normalizeText_nil]
    split <;> rfl
  · rw [getAttr_missing name, getAttr_missing property]
    have plain : oneOf ["doi", "citation_doi", "identifier", "citation_pdf_url"] (PyText.casefold []) = false := by
      rw [PyText.casefold_ascii rfl]
      decide
    rw [plain, Bool.and_false]
    rfl

omit [PrintableText] [DecimalText] [WordText] [Sha256] in
theorem identifierOf_erased (filled : p ≠ []) (visible : isSkip p.label = false)
    (known : within p = true → declares (erasedPlace p).label = false) :
    identifierOf (erasedPlace p).label = identifierOf p.label := by
  cases flag : within p with
  | false => rw [label_outside filled visible flag]
  | true =>
    have missing := known flag
    rw [identifierOf_none missing]
    rw [label_erasedPlace filled, declares, erased_tag, hasAttr_erased, hasAttr_erased, hasAttr_erased] at missing
    exact (identifierOf_none missing).symm

omit [DecimalText] [WordText] in
theorem sectionOf_erased {explicit : Bool} (filled : p ≠ []) (visible : isSkip p.label = false)
    (known : within p = true → childWith ("title" :: headingTags) p = none) :
    sectionOf config source (erasedPlace root) explicit made (erasedPlace p) = sectionOf config source root explicit made p := by
  have parent : explicitParent made (erasedPlace p) = explicitParent made p := by
    rw [explicitParent, nearestAncestor_erased, explicitParent]
    cases nearestAncestor sectionTags p with
    | none => rfl
    | some up =>
      rw [Option.map_some]
      dsimp only
      rw [keys_erasedPlace]
  have level : headingLevel (erasedPlace p).label = headingLevel p.label := by
    unfold headingLevel
    rw [tag_erasedPlace]
  have above : headingParent made (erasedPlace p) = headingParent made p := by
    rw [headingParent, level]
    rfl
  rw [sectionOf, sectionOf, locate_erased, parent, above, childText_erased config _ _ filled visible known]

omit [DecimalText] [WordText] in
theorem sectionsFrom_erased {explicit : Bool} : ∀ {places : List (Place Element)} {made : SectionIds},
    (∀ p ∈ places, p ≠ [] ∧ isSkip p.label = false ∧ (within p = true → childWith ("title" :: headingTags) p = none)) →
      sectionsFrom config source (erasedPlace root) explicit made (places.map erasedPlace) =
        sectionsFrom config source root explicit made places
  | [], made, _ => rfl
  | p :: rest, made, each => by
    obtain ⟨filled, visible, known⟩ := each p List.mem_cons_self
    have later (made : SectionIds) : sectionsFrom config source (erasedPlace root) explicit made (rest.map erasedPlace) =
        sectionsFrom config source root explicit made rest :=
      sectionsFrom_erased fun q member => each q (List.mem_cons_of_mem p member)
    rw [List.map_cons, sectionsFrom, sectionsFrom, sectionOf_erased filled visible known, keys_erasedPlace]
    simp only [later]

omit [WordText] [Sha256] in
theorem placeCell_erased {row column : Nat} {grid : CellGrid} (filled : p ≠ []) (visible : isSkip p.label = false)
    (outside : within p = false) :
    placeCell config (cellRules config source (erasedPlace root)) row column grid (erasedPlace p) =
      placeCell config (cellRules config source root) row column grid p := by
  have label := label_outside filled visible outside
  have text := safeText_erased config "table cell" false filled outside
  simp only [placeCell, cellRules, label, text, locate_erased]

omit [WordText] [Sha256] in
theorem placeRow_erased {row : Nat} : ∀ {cells : List (Place Element)} {column : Nat} {grid : CellGrid},
    (∀ p ∈ cells, p ≠ [] ∧ isSkip p.label = false ∧ within p = false) →
      placeRow config (cellRules config source (erasedPlace root)) row column grid (cells.map erasedPlace) =
        placeRow config (cellRules config source root) row column grid cells
  | [], column, grid, _ => rfl
  | p :: rest, column, grid, each => by
    obtain ⟨filled, visible, outside⟩ := each p List.mem_cons_self
    have later (column : Nat) (grid : CellGrid) :
        placeRow config (cellRules config source (erasedPlace root)) row column grid (rest.map erasedPlace) =
          placeRow config (cellRules config source root) row column grid rest :=
      placeRow_erased fun q member => each q (List.mem_cons_of_mem p member)
    rw [List.map_cons, placeRow, placeRow, placeCell_erased filled visible outside]
    simp only [later]

omit [WordText] [Sha256] in
theorem placeRows_erased : ∀ {rows : List (List (Place Element))} {row : Nat} {grid : CellGrid},
    (∀ p ∈ rows.flatten, p ≠ [] ∧ isSkip p.label = false ∧ within p = false) →
      placeRows config (cellRules config source (erasedPlace root)) row grid (rows.map (List.map erasedPlace)) =
        placeRows config (cellRules config source root) row grid rows
  | [], row, grid, _ => rfl
  | cells :: rest, row, grid, each => by
    rw [List.flatten_cons] at each
    have later (row : Nat) (grid : CellGrid) :
        placeRows config (cellRules config source (erasedPlace root)) row grid (rest.map (List.map erasedPlace)) =
          placeRows config (cellRules config source root) row grid rest :=
      placeRows_erased fun q member => each q (List.mem_append_right _ member)
    rw [List.map_cons, placeRows, placeRows, placeRow_erased fun q member => each q (List.mem_append_left _ member)]
    simp only [later]

omit [WordText] in
theorem tableOf_erased {n : Nat} (filled : p ≠ []) (visible : isSkip p.label = false)
    (caption : within p = true → childWith ["caption"] p = none)
    (cells : ∀ cell ∈ ((tableRows p).map rowCells).flatten, cell ≠ [] ∧ isSkip cell.label = false ∧ within cell = false) :
    tableOf config source (erasedPlace root) made n (erasedPlace p) = tableOf config source root made n p := by
  have rows : (tableRows (erasedPlace p)).map rowCells = ((tableRows p).map rowCells).map (List.map erasedPlace) := by
    rw [tableRows_erased, List.map_map, List.map_map]
    exact List.map_congr_left fun row _ => rowCells_erased row
  rw [tableOf, tableOf, locate_erased, childText_erased config _ _ filled visible caption, rows, placeRows_erased cells,
    nearestSectionId_erased]

omit [DecimalText] [WordText] in
theorem figureOf_erased {n : Nat} (filled : p ≠ []) (visible : isSkip p.label = false)
    (known : within p = true → hasAttr p.label "aria-label" = false ∧ childWith ["figcaption"] p = none) :
    figureOf config source (erasedPlace root) n (erasedPlace p) = figureOf config source root n p := by
  have label : getAttr (erasedPlace p).label "aria-label" [] = getAttr p.label "aria-label" [] := by
    cases flag : within p with
    | false => rw [label_outside filled visible flag]
    | true => rw [label_erasedPlace filled, flag, getAttr_erased_true, getAttr_missing (known flag).1]
  rw [figureOf, figureOf, locate_erased, childText_erased config _ _ filled visible fun inside => (known inside).2, label]

theorem referenceOf_erased {n : Nat} (filled : p ≠ [])
    (known : within p = true → isInside ["ol", "ul", "div", "section"] p = true → mayBeHinted (erasedPlace p).tail = false) :
    referenceOf config source (erasedPlace root) n (erasedPlace p) = referenceOf config source root n p := by
  rw [referenceOf, referenceOf, isInside_erased, tail_erasedPlace]
  cases listed : isInside ["ol", "ul", "div", "section"] p with
  | false => rfl
  | true =>
    cases flag : within p with
    | false => rw [hinted_erased _ flag, safeText_erased config _ true filled flag, locate_erased]
    | true =>
      have quiet := known flag listed
      rw [tail_erasedPlace] at quiet
      obtain ⟨here, there⟩ := not_hinted _ quiet
      rw [here, there]
      rfl

omit [NormalText] [PrintableText] [DecimalText] [WordText] [Sha256] in
theorem blockKind_erased {title : Option (Place Element)} : blockKind (title.map erasedPlace) (erasedPlace p) = blockKind title p := by
  have same : ((title.map erasedPlace).any fun t => t.keys = (erasedPlace p).keys) = title.any fun t => t.keys = p.keys := by
    cases title with
    | none => rfl
    | some t => rw [Option.map_some, Option.any_some, Option.any_some, keys_erasedPlace, keys_erasedPlace]
  rw [blockKind, blockKind, same]
  simp only [isInside_erased, tag_erasedPlace]

omit [DecimalText] [WordText] in
theorem blockOf_erased {title : Option (Place Element)} {n : Nat} (filled : p ≠ []) :
    blockOf config source (erasedPlace root) made (title.map erasedPlace) n (erasedPlace p) = blockOf config source root made title n p := by
  rw [blockOf, blockOf, blockKind_erased]
  cases kinded : blockKind title p with
  | none => rfl
  | some kind =>
    have outside : within p = false := by
      rw [← Bool.not_eq_true]
      intro inside
      rw [blockKind, if_pos (within_isInside inside)] at kinded
      cases kinded
    dsimp only
    rw [safeText_erased config _ false filled outside, locate_erased, nearestSectionId_erased]

/-! ### The document of the erased tree -/

omit [CaseText] [NormalText] [PrintableText] [DecimalText] [WordText] [Sha256] in
theorem listed_facts (filled : root ≠ []) (member : p ∈ elements root) : p ≠ [] ∧ isSkip p.label = false := by
  refine ⟨(under_elements filled member).ne_nil filled, ?_⟩
  have visible := (List.mem_filter.mp member).2
  simpa [isSkip] using visible

omit [CaseText] [NormalText] [PrintableText] [DecimalText] [WordText] [Sha256] in
theorem title_listed (found : titleElement root = some p) : p ∈ elements root := by
  rw [titleElement] at found
  cases titled : (elements root).find? fun p => oneOf ["title"] p.label.tag with
  | none =>
    rw [titled] at found
    exact List.mem_of_find?_eq_some found
  | some q =>
    rw [titled] at found
    cases found
    exact List.mem_of_find?_eq_some titled

omit [DecimalText] [WordText] in
theorem makeSections_erased (filled : root ≠ []) (outside : ReadsOutside (erasedPlace root)) :
    makeSections config source (erasedPlace root) = makeSections config source root := by
  have sections : sectionElements (erasedPlace root) = (sectionElements root).map erasedPlace := tagged_erased sectionTags root
  have headings : headingElements (erasedPlace root) = (headingElements root).map erasedPlace := tagged_erased headingTags root
  have known := outside.sections
  rw [sections, headings] at known
  have fact {p : Place Element} (member : p ∈ elements root)
      (among : within (erasedPlace p) = true → childWith ("title" :: headingTags) (erasedPlace p) = none) :
      p ≠ [] ∧ isSkip p.label = false ∧ (within p = true → childWith ("title" :: headingTags) p = none) := by
    obtain ⟨full, visible⟩ := listed_facts filled member
    refine ⟨full, visible, fun inside => ?_⟩
    rw [within_erasedPlace] at among
    simpa [childWith_erased _ full] using among inside
  rw [makeSections, makeSections, sections, headings]
  by_cases bare : sectionElements root = []
  · have bare' := (List.map_eq_nil_iff (f := erasedPlace)).mpr bare
    rw [if_pos bare'] at known
    rw [if_pos bare', if_pos bare]
    exact sectionsFrom_erased fun p member => fact (List.mem_of_mem_filter member) (known _ (List.mem_map_of_mem member))
  · have bare' := mt (List.map_eq_nil_iff (f := erasedPlace)).mp bare
    rw [if_neg bare'] at known
    rw [if_neg bare', if_neg bare]
    exact sectionsFrom_erased fun p member => fact (List.mem_of_mem_filter member) (known _ (List.mem_map_of_mem member))

omit [WordText] in
theorem makeTables_erased (filled : root ≠ []) (outside : ReadsOutside (erasedPlace root)) :
    makeTables config source (erasedPlace root) made = makeTables config source root made := by
  have tables : tableElements (erasedPlace root) = (tableElements root).map erasedPlace := tagged_erased ["table"] root
  rw [makeTables, makeTables, tables]
  refine gather_erased fun p member n => congrArg _ ?_
  have listed := List.mem_of_mem_filter member
  obtain ⟨full, visible⟩ := listed_facts filled listed
  have among : erasedPlace p ∈ tableElements (erasedPlace root) := by
    rw [tables]
    exact List.mem_map_of_mem member
  refine tableOf_erased full visible (fun inside => ?_) fun cell inTable => ?_
  · have none := outside.captions _ among (by rwa [within_erasedPlace])
    simpa [childWith_erased _ full] using none
  · obtain ⟨row, inRows, inRow⟩ := List.mem_flatten.mp inTable
    obtain ⟨r, rowed, rfl⟩ := List.mem_map.mp inRows
    have below := under_cells full inTable
    refine ⟨below.ne_nil full, ?_, ?_⟩
    · have tag := (List.mem_filter.mp inRow).2
      simp only [Bool.and_eq_true] at tag
      have cells : cell.label.tag = PyText.ofString "th" ∨ cell.label.tag = PyText.ofString "td" := by
        simpa [oneOf] using tag.1.2
      rw [isSkip]
      rcases cells with same | same
      · rw [same]
        decide
      · rw [same]
        decide
    · have same := outside.cells _ among (erasedPlace cell) (by
        rw [tableRows_erased, List.map_map]
        refine List.mem_flatten.mpr ⟨rowCells (erasedPlace r), List.mem_map.mpr ⟨r, rowed, rfl⟩, ?_⟩
        rw [rowCells_erased]
        exact List.mem_map_of_mem inRow)
      rwa [within_erasedPlace] at same

omit [DecimalText] [WordText] in
theorem makeFigures_erased (filled : root ≠ []) (outside : ReadsOutside (erasedPlace root)) :
    makeFigures config source (erasedPlace root) = makeFigures config source root := by
  have figures : figureElements (erasedPlace root) = (figureElements root).map erasedPlace := tagged_erased ["figure"] root
  rw [makeFigures, makeFigures, figures]
  refine gather_erased fun p member n => congrArg _ ?_
  obtain ⟨full, visible⟩ := listed_facts filled (List.mem_of_mem_filter member)
  refine figureOf_erased full visible fun inside => ?_
  have known := outside.figures (erasedPlace p) (by rw [figures]; exact List.mem_map_of_mem member) (by rwa [within_erasedPlace])
  rw [label_erasedPlace full, hasAttr_erased] at known
  exact ⟨known.1, by simpa [childWith_erased _ full] using known.2⟩

theorem makeReferences_erased (filled : root ≠ []) (outside : ReadsOutside (erasedPlace root)) :
    makeReferences config source (erasedPlace root) = makeReferences config source root := by
  have items : itemElements (erasedPlace root) = (itemElements root).map erasedPlace := tagged_erased ["li"] root
  rw [makeReferences, makeReferences, items]
  refine gather_erased fun p member n => ?_
  obtain ⟨full, -⟩ := listed_facts filled (List.mem_of_mem_filter member)
  refine referenceOf_erased full fun inside listed => ?_
  exact outside.references (erasedPlace p) (by rw [items]; exact List.mem_map_of_mem member) (by rwa [within_erasedPlace])
    (by rwa [isInside_erased])

/-- The parser makes the same of a tree and of the erased one, if nothing that it reads is erased. -/
theorem extract_erased (filled : root ≠ []) (outside : ReadsOutside (erasedPlace root)) :
    extract config source (erasedPlace root) = extract config source root := by
  have title : safeOptional skipTags config "document title" ((titleElement (erasedPlace root)).map Place.tree) =
      safeOptional skipTags config "document title" ((titleElement root).map Place.tree) := by
    rw [titleElement_erased]
    cases found : titleElement root with
    | none => rfl
    | some p =>
      have full := (listed_facts filled (title_listed found)).1
      have seen := outside.title (erasedPlace p) (by rw [titleElement_erased, found]; rfl)
      rw [within_erasedPlace] at seen
      exact congrArg (some <$> ·) (safeText_erased config "document title" false full seen)
  have identifiers : (elements (erasedPlace root)).mapM (fun p => identifierOf p.label) =
      (elements root).mapM fun p => identifierOf p.label := by
    rw [elements_erased]
    refine mapM_erased fun p member => ?_
    obtain ⟨full, visible⟩ := listed_facts filled member
    exact identifierOf_erased full visible fun inside => outside.identifiers (erasedPlace p)
      (by rw [elements_erased]; exact List.mem_map_of_mem member) (by rwa [within_erasedPlace])
  have blocks (made : SectionIds) : makeBlocks config source (erasedPlace root) made (titleElement (erasedPlace root)) =
      makeBlocks config source root made (titleElement root) := by
    rw [makeBlocks, makeBlocks, elements_erased, titleElement_erased]
    exact gather_erased fun p member n => blockOf_erased (listed_facts filled member).1
  rw [extract, extract]
  simp only [title, identifiers, makeSections_erased filled outside, makeTables_erased filled outside,
    makeFigures_erased filled outside, makeReferences_erased filled outside, blocks]

end

theorem extractionRoot_erased (tree : RoseTree Element) : extractionRoot (eraseTree false tree) = erasedPlace (extractionRoot tree) := by
  have children : (eraseTree false tree).children = tree.children.map (eraseTree (isSkip tree.label)) :=
    erasure.children_tree false tree
  have chosen : ((eraseTree false tree).children.zipIdx.filter fun c => !oneOf skipTags c.1.label.tag) =
      (tree.children.zipIdx.filter fun c => !oneOf skipTags c.1.label.tag).map (Prod.map (eraseTree (isSkip tree.label)) id) := by
    rw [children, List.zipIdx_map, List.filter_map]
    refine congrArg _ (List.filter_congr fun c _ => ?_)
    simp
  rw [extractionRoot, extractionRoot, chosen]
  generalize (tree.children.zipIdx.filter fun c => !oneOf skipTags c.1.label.tag) = found
  rcases found with _ | ⟨⟨t, i⟩, _ | ⟨c, rest⟩⟩
  · rfl
  · rfl
  · rfl

/-! ### Sources that differ inside elements to skip -/

section
variable [CaseText] [NormalText] [PrintableText] [DecimalText] [WordText] [Sha256] [HtmlLibrary]

/-- The tree of a source, before the parser takes its root. -/
def SourceTree (config : DocumentParserConfig) (bytes : Bytes) (tree : RoseTree Element) : Prop :=
  ∃ text, decodeUtf8 bytes = some text ∧ treeOf config (text.map CodePoint.ofChar) = .ok tree

/-- The sources differ at most in the character data and the attribute values inside elements to skip. -/
def AgreeOutside (config : DocumentParserConfig) (bytes bytes' : Bytes) : Prop :=
  ∃ tree tree', SourceTree config bytes tree ∧ SourceTree config bytes' tree' ∧ eraseTree false tree = eraseTree false tree'

/-- Every accepted source that agrees with this one becomes the same document. -/
def IgnoresNonContent (config : DocumentParserConfig) (source mediaType : PyText) (bytes : Bytes) (document : CanonicalDocument) : Prop :=
  ∀ bytes' document', AgreeOutside config bytes bytes' → parse config source mediaType bytes' = .ok document' → document' = document

variable {config : DocumentParserConfig} {source mediaType : PyText} {bytes : Bytes} {document : CanonicalDocument} {tree : RoseTree Element}

omit [NormalText] [PrintableText] [DecimalText] [WordText] [Sha256] in
theorem SourceTree.unique {tree' : RoseTree Element} (one : SourceTree config bytes tree) (other : SourceTree config bytes tree') :
    tree = tree' := by
  obtain ⟨text, decoded, built⟩ := one
  obtain ⟨text', decoded', built'⟩ := other
  cases decoded.symm.trans decoded'
  exact Except.ok.inj (built.symm.trans built')

/-- The document of an accepted source is that of its tree. -/
theorem documentOf_tree (parsed : parse config source mediaType bytes = .ok document) (built : SourceTree config bytes tree) :
    documentOf config source mediaType (extractionRoot tree) = .ok document := by
  obtain ⟨root, read, made⟩ := bind_ok.mp parsed
  obtain ⟨text, tree', decoded, built', rooted⟩ := treeDetails_ok read
  cases built.unique ⟨text, decoded, built'⟩
  rwa [← rootOf_ok rooted]

omit [HtmlLibrary] in
theorem documentOf_erased {root : Place Element} (filled : root ≠ []) (outside : ReadsOutside (erasedPlace root)) :
    documentOf config source mediaType (erasedPlace root) = documentOf config source mediaType root := by
  rw [documentOf, documentOf, extract_erased filled outside]

end

end HtmlParser

section
variable [CaseText] [NormalText] [PrintableText] [DecimalText] [WordText] [Sha256] [HtmlLibrary]

/-- What stands inside script, style and noscript elements has no part in the document, if nothing that the
parser reads stands there. -/
theorem noncontent_ignored {config : DocumentParserConfig} {source mediaType : PyText} {bytes : Bytes} {tree : RoseTree Element}
    {document : CanonicalDocument} (built : HtmlParser.SourceTree config bytes tree)
    (parsed : HtmlParser.parse config source mediaType bytes = .ok document)
    (outside : HtmlParser.ReadsOutside (HtmlParser.extractionRoot (HtmlParser.eraseTree false tree))) :
    HtmlParser.IgnoresNonContent config source mediaType bytes document := by
  intro bytes' document' agree parsed'
  obtain ⟨one, other, built₁, built', same⟩ := agree
  cases built.unique built₁
  have first := HtmlParser.documentOf_tree parsed built
  have second := HtmlParser.documentOf_tree parsed' built'
  have outside' := outside
  rw [HtmlParser.extractionRoot_erased] at outside
  rw [same, HtmlParser.extractionRoot_erased] at outside'
  rw [← HtmlParser.documentOf_erased (HtmlParser.extractionRoot_ne_nil _) outside, ← HtmlParser.extractionRoot_erased] at first
  rw [← HtmlParser.documentOf_erased (HtmlParser.extractionRoot_ne_nil _) outside', ← HtmlParser.extractionRoot_erased, ← same] at second
  exact Except.ok.inj (second.symm.trans first)

end
/-! ### A paragraph and a heading for readers without scripts -/

namespace Sample
attribute [local instance] standardSha256 asciiPrintable asciiDecimal asciiCase asciiNormal asciiWords

/-- An element inside a noscript element, with this text. -/
def hiddenSource (tag text : String) : String :=
  "<div><noscript><" ++ tag ++ ">" ++ text ++ "</" ++ tag ++ "></noscript></div>"

def hiddenEvents (tag text : String) : List HtmlEvent :=
  [opened "div", opened "noscript", opened tag, written text, ended tag, ended "noscript", ended "div"]

/-- A library that reports the calls of these sources. -/
@[reducible] def hiddenLibrary : HtmlLibrary where
  events source :=
    (([("p", "a"), ("h1", "a"), ("h1", "b")].find? fun s => PyText.ofString (hiddenSource s.1 s.2) = source).map fun s =>
      hiddenEvents s.1 s.2).getD []
  raises _ := false

attribute [local instance] hiddenLibrary

def hiddenTree (tag text : String) : RoseTree Element :=
  htmlNode "document" "" [htmlNode "div" "" [htmlNode "noscript" "" [htmlNode tag text []]]]

def hiddenDocument (tag text : String) : Except PyError CanonicalDocument :=
  HtmlParser.parse parserConfig sourceId (PyText.ofString "text/html") (asciiBytes (hiddenSource tag text))

theorem hidden_built {tag text : String} (among : (tag, text) ∈ [("p", "a"), ("h1", "a"), ("h1", "b")]) :
    HtmlParser.SourceTree parserConfig (asciiBytes (hiddenSource tag text)) (hiddenTree tag text) := by
  simp only [List.mem_cons, List.not_mem_nil, or_false, Prod.mk.injEq] at among
  rcases among with ⟨rfl, rfl⟩ | ⟨rfl, rfl⟩ | ⟨rfl, rfl⟩
  · exact ⟨(hiddenSource "p" "a").toList, by decide +kernel, rfl⟩
  · exact ⟨(hiddenSource "h1" "a").toList, by decide +kernel, rfl⟩
  · exact ⟨(hiddenSource "h1" "b").toList, by decide +kernel, rfl⟩

theorem hidden_outside : HtmlParser.ReadsOutside (HtmlParser.extractionRoot (HtmlParser.eraseTree false (hiddenTree "p" "a"))) where
  title p found := by
    have none : HtmlParser.titleElement (HtmlParser.extractionRoot (HtmlParser.eraseTree false (hiddenTree "p" "a"))) = none := rfl
    rw [none] at found
    cases found
  identifiers := by decide
  sections p member := by cases member
  captions p member := by cases member
  cells p member := by cases member
  figures p member := by cases member
  references p member := by cases member

theorem noncontent_ignored_hidden : ∃ document, hiddenDocument "p" "a" = .ok document ∧
    HtmlParser.IgnoresNonContent parserConfig sourceId (PyText.ofString "text/html") (asciiBytes (hiddenSource "p" "a")) document := by
  obtain ⟨document, returned⟩ : ∃ document, hiddenDocument "p" "a" = .ok document := ok_of_some (by decide +kernel)
  exact ⟨document, returned, noncontent_ignored (hidden_built (by simp)) returned hidden_outside⟩

/-- The heading inside the noscript element becomes the title of the document. -/
theorem noncontent_titles : ∃ document document', hiddenDocument "h1" "a" = .ok document ∧ hiddenDocument "h1" "b" = .ok document' ∧
    document.title = some (PyText.ofString "a") ∧ document'.title = some (PyText.ofString "b") ∧
      ¬HtmlParser.IgnoresNonContent parserConfig sourceId (PyText.ofString "text/html") (asciiBytes (hiddenSource "h1" "a")) document := by
  obtain ⟨document, returned, title⟩ : ∃ document, hiddenDocument "h1" "a" = .ok document ∧
      decide (document.title = some (PyText.ofString "a")) = true := ok_of_any (by decide +kernel)
  obtain ⟨document', returned', title'⟩ : ∃ document, hiddenDocument "h1" "b" = .ok document ∧
      decide (document.title = some (PyText.ofString "b")) = true := ok_of_any (by decide +kernel)
  refine ⟨document, document', returned, returned', of_decide_eq_true title, of_decide_eq_true title', fun ignores => ?_⟩
  have agree : HtmlParser.AgreeOutside parserConfig (asciiBytes (hiddenSource "h1" "a")) (asciiBytes (hiddenSource "h1" "b")) :=
    ⟨_, _, hidden_built (by simp), hidden_built (by simp), rfl⟩
  rw [ignores _ document' agree returned', of_decide_eq_true title] at title'
  exact absurd (of_decide_eq_true title') (by decide)

end Sample
end Molly
