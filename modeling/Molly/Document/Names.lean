import Molly.Document.Html
import Molly.Document.Paths
import Molly.Document.Xml

/-! The names of the elements of a tree are those the library handed over. -/
namespace Molly
open Effect (RoseTree Step Place)

section
variable [CaseText]

/-! ### The trees built of events -/

namespace HtmlParser

/-- The tag of an event that opens an element. -/
def HtmlEvent.tag? : HtmlEvent → Option PyText
  | .start tag _ | .startEnd tag _ => some tag
  | .close _ | .data _ => none

/-- What holds of the tag of every label of an open element. -/
def OpenNode.Tagged (P : PyText → Prop) (n : OpenNode) : Prop := n.toTree.Every fun e => P e.tag

omit [CaseText] in
theorem OpenNode.Tagged.add {P : PyText → Prop} {n : OpenNode} {child : RoseTree Element} (tagged : n.Tagged P)
    (below : child.Every fun e => P e.tag) : (n.add child).Tagged P := by
  obtain ⟨label, children⟩ := RoseTree.every_iff.mp tagged
  refine RoseTree.every_iff.mpr ⟨label, fun t member => ?_⟩
  rcases List.mem_append.mp member with before | last
  · exact children t before
  · rw [List.mem_singleton.mp last]
    exact below

omit [CaseText] in
theorem OpenNode.Tagged.addText {P : PyText → Prop} {n : OpenNode} (tagged : n.Tagged P) (text : PyText) : (n.addText text).Tagged P := by
  obtain ⟨label, children⟩ := RoseTree.every_iff.mp tagged
  exact RoseTree.every_iff.mpr ⟨label, children⟩

theorem nodeOf_tagged {P : PyText → Prop} {tag : PyText} (named : P tag.casefold) (attrs : List (PyText × Option PyText)) :
    (RoseTree.node (nodeOf tag attrs) []).Every fun e => P e.tag := RoseTree.every_iff.mpr ⟨named, nofun⟩

namespace TreeParser

/-- What holds of the tag of every element met so far. -/
def Tagged (P : PyText → Prop) (p : TreeParser) : Prop := p.innermost.Tagged P ∧ ∀ n ∈ p.outer, n.Tagged P

omit [CaseText] in
theorem closing_tagged {P : PyText → Prop} : ∀ (n : Nat) {inner : OpenNode} {outer : List OpenNode}, inner.Tagged P →
    (∀ o ∈ outer, o.Tagged P) → (closing n inner outer).1.Tagged P ∧ ∀ o ∈ (closing n inner outer).2, o.Tagged P
  | 0, _, _, within, around => by
    rw [closing]
    · exact ⟨within, around⟩
    · nofun
  | n + 1, _, [], within, around => by
    rw [closing]
    · exact ⟨within, around⟩
    · nofun
  | n + 1, inner, next :: rest, within, around => by
    rw [closing]
    exact closing_tagged n ((around next List.mem_cons_self).add within) fun o member => around o (List.mem_cons_of_mem _ member)

/-- The step: one event more. -/
theorem Tagged.step {P : PyText → Prop} {config : DocumentParserConfig} {p q : TreeParser} {event : HtmlEvent}
    (tagged : p.Tagged P) (named : ∀ tag ∈ HtmlEvent.tag? event, P tag.casefold) (stepped : p.step config event = .ok q) :
    q.Tagged P := by
  obtain ⟨within, around⟩ := tagged
  cases event with
  | start tag attrs =>
    have node := nodeOf_tagged (named tag rfl) attrs
    obtain ⟨_, -, stepped⟩ := bind_ok.mp stepped
    split at stepped
    · cases stepped
      exact ⟨within.add node, around⟩
    · obtain ⟨_, -, stepped⟩ := bind_ok.mp stepped
      cases stepped
      refine ⟨node, fun n member => ?_⟩
      rcases List.mem_cons.mp member with rfl | outer
      · exact within
      · exact around n outer
  | startEnd tag attrs =>
    obtain ⟨_, -, stepped⟩ := bind_ok.mp stepped
    cases stepped
    exact ⟨within.add (nodeOf_tagged (named tag rfl) attrs), around⟩
  | close tag =>
    cases stepped
    exact closing_tagged _ within around
  | data text =>
    cases stepped
    exact ⟨within.addText text, around⟩

/-- The run. -/
theorem Tagged.feed {P : PyText → Prop} {config : DocumentParserConfig} : ∀ {events : List HtmlEvent} {p q : TreeParser},
    p.Tagged P → (∀ e ∈ events, ∀ tag ∈ HtmlEvent.tag? e, P tag.casefold) → feed config p events = .ok q → q.Tagged P := by
  intro events
  induction events with
  | nil =>
    intro p q tagged named fed
    cases fed
    exact tagged
  | cons event rest ih =>
    intro p q tagged named fed
    rw [TreeParser.feed, List.foldlM_cons] at fed
    obtain ⟨between, stepped, fed⟩ := bind_ok.mp fed
    exact ih (tagged.step (named event List.mem_cons_self) stepped)
      (fun e member => named e (List.mem_cons_of_mem _ member)) fed

end TreeParser

/-- What holds of the document's tag and of every folded tag of the events holds in the tree. -/
theorem treeOf_every [HtmlLibrary] {P : PyText → Prop} {config : DocumentParserConfig} {text : PyText} {tree : RoseTree Element}
    (made : treeOf config text = .ok tree) (base : P (PyText.ofString "document"))
    (named : ∀ e ∈ HtmlLibrary.events text, ∀ tag ∈ HtmlEvent.tag? e, P tag.casefold) : tree.Every fun e => P e.tag := by
  obtain ⟨parser, fed, made⟩ := bind_ok.mp made
  obtain ⟨_, -, made⟩ := bind_ok.mp made
  cases made
  have initial : TreeParser.initial.Tagged P := ⟨RoseTree.every_iff.mpr ⟨base, nofun⟩, nofun⟩
  obtain ⟨within, around⟩ := initial.feed named fed
  exact (TreeParser.closing_tagged _ within around).1

/-- The root of an accepted source lies in the tree of its text. -/
theorem treeDetails_ok [NormalText] [HtmlLibrary] {config : DocumentParserConfig} {source : Bytes} {root : Place Element}
    (read : treeDetails config source = .ok root) : ∃ text tree, decodeUtf8 source = some text ∧
      treeOf config (text.map CodePoint.ofChar) = .ok tree ∧ rootOf config tree = .ok root := by
  unfold treeDetails at read
  obtain ⟨_, -, read⟩ := bind_ok.mp read
  split at read
  · cases read
  · rename_i text decoded
    obtain ⟨tree, made, read⟩ := bind_ok.mp read
    exact ⟨text, tree, decoded, made, read⟩

omit [CaseText] in
theorem rootOf_ok [NormalText] {config : DocumentParserConfig} {tree : RoseTree Element} {root : Place Element}
    (rooted : rootOf config tree = .ok root) : root = extractionRoot tree := by
  obtain ⟨_, -, rooted⟩ := bind_ok.mp rooted
  obtain ⟨_, -, rooted⟩ := bind_ok.mp rooted
  obtain ⟨_, -, rooted⟩ := bind_ok.mp rooted
  obtain ⟨_, -, rooted⟩ := bind_ok.mp rooted
  cases rooted
  rfl

omit [CaseText] in
/-- The extraction root is the document or a child of it. -/
theorem extractionRoot_under (document : RoseTree Element) : Place.Under [⟨0, document⟩] (extractionRoot document) := by
  unfold extractionRoot
  split
  · rename_i t i only
    have member : (t, i) ∈ document.children.zipIdx.filter fun c => !oneOf skipTags c.1.label.tag := by
      rw [only]
      exact List.mem_singleton.mpr rfl
    exact .down .here (List.mem_zipIdx_iff_getElem?.mp (List.mem_of_mem_filter member))
  · exact .here

omit [CaseText] in
theorem extractionRoot_ne_nil (document : RoseTree Element) : extractionRoot document ≠ [] :=
  (extractionRoot_under document).ne_nil (by simp)

end HtmlParser

/-! ### Slashes -/

/-- Nothing but a slash folds to a slash. -/
def FoldsSlash : Prop := ∀ p : CodePoint, (47 : CodePoint) ∈ CaseText.fold p → p = 47

theorem casefold_plain (folds : FoldsSlash) {text : PyText} (plain : (47 : CodePoint) ∉ text) : (47 : CodePoint) ∉ text.casefold := by
  intro member
  obtain ⟨p, inText, folded⟩ := List.mem_flatMap.mp member
  exact plain (folds p folded ▸ inText)

/-- The part of a tag behind its last brace. -/
def localPart (tag : PyText) : PyText := (tag.reverse.takeWhile (· ≠ 125)).reverse

omit [CaseText] in
theorem localPart_sublist (tag : PyText) : (localPart tag).Sublist tag := by
  have inner := (List.takeWhile_sublist (· ≠ (125 : CodePoint)) (l := tag.reverse)).reverse
  rwa [List.reverse_reverse] at inner

theorem localName_plain (folds : FoldsSlash) {tag : PyText} (plain : (47 : CodePoint) ∉ localPart tag) :
    (47 : CodePoint) ∉ localName tag := casefold_plain folds plain

/-- No tag the library reports holds a slash. -/
def HtmlLibrary.PlainTags [HtmlLibrary] (text : PyText) : Prop :=
  ∀ e ∈ HtmlLibrary.events text, ∀ tag ∈ HtmlParser.HtmlEvent.tag? e, (47 : CodePoint) ∉ tag

/-- No local name of the library's tree holds a slash. -/
def XmlLibrary.PlainTags [XmlLibrary] (bytes : Bytes) : Prop :=
  ∀ tree, XmlLibrary.parse bytes = .ok tree → tree.Every fun e => (47 : CodePoint) ∉ localPart e.tag

theorem HtmlParser.plainNames [NormalText] [HtmlLibrary] (folds : FoldsSlash) {config : DocumentParserConfig} {source : Bytes}
    {root : Place Element} (plain : ∀ text, HtmlLibrary.PlainTags text) (read : treeDetails config source = .ok root) :
    root ≠ [] ∧ PlainNames root := by
  obtain ⟨text, tree, -, made, rooted⟩ := treeDetails_ok read
  have every : tree.Every fun e => (47 : CodePoint) ∉ e.tag :=
    treeOf_every (P := fun tag => (47 : CodePoint) ∉ tag) made (by decide) fun e member tag found => casefold_plain folds (plain _ e member tag found)
  rw [rootOf_ok rooted]
  refine ⟨extractionRoot_ne_nil tree, fun p under s top => ?_⟩
  have labels := ((extractionRoot_under tree).trans under).every (fun s here => by cases here; exact every) s top
  exact localName_plain folds fun member => (RoseTree.every_iff.mp labels).1 ((localPart_sublist _).subset member)

theorem XmlParser.treeDetails_ok [NormalText] [XmlLibrary] {config : DocumentParserConfig} {source : Bytes} {root : Place Element}
    (read : (treeDetails config source).1 = .ok root) : ∃ tree, XmlLibrary.parse source = .ok tree ∧ root = [⟨0, tree⟩] := by
  unfold treeDetails at read
  split at read
  · cases read
  · split at read
    · cases read
    · dsimp only at read
      split at read
      · cases read
      · cases read
      · rename_i tree parsed
        simp only [rootOf, bind_ok] at read
        obtain ⟨_, -, _, -, _, -, _, -, _, -, _, -, done⟩ := read
        cases done
        exact ⟨tree, parsed, rfl⟩

theorem XmlParser.plainNames [NormalText] [XmlLibrary] (folds : FoldsSlash) {config : DocumentParserConfig} {source : Bytes}
    {root : Place Element} (plain : XmlLibrary.PlainTags source) (read : (treeDetails config source).1 = .ok root) :
    root ≠ [] ∧ PlainNames root := by
  obtain ⟨tree, parsed, rfl⟩ := treeDetails_ok read
  refine ⟨by simp, fun p under s top => ?_⟩
  have labels := under.every (fun s here => by cases here; exact plain tree parsed) s top
  exact localName_plain folds (RoseTree.every_iff.mp labels).1

end

namespace Sample
attribute [local instance] asciiCase

theorem asciiCase_slash : FoldsSlash := by
  intro p folded
  have same : (47 : CodePoint) = if 65 ≤ p.val ∧ p.val ≤ 90 then p + 32 else p := List.mem_singleton.mp folded
  split at same
  · have number : (47 : Nat) = (p.val + 32) % 1114112 := congrArg Fin.val same
    omega
  · exact same.symm

/-- A library that reports these calls for one source. -/
@[reducible] def reporting (source : String) (events : List HtmlEvent) : HtmlLibrary :=
  ⟨fun text => if text = PyText.ofString source then events else [], fun _ => false⟩

def opened (tag : String) : HtmlEvent := .start (PyText.ofString tag) []
def ended (tag : String) : HtmlEvent := .close (PyText.ofString tag)
def written (text : String) : HtmlEvent := .data (PyText.ofString text)

/-- An element without attributes. -/
def htmlNode (tag text : String) (children : List (RoseTree Element)) : RoseTree Element :=
  .node ⟨PyText.ofString tag, [], PyText.ofString text, []⟩ children

end Sample
end Molly
