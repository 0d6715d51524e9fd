import Molly.Evidence.Encodes

/-! When a published mapping is validated and reviewed: the issues of its records are few, and none of its
records is named like a credential. -/
namespace Molly
open Effect (chars_eq)

/-! ### Orders and sets -/

theorem eraseDups_of_nodup {α : Type} [BEq α] [LawfulBEq α] {values : List α} (distinct : values.Nodup) : values.eraseDups = values := by
  induction values with
  | nil => rfl
  | cons a rest ih =>
    rw [List.nodup_cons] at distinct
    have kept : rest.filter (fun b => !b == a) = rest := by
      rw [List.filter_eq_self]
      intro b member
      have apart : b ≠ a := fun same => distinct.1 (same ▸ member)
      simpa using apart
    rw [List.eraseDups_cons, kept, ih distinct.2]

/-- A sorted set is sorted once. -/
theorem sortedSet_sortedSet (values : List PyText) : sortedSet (sortedSet values) = sortedSet values := by
  have distinct := nodup_eraseDups values
  have sorted : (sortedBy id values.eraseDups).Nodup := (sortedBy_perm id _).nodup_iff.mpr distinct
  rw [sortedSet, sortedSet, eraseDups_of_nodup sorted]
  exact sortedBy_of_perm (sortedBy_perm id _) (by rwa [List.map_id])

theorem sortedSet_length (values : List PyText) : (sortedSet values).length = values.eraseDups.length :=
  (sortedBy_perm id _).length_eq

theorem mem_sortedSet {values : List PyText} {text : PyText} : text ∈ sortedSet values ↔ text ∈ values := by
  rw [sortedSet, mem_sortedBy, List.mem_eraseDups]

/-- Records with distinct identities are sorted strictly. -/
theorem sortedBy_strict {records : List OledRecord} (distinct : (records.map OledRecord.recordId).Nodup) :
    (sortedBy (fun r => r.recordId.pyText) records).Pairwise fun a b => PyText.lt a.recordId.pyText b.recordId.pyText = true := by
  have apart := (((sortedBy_perm (fun r : OledRecord => r.recordId.pyText) records).map OledRecord.recordId).nodup_iff).mpr distinct
  rw [List.Nodup, List.pairwise_map] at apart
  refine (sortedBy_pairwise (fun r : OledRecord => r.recordId.pyText) records).imp₂ ?_ apart
  intro a b after different
  have texts : a.recordId.pyText ≠ b.recordId.pyText := fun same =>
    different (Identifier.ext (PyText.ofString_injective same))
  rcases PyText.lt_total texts with below | above
  · exact below
  · rw [after] at above
    cases above

section
variable [CaseText] [Sha256]

/-! ### Issues -/

/-- The issues that single records have. -/
def codesOf (values : List OledRecord) : List PyText :=
  (values.filterMap fun r => (recordIssue r).map fun issue => PyText.ofString issue.1).eraseDups

/-- The comparison keys under which values conflict. -/
def conflictKeys (config : OledValidationConfig) (values : List OledRecord) : List Digest :=
  (keysOf values).filter (conflicts config values)

theorem keysOf_nodup (values : List OledRecord) : (keysOf values).Nodup :=
  (sortedBy_perm _ _).nodup_iff.mpr (nodup_eraseDups _)

omit [CaseText] [Sha256] in
theorem recordIssue_code {r : OledRecord} {issue : String × String} (found : recordIssue r = some issue) :
    issue.1 ∈ ["identity_unresolved", "property_unit_unresolved", "condition_unresolved", "evidence_missing"] := by
  unfold recordIssue at found
  split at found
  · cases found
    simp
  split at found
  · cases found
    simp
  split at found
  · cases found
    simp
  split at found
  · cases found
    simp
  · cases found

def conflictText (key : Digest) : PyText := PyText.ofString ("duplicate_conflict:" ++ key.text)

omit [CaseText] [Sha256] in
theorem conflictText_injective {a b : Digest} (same : conflictText a = conflictText b) : a = b := by
  have texts := congrArg String.toList (PyText.ofString_injective same)
  rw [String.toList_append, String.toList_append] at texts
  exact Digest.ext (String.ext_iff.mpr (List.append_cancel_left texts))

omit [CaseText] [Sha256] in
/-- No issue of a single record is a conflict. -/
theorem code_ne_conflict {r : OledRecord} {issue : String × String} (found : recordIssue r = some issue) (key : Digest) :
    PyText.ofString issue.1 ≠ conflictText key := by
  intro same
  have texts := congrArg (fun s : String => s.toList.head?) (PyText.ofString_injective same)
  simp only [String.toList_append] at texts
  have known := recordIssue_code found
  simp only [List.mem_cons, List.not_mem_nil, or_false] at known
  rcases known with code | code | code | code <;> rw [code] at texts <;> cases texts

/-- The number of issues: the codes of records, and the keys with conflicts. -/
theorem issuesOf_length (config : OledValidationConfig) (records : List OledRecord) :
    (issuesOf config records).length = (codesOf (sortedBy (fun r => r.recordId.pyText) records)).length +
      (conflictKeys config (sortedBy (fun r => r.recordId.pyText) records)).length := by
  generalize values_eq : sortedBy (fun r : OledRecord => r.recordId.pyText) records = values
  have split : issuesOf config records = sortedSet ((values.filterMap fun r => (recordIssue r).map fun issue => PyText.ofString issue.1) ++
      (conflictKeys config values).map conflictText) := by
    rw [issuesOf, values_eq]
    rfl
  have distinct : ((conflictKeys config values).map conflictText).Nodup :=
    ((keysOf_nodup values).filter _).map fun _ _ => conflictText_injective
  have apart : ((conflictKeys config values).map conflictText).removeAll
      (values.filterMap fun r => (recordIssue r).map fun issue => PyText.ofString issue.1) = (conflictKeys config values).map conflictText := by
    rw [List.removeAll, List.filter_eq_self]
    intro text member
    obtain ⟨key, _, rfl⟩ := List.mem_map.mp member
    rw [Bool.not_eq_true', Bool.eq_false_iff, ne_eq, List.elem_iff]
    intro listed
    obtain ⟨r, _, coded⟩ := List.mem_filterMap.mp listed
    obtain ⟨issue, found, same⟩ := Option.map_eq_some_iff.mp coded
    exact code_ne_conflict found key same
  rw [split, sortedSet_length, List.eraseDups_append, apart, eraseDups_of_nodup distinct, List.length_append, List.length_map, codesOf]

omit [CaseText] [Sha256] in
theorem hasNul_ofString {text : String} (plain : ∀ c ∈ text.toList, c ≠ '\x00') : (PyText.ofString text).hasNul = false := by
  rw [PyText.hasNul, decide_eq_false_iff_not]
  intro member
  rw [PyText.ofString, chars_eq] at member
  obtain ⟨c, listed, zero⟩ := List.mem_map.mp member
  exact plain c listed (CodePoint.ofChar_injective zero)

/-- Every issue is a text that a report admits. -/
theorem issuesOf_text {config : OledValidationConfig} {records : List OledRecord} {text : PyText}
    (member : text ∈ issuesOf config records) : text ≠ [] ∧ text.hasNul = false := by
  rcases List.mem_append.mp (mem_sortedSet.mp member) with single | conflict
  · obtain ⟨r, _, coded⟩ := List.mem_filterMap.mp single
    obtain ⟨issue, found, rfl⟩ := Option.map_eq_some_iff.mp coded
    have known := recordIssue_code found
    simp only [List.mem_cons, List.not_mem_nil, or_false] at known
    rcases known with code | code | code | code <;> rw [code] <;> decide +kernel
  · obtain ⟨key, _, rfl⟩ := List.mem_map.mp conflict
    constructor
    · intro empty
      have texts := congrArg String.toList (PyText.ofString_injective (t := "") empty)
      rw [String.toList_append] at texts
      cases texts
    · apply hasNul_ofString
      intro c listed
      rw [String.toList_append] at listed
      rcases List.mem_append.mp listed with front | hex
      · have plain : ("duplicate_conflict:".toList.all fun c => c ≠ '\x00') = true := by decide +kernel
        exact of_decide_eq_true (List.all_eq_true.mp plain c front)
      · have valid := key.valid
        rw [isSha256, chars_eq, Bool.and_eq_true] at valid
        have at_c := List.all_eq_true.mp valid.2 c hex
        rintro rfl
        cases at_c

/-! ### What is made of each record and of each key -/

variable {config : OledValidationConfig} {evidence : List ArtifactId} {values : List OledRecord}

omit [CaseText] [Sha256] in
theorem judge_total (config : OledValidationConfig) (evidence : List ArtifactId) (r : OledRecord) :
    ∃ v, judge config evidence r = .ok v ∧ v.toDict.Encodes := by
  unfold judge
  split
  · exact validation_total (by simp) (by simp) _ _ _ _ (PyValue.encodes_named.mpr (by simp)) (by simp)
  · refine validation_total (by simp) (by simp) _ _ _ _ ?_ ?_
    · exact PyValue.encodes_of ["issue_code"] rfl (by decide +kernel) (by simp)
    · intro f member
      rw [List.mem_singleton.mp member]
      exact ⟨rfl, (PyText.ofString_scalar _).unpaired⟩

theorem groupWith_mem {key : Digest} {r : OledRecord} : r ∈ groupWith values key ↔ r ∈ values ∧ r.comparisonKey = key := by
  simp [groupWith]

/-- The values are in the strict order of their identities. -/
def Strict (values : List OledRecord) : Prop :=
  values.Pairwise fun a b => PyText.lt a.recordId.pyText b.recordId.pyText = true

theorem group_created {key : Digest} (strict : Strict values) (filled : groupWith values key ≠ [])
    (first other : DuplicateClassification) (status : ValidationStatus) :
    ∃ g, DuplicateGroup.create (groupIdOf values key) key (classify first other (groupWith values key)) status = .ok g := by
  have ids := classify_ids first other (groupWith values key)
  have some : classify first other (groupWith values key) ≠ [] := by
    intro empty
    rw [empty] at ids
    exact filled (List.map_eq_nil_iff.mp ids.symm)
  have ordered : ((classify first other (groupWith values key)).map fun m => m.1.pyText).Pairwise fun a b => PyText.lt a b = true := by
    have texts : (classify first other (groupWith values key)).map (fun m => m.1.pyText) =
        (groupWith values key).map fun r => r.recordId.pyText := by
      have mapped := congrArg (List.map Identifier.pyText) ids
      rwa [List.map_map, List.map_map] at mapped
    rw [texts, List.pairwise_map]
    exact strict.sublist List.filter_sublist
  rw [DuplicateGroup.create, dif_pos ⟨some, ordered⟩]
  exact ⟨_, rfl⟩

/-- The group of a key with records is made, and the report of its conflict too. -/
theorem groupOf_total (config : OledValidationConfig) (evidence : List ArtifactId) {key : Digest} (strict : Strict values) (filled : groupWith values key ≠ []) :
    ∃ made, groupOf config evidence values key = .ok made ∧ ∀ v ∈ made.2, v.toDict.Encodes := by
  have distinct : ((groupWith values key).map OledRecord.recordId).Nodup := by
    rw [List.Nodup, List.pairwise_map]
    refine (strict.sublist List.filter_sublist).imp ?_
    intro a b before same
    rw [same, PyText.lt_irrefl] at before
    cases before
  rw [groupOf]
  by_cases conflict : conflicts config values key = true
  · rw [if_pos conflict]
    have clean : ∀ f ∈ [("comparison_key", PyValue.str (PyText.ofString key.text)), ("duplicate_conflict", .bool true)], f.2.Clean := by
      intro f member
      simp only [List.mem_cons, List.not_mem_nil, or_false] at member
      rcases member with rfl | rfl
      · exact ⟨rfl, (PyText.ofString_scalar _).unpaired⟩
      · exact ⟨rfl, trivial⟩
    obtain ⟨result, reported, encodes⟩ : ∃ v, validation config ((groupWith values key).map OledRecord.recordId) .review
        (PyText.ofString "same identity/property/condition has conflicting values") evidence
        ((groupWith values key).flatMap OledRecord.candidates)
        [("comparison_key", .str (PyText.ofString key.text)), ("duplicate_conflict", .bool true)] = .ok v ∧ v.toDict.Encodes :=
      validation_total (by simpa using filled) distinct _ _ _ _
        (PyValue.encodes_of ["comparison_key", "duplicate_conflict"] rfl (by decide +kernel) (by simp)) clean
    obtain ⟨g, created⟩ := group_created strict filled .conflictCandidate .conflictingDuplicateCandidate .review
    rw [reported, created]
    exact ⟨_, rfl, fun v member => (List.mem_singleton.mp member) ▸ encodes⟩
  · rw [if_neg conflict]
    obtain ⟨g, created⟩ := group_created strict filled .primary .consistentDuplicateCandidate .pass
    rw [created]
    exact ⟨_, rfl, fun v member => (by cases member)⟩

theorem groupOf_ok {key : Digest} {made : DuplicateGroup × List ValidationResult}
    (grouped : groupOf config evidence values key = .ok made) :
    made.1.groupId = groupIdOf values key ∧ made.1.recordIds = (groupWith values key).map OledRecord.recordId := by
  rw [← groupIn_rounded] at grouped
  exact groupIn_ok grouped

/-! ### The report -/

/-- The bytes that a group is named by. -/
def groupBytes (values : List OledRecord) (key : Digest) : List UInt8 :=
  (PyValue.named [("comparison_key", .str (PyText.ofString key.text)),
    ("record_ids", .arr ((groupWith values key).map fun r => .str r.recordId.pyText))]).encode

theorem groupIdOf_eq {a b : Digest} :
    groupIdOf values a = groupIdOf values b ↔ sha256Bytes (groupBytes values a) = sha256Bytes (groupBytes values b) := by
  constructor
  · intro same
    have texts := congrArg String.toList (congrArg Identifier.text same)
    rw [groupIdOf, groupIdOf, String.toList_append, String.toList_append] at texts
    exact Digest.ext (String.ext_iff.mpr (List.append_cancel_left texts))
  · intro same
    apply Identifier.ext
    change "duplicate_" ++ (sha256Bytes (groupBytes values a)).text = "duplicate_" ++ (sha256Bytes (groupBytes values b)).text
    rw [same]

/-- What the records of a mapping must be for their validation to be reported and reviewed. -/
structure Admissible (config : OledValidationConfig) (values : List OledRecord) : Prop where
  few : (codesOf values).length + (conflictKeys config values).length ≤ 512
  plain : ∀ v ∈ values, sensitiveKey v.recordId.text = false
  apart : ∀ a ∈ keysOf values, ∀ b ∈ keysOf values,
    sha256Bytes (groupBytes values a) = sha256Bytes (groupBytes values b) → a = b

variable {bundleId mappingId : ArtifactId} {records : List OledRecord}

theorem groupWith_keys {key : Digest} (member : key ∈ keysOf values) : groupWith values key ≠ [] := by
  obtain ⟨r, listed, keyed⟩ := mem_keysOf.mp member
  exact List.ne_nil_of_mem (groupWith_mem.mpr ⟨listed, keyed⟩)

omit [CaseText] [Sha256] in
theorem mapM_total {α β : Type} {f : α → Except PyError β} {P : β → Prop} (xs : List α) (each : ∀ x ∈ xs, ∃ y, f x = .ok y ∧ P y) :
    ∃ ys, xs.mapM f = .ok ys ∧ ∀ y ∈ ys, P y := by
  induction xs with
  | nil => exact ⟨[], rfl, by simp⟩
  | cons x rest ih =>
    obtain ⟨y, made, holds⟩ := each x List.mem_cons_self
    obtain ⟨ys, later, hold⟩ := ih fun x member => each x (List.mem_cons_of_mem _ member)
    refine ⟨y :: ys, mapM_ok.mpr (.cons made (mapM_ok.mp later)), ?_⟩
    rw [List.forall_mem_cons]
    exact ⟨holds, hold⟩

omit [CaseText] [Sha256] in
/-- What each item and its result have in common, they have in common as lists. -/
theorem mapM_map {α β γ : Type} {f : α → Except PyError β} {left : α → γ} {right : β → γ} {xs : List α} {ys : List β}
    (made : xs.mapM f = .ok ys) (same : ∀ x y, f x = .ok y → left x = right y) : xs.map left = ys.map right := by
  have each := mapM_ok.mp made
  clear made
  induction each with
  | nil => rfl
  | cons made _ ih => rw [List.map_cons, List.map_cons, ih, same _ _ made]

theorem groups_ids {groups : List (DuplicateGroup × List ValidationResult)} {keys : List Digest}
    (grouped : keys.mapM (groupOf config evidence values) = .ok groups) :
    groups.map (fun g => g.1.groupId) = keys.map (groupIdOf values) :=
  (mapM_map grouped fun _ _ made => (groupOf_ok made).1.symm).symm

omit [CaseText] [Sha256] in
theorem create_total {results : List ValidationResult} {groups : List DuplicateGroup} {found : List PyText} {digest : Digest}
    (distinct : (records.map OledRecord.recordId).Nodup) (texts : ∀ text ∈ sortedSet found, text ≠ [] ∧ text.hasNul = false) :
    (∃ report, OledValidationReport.create bundleId mappingId records results groups found digest = .ok report) ↔
      (sortedSet found).length ≤ 512 ∧ (groups.map DuplicateGroup.groupId).Nodup := by
  rw [OledValidationReport.create, dif_pos distinct]
  by_cases named : (groups.map DuplicateGroup.groupId).Nodup
  · rw [dif_pos named]
    by_cases few : (sortedSet found).length ≤ 512
    · rw [dif_pos ⟨few, texts, sortedSet_sortedSet found⟩]
      exact ⟨fun _ => ⟨few, named⟩, fun _ => ⟨_, rfl⟩⟩
    · rw [dif_neg fun valid => few valid.1]
      exact ⟨fun made => (by obtain ⟨_, made⟩ := made; cases made), fun both => absurd both.1 few⟩
  · rw [dif_neg named]
    exact ⟨fun made => (by obtain ⟨_, made⟩ := made; cases made), fun both => absurd both.2 named⟩

/-- What validation hands to the constructor of its report. -/
theorem validateRecords_made (config : OledValidationConfig) (bundleId mappingId : ArtifactId) (distinct : (records.map OledRecord.recordId).Nodup)
    (ordered : sortedBy (fun r => r.recordId.pyText) records = values) :
    ∃ results groups, (∀ v ∈ results, v.toDict.Encodes) ∧
      (groups.map DuplicateGroup.groupId).Perm ((keysOf values).map (groupIdOf values)) ∧
      (∀ id, (∃ g ∈ groups, id ∈ g.recordIds) ↔ ∃ v ∈ values, v.recordId = id) ∧
      ∃ found, sortedSet found = issuesOf config records ∧
        validateRecords records bundleId mappingId config = OledValidationReport.create bundleId mappingId
          (revisedRecords config records) results groups found config.digest := by
  have strict := sortedBy_strict distinct
  obtain ⟨verdicts, judged, ruled⟩ := mapM_total values fun r _ => judge_total config [bundleId, mappingId] r
  rw [ordered] at strict
  obtain ⟨made, grouped, reported⟩ := mapM_total (keysOf values) fun key member =>
    groupOf_total config [bundleId, mappingId] strict (groupWith_keys member)
  have each := mapM_ok.mp grouped
  refine ⟨verdicts ++ made.flatMap Prod.snd, sortedBy (fun g => g.groupId.pyText) (made.map Prod.fst), ?_, ?_, ?_, _, rfl, ?_⟩
  · intro v member
    rcases List.mem_append.mp member with single | shared
    · exact ruled v single
    · obtain ⟨g, listed, inside⟩ := List.mem_flatMap.mp shared
      exact reported g listed v inside
  · have same := (sortedBy_perm (fun g : DuplicateGroup => g.groupId.pyText) (made.map Prod.fst)).map DuplicateGroup.groupId
    rw [List.map_map] at same
    rw [← groups_ids grouped]
    exact same
  · intro id
    constructor
    · intro held
      obtain ⟨g, listed, inside⟩ := held
      obtain ⟨m, found, rfl⟩ := List.mem_map.mp (mem_sortedBy.mp listed)
      obtain ⟨key, _, ran⟩ := forall₂_right each found
      rw [(groupOf_ok ran).2] at inside
      obtain ⟨v, member, named⟩ := List.mem_map.mp inside
      exact ⟨v, (groupWith_mem.mp member).1, named⟩
    · intro stated
      obtain ⟨v, member, rfl⟩ := stated
      obtain ⟨m, found, ran⟩ := forall₂_left each (mem_keysOf.mpr ⟨v, member, rfl⟩)
      refine ⟨m.1, mem_sortedBy.mpr (List.mem_map_of_mem found), ?_⟩
      rw [(groupOf_ok ran).2]
      exact List.mem_map_of_mem (groupWith_mem.mpr ⟨member, rfl⟩)
  · unfold validateRecords revisedRecords
    rw [ordered]
    dsimp only
    rw [judged]
    dsimp only [bind, Except.bind]
    rw [show sortedBy (fun d : Digest => PyText.ofString d.text) (values.map OledRecord.comparisonKey).eraseDups = keysOf values from rfl,
      grouped]

/-- Validation makes a report exactly where the issues are few and no two groups get one name. -/
theorem validateRecords_total (config : OledValidationConfig) (bundleId mappingId : ArtifactId) (distinct : (records.map OledRecord.recordId).Nodup)
    (ordered : sortedBy (fun r => r.recordId.pyText) records = values) :
    (∃ report, validateRecords records bundleId mappingId config = .ok report) ↔
      (codesOf values).length + (conflictKeys config values).length ≤ 512 ∧
      ∀ a ∈ keysOf values, ∀ b ∈ keysOf values, sha256Bytes (groupBytes values a) = sha256Bytes (groupBytes values b) → a = b := by
  obtain ⟨results, groups, _, named, _, found, issues, made⟩ := validateRecords_made config bundleId mappingId distinct
    ordered
  have kept : ((revisedRecords config records).map OledRecord.recordId).Nodup := by
    have same : (revisedRecords config records).map OledRecord.recordId =
        (sortedBy (fun r => r.recordId.pyText) records).map OledRecord.recordId := by
      rw [revisedRecords, List.map_map]
      rfl
    rw [same]
    exact ReviewBundle.sorted_distinct distinct
  rw [made, create_total kept (by
    rw [issues]
    exact fun text => issuesOf_text), issues, issuesOf_length, ordered, named.nodup_iff]
  refine and_congr_right fun _ => ?_
  rw [List.nodup_map_iff_inj_on (keysOf_nodup values)]
  simp only [groupIdOf_eq]

/-- A report with canonical bytes names no record like a credential. -/
theorem plain_of_encodes {report : OledValidationReport} (distinct : (records.map OledRecord.recordId).Nodup)
    (ordered : sortedBy (fun r => r.recordId.pyText) records = values)
    (validated : validateRecords records bundleId mappingId config = .ok report) (encodes : report.toDict.Encodes) :
    ∀ v ∈ values, sensitiveKey v.recordId.text = false := by
  obtain ⟨results, groups, _, _, members, found, _, made⟩ := validateRecords_made config bundleId mappingId distinct
    ordered
  rw [made] at validated
  obtain ⟨_, _, grouped, _⟩ := OledValidationReport.create_parts validated
  obtain ⟨_, _, each⟩ := OledValidationReport.encodes_iff.mp encodes
  intro v member
  obtain ⟨g, listed, inside⟩ := (members v.recordId).mpr ⟨v, member, rfl⟩
  rw [← grouped] at listed
  exact DuplicateGroup.encodes_iff.mp (each g listed) _ inside

/-- The report has canonical bytes exactly where no record is named like a credential. -/
theorem validateRecords_encodes {report : OledValidationReport} (distinct : (records.map OledRecord.recordId).Nodup)
    (ordered : sortedBy (fun r => r.recordId.pyText) records = values) (parts : ∀ v ∈ values, v.PartsEncode)
    (validated : validateRecords records bundleId mappingId config = .ok report) :
    report.toDict.Encodes ↔ ∀ v ∈ values, sensitiveKey v.recordId.text = false := by
  constructor
  · exact plain_of_encodes distinct ordered validated
  · intro plain
    obtain ⟨results, groups, reported, _, members, found, _, made⟩ := validateRecords_made config bundleId mappingId distinct
      ordered
    rw [made] at validated
    obtain ⟨recorded, resulted, grouped, _⟩ := OledValidationReport.create_parts validated
    rw [OledValidationReport.encodes_iff, recorded, resulted, grouped]
    refine ⟨?_, reported, ?_⟩
    · unfold revisedRecords
      rw [ordered, List.forall_mem_map]
      exact fun v member => OledRecord.encodes_revised (parts v member) _ _
    · intro g listed
      rw [DuplicateGroup.encodes_iff]
      intro id inside
      obtain ⟨v, member, rfl⟩ := (members id).mp ⟨g, listed, inside⟩
      exact plain v member

/-! ### The review -/

variable {documents : List ArtifactId} {bundle : EvidenceCandidateBundle} {mapping : OledMappingResult}

omit [CaseText] in
/-- A report with canonical bytes is reviewed, beside the artifacts that it is bound to. -/
theorem buildReview_total {report : OledValidationReport} (bundled : bundle.artifactId = .ok report.candidateBundleArtifactId)
    (mapped : mapping.artifactId = .ok report.mappingArtifactId) (listed : bundle.canonicalDocumentArtifactId ∈ documents)
    (distinct : documents.Nodup) :
    (∃ review, buildReview documents bundle mapping report = .ok review) ↔ report.toDict.Encodes := by
  rw [PyValue.encodes_artifactId]
  constructor
  · intro built
    obtain ⟨review, built⟩ := built
    unfold buildReview at built
    obtain ⟨_, _, built⟩ := bind_ok.mp built
    obtain ⟨_, _, built⟩ := bind_ok.mp built
    obtain ⟨_, _, built⟩ := bind_ok.mp built
    obtain ⟨_, _, built⟩ := bind_ok.mp built
    obtain ⟨_, _, built⟩ := bind_ok.mp built
    obtain ⟨id, identified, _⟩ := bind_ok.mp built
    exact ⟨id, identified⟩
  · intro identified
    obtain ⟨id, identified⟩ := identified
    have accepted : (PyValue.named [("record_count", .int report.records.length),
        ("validation_status", .str (PyText.ofString report.status.text)),
        ("duplicate_group_count", .int report.duplicateGroups.length),
        ("blocking_issue_count", .int report.blockingIssues.length)]).accepted = true := by
      rw [PyValue.accepted_named]
      intro f member
      have keys : ["record_count", "validation_status", "duplicate_group_count", "blocking_issue_count"].all acceptsKey = true := by
        decide +kernel
      simp only [List.mem_cons, List.not_mem_nil, or_false] at member
      refine ⟨List.all_eq_true.mp keys f.1 ?_, ?_⟩
      · rcases member with rfl | rfl | rfl | rfl <;> simp
      · rcases member with rfl | rfl | rfl | rfl <;> rfl
    obtain ⟨m, frozen⟩ : ∃ m, freezePyFields "review_summary" ([("record_count", PyValue.int report.records.length),
        ("validation_status", .str (PyText.ofString report.status.text)),
        ("duplicate_group_count", .int report.duplicateGroups.length),
        ("blocking_issue_count", .int report.blockingIssues.length)].map fun f => (PyText.ofString f.1, f.2)) = .ok m :=
      ⟨⟨_, acceptedFields_pyCanon accepted, pyCanonFields_canonFields _⟩, freezePyFields_ok.mpr ⟨accepted, rfl⟩⟩
    have few : (sortedSet report.blockingIssues).length ≤ 512 := by
      rw [report.inOrder]
      exact report.few
    have issues : ∀ i ∈ sortedSet report.blockingIssues, i ≠ [] ∧ i.hasNul = false := by
      rw [report.inOrder]
      exact report.issues
    have review (e : PyError) : ensure (decide (bundle.canonicalDocumentArtifactId ∈ documents)) e = .ok () := by
      rw [ensure_ok, decide_eq_true_eq]
      exact listed
    unfold buildReview
    rw [OledValidationReport.artifactId, identified, bundled, mapped]
    simp only [bind, Except.bind, ensure, decide_true, if_true, listed]
    rw [ReviewBundle.create, idsOf, dif_pos distinct, idsOf, dif_pos (List.nodup_singleton _), idsOf,
      dif_pos (List.nodup_singleton _)]
    dsimp only [bind, Except.bind]
    rw [dif_pos report.distinct, dif_pos ⟨few, issues⟩, frozen]
    exact ⟨_, rfl⟩

/-- Validation returns a report, and the builder a review of it. -/
def Reviewable (config : OledValidationConfig) (documents : List ArtifactId) (bundle : EvidenceCandidateBundle)
    (mapping : OledMappingResult) : Prop :=
  ∃ report review, validateMapping config bundle mapping = .ok report ∧ buildReview documents bundle mapping report = .ok review

omit [CaseText] [Sha256] in
/-- Records are converted under their identities. -/
theorem converted_ids {documentId sourceId : ArtifactId} {digest : Digest}
    (converted : mapping.records.mapM (fun r => r.toOledRecord documentId sourceId bundleId mappingId digest) = .ok records) :
    records.map OledRecord.recordId = mapping.records.map OledMappingRecord.mappedRecordId :=
  (mapM_map converted fun _ _ made => (OledMappingRecord.toOledRecord_ok made).1.symm).symm

/-- A published mapping whose evidence is bound in the candidates is validated and reviewed exactly where its records have
few issues, none of them is named like a credential, and the hash keeps the names of their groups apart. -/
theorem mapping_reviewable (config : OledValidationConfig) (bundled : bundle.artifactId = .ok bundleId) (mapped : mapping.artifactId = .ok mappingId)
    (checked : ∀ r ∈ mapping.records, r.checkEvidenceBindings bundle = .ok ())
    (listed : bundle.canonicalDocumentArtifactId ∈ documents) (distinct : documents.Nodup) :
    ∃ records, mapping.records.mapM (fun r => r.toOledRecord bundle.canonicalDocumentArtifactId bundle.sourceArtifactId bundleId
        mappingId mapping.requestDigest) = .ok records ∧
      (Reviewable config documents bundle mapping ↔ Admissible config (sortedBy (fun r => r.recordId.pyText) records)) := by
  have encodes := OledMappingResult.encodes_records mapped
  have each : ∀ r ∈ mapping.records, ∃ v, r.toOledRecord bundle.canonicalDocumentArtifactId bundle.sourceArtifactId bundleId
      mappingId mapping.requestDigest = .ok v ∧ v.PartsEncode := by
    intro r member
    obtain ⟨identity, property, condition, evidence⟩ := OledMappingRecord.encodes_parts (encodes r member)
    rw [OledMappingRecord.toOledRecord, dif_pos (sourced_of_checked (checked r member))]
    exact ⟨_, rfl, identity, property, condition, evidence⟩
  obtain ⟨records, converted, parts⟩ := mapM_total mapping.records each
  refine ⟨records, converted, ?_⟩
  have apart : (records.map OledRecord.recordId).Nodup := converted_ids converted ▸ mapping.distinct
  generalize ordered : sortedBy (fun r : OledRecord => r.recordId.pyText) records = values
  have each : ∀ v ∈ values, v.PartsEncode := by
    rw [← ordered]
    exact fun v member => parts v (mem_sortedBy.mp member)
  have runs : validateMapping config bundle mapping = validateRecords records bundleId mappingId config := by
    rw [validateMapping, bundled, mapped]
    dsimp only [bind, Except.bind]
    rw [converted]
  have whole := validateRecords_total config bundleId mappingId apart ordered
  unfold Reviewable
  rw [runs]
  constructor
  · intro reviewed
    obtain ⟨report, review, validated, built⟩ := reviewed
    obtain ⟨few, named⟩ := whole.mp ⟨report, validated⟩
    obtain ⟨sameBundle, sameMapping, _⟩ := validateRecords_ok validated
    have plain := (validateRecords_encodes apart ordered each validated).mp
      ((buildReview_total (sameBundle ▸ bundled) (sameMapping ▸ mapped) listed distinct).mp ⟨review, built⟩)
    exact ⟨few, plain, named⟩
  · intro admissible
    obtain ⟨report, validated⟩ := whole.mpr ⟨admissible.few, admissible.apart⟩
    obtain ⟨sameBundle, sameMapping, _⟩ := validateRecords_ok validated
    obtain ⟨review, built⟩ := (buildReview_total (sameBundle ▸ bundled) (sameMapping ▸ mapped) listed distinct).mpr
      ((validateRecords_encodes apart ordered each validated).mpr admissible.plain)
    exact ⟨report, review, validated, built⟩

end
/-! ### A record named like a credential -/

namespace Sample
attribute [local instance] standardSha256 asciiPrintable asciiCase

/-- One mapped record, with the identity that the provider gives to it. -/
def replyAs (id : String) : PyValue :=
  .named [("request_digest", .str (PyText.ofString mappingRequest.computedDigest.text)),
    ("records", .arr [.named [("mapped_record_id", .str (PyText.ofString id)),
      ("molecule_identity", .str (PyText.ofString "CCO")),
      ("property", .named [("property_id", .str (PyText.ofString "PLQY")), ("value", .int 50), ("unit", .str (PyText.ofString "%"))]),
      ("measurement_condition", .named [("condition_status", .str (PyText.ofString "EXPLICIT"))]),
      ("evidence", .arr (["molecule_identity", "property_id", "property_value", "unit", "measurement_condition"].map bound)),
      ("mapping_status", .str (PyText.ofString "MAPPED"))]])]

/-- The mapping that is accepted for it, and the identities of the two artifacts. -/
def publishedAs (id : String) : Except PyError (OledMappingResult × ArtifactId × ArtifactId) := do
  let mapping ← OledMappingResult.fromProviderPayload (replyAs id) mappingRequest passages
  mapping.records.forM fun r => r.checkEvidenceBindings passages
  let bundleId ← passages.artifactId
  let mappingId ← mapping.artifactId
  return (mapping, bundleId, mappingId)

theorem publishedAs_ok {id : String} {made : OledMappingResult × ArtifactId × ArtifactId} (ran : publishedAs id = .ok made) :
    (∀ r ∈ made.1.records, r.checkEvidenceBindings passages = .ok ()) ∧ passages.artifactId = .ok made.2.1 ∧
      made.1.artifactId = .ok made.2.2 := by
  obtain ⟨mapping, _, ran⟩ := bind_ok.mp ran
  obtain ⟨⟨⟩, checked, ran⟩ := bind_ok.mp ran
  obtain ⟨bundleId, bundled, ran⟩ := bind_ok.mp ran
  obtain ⟨mappingId, mapped, ran⟩ := bind_ok.mp ran
  cases ran
  exact ⟨forM_ok.mp checked, bundled, mapped⟩

/-- The mapping of one record. -/
theorem mapping_reviewable_one : ∃ mapping bundleId mappingId records, passages.artifactId = .ok bundleId ∧
    mapping.artifactId = .ok mappingId ∧ mapping.records.mapM (fun r => r.toOledRecord passages.canonicalDocumentArtifactId
      passages.sourceArtifactId bundleId mappingId mapping.requestDigest) = .ok records ∧
    (Reviewable validationConfig [paper] passages mapping ↔
      Admissible validationConfig (sortedBy (fun r => r.recordId.pyText) records)) := by
  have ran : (publishedAs "r1").toOption.isSome = true := by decide +kernel
  cases taken : publishedAs "r1" with
  | error e =>
    rw [taken] at ran
    cases ran
  | ok made =>
    obtain ⟨checked, bundled, mapped⟩ := publishedAs_ok taken
    obtain ⟨records, converted, exactly⟩ := mapping_reviewable validationConfig bundled mapped checked
      (List.mem_singleton_self paper) (List.nodup_singleton _)
    exact ⟨made.1, made.2.1, made.2.2, records, bundled, mapped, converted, exactly⟩

/-- The record api_key is published, and its report has no artifact ID. -/
theorem mapping_reviewable_fails : ¬∀ (config : OledValidationConfig) (documents : List ArtifactId)
    (bundle : EvidenceCandidateBundle) (mapping : OledMappingResult) (bundleId mappingId : ArtifactId),
    bundle.artifactId = .ok bundleId → mapping.artifactId = .ok mappingId →
    (∀ r ∈ mapping.records, r.checkEvidenceBindings bundle = .ok ()) → bundle.canonicalDocumentArtifactId ∈ documents →
    documents.Nodup → Reviewable config documents bundle mapping := by
  intro always
  have ran : ((publishedAs "api_key").toOption.any fun made => made.1.records.any (·.mappedRecordId.text = "api_key")) = true := by
    decide +kernel
  cases taken : publishedAs "api_key" with
  | error e =>
    rw [taken] at ran
    cases ran
  | ok made =>
    rw [taken] at ran
    obtain ⟨r, listed, named⟩ := List.any_eq_true.mp ran
    rw [decide_eq_true_eq] at named
    obtain ⟨checked, bundled, mapped⟩ := publishedAs_ok taken
    obtain ⟨report, review, validated, built⟩ := always validationConfig [paper] _ _ _ _ bundled mapped checked
      List.mem_cons_self (List.nodup_singleton _)
    unfold validateMapping at validated
    obtain ⟨bundleId, bundled, validated⟩ := bind_ok.mp validated
    obtain ⟨mappingId, mapped, validated⟩ := bind_ok.mp validated
    obtain ⟨records, converted, validated⟩ := bind_ok.mp validated
    obtain ⟨sameBundle, sameMapping, _⟩ := validateRecords_ok validated
    have encodes := (buildReview_total (sameBundle ▸ bundled) (sameMapping ▸ mapped) List.mem_cons_self
      (List.nodup_singleton _)).mp ⟨review, built⟩
    have ids := converted_ids converted
    have plain := plain_of_encodes (ids ▸ made.1.distinct) rfl validated encodes
    obtain ⟨v, found, same⟩ : ∃ v ∈ records, v.recordId = r.mappedRecordId := by
      have member := List.mem_map_of_mem (f := OledMappingRecord.mappedRecordId) listed
      rw [← ids] at member
      exact List.mem_map.mp member
    have credential := plain v (mem_sortedBy.mpr found)
    rw [same, named] at credential
    exact absurd credential (by decide +kernel)

end Sample
end Molly
