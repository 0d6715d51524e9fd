import Molly.Core.Json

/-! Frozen mappings: what `_freeze_json` accepts, and how lookups see a frozen value. -/
namespace Molly
open Effect (chars)

def acceptsKey (key : String) : Bool := key ≠ "" && !sensitiveKey key

mutual
/-- The values on which `_freeze_json` raises nothing. -/
def Json.accepted : Json → Bool
  | .arr items => Json.acceptedItems items
  | .obj fields => Json.acceptedFields fields
  | .null | .bool _ | .int _ | .float _ | .str _ => true

def Json.acceptedItems : List Json → Bool
  | [] => true
  | item :: items => item.accepted && Json.acceptedItems items

def Json.acceptedFields : List (String × Json) → Bool
  | [] => true
  | (key, item) :: fields => acceptsKey key && item.accepted && Json.acceptedFields fields
end

mutual
theorem check_iff : ∀ (j : Json) (field : String), j.check field = .ok () ↔ j.accepted = true
  | .null, _ | .bool _, _ | .int _, _ | .float _, _ | .str _, _ => by simp [Json.check, Json.accepted]
  | .arr items, field => by simpa [Json.check, Json.accepted] using checkItems_iff items field
  | .obj fields, field => by simpa [Json.check, Json.accepted] using checkFields_iff fields field

theorem checkItems_iff : ∀ (items : List Json) (field : String),
    Json.checkItems field items = .ok () ↔ Json.acceptedItems items = true
  | [], _ => by simp [Json.checkItems, Json.acceptedItems]
  | item :: items, field => by
    have head := check_iff item field
    have tail := checkItems_iff items field
    cases checked : item.check field with
    | error e => simp_all [Json.checkItems, Json.acceptedItems]
    | ok => simp_all [Json.checkItems, Json.acceptedItems]

theorem checkFields_iff : ∀ (fields : List (String × Json)) (field : String),
    Json.checkFields field fields = .ok () ↔ Json.acceptedFields fields = true
  | [], _ => by simp [Json.checkFields, Json.acceptedFields]
  | (key, item) :: fields, field => by
    have head := check_iff item (field ++ "." ++ key)
    have tail := checkFields_iff fields field
    by_cases empty : key = ""
    · simp [Json.checkFields, Json.acceptedFields, acceptsKey, empty]
    by_cases sensitive : sensitiveKey key = true
    · simp [Json.checkFields, Json.acceptedFields, acceptsKey, empty, sensitive]
    cases checked : item.check (field ++ "." ++ key) with
    | error e => simp_all [Json.checkFields, Json.acceptedFields]
    | ok => simp_all [Json.checkFields, Json.acceptedFields, acceptsKey]
end

/-- The keys of the mappings that a driver hands to the ledger. -/
abbrev recordKeys : List String :=
  ["action", "action_type", "approval", "approval_id", "approval_required_side_effect_classes", "arguments",
    "budget", "call_id", "counts", "created_at", "decision", "decisions", "error_type", "goal",
    "initial_artifact_ids", "input_artifact_ids", "materialized_call", "max_decisions", "max_steps",
    "max_tool_calls", "metadata", "policy_digest", "reason", "reason_summary", "rejected_call_id", "request",
    "request_digest", "result_data", "result_data_sha256", "reviewer_ref", "run_id", "server_limits",
    "side_effect_class", "step_id", "steps", "subject_ids", "tool_call_digest", "tool_calls", "tool_name",
    "tool_policy_digest", "tool_spec_digest", "tool_version"]

theorem acceptsKey_record {key : String} (written : key ∈ recordKeys) : acceptsKey key = true := by
  have each : ∀ key ∈ recordKeys, acceptsKey key = true := by decide +kernel
  exact each key written

/-! ### Insertion in key order -/

theorem codeLt_trans : ∀ {a b c : List Char}, codeLt a b = true → codeLt b c = true → codeLt a c = true
  | [], _ :: _, _ :: _, _, _ => rfl
  | a :: as, b :: bs, c :: cs, first, second => by
    simp only [codeLt, Bool.or_eq_true, decide_eq_true_eq, Bool.and_eq_true] at first second ⊢
    rcases first with lt | ⟨rfl, lt⟩ <;> rcases second with lt' | ⟨rfl, lt'⟩
    · exact Or.inl (Nat.lt_trans lt lt')
    · exact Or.inl lt
    · exact Or.inl lt'
    · exact Or.inr ⟨rfl, codeLt_trans lt lt'⟩

theorem codeLt_irrefl : ∀ a : List Char, codeLt a a = false
  | [] => rfl
  | a :: as => by simp [codeLt, codeLt_irrefl as]

theorem codeLt_total : ∀ a b : List Char, a ≠ b → codeLt a b = true ∨ codeLt b a = true
  | [], [], different => absurd rfl different
  | [], _ :: _, _ => Or.inl rfl
  | _ :: _, [], _ => Or.inr rfl
  | a :: as, b :: bs, different => by
    simp only [codeLt, Bool.or_eq_true, decide_eq_true_eq, Bool.and_eq_true]
    rcases Nat.lt_trichotomy a.toNat b.toNat with lt | same | lt
    · exact Or.inl (Or.inl lt)
    · have same : a = b := Char.toNat_inj.mp same
      subst same
      rcases codeLt_total as bs (fun e => different (e ▸ rfl)) with lt | lt
      · exact Or.inl (Or.inr ⟨rfl, lt⟩)
      · exact Or.inr (Or.inr ⟨rfl, lt⟩)
    · exact Or.inr (Or.inl lt)

theorem keyLt_trans {a b c : String} (first : keyLt a b = true) (second : keyLt b c = true) :
    keyLt a c = true := codeLt_trans first second

@[simp] theorem keyLt_irrefl (a : String) : keyLt a a = false := codeLt_irrefl _

theorem keyLt_asymm {a b : String} (lt : keyLt a b = true) : keyLt b a = false := by
  cases other : keyLt b a with
  | false => rfl
  | true => simpa using keyLt_trans lt other

theorem keyLt_total (a b : String) (different : a ≠ b) : keyLt a b = true ∨ keyLt b a = true :=
  codeLt_total _ _ fun same => different (String.toList_injective (by simpa using same))

@[simp] theorem lookup_cons (query key : String) (item : Json) (rest : Fields) :
    List.lookup query ((key, item) :: rest) = if query = key then some item else rest.lookup query := by
  by_cases h : query = key
  · simp [h]
  · simp [List.lookup_cons, h, beq_false_of_ne h]

attribute [local simp] insertField

@[simp] theorem lookup_insertField (key query : String) (item : Json) (fields : Fields) :
    (insertField key item fields).lookup query =
      if query = key then some item else fields.lookup query := by
  induction fields with
  | nil => simp [insertField]
  | cons head rest ih =>
    obtain ⟨k, v⟩ := head
    simp only [insertField]
    split
    · simp
    split
    · rename_i same
      by_cases h : query = key <;> simp [h, ← same]
    · rename_i different
      by_cases h : query = k
      · simp [h, Ne.symm different]
      · simp [h, ih]

theorem insertField_same (key : String) (a b : Json) (fields : Fields) :
    insertField key a (insertField key b fields) = insertField key a fields := by
  induction fields with
  | nil => simp [insertField]
  | cons head rest ih =>
    obtain ⟨k, v⟩ := head
    simp only [insertField]
    split
    · simp [insertField]
    split
    · simp [insertField]
    · simp [insertField, *]

theorem insertField_comm (a b : String) (x y : Json) (fields : Fields) (different : a ≠ b) :
    insertField a x (insertField b y fields) = insertField b y (insertField a x fields) := by
  have order := keyLt_total a b different
  induction fields with
  | nil =>
    rcases order with h | h
    · simp [insertField, h, keyLt_asymm h, different.symm]
    · simp [insertField, h, keyLt_asymm h, different]
  | cons head rest ih =>
    obtain ⟨k, v⟩ := head
    cases ha : keyLt a k <;> cases hb : keyLt b k
    · by_cases sa : a = k <;> by_cases sb : b = k <;> simp_all [insertField]
    · have lt : keyLt b a = true := order.resolve_left fun h => by simp [keyLt_trans h hb] at ha
      by_cases same : a = k
      · subst same; simp [insertField, lt, keyLt_asymm lt, different]
      · simp [insertField, ha, hb, keyLt_asymm lt, different, same]
    · have lt : keyLt a b = true := order.resolve_right fun h => by simp [keyLt_trans h ha] at hb
      by_cases same : b = k
      · subst same; simp [insertField, lt, keyLt_asymm lt, different.symm]
      · simp [insertField, ha, hb, keyLt_asymm lt, different.symm, same]
    · rcases order with h | h
      · simp [insertField, ha, hb, h, keyLt_asymm h, different.symm]
      · simp [insertField, ha, hb, h, keyLt_asymm h, different]

theorem canonFields_insertField (key : String) (item : Json) (fields : Fields) :
    Json.canonFields (insertField key item fields) =
      insertField key item.canon (Json.canonFields fields) := by
  induction fields with
  | nil => simp [insertField, Json.canonFields]
  | cons head rest ih =>
    obtain ⟨k, v⟩ := head
    simp only [insertField]
    split
    · simp [Json.canonFields]
    split
    · rename_i same
      subst same
      simp [Json.canonFields, insertField_same]
    · rename_i different
      simp only [Json.canonFields, ih]
      exact insertField_comm k key v.canon item.canon _ (Ne.symm different)

mutual
theorem canon_canon : ∀ j : Json, j.canon.canon = j.canon
  | .null | .bool _ | .int _ | .float _ | .str _ => by simp [Json.canon]
  | .arr items => by simpa [Json.canon] using canonItems_canonItems items
  | .obj fields => by simpa [Json.canon] using canonFields_canonFields fields

theorem canonItems_canonItems : ∀ items : List Json,
    Json.canonItems (Json.canonItems items) = Json.canonItems items
  | [] => by simp [Json.canonItems]
  | item :: items => by simp [Json.canonItems, canon_canon item, canonItems_canonItems items]

theorem canonFields_canonFields : ∀ fields : List (String × Json),
    Json.canonFields (Json.canonFields fields) = Json.canonFields fields
  | [] => by simp [Json.canonFields]
  | (key, item) :: fields => by
    simp [Json.canonFields, canonFields_insertField, canon_canon item, canonFields_canonFields fields]
end

theorem acceptedFields_insertField (key : String) (item : Json) (fields : Fields)
    (head : acceptsKey key = true) (value : item.accepted = true)
    (tail : Json.acceptedFields fields = true) :
    Json.acceptedFields (insertField key item fields) = true := by
  induction fields with
  | nil => simp [insertField, Json.acceptedFields, head, value]
  | cons first rest ih =>
    obtain ⟨k, v⟩ := first
    simp only [Json.acceptedFields, Bool.and_eq_true] at tail
    simp only [insertField]
    split
    · simp [Json.acceptedFields, head, value, tail]
    split <;> simp [Json.acceptedFields, head, value, tail, ih]

mutual
theorem accepted_canon : ∀ j : Json, j.accepted = true → j.canon.accepted = true
  | .null, _ | .bool _, _ | .int _, _ | .float _, _ | .str _, _ => by simp [Json.canon, Json.accepted]
  | .arr items, kept => by
    simpa [Json.canon, Json.accepted] using acceptedItems_canon items (by simpa [Json.accepted] using kept)
  | .obj fields, kept => by
    simpa [Json.canon, Json.accepted] using acceptedFields_canon fields (by simpa [Json.accepted] using kept)

theorem acceptedItems_canon : ∀ items : List Json, Json.acceptedItems items = true →
    Json.acceptedItems (Json.canonItems items) = true
  | [], _ => by simp [Json.canonItems, Json.acceptedItems]
  | item :: items, kept => by
    simp only [Json.acceptedItems, Bool.and_eq_true] at kept
    simp [Json.canonItems, Json.acceptedItems, accepted_canon item kept.1, acceptedItems_canon items kept.2]

theorem acceptedFields_canon : ∀ fields : List (String × Json), Json.acceptedFields fields = true →
    Json.acceptedFields (Json.canonFields fields) = true
  | [], _ => by simp [Json.canonFields, Json.acceptedFields]
  | (key, item) :: fields, kept => by
    simp only [Json.acceptedFields, Bool.and_eq_true] at kept
    exact acceptedFields_insertField key item.canon _ kept.1.1 (accepted_canon item kept.1.2)
      (acceptedFields_canon fields kept.2)
end

@[simp] theorem lookup_canonFields (query : String) (fields : Fields) :
    (Json.canonFields fields).lookup query = (fields.lookup query).map Json.canon := by
  induction fields with
  | nil => simp [Json.canonFields]
  | cons head rest ih =>
    obtain ⟨k, v⟩ := head
    by_cases h : query = k
    · simp [Json.canonFields, h]
    · simp [Json.canonFields, h, ih]

/-- Freezing keeps every key and invents none. -/
theorem mem_insertField {f : String × Json} (found : f ∈ insertField key item fields) :
    f = (key, item) ∨ f ∈ fields := by
  induction fields with
  | nil => simpa [insertField] using found
  | cons head rest ih =>
    obtain ⟨k, v⟩ := head
    simp only [insertField] at found
    split at found
    · simpa using found
    split at found
    · rcases List.mem_cons.mp found with same | member
      · exact Or.inl same
      · exact Or.inr (List.mem_cons_of_mem _ member)
    · rcases List.mem_cons.mp found with same | member
      · exact Or.inr (same ▸ List.mem_cons_self)
      · rcases ih member with same | member
        · exact Or.inl same
        · exact Or.inr (List.mem_cons_of_mem _ member)

theorem key_mem_canonFields : ∀ {fields : Fields} {f : String × Json},
    f ∈ Json.canonFields fields → f.1 ∈ fields.map Prod.fst
  | (key, item) :: fields, f, found => by
    simp only [Json.canonFields] at found
    rcases mem_insertField found with same | member
    · simp [same]
    · exact List.mem_cons_of_mem _ (key_mem_canonFields member)

/-! ### Frozen mappings -/

/-- A mapping that `freeze_json_mapping` returns. -/
structure JsonObject where
  fields : Fields
  accepted : Json.acceptedFields fields = true
  frozen : Json.canonFields fields = fields
  deriving DecidableEq

namespace JsonObject

def toJson (m : JsonObject) : Json := .obj m.fields
def get (m : JsonObject) (key : String) : Option Json := m.fields.lookup key

def empty : JsonObject := ⟨[], rfl, rfl⟩

@[simp] theorem accepted_toJson (m : JsonObject) : m.toJson.accepted = true := by
  simpa [toJson, Json.accepted] using m.accepted

@[simp] theorem canon_toJson (m : JsonObject) : m.toJson.canon = m.toJson := by
  simp [toJson, Json.canon, m.frozen]

@[simp] theorem get_toJson (m : JsonObject) (key : String) : m.toJson.get key = m.get key := rfl

/-- A value of a frozen mapping is itself frozen. -/
theorem canon_get {m : JsonObject} (found : m.get key = some value) : value.canon = value := by
  have seen := lookup_canonFields key m.fields
  rw [m.frozen] at seen
  simp only [get] at found
  rw [found] at seen
  simpa using seen.symm

end JsonObject

/-- `freeze_json_mapping` on the items of a dict. -/
def freezeFields (field : String) (fields : Fields) : Except PyError JsonObject :=
  match checked : Json.checkFields field fields with
  | .error e => .error e
  | .ok () => .ok ⟨Json.canonFields fields, acceptedFields_canon _ ((checkFields_iff fields field).mp checked),
      canonFields_canonFields fields⟩

/-- `freeze_json_mapping`. -/
def freezeJsonMapping (field : String) : Json → Except PyError JsonObject
  | .obj fields => freezeFields field fields
  | .null => .ok .empty
  | other =>
    match other.check field with
    | .error e => .error e
    | .ok () => .error ⟨.coreContract, field ++ " must be a JSON object"⟩

/-- `freeze_json_value`. -/
def freezeJsonValue (field : String) (value : Json) : Except PyError Json :=
  match value.check field with
  | .error e => .error e
  | .ok () => .ok value.canon

theorem freezeFields_ok {field : String} {fields : Fields} :
    freezeFields field fields = .ok m ↔
      Json.acceptedFields fields = true ∧ m.fields = Json.canonFields fields := by
  rw [← checkFields_iff fields field]
  unfold freezeFields
  split
  · rename_i checked
    simp [checked]
  · rename_i checked
    simp only [checked, true_and, Except.ok.injEq]
    constructor
    · rintro rfl; rfl
    · intro same; cases m; cases same; rfl

theorem freezeFields_of_accepted {fields : Fields} (kept : Json.acceptedFields fields = true)
    (field : String) :
    freezeFields field fields =
      .ok ⟨Json.canonFields fields, acceptedFields_canon _ kept, canonFields_canonFields fields⟩ :=
  freezeFields_ok.mpr ⟨kept, rfl⟩

/-- What a lookup in a freshly frozen mapping sees. -/
theorem get_freezeFields (frozen : freezeFields field fields = .ok m) (key : String) :
    m.get key = (fields.lookup key).map Json.canon := by
  simp [JsonObject.get, (freezeFields_ok.mp frozen).2]

@[simp] theorem freezeFields_object (m : JsonObject) (field : String) :
    freezeFields field m.fields = .ok m :=
  freezeFields_ok.mpr ⟨m.accepted, m.frozen.symm⟩

@[simp] theorem freezeJsonMapping_toJson (m : JsonObject) (field : String) :
    freezeJsonMapping field m.toJson = .ok m := freezeFields_object m field

theorem canonicalJsonBytes_of_accepted {value : Json} (kept : value.accepted = true) :
    canonicalJsonBytes value = .ok value.encode := by
  simp [canonicalJsonBytes, (check_iff value _).mpr kept]

end Molly
