import Molly.File.Value

/-! Credential-like keys: which spellings of the listed terms `_freeze_json` lets into a record. -/
namespace Molly
open Effect (chars)

/-- The words of a folded key, between the characters other than `a-z0-9`. -/
def keyWords (key : String) : List String := (splitWords ((chars key).flatMap casefold)).map String.ofList

/-- The key has the words of the term, one after the other. -/
def Spells (key term : String) : Prop := keyWords term <:+: keyWords key

instance (key term : String) : Decidable (Spells key term) := inferInstanceAs (Decidable (_ <:+: _))

/-- A term of two words with further words beside it. -/
def Qualified (key : String) : Prop :=
  2 < (keyWords key).length ∧ ∃ first ∈ ["access", "api", "private"], [first, "key"] <:+: keyWords key

instance (key : String) : Decidable (Qualified key) := inferInstanceAs (Decidable (_ ∧ ∃ first ∈ _, _))

mutual
/-- The mapping keys of a value, at every depth. -/
def PyValue.keys : PyValue → List PyText
  | .arr items => PyValue.keysItems items
  | .obj fields => PyValue.keysFields fields
  | _ => []

def PyValue.keysItems : List PyValue → List PyText
  | [] => []
  | item :: items => item.keys ++ PyValue.keysItems items

def PyValue.keysFields : PyFields → List PyText
  | [] => []
  | (key, item) :: fields => key :: (item.keys ++ PyValue.keysFields fields)
end

/-! ### One key -/

theorem listed_words : ∀ term ∈ sensitiveKeyParts, keyWords term = [term] ∨
    ∃ first ∈ ["access", "api", "private"], keyWords term = [first, "key"] ∧ "_".intercalate [first, "key"] = term := by
  decide +kernel

theorem listed_pair : ∀ first ∈ ["access", "api", "private"],
    "_".intercalate [first, "key"] ∈ sensitiveKeyParts ∧
      keyWords ("_".intercalate [first, "key"]) = [first, "key"] := by
  decide +kernel

theorem not_sensitive {key : String} : sensitiveKey key = false ↔
    "_".intercalate (keyWords key) ∉ sensitiveKeyParts ∧ ∀ word ∈ keyWords key, word ∉ sensitiveKeyParts := by
  simp [sensitiveKey, keyWords]

theorem spells_iff_qualified {key : String} (plain : sensitiveKey key = false) :
    (∃ term ∈ sensitiveKeyParts, Spells key term) ↔ Qualified key := by
  obtain ⟨whole, single⟩ := not_sensitive.mp plain
  constructor
  · intro ⟨term, listed, spelled⟩
    rcases listed_words term listed with one | ⟨first, mem, two, joined⟩
    · have inside : term ∈ keyWords key := by
        rw [Spells, one] at spelled
        exact spelled.subset (List.mem_singleton_self term)
      exact absurd listed (single term inside)
    · rw [Spells, two] at spelled
      by_cases long : 2 < (keyWords key).length
      · exact ⟨long, first, mem, spelled⟩
      · have same : [first, "key"] = keyWords key := spelled.eq_of_length_le (by simpa using long)
        rw [← same, joined] at whole
        exact absurd listed whole
  · intro ⟨_, first, mem, inside⟩
    obtain ⟨listed, two⟩ := listed_pair first mem
    exact ⟨_, listed, by rw [Spells, two]; exact inside⟩

/-! ### Every depth -/

mutual
theorem plain_keys : ∀ (v : PyValue), v.accepted = true → ∀ key ∈ v.keys, sensitiveKey key.display = false
  | .arr items, accepted => by
    simpa [PyValue.keys] using plain_keysItems items (by simpa [PyValue.accepted] using accepted)
  | .obj fields, accepted => by
    simpa [PyValue.keys] using plain_keysFields fields (by simpa [PyValue.accepted] using accepted)
  | .null, _ | .bool _, _ | .int _, _ | .float _, _ | .nonFinite _, _ | .str _, _ => by simp [PyValue.keys]

theorem plain_keysItems : ∀ (items : List PyValue), PyValue.acceptedItems items = true →
    ∀ key ∈ PyValue.keysItems items, sensitiveKey key.display = false
  | [], _ => by simp [PyValue.keysItems]
  | item :: items, accepted => by
    simp only [PyValue.acceptedItems, Bool.and_eq_true] at accepted
    intro key member
    rcases List.mem_append.mp member with member | member
    · exact plain_keys item accepted.1 key member
    · exact plain_keysItems items accepted.2 key member

theorem plain_keysFields : ∀ (fields : PyFields), PyValue.acceptedFields fields = true →
    ∀ key ∈ PyValue.keysFields fields, sensitiveKey key.display = false
  | [], _ => by simp [PyValue.keysFields]
  | (name, item) :: fields, accepted => by
    simp only [PyValue.acceptedFields, Bool.and_eq_true, Bool.not_eq_true'] at accepted
    intro key member
    rcases List.mem_cons.mp member with rfl | member
    · exact accepted.1.1.2
    rcases List.mem_append.mp member with member | member
    · exact plain_keys item accepted.1.2 key member
    · exact plain_keysFields fields accepted.2 key member
end

/-- An accepted value is free of the listed terms exactly when none of its keys has a term of
two words with further words beside it. -/
theorem credential_terms {field : String} {value : PyValue} (frozen : value.check field = .ok ()) :
    (∀ key ∈ value.keys, ∀ term ∈ sensitiveKeyParts, ¬ Spells key.display term) ↔
      ∀ key ∈ value.keys, ¬ Qualified key.display := by
  have plain := plain_keys value ((pyCheck_iff value field).mp frozen)
  constructor
  · intro free key member qualified
    obtain ⟨term, listed, spelled⟩ := (spells_iff_qualified (plain key member)).mpr qualified
    exact free key member term listed spelled
  · intro free key member term listed spelled
    exact free key member ((spells_iff_qualified (plain key member)).mp ⟨term, listed, spelled⟩)

namespace Sample

/-- A vendor's key inside an argument of a call. -/
def vendorKey (name : String) : PyValue :=
  .obj [(PyText.ofString "arguments", .arr [.obj [(PyText.ofString name, .str (PyText.ofString "sk"))]])]

theorem credential_terms_plain :
    (∀ key ∈ (vendorKey "api_version").keys, ∀ term ∈ sensitiveKeyParts, ¬ Spells key.display term) ↔
      ∀ key ∈ (vendorKey "api_version").keys, ¬ Qualified key.display :=
  have frozen : (vendorKey "api_version").check "metadata" = .ok () := (pyCheck_iff _ _).mpr (by decide +kernel)
  credential_terms frozen

theorem credential_terms_fails : ¬ ∀ (field : String) (value : PyValue), value.check field = .ok () →
    ∀ key ∈ value.keys, ∀ term ∈ sensitiveKeyParts, ¬ Spells key.display term := by
  intro free
  have frozen : (vendorKey "openai_api_key").check "metadata" = .ok () := (pyCheck_iff _ _).mpr (by decide +kernel)
  have spelled : Spells (PyText.ofString "openai_api_key").display "api_key" := by decide +kernel
  exact free "metadata" _ frozen (PyText.ofString "openai_api_key") (by simp [vendorKey, PyValue.keys, PyValue.keysFields,
    PyValue.keysItems]) "api_key" (by decide) spelled

end Sample

end Molly
