import Molly.File.Joined

/-! Canonical bytes as a code: which values have them, and that they tell values apart. -/
namespace Molly

/-! ### Python values -/

inductive SequenceType where
  | list | tuple
  deriving DecidableEq

/-- A Python value that a caller may hand over as JSON. The key of a field that is not a string is
`none`, and `other` is a value of any other class. Of several pairs of one key the first is its item. -/
inductive NativeValue where
  | null
  | bool (value : Bool)
  | int (value : Int)
  | float (value : FiniteFloat)
  | nonFinite (value : NonFinite)
  | str (text : PyText)
  | sequence (type : SequenceType) (items : List NativeValue)
  | mapping (fields : List (Option PyText × NativeValue))
  | other

abbrev NativeFields := List (Option PyText × NativeValue)

/-- An immutable JSON value: its sequences are tuples, its mappings proxies. -/
inductive FrozenJson where
  | null
  | bool (value : Bool)
  | int (value : Int)
  | float (value : FiniteFloat)
  | str (text : PyText)
  | tuple (items : List FrozenJson)
  | mapping (fields : List (PyText × FrozenJson))

mutual
/-- `_freeze_json`. -/
def NativeValue.freezeJson (field : String) : NativeValue → Except PyError FrozenJson
  | .null => .ok .null
  | .str text => .ok (.str text)
  | .bool b => .ok (.bool b)
  | .int n => .ok (.int n)
  | .nonFinite _ => .error ⟨.coreContract, field ++ " cannot contain NaN or infinity"⟩
  | .float x => .ok (.float x)
  | .mapping fields => do
    let frozen ← NativeValue.freezeFields field fields
    return .mapping frozen
  | .sequence _ items => do
    let frozen ← NativeValue.freezeItems field items
    return .tuple frozen
  | .other => .error ⟨.coreContract, field ++ " must contain only canonical JSON values"⟩

def NativeValue.freezeItems (field : String) : List NativeValue → Except PyError (List FrozenJson)
  | [] => .ok []
  | item :: items => do
    let frozen ← NativeValue.freezeJson field item
    let rest ← NativeValue.freezeItems field items
    return frozen :: rest

def NativeValue.freezeFields (field : String) : NativeFields → Except PyError (List (PyText × FrozenJson))
  | [] => .ok []
  | (none, _) :: _ | (some [], _) :: _ => .error ⟨.coreContract, field ++ " object keys must be non-empty strings"⟩
  | (some (p :: key), item) :: fields =>
    let shown := PyText.display (p :: key)
    if sensitiveKey shown then
      .error ⟨.coreContract, field ++ " cannot store credential-like key " ++ pyQuote shown⟩
    else do
      let frozen ← NativeValue.freezeJson (field ++ "." ++ shown) item
      let rest ← NativeValue.freezeFields field fields
      return (p :: key, frozen) :: rest
end

mutual
/-- `thaw_json`: the sequences of the thawed value are lists. -/
def FrozenJson.thawJson : FrozenJson → PyValue
  | .mapping fields => .obj (FrozenJson.thawFields fields)
  | .tuple items => .arr (FrozenJson.thawItems items)
  | .null => .null
  | .bool b => .bool b
  | .int n => .int n
  | .float x => .float x
  | .str text => .str text

def FrozenJson.thawItems : List FrozenJson → List PyValue
  | [] => []
  | item :: items => item.thawJson :: FrozenJson.thawItems items

def FrozenJson.thawFields : List (PyText × FrozenJson) → PyFields
  | [] => []
  | (key, item) :: fields => (key, item.thawJson) :: FrozenJson.thawFields fields
end

/-- `json.dumps` with `ensure_ascii` and `sort_keys`, as UTF-8. -/
def PyValue.jsonDumps (value : PyValue) : Except PyError Bytes :=
  if value.fits then .ok value.encode
  else .error ⟨.valueError, "Exceeds the limit (4300 digits) for integer string conversion"⟩

/-- `canonical_json_bytes`. -/
def NativeValue.canonicalJsonBytes (value : NativeValue) : Except PyError Bytes :=
  orRaise (do
    let normalized ← value.freezeJson "canonical JSON"
    normalized.thawJson.jsonDumps) .coreContract "value is not canonical JSON"

/-! ### The texts and numbers of a value -/

mutual
/-- Its strings are sequences of Unicode scalar values. -/
def NativeValue.Scalar : NativeValue → Prop
  | .str text => text.Scalar
  | .sequence _ items => NativeValue.ScalarItems items
  | .mapping fields => NativeValue.ScalarFields fields
  | _ => True

def NativeValue.ScalarItems : List NativeValue → Prop
  | [] => True
  | item :: items => item.Scalar ∧ NativeValue.ScalarItems items

def NativeValue.ScalarFields : NativeFields → Prop
  | [] => True
  | (key, item) :: fields => (∀ text, key = some text → text.Scalar) ∧ item.Scalar ∧ NativeValue.ScalarFields fields
end

mutual
/-- Each of its integers has at most `maxStrDigits` decimal digits. -/
def NativeValue.Fits : NativeValue → Prop
  | .int n => n.natAbs < 10 ^ maxStrDigits
  | .sequence _ items => NativeValue.FitsItems items
  | .mapping fields => NativeValue.FitsFields fields
  | _ => True

def NativeValue.FitsItems : List NativeValue → Prop
  | [] => True
  | item :: items => item.Fits ∧ NativeValue.FitsItems items

def NativeValue.FitsFields : NativeFields → Prop
  | [] => True
  | (_, item) :: fields => item.Fits ∧ NativeValue.FitsFields fields
end

/-! ### Equality of JSON values -/

/-- Equality up to the order of keys and the choice of lists or tuples. A boolean equals no integer. -/
inductive NativeValue.Equal : NativeValue → NativeValue → Prop
  | null : Equal .null .null
  | bool (b : Bool) : Equal (.bool b) (.bool b)
  | int (n : Int) : Equal (.int n) (.int n)
  | float (x : FiniteFloat) : Equal (.float x) (.float x)
  | str (text : PyText) : Equal (.str text) (.str text)
  | sequence (type type' : SequenceType) {xs ys : List NativeValue} (length : xs.length = ys.length)
      (each : ∀ (i : Nat) (x y : NativeValue), xs[i]? = some x → ys[i]? = some y → Equal x y) :
      Equal (.sequence type xs) (.sequence type' ys)
  | mapping {fields fields' : NativeFields}
      (keys : ∀ key : Option PyText, (fields.lookup key).isSome = (fields'.lookup key).isSome)
      (each : ∀ (key : Option PyText) (x y : NativeValue), fields.lookup key = some x → fields'.lookup key = some y → Equal x y) :
      Equal (.mapping fields) (.mapping fields')

mutual
/-- A value of `json.loads` or `thaw_json`, whose sequences are lists. -/
def NativeValue.ofValue : PyValue → NativeValue
  | .null => .null
  | .bool b => .bool b
  | .int n => .int n
  | .float x => .float x
  | .nonFinite x => .nonFinite x
  | .str text => .str text
  | .arr items => .sequence .list (NativeValue.ofValues items)
  | .obj fields => .mapping (NativeValue.ofValueFields fields)

def NativeValue.ofValues : List PyValue → List NativeValue
  | [] => []
  | item :: items => NativeValue.ofValue item :: NativeValue.ofValues items

def NativeValue.ofValueFields : PyFields → NativeFields
  | [] => []
  | (key, item) :: fields => (some key, NativeValue.ofValue item) :: NativeValue.ofValueFields fields
end

mutual
/-- The value without its choice of lists and tuples. What no JSON value is stays refused. -/
def NativeValue.plain : NativeValue → PyValue
  | .null => .null
  | .bool b => .bool b
  | .int n => .int n
  | .float x => .float x
  | .nonFinite x => .nonFinite x
  | .str text => .str text
  | .sequence _ items => .arr (NativeValue.plainItems items)
  | .mapping fields => .obj (NativeValue.plainFields fields)
  | .other => .nonFinite .nan

def NativeValue.plainItems : List NativeValue → List PyValue
  | [] => []
  | item :: items => item.plain :: NativeValue.plainItems items

def NativeValue.plainFields : NativeFields → PyFields
  | [] => []
  | (key, item) :: fields => (key.getD [], item.plain) :: NativeValue.plainFields fields
end

namespace NativeValue
open FrozenJson

/-! ### Freezing and thawing -/

mutual
theorem plain_ofValue : ∀ v : PyValue, (ofValue v).plain = v
  | .null | .bool _ | .int _ | .float _ | .nonFinite _ | .str _ => rfl
  | .arr items => by rw [ofValue, plain, plainItems_ofValues items]
  | .obj fields => by rw [ofValue, plain, plainFields_ofValueFields fields]

theorem plainItems_ofValues : ∀ items : List PyValue, plainItems (ofValues items) = items
  | [] => rfl
  | item :: items => by rw [ofValues, plainItems, plain_ofValue item, plainItems_ofValues items]

theorem plainFields_ofValueFields : ∀ fields : PyFields, plainFields (ofValueFields fields) = fields
  | [] => rfl
  | (key, item) :: fields => by
    rw [ofValueFields, plainFields, plain_ofValue item, plainFields_ofValueFields fields, Option.getD_some]
end

mutual
/-- Thawing what was frozen gives the value back, its tuples as lists. -/
theorem thaw_freeze : ∀ {v : NativeValue} {field : String} {frozen : FrozenJson},
    v.freezeJson field = .ok frozen → v.plain.accepted = true ∧ frozen.thawJson = v.plain
  | .null, _, _, rfl | .bool _, _, _, rfl | .int _, _, _, rfl | .float _, _, _, rfl | .str _, _, _, rfl => ⟨rfl, rfl⟩
  | .sequence _ items, field, _, done => by
    obtain ⟨parts, taken, same⟩ := bind_ok.mp done
    cases same
    obtain ⟨accepted, thawed⟩ := thaw_freezeItems items taken
    exact ⟨accepted, congrArg PyValue.arr thawed⟩
  | .mapping fields, field, _, done => by
    obtain ⟨parts, taken, same⟩ := bind_ok.mp done
    cases same
    obtain ⟨accepted, thawed⟩ := thaw_freezeFields fields taken
    exact ⟨accepted, congrArg PyValue.obj thawed⟩

theorem thaw_freezeItems : ∀ (items : List NativeValue) {field : String} {frozen : List FrozenJson},
    freezeItems field items = .ok frozen →
      PyValue.acceptedItems (plainItems items) = true ∧ thawItems frozen = plainItems items
  | [], _, _, rfl => ⟨rfl, rfl⟩
  | item :: items, field, _, done => by
    obtain ⟨first, taken, done⟩ := bind_ok.mp done
    obtain ⟨rest, others, same⟩ := bind_ok.mp done
    cases same
    obtain ⟨accepted, thawed⟩ := thaw_freeze taken
    obtain ⟨accepted', thawed'⟩ := thaw_freezeItems items others
    simp [plainItems, PyValue.acceptedItems, thawItems, accepted, accepted', thawed, thawed']

theorem thaw_freezeFields : ∀ (fields : NativeFields) {field : String} {frozen : List (PyText × FrozenJson)},
    freezeFields field fields = .ok frozen →
      PyValue.acceptedFields (plainFields fields) = true ∧ thawFields frozen = plainFields fields
  | [], _, _, rfl => ⟨rfl, rfl⟩
  | (some (p :: key), item) :: fields, field, _, done => by
    by_cases sensitive : sensitiveKey (PyText.display (p :: key)) = true
    · simp [freezeFields, sensitive] at done
    simp only [freezeFields, sensitive, Bool.false_eq_true, ↓reduceIte] at done
    obtain ⟨first, taken, done⟩ := bind_ok.mp done
    obtain ⟨rest, others, same⟩ := bind_ok.mp done
    cases same
    obtain ⟨accepted, thawed⟩ := thaw_freeze taken
    obtain ⟨accepted', thawed'⟩ := thaw_freezeFields fields others
    simp [plainFields, PyValue.acceptedFields, thawFields, sensitive, accepted, accepted', thawed, thawed']
end

mutual
/-- Freezing refuses nothing else. -/
theorem freeze_of_accepted : ∀ (v : NativeValue) (field : String), v.plain.accepted = true →
    ∃ frozen, v.freezeJson field = .ok frozen
  | .null, _, _ | .bool _, _, _ | .int _, _, _ | .float _, _, _ | .str _, _, _ => ⟨_, rfl⟩
  | .sequence _ items, field, accepted => by
    obtain ⟨frozen, taken⟩ := freezeItems_of_accepted items field accepted
    exact ⟨_, bind_ok.mpr ⟨frozen, taken, rfl⟩⟩
  | .mapping fields, field, accepted => by
    obtain ⟨frozen, taken⟩ := freezeFields_of_accepted fields field accepted
    exact ⟨_, bind_ok.mpr ⟨frozen, taken, rfl⟩⟩

theorem freezeItems_of_accepted : ∀ (items : List NativeValue) (field : String),
    PyValue.acceptedItems (plainItems items) = true → ∃ frozen, freezeItems field items = .ok frozen
  | [], _, _ => ⟨_, rfl⟩
  | item :: items, field, accepted => by
    simp only [plainItems, PyValue.acceptedItems, Bool.and_eq_true] at accepted
    obtain ⟨first, taken⟩ := freeze_of_accepted item field accepted.1
    obtain ⟨rest, others⟩ := freezeItems_of_accepted items field accepted.2
    exact ⟨_, bind_ok.mpr ⟨first, taken, bind_ok.mpr ⟨rest, others, rfl⟩⟩⟩

theorem freezeFields_of_accepted : ∀ (fields : NativeFields) (field : String),
    PyValue.acceptedFields (plainFields fields) = true → ∃ frozen, freezeFields field fields = .ok frozen
  | [], _, _ => ⟨_, rfl⟩
  | (none, _) :: _, _, accepted | (some [], _) :: _, _, accepted => by
    simp [plainFields, PyValue.acceptedFields] at accepted
  | (some (p :: key), item) :: fields, field, accepted => by
    simp only [plainFields, PyValue.acceptedFields, Option.getD_some, Bool.and_eq_true, Bool.not_eq_true'] at accepted
    obtain ⟨⟨⟨-, insensitive⟩, head⟩, tail⟩ := accepted
    obtain ⟨first, taken⟩ := freeze_of_accepted item (field ++ "." ++ PyText.display (p :: key)) head
    obtain ⟨rest, others⟩ := freezeFields_of_accepted fields field tail
    simp only [freezeFields, insensitive, Bool.false_eq_true, ↓reduceIte]
    exact ⟨_, bind_ok.mpr ⟨first, taken, bind_ok.mpr ⟨rest, others, rfl⟩⟩⟩
end

/-- The canonical bytes of a value are those of the value as plain JSON. -/
theorem canonicalJsonBytes_eq (v : NativeValue) : v.canonicalJsonBytes = v.plain.canonicalBytes := by
  by_cases accepted : v.plain.accepted = true
  · obtain ⟨frozen, taken⟩ := freeze_of_accepted v "canonical JSON" accepted
    have thawed := (thaw_freeze taken).2
    have checked := (pyCheck_iff v.plain "canonical JSON").mpr accepted
    have run : (do
        let normalized ← v.freezeJson "canonical JSON"
        normalized.thawJson.jsonDumps) = v.plain.jsonDumps := by
      rw [taken, ← thawed]
      rfl
    rw [canonicalJsonBytes, run, PyValue.canonicalBytes, checked, PyValue.jsonDumps]
    by_cases fits : v.plain.fits = true
    · simp [fits]
    · simp [fits]
  · have refused : v.plain.check "canonical JSON" ≠ .ok () := fun checked => accepted ((pyCheck_iff _ _).mp checked)
    unfold canonicalJsonBytes PyValue.canonicalBytes
    cases taken : v.freezeJson "canonical JSON" with
    | ok frozen => exact absurd (thaw_freeze taken).1 accepted
    | error e =>
      split
      · rfl
      · contradiction

theorem ofValue_canonicalJsonBytes (v : PyValue) : (ofValue v).canonicalJsonBytes = v.canonicalBytes := by
  rw [canonicalJsonBytes_eq, plain_ofValue]

theorem intFits_iff (n : Int) : intFits n = true ↔ n.natAbs < 10 ^ maxStrDigits := by
  unfold intFits
  exact decide_eq_true_iff

mutual
theorem plain_fits : ∀ v : NativeValue, v.plain.fits = true ↔ v.Fits
  | .null | .bool _ | .float _ | .nonFinite _ | .str _ | .other => by simp [plain, PyValue.fits, Fits]
  | .int n => intFits_iff n
  | .sequence _ items => plainItems_fits items
  | .mapping fields => plainFields_fits fields

theorem plainItems_fits : ∀ items : List NativeValue, PyValue.fitsItems (plainItems items) = true ↔ FitsItems items
  | [] => by simp [plainItems, PyValue.fitsItems, FitsItems]
  | item :: items => by
    simp [plainItems, PyValue.fitsItems, FitsItems, plain_fits item, plainItems_fits items]

theorem plainFields_fits : ∀ fields : NativeFields, PyValue.fitsFields (plainFields fields) = true ↔ FitsFields fields
  | [] => by simp [plainFields, PyValue.fitsFields, FitsFields]
  | (_, item) :: fields => by
    simp [plainFields, PyValue.fitsFields, FitsFields, plain_fits item, plainFields_fits fields]
end

mutual
theorem plain_scalar : ∀ v : NativeValue, v.Scalar → v.plain.Scalar
  | .null, _ | .bool _, _ | .int _, _ | .float _, _ | .nonFinite _, _ | .other, _ => trivial
  | .str _, scalar => scalar
  | .sequence _ items, scalar => plainItems_scalar items scalar
  | .mapping fields, scalar => plainFields_scalar fields scalar

theorem plainItems_scalar : ∀ items : List NativeValue, ScalarItems items → PyValue.ScalarItems (plainItems items)
  | [], _ => trivial
  | item :: items, scalar => ⟨plain_scalar item scalar.1, plainItems_scalar items scalar.2⟩

theorem plainFields_scalar : ∀ fields : NativeFields, ScalarFields fields → PyValue.ScalarFields (plainFields fields)
  | [], _ => trivial
  | (none, item) :: fields, scalar =>
    ⟨fun _ member => absurd member List.not_mem_nil, plain_scalar item scalar.2.1, plainFields_scalar fields scalar.2.2⟩
  | (some key, item) :: fields, scalar =>
    ⟨scalar.1 key rfl, plain_scalar item scalar.2.1, plainFields_scalar fields scalar.2.2⟩
end

/-! ### Equal values have one frozen form -/

theorem canonItems_plain (items : List NativeValue) :
    PyValue.canonItems (plainItems items) = items.map fun item => item.plain.canon := by
  induction items with
  | nil => rfl
  | cons item items ih => rw [plainItems, PyValue.canonItems, ih, List.map_cons]

theorem acceptedItems_plain {items : List NativeValue} (accepted : PyValue.acceptedItems (plainItems items) = true) :
    ∀ item ∈ items, item.plain.accepted = true := by
  induction items with
  | nil => simp
  | cons first items ih =>
    simp only [plainItems, PyValue.acceptedItems, Bool.and_eq_true] at accepted
    intro item member
    rcases List.mem_cons.mp member with rfl | member
    · exact accepted.1
    · exact ih accepted.2 item member

/-- Every key of an accepted mapping is a text, under which the plain mapping has the same item. -/
theorem lookup_plain {fields : NativeFields} (accepted : PyValue.acceptedFields (plainFields fields) = true) :
    fields.lookup none = none ∧
      ∀ key, (plainFields fields).lookup key = (fields.lookup (some key)).map plain := by
  induction fields with
  | nil => exact ⟨rfl, fun _ => rfl⟩
  | cons field fields ih =>
    obtain ⟨key, item⟩ := field
    simp only [plainFields, PyValue.acceptedFields, Bool.and_eq_true, decide_eq_true_eq] at accepted
    obtain ⟨⟨⟨nonempty, -⟩, -⟩, tail⟩ := accepted
    obtain ⟨absent, others⟩ := ih tail
    cases key with
    | none => exact absurd rfl nonempty
    | some text =>
      constructor
      · rw [Effect.SortedMap.lookup_cons, absent]
        rfl
      · intro key
        rw [plainFields, Option.getD_some, Effect.SortedMap.lookup_cons, Effect.SortedMap.lookup_cons, others]
        by_cases same : key = text
        · simp [same]
        · simp [same]

theorem acceptedFields_plain {fields : NativeFields} (accepted : PyValue.acceptedFields (plainFields fields) = true) :
    ∀ {key : Option PyText} {item : NativeValue}, fields.lookup key = some item → item.plain.accepted = true := by
  intro key item found
  obtain ⟨absent, others⟩ := lookup_plain accepted
  cases key with
  | none => simp [absent] at found
  | some key =>
    have here := others key
    rw [found] at here
    obtain ⟨before, after, same, -⟩ := List.lookup_eq_some_iff.mp here
    exact (acceptedFields_iff.mp accepted (key, item.plain) (by simp [same])).2.2

/-- Equal values have the same frozen form. -/
theorem Equal.canon {u v : NativeValue} (equal : Equal u v) :
    u.plain.accepted = true → v.plain.accepted = true → u.plain.canon = v.plain.canon := by
  induction equal with
  | null | bool | int | float | str => exact fun _ _ => rfl
  | @sequence _ _ xs ys length _ ih =>
    intro accepted accepted'
    rw [plain, plain, PyValue.canon, PyValue.canon, canonItems_plain, canonItems_plain]
    congr 1
    apply List.ext_getElem? fun i => ?_
    rw [List.getElem?_map, List.getElem?_map]
    cases left : xs[i]? with
    | none =>
      have beyond : ys[i]? = none := by
        rw [List.getElem?_eq_none_iff] at left ⊢
        omega
      rw [beyond]
    | some x =>
      obtain ⟨bound, -⟩ := List.getElem?_eq_some_iff.mp left
      obtain ⟨y, right⟩ : ∃ y, ys[i]? = some y := ⟨_, List.getElem?_eq_getElem (length ▸ bound)⟩
      have here := ih i x y left right (acceptedItems_plain accepted x (List.mem_of_getElem? left))
        (acceptedItems_plain accepted' y (List.mem_of_getElem? right))
      rw [right, Option.map_some, Option.map_some, here]
  | @mapping fields fields' keys _ ih =>
    intro accepted accepted'
    rw [plain, plain, PyValue.canon, PyValue.canon]
    congr 1
    refine Effect.SortedMap.ext_lookup (pyCanonFields_sorted _) (pyCanonFields_sorted _) fun key => ?_
    rw [lookup_pyCanonFields, lookup_pyCanonFields, (lookup_plain accepted).2, (lookup_plain accepted').2]
    have both := keys (some key)
    cases left : fields.lookup (some key) with
    | none =>
      rw [left, Option.isSome_none, Eq.comm, Option.isSome_eq_false_iff, Option.isNone_iff_eq_none] at both
      rw [both]
    | some x =>
      rw [left, Option.isSome_some, Eq.comm, Option.isSome_iff_exists] at both
      obtain ⟨y, right⟩ := both
      have here := ih (some key) x y left right (acceptedFields_plain accepted left) (acceptedFields_plain accepted' right)
      simp [right, here]

mutual
/-- Accepted values with the same frozen form are equal. -/
theorem equal_of_canon : ∀ {u v : NativeValue}, u.plain.accepted = true → v.plain.accepted = true →
    u.plain.canon = v.plain.canon → Equal u v
  | .null, v, _, _, same => by
    cases v <;> simp [plain, PyValue.canon] at same
    exact .null
  | .bool b, v, _, _, same => by
    cases v <;> simp [plain, PyValue.canon] at same
    exact same ▸ .bool b
  | .int n, v, _, _, same => by
    cases v <;> simp [plain, PyValue.canon] at same
    exact same ▸ .int n
  | .float x, v, _, _, same => by
    cases v <;> simp [plain, PyValue.canon] at same
    exact same ▸ .float x
  | .str text, v, _, _, same => by
    cases v <;> simp [plain, PyValue.canon] at same
    exact same ▸ .str text
  | .sequence type xs, v, accepted, accepted', same => by
    cases v with
    | sequence type' ys =>
      rw [plain, plain, PyValue.canon, PyValue.canon, PyValue.arr.injEq, canonItems_plain, canonItems_plain] at same
      refine .sequence type type' (by simpa using congrArg List.length same) fun i x y left right => ?_
      have here := congrArg (fun items => items[i]?) same
      simp only [List.getElem?_map, left, right, Option.map_some, Option.some.injEq] at here
      exact equalItems_of_canon xs x (List.mem_of_getElem? left)
        (acceptedItems_plain accepted x (List.mem_of_getElem? left))
        (acceptedItems_plain accepted' y (List.mem_of_getElem? right)) here
    | _ => simp [plain, PyValue.canon] at same
  | .mapping fields, v, accepted, accepted', same => by
    cases v with
    | mapping fields' =>
      rw [plain, plain, PyValue.canon, PyValue.canon, PyValue.obj.injEq] at same
      have answers (key : PyText) : (fields.lookup (some key)).map (PyValue.canon ∘ plain) =
          (fields'.lookup (some key)).map (PyValue.canon ∘ plain) := by
        have here := congrArg (List.lookup key) same
        rw [lookup_pyCanonFields, lookup_pyCanonFields, (lookup_plain accepted).2, (lookup_plain accepted').2] at here
        simpa using here
      refine .mapping (fun key => ?_) fun key x y left right => ?_
      · cases key with
        | none => rw [(lookup_plain accepted).1, (lookup_plain accepted').1]
        | some key => simpa using congrArg Option.isSome (answers key)
      · cases key with
        | none => simp [(lookup_plain accepted).1] at left
        | some key =>
          have here := answers key
          rw [left, right, Option.map_some, Option.map_some, Option.some.injEq] at here
          exact equalFields_of_canon fields left (acceptedFields_plain accepted left)
            (acceptedFields_plain accepted' right) here
    | _ => simp [plain, PyValue.canon] at same
  | .nonFinite _, _, accepted, _, _ | .other, _, accepted, _, _ => by simp [plain, PyValue.accepted] at accepted

theorem equalItems_of_canon : ∀ (xs : List NativeValue), ∀ x ∈ xs, ∀ {y : NativeValue}, x.plain.accepted = true →
    y.plain.accepted = true → x.plain.canon = y.plain.canon → Equal x y
  | x :: xs, z, member, y, accepted, accepted', same => by
    rcases List.mem_cons.mp member with head | member
    · rw [head] at accepted same ⊢
      exact equal_of_canon accepted accepted' same
    · exact equalItems_of_canon xs z member accepted accepted' same

theorem equalFields_of_canon : ∀ (fields : NativeFields) {key : Option PyText} {x y : NativeValue},
    fields.lookup key = some x → x.plain.accepted = true → y.plain.accepted = true →
    x.plain.canon = y.plain.canon → Equal x y
  | (k, z) :: fields, key, x, y, found, accepted, accepted', same => by
    rw [Effect.SortedMap.lookup_cons] at found
    split at found
    · rw [← Option.some.inj found] at accepted same ⊢
      exact equal_of_canon accepted accepted' same
    · exact equalFields_of_canon fields found accepted accepted' same
end

/-- Accepted values whose strings are Unicode scalar values have canonical bytes exactly when each integer
has a decimal text. These bytes are the same for equal values only, have no newline, and are read as a value
equal to the thawed one. -/
theorem canonicalJsonBytes_faithful {u v : NativeValue} {field : String} {frozen frozen' : FrozenJson}
    (taken : u.freezeJson field = .ok frozen) (taken' : v.freezeJson field = .ok frozen')
    (scalar : u.Scalar) (scalar' : v.Scalar) :
    ((∃ bytes, u.canonicalJsonBytes = .ok bytes) ↔ u.Fits) ∧
    ∀ bytes bytes', u.canonicalJsonBytes = .ok bytes → v.canonicalJsonBytes = .ok bytes' →
      (bytes = bytes' ↔ Equal u v) ∧ 10 ∉ bytes ∧
      ∃ text w, decodeUtf8 bytes = some text ∧ loads text = .ok w ∧ Equal (ofValue w) (ofValue frozen.thawJson) := by
  obtain ⟨accepted, thawed⟩ := thaw_freeze taken
  obtain ⟨accepted', -⟩ := thaw_freeze taken'
  have unpaired := (plain_scalar u scalar).unpaired
  have unpaired' := (plain_scalar v scalar').unpaired
  constructor
  · rw [canonicalJsonBytes_eq, ← plain_fits]
    constructor
    · rintro ⟨bytes, written⟩
      exact (canonicalBytes_eq_ok.mp written).2.1
    · intro fits
      exact ⟨_, canonicalBytes_eq_ok.mpr ⟨accepted, fits, rfl⟩⟩
  intro bytes bytes' written written'
  rw [canonicalJsonBytes_eq] at written written'
  obtain ⟨-, fits, rfl⟩ := canonicalBytes_eq_ok.mp written
  obtain ⟨-, fits', rfl⟩ := canonicalBytes_eq_ok.mp written'
  refine ⟨⟨fun same => ?_, fun equal => ?_⟩, newline_free _, ?_⟩
  · exact equal_of_canon accepted accepted' (encode_injective (canon_settled _ accepted fits unpaired)
      (canon_settled _ accepted' fits' unpaired') same)
  · rw [PyValue.encode, PyValue.encode, equal.canon accepted accepted']
  · obtain ⟨text, decoded, read⟩ := loads_canonical written (PyValue.keyed_of_unpaired unpaired)
    rw [PyValue.readBack_of_unpaired unpaired] at read
    refine ⟨text, _, decoded, read, ?_⟩
    apply equal_of_canon
    · rw [plain_ofValue]
      exact accepted_pyCanon _ accepted
    · rw [plain_ofValue, thawed]
      exact accepted
    · rw [plain_ofValue, plain_ofValue, thawed, pyCanon_canon]

end NativeValue

namespace Sample
open NativeValue

/-- `10 ** 4300` and the number after it have a digit too many for a decimal text. -/
def overlong : NativeValue := .int (10 ^ maxStrDigits : Nat)
def longer : NativeValue := .int ((10 ^ maxStrDigits : Nat) + 1)

theorem overlong_refused :
    overlong.freezeJson "canonical JSON" = .ok (.int (10 ^ maxStrDigits : Nat)) ∧
    longer.freezeJson "canonical JSON" = .ok (.int ((10 ^ maxStrDigits : Nat) + 1)) ∧
    (∀ bytes, overlong.canonicalJsonBytes ≠ .ok bytes) ∧
    overlong.canonicalJsonBytes = longer.canonicalJsonBytes ∧ ¬Equal overlong longer := by
  have refused (n : Int) (large : ¬n.natAbs < 10 ^ maxStrDigits) : (NativeValue.int n).canonicalJsonBytes =
      .error ⟨.coreContract, "value is not canonical JSON"⟩ := by
    have unfit : ¬(PyValue.int n).fits = true := fun fits => large ((intFits_iff n).mp fits)
    rw [canonicalJsonBytes_eq, plain, PyValue.canonicalBytes]
    simp [PyValue.check, unfit]
  unfold overlong longer
  generalize 10 ^ maxStrDigits = limit at refused ⊢
  have first := refused limit (by omega)
  have second := refused (limit + 1) (by omega)
  refine ⟨rfl, rfl, fun bytes written => ?_, first.trans second.symm, fun equal => ?_⟩
  · rw [first] at written
    contradiction
  · have same := equal.canon rfl rfl
    simp only [plain, PyValue.canon, PyValue.int.injEq] at same
    omega

def keyText (s : String) : PyText := PyText.ofString s

/-- `{"z": [2, 1], "a": {"b": True, "a": "x"}}`. -/
def unordered : NativeValue := .mapping
  [(some (keyText "z"), .sequence .list [.int 2, .int 1]),
    (some (keyText "a"), .mapping [(some (keyText "b"), .bool true), (some (keyText "a"), .str (keyText "x"))])]

/-- `{"a": {"a": "x", "b": True}, "z": (2, 1)}`. -/
def ordered : NativeValue := .mapping
  [(some (keyText "a"), .mapping [(some (keyText "a"), .str (keyText "x")), (some (keyText "b"), .bool true)]),
    (some (keyText "z"), .sequence .tuple [.int 2, .int 1])]

theorem canonicalJsonBytes_faithful_unordered : Equal unordered ordered := by
  have accepted : unordered.plain.accepted = true ∧ ordered.plain.accepted = true := by decide +kernel
  obtain ⟨frozen, taken⟩ := freeze_of_accepted unordered "canonical JSON" accepted.1
  obtain ⟨frozen', taken'⟩ := freeze_of_accepted ordered "canonical JSON" accepted.2
  have plainText (s : String) : (keyText s).Scalar := PyText.ofString_scalar s
  have scalarKey (s : String) : ∀ t, some (keyText s) = some t → t.Scalar := fun t same => Option.some.inj same ▸ plainText s
  have scalar : unordered.Scalar :=
    ⟨scalarKey _, ⟨trivial, trivial, trivial⟩, scalarKey _, ⟨scalarKey _, trivial, scalarKey _, plainText _, trivial⟩, trivial⟩
  have scalar' : ordered.Scalar :=
    ⟨scalarKey _, ⟨scalarKey _, plainText _, scalarKey _, trivial, trivial⟩, scalarKey _, ⟨trivial, trivial, trivial⟩, trivial⟩
  have bytes : unordered.canonicalJsonBytes =
      .ok ("\x7b\"a\":\x7b\"a\":\"x\",\"b\":true\x7d,\"z\":[2,1]\x7d".toUTF8.toList) := by decide +kernel
  have bytes' : ordered.canonicalJsonBytes = unordered.canonicalJsonBytes := by decide +kernel
  exact ((canonicalJsonBytes_faithful taken taken' scalar scalar').2 _ _ bytes (bytes'.trans bytes)).1.mp rfl

end Sample
end Molly
