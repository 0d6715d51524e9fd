import Molly.Oled.Texts

/-! The closed OLED property vocabulary and the normalization of its units. -/
namespace Molly

inductive OledProperty where
  | plqy
  deriving DecidableEq

def OledProperty.text : OledProperty → String
  | .plqy => "PLQY"

inductive PropertyUnitStatus where
  | normalized | unresolved
  deriving DecidableEq

def PropertyUnitStatus.text : PropertyUnitStatus → String
  | .normalized => "NORMALIZED"
  | .unresolved => "UNRESOLVED"

/-- An original value: a number or a text. -/
inductive PyScalar where
  | number (value : PyNumber)
  | text (value : PyText)
  deriving DecidableEq

def PyScalar.toValue : PyScalar → PyValue
  | .number n => n.toValue
  | .text t => .str t

/-- The unit of a normalized property. -/
abbrev fractionUnit : PyText := PyText.ofString "fraction"

section
variable [CaseText] [PrintableText]

/-- `_property`. -/
def propertyOf : PyValue → Except PyError OledProperty
  | .str value =>
    let normalized := value.strip.upper.map fun p => if p = 32 then 95 else p
    if normalized ∈ ["PHOTOLUMINESCENCE_QUANTUM_YIELD", "QUANTUM_YIELD", "PLQY"].map PyText.ofString then .ok .plqy
    else .error ⟨.coreContract, "unsupported OLED property: " ++ (reprText value).display⟩
  | _ => .error ⟨.coreContract, "property_id must be text"⟩

/-- `_number`. -/
def numberOf (field : String) : PyValue → Except PyError (Option PyNumber)
  | .null => .ok none
  | .int n => do
    let _ ← (PyNumber.int n).toFloat
    return some (.int n)
  | .float x => .ok (some (.float x))
  | .nonFinite _ => .error ⟨.coreContract, field ++ " must be finite"⟩
  | _ => .error ⟨.coreContract, field ++ " must be a finite number or null"⟩

/-- `_unit`. -/
def unitOf : PyValue → Except PyError (Option PyText)
  | .null => .ok none
  | .str value =>
    if 64 < value.length || value.hasNul then .error ⟨.coreContract, "property unit must be bounded text"⟩
    else .ok value.strip.casefold.orNone
  | _ => .error ⟨.coreContract, "property unit must be bounded text"⟩

def unitStatusOf (value : PyValue) : Except PyError PropertyUnitStatus :=
  match value with
  | .str status =>
    if status.strip.upper = PyText.ofString "NORMALIZED" then .ok .normalized
    else if status.strip.upper = PyText.ofString "UNRESOLVED" then .ok .unresolved
    else .error ⟨.coreContract, "unknown property unit status: " ++ (reprText status).display⟩
  | _ => .error ⟨.coreContract, "property unit status must be text"⟩

/-- `self.original_value if self.original_value is not None else value`. -/
def originalOf (originalValue : PyValue) (value : Option PyNumber) : Except PyError (Option PyScalar) :=
  match originalValue with
  | .null => .ok (value.map .number)
  | .int n => .ok (some (.number (.int n)))
  | .float x => .ok (some (.number (.float x)))
  | .str t => .ok (some (.text t))
  | .nonFinite _ => .error ⟨.coreContract, "original property value must be finite"⟩
  | _ => .error ⟨.coreContract, "original property value must be scalar"⟩

/-- What a property marked as normalized must have: a unit, and a fraction from 0 to 1. -/
def Measured (value : Option PyNumber) (unit : Option PyText) : Prop :=
  ∃ n x, value = some n ∧ unit.isSome = true ∧ n.toFloat = .ok x ∧ x.between 0 1 = true

structure NormalizedProperty where
  propertyId : OledProperty
  value : Option PyNumber
  unit : Option PyText
  originalValue : Option PyScalar
  originalUnit : Option PyText
  status : PropertyUnitStatus
  measured : status = .normalized → Measured value unit

namespace NormalizedProperty

/-- The constructor. -/
def create (propertyId value unit originalValue originalUnit status : PyValue) : Except PyError NormalizedProperty := do
  let propertyId ← propertyOf propertyId
  let value ← numberOf "property value" value
  let originalValue ← originalOf originalValue value
  let unit ← unitOf unit
  let originalUnit ← unitOf originalUnit
  match ← unitStatusOf status with
  | .unresolved => return ⟨propertyId, value, unit, originalValue, originalUnit, .unresolved, nofun⟩
  | .normalized =>
    match found : value, unit.isSome with
    | some n, true =>
      match float : n.toFloat with
      | .error e => throw e
      | .ok x =>
        if inside : unit.isSome = true ∧ x.between 0 1 = true then
          return ⟨propertyId, value, unit, originalValue, originalUnit, .normalized, fun _ => ⟨n, x, found, inside.1, float, inside.2⟩⟩
        else throw ⟨.coreContract, "normalized PLQY fraction must be between 0 and 1"⟩
    | _, _ => throw ⟨.coreContract, "normalized property requires value and unit"⟩

/-- `NormalizedProperty.normalize`. -/
def normalize (propertyId value unit : PyValue) : Except PyError NormalizedProperty := do
  let propertyId ← propertyOf propertyId
  let build (value unit : PyValue) (original originalUnit : PyValue) (status : PropertyUnitStatus) :=
    create (.str (PyText.ofString propertyId.text)) value unit original originalUnit (.str (PyText.ofString status.text))
  if value.isNone || unit.isNone then build .null .null value unit .unresolved
  else
    match numberOf "property value" value with
    | .error e =>
      if e.cls.isInstance .coreContract then
        build .null (pyTextOrNull (← unitOf unit)) value unit .unresolved
      else throw e
    | .ok numeric =>
      let normalizedUnit ← unitOf unit
      if normalizedUnit ∈ ["%", "percent", "percentage"].map fun u => some (PyText.ofString u) then
        match numeric with
        | none => throw ⟨.typeError, "float() argument must be a string or a real number"⟩
        | some n =>
          match (← n.toFloat).percent with
          | none => throw ⟨.overflowError, "no quotient by 100 is out of range"⟩
          | some x => build (.float x) (.str fractionUnit) value unit .normalized
      else if normalizedUnit ∈ ["fraction", "unitless"].map fun u => some (PyText.ofString u) then
        build ((numeric.map PyNumber.toValue).getD .null) (.str fractionUnit) value unit .normalized
      else build .null (pyTextOrNull normalizedUnit) value unit .unresolved

/-- `from_mapping`. -/
def fromMapping : PyValue → Except PyError NormalizedProperty
  | .obj value =>
    if hasUnknown value ["property_id", "value", "unit", "original_value", "original_unit", "status", "property_value"] then
      .error ⟨.coreContract, "property has unknown fields"⟩
    else do
      let propertyId ← pyItem value "property_id"
      let rawValue := pyGet value "value" (pyGet value "property_value" .null)
      let rawUnit := pyGet value "unit" .null
      match value.lookup (PyText.ofString "status") with
      | none => normalize propertyId rawValue rawUnit
      | some status =>
        create propertyId rawValue rawUnit (pyGet value "original_value" rawValue) (pyGet value "original_unit" rawUnit)
          status
  | _ => .error ⟨.coreContract, "property must be an object"⟩

def normalized (p : NormalizedProperty) : Bool := p.status = .normalized

def entries (p : NormalizedProperty) : List (String × PyValue) :=
  [("property_id", .str (PyText.ofString p.propertyId.text)), ("value", (p.value.map PyNumber.toValue).getD .null),
    ("unit", pyTextOrNull p.unit), ("original_value", (p.originalValue.map PyScalar.toValue).getD .null),
    ("original_unit", pyTextOrNull p.originalUnit), ("status", .str (PyText.ofString p.status.text))]

def toDict (p : NormalizedProperty) : PyValue := .named p.entries

/-! ### What the constructors keep -/

variable {propertyId other value unit originalValue originalUnit status : PyValue} {p : NormalizedProperty}

/-- Each field of a property is made of the argument of its name. -/
theorem create_ok (made : create propertyId value unit originalValue originalUnit status = .ok p) :
    propertyOf propertyId = .ok p.propertyId ∧ numberOf "property value" value = .ok p.value ∧
      originalOf originalValue p.value = .ok p.originalValue ∧ unitOf unit = .ok p.unit ∧
      unitOf originalUnit = .ok p.originalUnit ∧ unitStatusOf status = .ok p.status := by
  unfold create at made
  obtain ⟨id, property, made⟩ := bind_ok.mp made
  obtain ⟨v, number, made⟩ := bind_ok.mp made
  obtain ⟨original, scalar, made⟩ := bind_ok.mp made
  obtain ⟨u, measure, made⟩ := bind_ok.mp made
  obtain ⟨ou, measured, made⟩ := bind_ok.mp made
  obtain ⟨s, marked, made⟩ := bind_ok.mp made
  cases s with
  | unresolved =>
    cases made
    exact ⟨property, number, scalar, measure, measured, marked⟩
  | normalized =>
    dsimp only at made
    split at made
    · split at made
      · cases made
      · split at made
        · cases made
          exact ⟨property, number, scalar, measure, measured, marked⟩
        · cases made
    · cases made

/-- The constructor looks at an original unit through `_unit` only. -/
theorem create_originalUnit {one two : PyValue} (same : unitOf one = unitOf two) :
    create propertyId value unit originalValue one status = create propertyId value unit originalValue two status := by
  unfold create
  rw [same]

/-- The units that normalization knows; each is its own normal form. -/
abbrev knownUnits : List PyText := ["%", "percent", "percentage", "fraction", "unitless"].map PyText.ofString

omit [PrintableText] in
theorem unitOf_known {text : PyText} (known : text ∈ knownUnits) : unitOf (.str text) = .ok (some text) := by
  have each : ∀ text ∈ knownUnits, text.length ≤ 64 ∧ text.hasNul = false ∧ text.strip = text ∧ text ≠ [] ∧
      (text.all fun p => p.val < 128 && !(65 ≤ p.val && p.val ≤ 90)) = true := by decide +kernel
  obtain ⟨short, clean, stripped, filled, plain⟩ := each text known
  have bounded : (decide (64 < text.length) || text.hasNul) = false := by simp [clean]; omega
  simp only [unitOf, bounded, stripped, PyText.casefold_ascii plain, PyText.orNone, if_neg filled, Bool.false_eq_true,
    if_false]

theorem propertyOf_text (p : OledProperty) : propertyOf (.str (PyText.ofString p.text)) = .ok p := by
  cases p
  have shape : (PyText.ofString "PLQY").strip = PyText.ofString "PLQY" ∧
      ((PyText.ofString "PLQY").all fun p => p.val < 128 && !(97 ≤ p.val && p.val ≤ 122)) = true ∧
      ((PyText.ofString "PLQY").map fun p => if p = 32 then (95 : CodePoint) else p) = PyText.ofString "PLQY" := by
    decide +kernel
  obtain ⟨stripped, plain, replaced⟩ := shape
  simp [propertyOf, OledProperty.text, stripped, PyText.upper_ascii plain, replaced]

/-- Normalization reads the property and the unit through `_property` and `_unit` only. -/
theorem normalize_congr {one two : PyValue} (property : propertyOf propertyId = propertyOf other)
    (same : unitOf one = unitOf two) (given : one.isNone = two.isNone) : normalize propertyId value one = normalize other value two := by
  unfold normalize
  rw [property, same, given]
  simp only [create_originalUnit same]

theorem unitStatusOf_text (s : PropertyUnitStatus) : unitStatusOf (.str (PyText.ofString s.text)) = .ok s := by
  have shape : ∀ word ∈ ["NORMALIZED", "UNRESOLVED"], (PyText.ofString word).strip = PyText.ofString word ∧
      ((PyText.ofString word).all fun p => p.val < 128 && !(97 ≤ p.val && p.val ≤ 122)) = true := by decide +kernel
  cases s
  · obtain ⟨stripped, plain⟩ := shape "NORMALIZED" (by simp)
    simp [unitStatusOf, PropertyUnitStatus.text, stripped, PyText.upper_ascii plain]
  · obtain ⟨stripped, plain⟩ := shape "UNRESOLVED" (by simp)
    simp [unitStatusOf, PropertyUnitStatus.text, stripped, PyText.upper_ascii plain]

/-- What the code normalizes is a fraction of a number in a known unit. -/
theorem normalize_normalized (made : normalize propertyId value unit = .ok p) (normalized : p.status = .normalized) :
    p.unit = some fractionUnit ∧ (∃ n, value = PyNumber.toValue n ∧ p.originalValue = some (.number n)) ∧
      ∃ text ∈ knownUnits, unitOf unit = .ok (some text) ∧ p.originalUnit = some text := by
  have unresolved {id v u : PyValue}
      (made : create id v u value unit (.str (PyText.ofString PropertyUnitStatus.unresolved.text)) = .ok p) : False := by
    obtain ⟨_, _, _, _, _, status⟩ := create_ok made
    rw [unitStatusOf_text, normalized] at status
    cases status
  unfold normalize at made
  obtain ⟨id, property, made⟩ := bind_ok.mp made
  dsimp only at made
  split at made
  · exact (unresolved made).elim
  rename_i given
  simp only [Bool.or_eq_true, not_or, Bool.not_eq_true] at given
  split at made
  · split at made
    · obtain ⟨u, _, made⟩ := bind_ok.mp made
      exact (unresolved made).elim
    · cases made
  rename_i numeric number
  obtain ⟨u, measure, made⟩ := bind_ok.mp made
  have fraction {v : PyValue} (known : ∃ text ∈ knownUnits, some text = u)
      (made : create (.str (PyText.ofString id.text)) v (.str fractionUnit) value unit
        (.str (PyText.ofString PropertyUnitStatus.normalized.text)) = .ok p) :
      p.unit = some fractionUnit ∧ (∃ n, value = PyNumber.toValue n ∧ p.originalValue = some (.number n)) ∧
        ∃ text ∈ knownUnits, unitOf unit = .ok (some text) ∧ p.originalUnit = some text := by
    obtain ⟨_, _, original, units, originalUnits, _⟩ := create_ok made
    obtain ⟨text, known, rfl⟩ := known
    rw [unitOf_known (by simp), Except.ok.injEq] at units
    rw [measure, Except.ok.injEq] at originalUnits
    refine ⟨units.symm, ?_, text, known, measure, originalUnits.symm⟩
    cases value with
    | null => cases given.1
    | int n => exact ⟨.int n, rfl, (Except.ok.inj original).symm⟩
    | float x => exact ⟨.float x, rfl, (Except.ok.inj original).symm⟩
    | _ => cases number
  split at made
  · rename_i percent
    obtain ⟨text, known, shown⟩ := List.mem_map.mp percent
    cases numeric with
    | none => cases made
    | some n =>
      obtain ⟨x, _, made⟩ := bind_ok.mp made
      split at made
      · cases made
      · refine fraction ⟨_, ?_, shown⟩ made
        exact List.mem_map_of_mem (List.mem_append_left ["fraction", "unitless"] known)
  split at made
  · rename_i plain
    obtain ⟨text, known, shown⟩ := List.mem_map.mp plain
    refine fraction ⟨_, ?_, shown⟩ made
    exact List.mem_map_of_mem (List.mem_append_right ["%", "percent", "percentage"] known)
  · exact (unresolved made).elim

/-- Normalizing the original value and unit of a normalized property gives the property again. -/
theorem normalize_again (made : normalize propertyId value unit = .ok p) (normalized : p.status = .normalized) :
    normalize (.str (PyText.ofString p.propertyId.text)) ((p.originalValue.map PyScalar.toValue).getD .null)
      (pyTextOrNull p.originalUnit) = .ok p := by
  obtain ⟨_, ⟨n, rfl, original⟩, text, known, units, originalUnit⟩ := normalize_normalized made normalized
  have property : propertyOf propertyId = propertyOf (.str (PyText.ofString p.propertyId.text)) := by
    unfold normalize at made
    obtain ⟨id, property, _⟩ := bind_ok.mp made
    rw [property, propertyOf_text]
  have given : unit.isNone = (PyValue.str text).isNone := by
    cases unit <;> first | rfl | cases units
  rw [original, originalUnit]
  exact (normalize_congr property (units.trans (unitOf_known known).symm) given).symm.trans made

end NormalizedProperty
end
end Molly
