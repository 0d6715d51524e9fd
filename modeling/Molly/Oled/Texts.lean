import Mathlib.Data.List.Forall2
import Mathlib.Data.List.Sort
import Molly.Effect.Binary
import Molly.File.Written

/-! What the intake records ask of texts and numbers: stripping, case mappings, bounds, and the
arithmetic of finite numbers. -/
namespace Molly
open Effect (chars)

/-- The full case mappings of the interpreter's Unicode database, one code point at a time. -/
class CaseText where
  upper : CodePoint → PyText
  fold : CodePoint → PyText
  upper_ascii : ∀ p : CodePoint, p.val < 128 → upper p = [if 97 ≤ p.val ∧ p.val ≤ 122 then p - 32 else p]
  fold_ascii : ∀ p : CodePoint, p.val < 128 → fold p = [if 65 ≤ p.val ∧ p.val ≤ 90 then p + 32 else p]

/-- The mappings on ASCII; the examples use no other characters. -/
@[reducible] def asciiCase : CaseText where
  upper p := [if 97 ≤ p.val ∧ p.val ≤ 122 then p - 32 else p]
  fold p := [if 65 ≤ p.val ∧ p.val ≤ 90 then p + 32 else p]
  upper_ascii _ _ := rfl
  fold_ascii _ _ := rfl

def Identifier.pyText (id : Identifier) : PyText := PyText.ofString id.text

namespace PyText

/-- `text.strip()`. -/
def strip (text : PyText) : PyText :=
  ((text.dropWhile fun p => isSpace p.toChar).reverse.dropWhile fun p => isSpace p.toChar).reverse

def upper [CaseText] (text : PyText) : PyText := text.flatMap CaseText.upper

def casefold [CaseText] (text : PyText) : PyText := text.flatMap CaseText.fold

def hasNul (text : PyText) : Bool := (0 : CodePoint) ∈ text

/-- `text or None`. -/
def orNone (text : PyText) : Option PyText := if text = [] then none else some text

theorem strip_plain {text : PyText} (plain : ∀ p ∈ text, isSpace p.toChar = false) : text.strip = text := by
  have kept : ∀ t : PyText, (∀ p ∈ t, isSpace p.toChar = false) → t.dropWhile (fun p => isSpace p.toChar) = t
    | [], _ => rfl
    | p :: rest, plain => by rw [List.dropWhile_cons, plain p List.mem_cons_self, if_neg (by decide)]
  rw [strip, kept text plain, kept text.reverse fun p member => plain p (List.mem_reverse.mp member), List.reverse_reverse]

theorem strip_sublist (text : PyText) : text.strip.Sublist text := by
  have inner := List.dropWhile_sublist (fun p => isSpace (CodePoint.toChar p)) (l := text)
  have outer := List.dropWhile_sublist (fun p => isSpace (CodePoint.toChar p))
    (l := (text.dropWhile fun p => isSpace p.toChar).reverse)
  have back := List.reverse_sublist.mpr outer
  rw [List.reverse_reverse] at back
  exact back.trans inner

/-- A mapping that keeps every code point of a text keeps the text. -/
theorem flatMap_self {f : CodePoint → PyText} : ∀ {text : PyText}, (∀ p ∈ text, f p = [p]) → text.flatMap f = text
  | [], _ => rfl
  | p :: rest, kept => by
    rw [List.flatMap_cons, kept p List.mem_cons_self,
      flatMap_self fun q member => kept q (List.mem_cons_of_mem _ member)]
    rfl

theorem casefold_ascii [CaseText] {text : PyText}
    (plain : (text.all fun p => p.val < 128 && !(65 ≤ p.val && p.val ≤ 90)) = true) : text.casefold = text := by
  refine flatMap_self fun p member => ?_
  have at_p := List.all_eq_true.mp plain p member
  simp only [Bool.and_eq_true, decide_eq_true_eq, Bool.not_eq_true', Bool.and_eq_false_iff, decide_eq_false_iff_not] at at_p
  rw [CaseText.fold_ascii p at_p.1, if_neg (by omega)]

theorem upper_ascii [CaseText] {text : PyText}
    (plain : (text.all fun p => p.val < 128 && !(97 ≤ p.val && p.val ≤ 122)) = true) : text.upper = text := by
  refine flatMap_self fun p member => ?_
  have at_p := List.all_eq_true.mp plain p member
  simp only [Bool.and_eq_true, decide_eq_true_eq, Bool.not_eq_true', Bool.and_eq_false_iff, decide_eq_false_iff_not] at at_p
  rw [CaseText.upper_ascii p at_p.1, if_neg (by omega)]

end PyText

/-- `value is None`. -/
def PyValue.isNone : PyValue → Bool
  | .null => true
  | _ => false

/-- `bool(value)`. -/
def PyValue.truthy : PyValue → Bool
  | .null => false
  | .bool b => b
  | .int n => n ≠ 0
  | .float x => !x.isInt 0
  | .nonFinite _ => true
  | .str text => text ≠ []
  | .arr items => !items.isEmpty
  | .obj fields => !fields.isEmpty

/-- A dict display with these items. -/
abbrev PyValue.named (entries : List (String × PyValue)) : PyValue := .obj (entries.map fun f => (PyText.ofString f.1, f.2))

/-- `set(value) - allowed`. -/
def hasUnknown (fields : PyFields) (allowed : List String) : Bool :=
  fields.any fun f => !(allowed.map PyText.ofString).contains f.1

/-- The optional texts of the records: bounded, free of NUL, stripped, and absent when empty. -/
def optionalTextOf (cls : ErrorClass) (field : String) (maximum : Nat) : PyValue → Except PyError (Option PyText)
  | .null => .ok none
  | .str text =>
    if maximum < text.length || text.hasNul then .error ⟨cls, field ++ " must be bounded text"⟩
    else .ok text.strip.orNone
  | _ => .error ⟨cls, field ++ " must be bounded text"⟩

def pyTextOrNull : Option PyText → PyValue
  | none => .null
  | some text => .str text

section
variable [Sha256]

/-- `sha256_bytes(canonical_json_bytes(value))`. -/
def PyValue.digest (value : PyValue) : Except PyError Digest := sha256Bytes <$> value.canonicalBytes

/-- The identity of an artifact whose content is the canonical bytes of a value. -/
def PyValue.artifactId (value : PyValue) : Except PyError ArtifactId := ArtifactId.mk <$> value.digest

end

/-! ### Checks and sequences of conversions -/

/-- `if not holds: raise error`. -/
def ensure (holds : Bool) (error : PyError) : Except PyError Unit := if holds then .ok () else .error error

@[simp] theorem ensure_ok {holds : Bool} {e : PyError} {u : Unit} : ensure holds e = .ok u ↔ holds = true := by
  cases holds <;> simp [ensure]

theorem ensure_error {holds : Bool} {e e' : PyError} : ensure holds e = .error e' ↔ holds = false ∧ e = e' := by
  cases holds <;> simp [ensure]

theorem map_ok {f : α → β} {x : Except PyError α} {b : β} : f <$> x = .ok b ↔ ∃ a, x = .ok a ∧ f a = b := by
  cases x with
  | error e => simp [Functor.map, Except.map]
  | ok a => simp [Functor.map, Except.map]

theorem orRaise_eq_ok {value : Except PyError α} {a : α} {cls : ErrorClass} {message : String} :
    orRaise value cls message = .ok a ↔ value = .ok a := by
  cases value <;> simp

/-- A conversion of each item, in order. -/
theorem mapM_ok {f : α → Except PyError β} : ∀ {xs : List α} {ys : List β},
    xs.mapM f = .ok ys ↔ List.Forall₂ (fun x y => f x = .ok y) xs ys
  | [], ys => by
    rw [List.mapM_nil, List.forall₂_nil_left_iff]
    exact ⟨fun h => (Except.ok.inj h).symm, fun h => congrArg _ h.symm⟩
  | x :: xs, ys => by
    rw [List.mapM_cons, bind_ok]
    constructor
    · rintro ⟨y, made, rest⟩
      obtain ⟨ys', tail, shown⟩ := bind_ok.mp rest
      cases shown
      exact .cons made (mapM_ok.mp tail)
    · intro each
      cases each with
      | cons made rest => exact ⟨_, made, bind_ok.mpr ⟨_, mapM_ok.mpr rest, rfl⟩⟩

theorem forM_ok {f : α → Except PyError Unit} : ∀ {xs : List α}, xs.forM f = .ok () ↔ ∀ x ∈ xs, f x = .ok ()
  | [] => by simp [List.forM, pure, Except.pure]
  | x :: xs => by
    have step : (x :: xs).forM f = (f x >>= fun _ => xs.forM f) := rfl
    rw [step, bind_ok, List.forall_mem_cons]
    constructor
    · intro ran
      obtain ⟨⟨⟩, head, tail⟩ := ran
      exact ⟨head, forM_ok.mp tail⟩
    · intro each
      exact ⟨(), each.1, forM_ok.mpr each.2⟩

theorem forM_error {f : α → Except PyError Unit} {e : PyError} :
    ∀ {xs : List α}, xs.forM f = .error e → ∃ x ∈ xs, f x = .error e
  | x :: xs, failed => by
    rcases bind_error.mp (List.forM_cons.symm.trans failed) with here | ⟨_, -, later⟩
    · exact ⟨x, List.mem_cons_self, here⟩
    · obtain ⟨y, member, there⟩ := forM_error later
      exact ⟨y, List.mem_cons_of_mem x member, there⟩

theorem forall₂_left {R : α → β → Prop} {xs : List α} {ys : List β} (each : List.Forall₂ R xs ys) {x : α} (member : x ∈ xs) :
    ∃ y ∈ ys, R x y := by
  induction each with
  | nil => cases member
  | cons related _ ih =>
    rcases List.mem_cons.mp member with rfl | member
    · exact ⟨_, List.mem_cons_self, related⟩
    · obtain ⟨y, found, related⟩ := ih member
      exact ⟨y, List.mem_cons_of_mem _ found, related⟩

theorem forall₂_right {R : α → β → Prop} {xs : List α} {ys : List β} (each : List.Forall₂ R xs ys) {y : β} (member : y ∈ ys) :
    ∃ x ∈ xs, R x y := by
  induction each with
  | nil => cases member
  | cons related _ ih =>
    rcases List.mem_cons.mp member with rfl | member
    · exact ⟨_, List.mem_cons_self, related⟩
    · obtain ⟨x, found, related⟩ := ih member
      exact ⟨x, List.mem_cons_of_mem _ found, related⟩

theorem forall₂_comp {R : α → β → Prop} {S : β → γ → Prop} {xs : List α} {ys : List β} {zs : List γ}
    (first : List.Forall₂ R xs ys) (second : List.Forall₂ S ys zs) :
    List.Forall₂ (fun x z => ∃ y, R x y ∧ S y z) xs zs := by
  induction first generalizing zs with
  | nil =>
    cases second
    exact .nil
  | cons related _ ih =>
    cases second with
    | cons related' rest => exact .cons ⟨_, related, related'⟩ (ih rest)

/-! ### Order -/

/-- `sorted(values, key=key)` for keys that are texts. -/
def sortedBy (key : α → PyText) (values : List α) : List α :=
  values.insertionSort fun a b => PyText.lt (key b) (key a) = false

/-- `tuple(sorted(set(values)))`. -/
def sortedSet (values : List PyText) : List PyText := sortedBy id values.eraseDups

theorem sortedBy_perm (key : α → PyText) (values : List α) : (sortedBy key values).Perm values :=
  List.perm_insertionSort _ values

@[simp] theorem mem_sortedBy {key : α → PyText} {values : List α} {a : α} : a ∈ sortedBy key values ↔ a ∈ values :=
  (sortedBy_perm key values).mem_iff

/-! ### Finite numbers -/

namespace FiniteFloat

/-- The number as an exact decimal. -/
def exact (x : FiniteFloat) : Effect.Decimal :=
  match Effect.readDecimal (chars x.repr) with
  | some b => b.exact
  | none => ⟨false, 0, 0⟩

/-- `x / 100.0`, which no rounding brings out of range. -/
def percent (x : FiniteFloat) : Option FiniteFloat := ofDecimal (x.exact.shift (-2))

/-- `x <= y`. -/
def le (x y : FiniteFloat) : Bool := x.exact.le y.exact

/-- `abs(x - y) <= bound`; an infinite difference is above every bound. -/
def within (x y bound : FiniteFloat) : Bool := (ofDecimal (x.exact.sub y.exact).abs).any (·.le bound)

/-- `low <= x <= high` for whole bounds. -/
def between (x : FiniteFloat) (low high : Int) : Bool :=
  (Effect.Decimal.ofInt low 0).le x.exact && x.exact.le (Effect.Decimal.ofInt high 0)

end FiniteFloat

/-- An `int` or a finite `float`. -/
inductive PyNumber where
  | int (value : Int)
  | float (value : FiniteFloat)
  deriving DecidableEq

namespace PyNumber

def toValue : PyNumber → PyValue
  | .int n => .int n
  | .float x => .float x

/-- `float(value)`. -/
def toFloat : PyNumber → Except PyError FiniteFloat
  | .float x => .ok x
  | .int n =>
    match FiniteFloat.ofDecimal (Effect.Decimal.ofInt n 0) with
    | some x => .ok x
    | none => .error ⟨.overflowError, "int too large to convert to float"⟩

end PyNumber

/-! ### Runs of examples -/

namespace Sample

/-- The bytes of a text of ASCII characters. -/
def asciiBytes (text : String) : Bytes := text.toList.map fun c => c.toNat.toUInt8

/-- A run that ends well, with what a test of its value shows. -/
theorem ok_of_any {x : Except PyError α} {test : α → Bool} (passes : x.toOption.any test = true) :
    ∃ a, x = .ok a ∧ test a = true := by
  cases x with
  | error e => cases passes
  | ok a => exact ⟨a, rfl, passes⟩

theorem ok_of_some {x : Except PyError α} (passes : x.toOption.isSome = true) : ∃ a, x = .ok a := by
  cases x with
  | error e => cases passes
  | ok a => exact ⟨a, rfl⟩

end Sample
end Molly
