import Mathlib.Algebra.Group.Nat.Defs
import Mathlib.Data.Nat.Log
import Mathlib.Data.List.Basic

/-! Number tokens, and the decimal texts of binary64 numbers: every finite number has
one shortest text, and that text is read back as the same number. -/
namespace Effect

/-- The digits at the head of a text, and what follows them. -/
def digits (cs : List Char) : List Char × List Char := (cs.takeWhile Char.isDigit, cs.dropWhile Char.isDigit)

def valueOf (cs : List Char) : Nat := Nat.ofDigitChars 10 cs 0

/-- `(-1) ^ negative * coefficient * 10 ^ exponent`. -/
structure Decimal where
  negative : Bool
  coefficient : Nat
  exponent : Int
  deriving DecidableEq

inductive NumberToken where
  | integer (value : Int)
  | decimal (value : Decimal)
  deriving DecidableEq

/-- A fraction needs a digit after its point; without one the point is not read. -/
def scanFraction (cs : List Char) : List Char × List Char :=
  match cs with
  | c :: rest =>
    let (read, left) := digits rest
    if c = '.' ∧ read ≠ [] then (read, left) else ([], cs)
  | [] => ([], cs)

def signed (negative : Bool) (n : Nat) : Int := if negative then -n else n

def scanSign : List Char → Bool × List Char
  | c :: rest => if c = '-' then (true, rest) else if c = '+' then (false, rest) else (false, c :: rest)
  | [] => (false, [])

/-- An exponent needs a digit after its sign; without one its letter is not read. -/
def scanExponent (cs : List Char) : Option Int × List Char :=
  match cs with
  | c :: rest =>
    let (negative, rest) := scanSign rest
    let (read, left) := digits rest
    if (c = 'e' ∨ c = 'E') ∧ read ≠ [] then (some (signed negative (valueOf read)), left) else (none, cs)
  | [] => (none, cs)

/-- The digits before the point: a lone zero, or digits that do not begin with one. -/
def scanWhole (cs : List Char) : Option (List Char × List Char) :=
  match cs with
  | c :: rest => if c = '0' then some (['0'], rest) else if c.isDigit then some (digits cs) else none
  | [] => none

def scanUnsigned (negative : Bool) (cs : List Char) : Option (NumberToken × List Char) :=
  match scanWhole cs with
  | none => none
  | some (whole, rest) =>
    let (fraction, rest) := scanFraction rest
    let (exponent, rest) := scanExponent rest
    if fraction = [] ∧ exponent = none then
      some (.integer (signed negative (valueOf whole)), rest)
    else some (.decimal ⟨negative, valueOf (whole ++ fraction), exponent.getD 0 - fraction.length⟩, rest)

/-- `-?(0|[1-9][0-9]*)(\.[0-9]+)?([eE][-+]?[0-9]+)?`, as much of it as there is. -/
def scanNumber : List Char → Option (NumberToken × List Char)
  | c :: cs => if c = '-' then scanUnsigned true cs else scanUnsigned false (c :: cs)
  | [] => none

/-- `(-1) ^ negative * mantissa * 2 ^ exponent`. -/
structure Binary64 where
  negative : Bool
  mantissa : Nat
  exponent : Int
  deriving DecidableEq

/-- `num / den`, ties to even. -/
def roundEven (num den : Nat) : Nat :=
  let q := num / den
  let r := num % den
  if 2 * r < den ∨ (2 * r = den ∧ q % 2 = 0) then q else q + 1

/-- `(num / den) / base ^ e` as a fraction. -/
def scaled (num den base : Nat) (e : Int) : Nat × Nat :=
  if 0 ≤ e then (num, den * base ^ e.toNat) else (num * base ^ (-e).toNat, den)

/-- The nearest binary64 number; nothing when that is an infinity. -/
def Decimal.round (d : Decimal) : Option Binary64 :=
  if d.coefficient = 0 then some ⟨d.negative, 0, -1074⟩ else
  let (num, den) := scaled d.coefficient 1 10 (-d.exponent)
  let estimate : Int := (Nat.log2 num : Int) - Nat.log2 den - 52
  let (n, m) := scaled num den 2 estimate
  let exponent := max (if n / m < 2 ^ 52 then estimate - 1 else estimate) (-1074)
  let (n, m) := scaled num den 2 exponent
  let mantissa := roundEven n m
  let (mantissa, exponent) := if mantissa = 2 ^ 53 then (2 ^ 52, exponent + 1) else (mantissa, exponent)
  if 971 < exponent then none else some ⟨d.negative, mantissa, exponent⟩

/-- The number a whole text names, when it has a fraction or an exponent. -/
def readDecimal (cs : List Char) : Option Binary64 :=
  match scanNumber cs with
  | some (.decimal d, []) => d.round
  | _ => none

namespace Binary64

/-- The digits and the position of the point, laid out as `repr` does. -/
def layout (negative : Bool) (ds : List Char) (point : Int) : List Char :=
  let body :=
    if point ≤ -4 ∨ 16 < point then
      let e := point - 1
      let magnitude := Nat.toDigits 10 e.natAbs
      (match ds with
        | d :: [] => [d]
        | d :: more => d :: '.' :: more
        | [] => []) ++
      'e' :: (if e < 0 then '-' else '+') :: (if e.natAbs < 10 then '0' :: magnitude else magnitude)
    else if point ≤ 0 then '0' :: '.' :: List.replicate (-point).toNat '0' ++ ds
    else if ds.length ≤ point.toNat then ds ++ List.replicate (point.toNat - ds.length) '0' ++ ['.', '0']
    else ds.take point.toNat ++ '.' :: ds.drop point.toNat
  if negative then '-' :: body else body

/-- The texts with `count` digits on either side of a number, the nearer one first. -/
def candidates (x : Binary64) (count : Nat) : List (List Char) :=
  let (num, den) := scaled x.mantissa 1 2 (-x.exponent)
  let estimate : Int := ((Nat.log2 num : Int) - Nat.log2 den) * 30103 / 100000
  let reaches (p : Int) : Bool :=
    let (n, m) := scaled num den 10 p
    m ≤ n
  match [estimate + 1, estimate, estimate - 1].find? reaches with
  | none => []
  | some power =>
    let (n, m) := scaled num den 10 (power - count + 1)
    let below := n / m
    let text (c : Nat) :=
      let ds := Nat.toDigits 10 c
      layout x.negative ((ds.reverse.dropWhile (· = '0')).reverse) (power - count + 1 + ds.length)
    if roundEven n m = below then [text below, text (below + 1)] else [text (below + 1), text below]

/-- The texts that may stand for a number, shortest first. -/
def texts (x : Binary64) : List (List Char) :=
  if x.mantissa = 0 then [if x.negative then ['-', '0', '.', '0'] else ['0', '.', '0']]
  else (List.range 17).flatMap fun n => x.candidates (n + 1)

/-- The shortest decimal text that is read back as the number. -/
def repr (x : Binary64) : Option (List Char) := x.texts.find? fun text => readDecimal text = some x

theorem readDecimal_repr {x : Binary64} (shown : x.repr = some text) : readDecimal text = some x := by
  have found := List.find?_some shown
  exact of_decide_eq_true found

end Binary64

/-- The texts that `repr` gives to binary64 numbers. -/
def isShortest (cs : List Char) : Bool :=
  match readDecimal cs with
  | some x => x.repr = some cs
  | none => false

theorem isShortest_repr {x : Binary64} (shown : x.repr = some text) : isShortest text = true := by
  simp [isShortest, Binary64.readDecimal_repr shown, shown]

/-! ### Longest tokens -/

/-- What may follow a number without becoming part of it. -/
def EndsNumber (rest : List Char) : Prop :=
  ∀ c ∈ rest.head?, c.isDigit = false ∧ c ∉ ['.', 'e', 'E', '+', '-']

variable {cs rest read left : List Char}

theorem digits_append (ends : EndsNumber rest) : ∀ cs : List Char,
    digits (cs ++ rest) = ((digits cs).1, (digits cs).2 ++ rest)
  | [] => by
    cases rest with
    | nil => rfl
    | cons c rest =>
      have other := (ends c rfl).1
      simp [digits, other]
  | c :: cs => by
    have tail := digits_append ends cs
    simp only [digits, Prod.mk.injEq] at tail ⊢
    by_cases digit : c.isDigit = true
    · simp [digit, tail.1, tail.2]
    · simp [digit]

theorem scanFraction_append (ends : EndsNumber rest) :
    scanFraction (cs ++ rest) = ((scanFraction cs).1, (scanFraction cs).2 ++ rest) := by
  cases cs with
  | nil =>
    cases rest with
    | nil => rfl
    | cons c rest =>
      have other := (ends c rfl).2
      simp only [List.mem_cons, not_or] at other
      simp [scanFraction, other.1]
  | cons c cs =>
    simp only [scanFraction, List.cons_append, digits_append ends]
    split <;> rfl

theorem scanSign_append (ends : EndsNumber rest) :
    scanSign (cs ++ rest) = ((scanSign cs).1, (scanSign cs).2 ++ rest) := by
  cases cs with
  | nil =>
    cases rest with
    | nil => rfl
    | cons c rest =>
      have other := (ends c rfl).2
      simp only [List.mem_cons, not_or] at other
      simp [scanSign, other]
  | cons c cs =>
    simp only [scanSign, List.cons_append]
    split
    · rfl
    · split <;> rfl

theorem scanExponent_append (ends : EndsNumber rest) :
    scanExponent (cs ++ rest) = ((scanExponent cs).1, (scanExponent cs).2 ++ rest) := by
  cases cs with
  | nil =>
    cases rest with
    | nil => rfl
    | cons c rest =>
      have other := (ends c rfl).2
      simp only [List.mem_cons, not_or] at other
      simp [scanExponent, other]
  | cons c cs =>
    simp only [scanExponent, List.cons_append, scanSign_append ends, digits_append ends]
    split <;> rfl

theorem scanWhole_append (ends : EndsNumber rest) (scanned : scanWhole cs = some (read, left)) :
    scanWhole (cs ++ rest) = some (read, left ++ rest) := by
  cases cs with
  | nil => simp [scanWhole] at scanned
  | cons c cs =>
    have extended := digits_append ends (c :: cs)
    simp only [List.cons_append] at extended
    simp only [scanWhole] at scanned
    by_cases zero : c = '0'
    · simp only [zero, ↓reduceIte, Option.some.injEq, Prod.mk.injEq] at scanned
      simp [scanWhole, zero, scanned.1, scanned.2]
    · by_cases digit : c.isDigit = true
      · simp only [zero, digit, ↓reduceIte, Option.some.injEq] at scanned
        simp [scanWhole, zero, digit, extended, scanned]
      · simp [zero, digit] at scanned

theorem scanUnsigned_append (ends : EndsNumber rest) (scanned : scanUnsigned negative cs = some (token, left)) :
    scanUnsigned negative (cs ++ rest) = some (token, left ++ rest) := by
  unfold scanUnsigned at scanned ⊢
  cases whole : scanWhole cs with
  | none => simp [whole] at scanned
  | some found =>
    obtain ⟨read, more⟩ := found
    simp only [whole] at scanned
    simp only [scanWhole_append ends whole, scanFraction_append ends, scanExponent_append ends]
    split at scanned
    · rename_i plain
      cases scanned
      simp [plain]
    · rename_i plain
      cases scanned
      simp only [plain, ↓reduceIte]

/-- A number is read as far as it goes, whatever comes after it. -/
theorem scanNumber_append (ends : EndsNumber rest) (scanned : scanNumber cs = some (token, left)) :
    scanNumber (cs ++ rest) = some (token, left ++ rest) := by
  cases cs with
  | nil => simp [scanNumber] at scanned
  | cons c cs =>
    simp only [scanNumber] at scanned
    simp only [scanNumber, List.cons_append]
    by_cases minus : c = '-'
    · simp only [minus, ↓reduceIte] at scanned ⊢
      exact scanUnsigned_append ends scanned
    · simp only [minus, ↓reduceIte] at scanned ⊢
      exact scanUnsigned_append ends scanned

/-! ### The characters of a number -/

def isNumberChar (c : Char) : Bool := c.isDigit || c = '.' || c = 'e' || c = 'E' || c = '+' || c = '-'

/-- What a scanner read away holds characters of numbers only. -/
def ReadsNumber (cs left : List Char) : Prop := ∃ read, cs = read ++ left ∧ ∀ c ∈ read, isNumberChar c = true

theorem ReadsNumber.refl (cs : List Char) : ReadsNumber cs cs := ⟨[], rfl, by simp⟩

theorem ReadsNumber.trans {cs mid left : List Char} (first : ReadsNumber cs mid) (second : ReadsNumber mid left) :
    ReadsNumber cs left := by
  obtain ⟨a, rfl, plain⟩ := first
  obtain ⟨b, rfl, plain'⟩ := second
  refine ⟨a ++ b, by simp, ?_⟩
  intro c member
  exact (List.mem_append.mp member).elim (plain c) (plain' c)

theorem ReadsNumber.cons {c : Char} {cs left : List Char} (plain : isNumberChar c = true)
    (rest : ReadsNumber cs left) : ReadsNumber (c :: cs) left := by
  obtain ⟨read, rfl, all⟩ := rest
  exact ⟨c :: read, rfl, by simpa [plain] using all⟩

theorem digits_reads (cs : List Char) : ReadsNumber cs (digits cs).2 := by
  refine ⟨cs.takeWhile Char.isDigit, (List.takeWhile_append_dropWhile).symm, ?_⟩
  intro c member
  have digit := List.all_eq_true.mp List.all_takeWhile c member
  simp [isNumberChar, digit]

theorem scanFraction_reads (cs : List Char) : ReadsNumber cs (scanFraction cs).2 := by
  cases cs with
  | nil => exact .refl _
  | cons c cs =>
    simp only [scanFraction]
    split
    · rename_i point
      exact .cons (by simp [isNumberChar, point.1]) (digits_reads cs)
    · exact .refl _

theorem scanSign_reads (cs : List Char) : ReadsNumber cs (scanSign cs).2 := by
  cases cs with
  | nil => exact .refl _
  | cons c cs =>
    simp only [scanSign]
    split
    · rename_i minus
      exact .cons (by simp [isNumberChar, minus]) (.refl _)
    · split
      · rename_i plus
        exact .cons (by simp [isNumberChar, plus]) (.refl _)
      · exact .refl _

theorem scanExponent_reads (cs : List Char) : ReadsNumber cs (scanExponent cs).2 := by
  cases cs with
  | nil => exact .refl _
  | cons c cs =>
    simp only [scanExponent]
    split
    · rename_i letter
      have plain : isNumberChar c = true := by
        rcases letter.1 with rfl | rfl <;> rfl
      exact .cons plain ((scanSign_reads cs).trans (digits_reads _))
    · exact .refl _

theorem scanWhole_reads {cs whole left : List Char} (scanned : scanWhole cs = some (whole, left)) :
    ReadsNumber cs left := by
  cases cs with
  | nil => simp [scanWhole] at scanned
  | cons c cs =>
    simp only [scanWhole] at scanned
    split at scanned
    · rename_i zero
      cases scanned
      exact .cons (by simp [isNumberChar, zero, Char.isDigit]) (.refl _)
    · split at scanned
      · have all := digits_reads (c :: cs)
        rw [Option.some.inj scanned] at all
        exact all
      · contradiction

theorem scanUnsigned_reads {cs left : List Char} (scanned : scanUnsigned negative cs = some (token, left)) :
    ReadsNumber cs left := by
  unfold scanUnsigned at scanned
  cases whole : scanWhole cs with
  | none => simp [whole] at scanned
  | some found =>
    obtain ⟨read, more⟩ := found
    have all := ((scanWhole_reads whole).trans (scanFraction_reads more)).trans (scanExponent_reads _)
    simp only [whole] at scanned
    split at scanned
    · cases scanned
      exact all
    · cases scanned
      exact all

theorem scanNumber_reads {cs left : List Char} (scanned : scanNumber cs = some (token, left)) :
    ReadsNumber cs left := by
  cases cs with
  | nil => simp [scanNumber] at scanned
  | cons c cs =>
    simp only [scanNumber] at scanned
    split at scanned
    · rename_i minus
      exact .cons (by simp [isNumberChar, minus]) (scanUnsigned_reads scanned)
    · exact scanUnsigned_reads scanned

/-- A text that is one number holds characters of numbers only. -/
theorem scanNumber_chars {cs : List Char} (scanned : scanNumber cs = some (token, [])) :
    ∀ c ∈ cs, isNumberChar c = true := by
  obtain ⟨read, rfl, all⟩ := scanNumber_reads scanned
  simpa using all

/-! ### Integers -/

theorem digits_toDigits (n : Nat) : digits (Nat.toDigits 10 n) = (Nat.toDigits 10 n, []) := by
  have all : ∀ c ∈ Nat.toDigits 10 n, c.isDigit = true := fun c member =>
    Nat.isDigit_of_mem_toDigits (by decide) (by decide) member
  have taken : (Nat.toDigits 10 n ++ []).takeWhile Char.isDigit = _ := List.takeWhile_append_of_pos all
  have dropped : (Nat.toDigits 10 n ++ []).dropWhile Char.isDigit = _ := List.dropWhile_append_of_pos all
  simp only [List.append_nil, List.takeWhile_nil, List.dropWhile_nil] at taken dropped
  simp only [digits, taken, dropped]

theorem toDigits_leading (n : Nat) {cs : List Char} (shown : Nat.toDigits 10 n = '0' :: cs) : cs = [] := by
  induction n using Nat.strong_induction_on generalizing cs with
  | h n ih =>
    by_cases small : n < 10
    · rw [Nat.toDigits_of_lt_base small] at shown
      exact (List.cons.inj shown).2.symm
    · rw [Nat.toDigits_of_base_le (by decide) (by omega)] at shown
      cases head : Nat.toDigits 10 (n / 10) with
      | nil => exact absurd head Nat.toDigits_ne_nil
      | cons c rest =>
        rw [head] at shown
        obtain ⟨rfl, -⟩ := List.cons.inj shown
        obtain rfl := ih (n / 10) (by omega) head
        have zero := Nat.ofDigitChars_ten_toDigits (n := n / 10)
        rw [head] at zero
        have none : n / 10 = 0 := zero.symm
        omega

/-- Only zero is written with a leading zero. -/
theorem scanWhole_toDigits (n : Nat) : scanWhole (Nat.toDigits 10 n) = some (Nat.toDigits 10 n, []) := by
  have all := digits_toDigits n
  cases shown : Nat.toDigits 10 n with
  | nil => exact absurd shown Nat.toDigits_ne_nil
  | cons c cs =>
    have digit : c.isDigit = true := by
      apply Nat.isDigit_of_mem_toDigits (b := 10) (n := n) (by decide) (by decide)
      simp [shown]
    rw [shown] at all
    by_cases zero : c = '0'
    · subst zero
      rw [toDigits_leading n shown]
      rfl
    · simp [scanWhole, zero, digit, all]

theorem scanUnsigned_toDigits (negative : Bool) (n : Nat) :
    scanUnsigned negative (Nat.toDigits 10 n) = some (.integer (signed negative n), []) := by
  have value : valueOf (Nat.toDigits 10 n) = n := Nat.ofDigitChars_ten_toDigits
  simp [scanUnsigned, scanWhole_toDigits, scanFraction, scanExponent, value]

/-- The text of an integer is one token. -/
theorem scanNumber_int (n : Int) : scanNumber (toString n).toList = some (.integer n, []) := by
  cases n with
  | ofNat n =>
    have text : (toString (Int.ofNat n)).toList = Nat.toDigits 10 n := Nat.toList_repr
    have scanned := scanUnsigned_toDigits false n
    rw [text]
    cases shown : Nat.toDigits 10 n with
    | nil => exact absurd shown Nat.toDigits_ne_nil
    | cons c cs =>
      have digit : c.isDigit = true := by
        apply Nat.isDigit_of_mem_toDigits (b := 10) (n := n) (by decide) (by decide)
        simp [shown]
      have plain : c ≠ '-' := by
        rintro rfl
        contradiction
      rw [shown] at scanned
      simp only [scanNumber, plain, ↓reduceIte, scanned]
      rfl
  | negSucc n =>
    have text : (toString (Int.negSucc n)).toList = '-' :: Nat.toDigits 10 (n + 1) := by
      show ("-" ++ (n + 1).repr).toList = _
      rw [String.toList_append, Nat.toList_repr]
      rfl
    rw [text]
    simp only [scanNumber, ↓reduceIte, scanUnsigned_toDigits]
    rfl

end Effect
