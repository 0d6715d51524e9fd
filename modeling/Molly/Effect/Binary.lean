import Molly.Effect.Decimal

/-! Arithmetic of binary64 numbers: every one is a decimal, and the exact result is rounded. -/
namespace Effect

/-- The same number as a decimal: `m / 2 ^ k` is `m * 5 ^ k / 10 ^ k`. -/
def Binary64.exact (x : Binary64) : Decimal :=
  if 0 ≤ x.exponent then ⟨x.negative, x.mantissa * 2 ^ x.exponent.toNat, 0⟩
  else ⟨x.negative, x.mantissa * 5 ^ (-x.exponent).toNat, x.exponent⟩

namespace Decimal

/-- `n` units of `10 ^ e`. -/
def ofInt (n e : Int) : Decimal := ⟨n < 0, n.natAbs, e⟩

/-- The coefficient in units of `10 ^ e`, for an `e` that is not above the exponent. -/
def units (d : Decimal) (e : Int) : Int := signed d.negative (d.coefficient * 10 ^ (d.exponent - e).toNat)

/-- `a - b`. -/
def sub (a b : Decimal) : Decimal :=
  let e := min a.exponent b.exponent
  ofInt (a.units e - b.units e) e

/-- `a ≤ b`. -/
def le (a b : Decimal) : Bool :=
  let e := min a.exponent b.exponent
  a.units e ≤ b.units e

def abs (d : Decimal) : Decimal := { d with negative := false }

/-- `d * 10 ^ k`. -/
def shift (d : Decimal) (k : Int) : Decimal := { d with exponent := d.exponent + k }

/-- The nearest multiple of `10 ^ (-places)`, ties to even; a finer number stays as it is. -/
def toPlaces (d : Decimal) (places : Nat) : Decimal :=
  if -(places : Int) ≤ d.exponent then d
  else ⟨d.negative, roundEven d.coefficient (10 ^ (-d.exponent - places).toNat), -places⟩

/-- `format(x, ".{precision}g")`: so many significant digits, without the zeros at their end. -/
def general (d : Decimal) (precision : Nat) : List Char :=
  if d.coefficient = 0 then if d.negative then ['-', '0'] else ['0'] else
  let spare := (Nat.toDigits 10 d.coefficient).length - precision
  let shown := Nat.toDigits 10 (if spare = 0 then d.coefficient else roundEven d.coefficient (10 ^ spare))
  let point := d.exponent + spare + shown.length
  let ds := (shown.reverse.dropWhile (· = '0')).reverse
  let body :=
    if point ≤ -4 ∨ (precision : Int) < point then
      let e := point - 1
      let magnitude := Nat.toDigits 10 e.natAbs
      (match ds with
        | d :: [] => [d]
        | d :: more => d :: '.' :: more
        | [] => []) ++
      'e' :: (if e < 0 then '-' else '+') :: (if e.natAbs < 10 then '0' :: magnitude else magnitude)
    else if point ≤ 0 then '0' :: '.' :: List.replicate (-point).toNat '0' ++ ds
    else if ds.length ≤ point.toNat then ds ++ List.replicate (point.toNat - ds.length) '0'
    else ds.take point.toNat ++ '.' :: ds.drop point.toNat
  if d.negative then '-' :: body else body

end Decimal
end Effect
