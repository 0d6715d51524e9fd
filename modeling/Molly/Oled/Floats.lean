import Molly.Oled.Texts

/-! `float(value)`: the numbers it makes and the texts it reads. -/
namespace Molly

/-- A `float`: finite, an infinity, or no number at all. -/
inductive PyFloat where
  | finite (value : FiniteFloat)
  | nonFinite (value : NonFinite)
  deriving DecidableEq

namespace PyFloat

/-- `math.isfinite(value)`. -/
def isFinite : PyFloat → Bool
  | .finite _ => true
  | .nonFinite _ => false

def toValue : PyFloat → PyValue
  | .finite x => .float x
  | .nonFinite x => .nonFinite x

def infinite (negative : Bool) : PyFloat := .nonFinite (if negative then .negativeInfinity else .infinity)

/-- The number nearest to a decimal one; too large a number becomes an infinity. -/
def ofDecimal (d : Effect.Decimal) : PyFloat :=
  match FiniteFloat.ofDecimal d with
  | some x => .finite x
  | none => infinite d.negative

end PyFloat

/-- What the interpreter makes of a code point before it reads a number: ASCII stays, spaces and
decimal digits of other scripts become ASCII ones, anything else is no part of a number. -/
def numeral [DecimalText] (p : CodePoint) : Char :=
  if p.val < 127 then p.toChar
  else if isSpace p.toChar then ' '
  else match DecimalText.digit p with
    | some n => hexDigit (n % 10)
    | none => '?'

/-- `Py_ISSPACE`: the spaces of the C locale. -/
def isAsciiSpace (c : Char) : Bool := (9 ≤ c.toNat && c.toNat ≤ 13) || c = ' '

/-- The text without its underscores, each of which stands between two digits. -/
def dropUnderscores : Char → List Char → Option (List Char)
  | before, [] => if before = '_' then none else some []
  | before, c :: cs =>
    if c = '_' then if before.isDigit then dropUnderscores c cs else none
    else if before = '_' && !c.isDigit then none
    else (dropUnderscores c cs).map (c :: ·)

/-- Digits with a point among them or without one, and an exponent. -/
def scanFloat (negative : Bool) (cs : List Char) : Option Effect.Decimal :=
  let (whole, rest) := Effect.digits cs
  let (fraction, rest) := match rest with
    | '.' :: more => Effect.digits more
    | _ => ([], rest)
  match Effect.scanExponent rest with
  | (exponent, []) =>
    if whole ++ fraction = [] then none
    else some ⟨negative, Effect.valueOf (whole ++ fraction), exponent.getD 0 - fraction.length⟩
  | _ => none

/-- `float(text)`; nothing where it raises. -/
def floatOfText [DecimalText] (text : PyText) : Option PyFloat :=
  let cs := text.map numeral
  match dropUnderscores ' ' (((cs.dropWhile isAsciiSpace).reverse.dropWhile isAsciiSpace).reverse) with
  | none => none
  | some cs =>
    let (negative, unsigned) := Effect.scanSign cs
    match scanFloat negative unsigned with
    | some d => some (PyFloat.ofDecimal d)
    | none =>
      let word := String.ofList (unsigned.map Char.toLower)
      if word = "inf" ∨ word = "infinity" then some (PyFloat.infinite negative)
      else if word = "nan" then some (.nonFinite .nan)
      else none

/-- `float(value)`. -/
def PyValue.toFloat [DecimalText] : PyValue → Except PyError PyFloat
  | .int n => PyFloat.finite <$> (PyNumber.int n).toFloat
  | .bool b => PyFloat.finite <$> (PyNumber.int (if b then 1 else 0)).toFloat
  | .float x => .ok (.finite x)
  | .nonFinite x => .ok (.nonFinite x)
  | .str text =>
    match floatOfText text with
    | some x => .ok x
    | none => .error ⟨.valueError, "could not convert string to float: " ++ pyQuote text.display⟩
  | _ => .error ⟨.typeError, "float() argument must be a string or a real number"⟩

end Molly
