import Molly.Core.Ids
import Mathlib.Tactic.IntervalCases

/-! UTC timestamps in the one shape the records persist, and the ISO 8601 texts that
`normalize_timestamp` turns into it (the `datetime.fromisoformat` grammar of Python 3.10). -/
namespace Molly

def isLeap (year : Nat) : Bool := year % 4 = 0 && (year % 100 ≠ 0 || year % 400 = 0)

def daysInMonth (year month : Nat) : Nat :=
  if month = 2 then (if isLeap year then 29 else 28)
  else if month ∈ [4, 6, 9, 11] then 30 else 31

def isMoment (year month day hour minute second microsecond : Nat) : Bool :=
  1 ≤ year && year ≤ 9999 && 1 ≤ month && month ≤ 12 && 1 ≤ day && day ≤ daysInMonth year month &&
    hour ≤ 23 && minute ≤ 59 && second ≤ 59 && microsecond ≤ 999999

/-- A moment in UTC with microseconds. -/
structure Timestamp where
  year : Nat
  month : Nat
  day : Nat
  hour : Nat
  minute : Nat
  second : Nat
  microsecond : Nat
  valid : isMoment year month day hour minute second microsecond = true
  deriving DecidableEq, Repr

theorem isMoment_epoch : isMoment 1970 1 1 0 0 0 0 = true := by decide

def digitChar (n : Nat) : Char := Char.ofNat (48 + n % 10)

def two (n : Nat) : List Char := [digitChar (n / 10), digitChar n]
def four (n : Nat) : List Char := two (n / 100) ++ two n
def six (n : Nat) : List Char := two (n / 10000) ++ four n

/-- `isoformat(timespec="microseconds")` with the offset written as `Z`. -/
def Timestamp.chars (t : Timestamp) : List Char :=
  four t.year ++ '-' :: two t.month ++ '-' :: two t.day ++ 'T' :: two t.hour ++ ':' :: two t.minute ++
    ':' :: two t.second ++ '.' :: six t.microsecond ++ ['Z']

def Timestamp.text (t : Timestamp) : String := String.ofList t.chars

/-! ### Reading -/

def digit (c : Char) : Option Nat := if c.isDigit then some (c.toNat - 48) else none

def number : List Char → Option Nat
  | [] => some 0
  | cs => cs.foldlM (fun n c => (digit c).map (10 * n + ·)) 0

structure Clock where
  hour : Nat
  minute : Nat
  second : Nat
  microsecond : Nat

/-- `HH[:MM[:SS[.fff[fff]]]]`. -/
def readClock : List Char → Option Clock
  | [h, i] => do some ⟨← number [h, i], 0, 0, 0⟩
  | [h, i, ':', m, n] => do some ⟨← number [h, i], ← number [m, n], 0, 0⟩
  | [h, i, ':', m, n, ':', s, t] => do some ⟨← number [h, i], ← number [m, n], ← number [s, t], 0⟩
  | [h, i, ':', m, n, ':', s, t, '.', a, b, c] => do
    some ⟨← number [h, i], ← number [m, n], ← number [s, t], 1000 * (← number [a, b, c])⟩
  | [h, i, ':', m, n, ':', s, t, '.', a, b, c, d, e, f] => do
    some ⟨← number [h, i], ← number [m, n], ← number [s, t], ← number [a, b, c, d, e, f]⟩
  | _ => none

def Clock.micros (c : Clock) : Nat :=
  ((c.hour * 60 + c.minute) * 60 + c.second) * 1000000 + c.microsecond

/-- A UTC offset has minutes at least and is shorter than a day. -/
def readOffset (cs : List Char) : Option Nat := do
  guard (cs.length = 5 || cs.length = 8 || cs.length = 15)
  let clock ← readClock cs
  guard (clock.micros < 86400000000)
  some clock.micros

/-- The clock part, with the microseconds to take away to reach UTC. -/
def readTime (cs : List Char) : Option (Clock × Option Int) :=
  if '-' ∈ cs then do
    let clock ← readClock (cs.takeWhile (· ≠ '-'))
    let offset ← readOffset (cs.dropWhile (· ≠ '-')).tail
    some (clock, some (-(offset : Int)))
  else if '+' ∈ cs then do
    let clock ← readClock (cs.takeWhile (· ≠ '+'))
    let offset ← readOffset (cs.dropWhile (· ≠ '+')).tail
    some (clock, some (offset : Int))
  else do some (← readClock cs, none)

structure Moment where
  year : Nat
  month : Nat
  day : Nat
  clock : Clock
  offset : Option Int

def fromIsoFormat : List Char → Option Moment
  | y :: z :: v :: w :: '-' :: m :: n :: '-' :: d :: e :: rest => do
    let year ← number [y, z, v, w]
    let month ← number [m, n]
    let day ← number [d, e]
    let (clock, offset) ← match rest with
      | [] => some (⟨0, 0, 0, 0⟩, none)
      | _ :: time => readTime time
    guard (isMoment year month day clock.hour clock.minute clock.second clock.microsecond)
    some ⟨year, month, day, clock, offset⟩
  | _ => none

def dayBefore (year month day : Nat) : Nat × Nat × Nat :=
  if 1 < day then (year, month, day - 1)
  else if 1 < month then (year, month - 1, daysInMonth year (month - 1))
  else (year - 1, 12, 31)

def dayAfter (year month day : Nat) : Nat × Nat × Nat :=
  if day < daysInMonth year month then (year, month, day + 1)
  else if month < 12 then (year, month + 1, 1)
  else (year + 1, 1, 1)

def clockOfMicros (n : Nat) : Clock :=
  ⟨n / 3600000000, n / 60000000 % 60, n / 1000000 % 60, n % 1000000⟩

def timestampOf (date : Nat × Nat × Nat) (clock : Clock) : Except PyError Timestamp :=
  if valid : isMoment date.1 date.2.1 date.2.2 clock.hour clock.minute clock.second clock.microsecond = true
  then .ok ⟨_, _, _, _, _, _, _, valid⟩
  else .error ⟨.overflowError, "date value out of range"⟩

/-- `astimezone(timezone.utc)`: the offset moves the date by one day at most. -/
def toUtc (m : Moment) (offset : Int) : Except PyError Timestamp :=
  let total : Int := m.clock.micros - offset
  if total < 0 then
    timestampOf (dayBefore m.year m.month m.day) (clockOfMicros (total + 86400000000).toNat)
  else if 86400000000 ≤ total then
    timestampOf (dayAfter m.year m.month m.day) (clockOfMicros (total - 86400000000).toNat)
  else timestampOf (m.year, m.month, m.day) (clockOfMicros total.toNat)

def strip (cs : List Char) : List Char :=
  ((cs.dropWhile isSpace).reverse.dropWhile isSpace).reverse

/-- The reading of a trailing `Z` as an explicit zero offset. -/
def expandZulu (cs : List Char) : List Char :=
  match cs.reverse with
  | 'Z' :: rest => rest.reverse ++ ['+', '0', '0', ':', '0', '0']
  | _ => cs

def normalizeTimestamp (field : String) (value : String) : Except PyError Timestamp :=
  let raw := strip value.toList
  if raw = [] then .error ⟨.coreContract, field ++ " must be a non-empty timestamp"⟩
  else match fromIsoFormat (expandZulu raw) with
    | none => .error ⟨.coreContract, field ++ " is not a valid ISO-8601 timestamp"⟩
    | some moment =>
      match moment.offset with
      | none => .error ⟨.coreContract, "timestamps must include timezone information"⟩
      | some offset => toUtc moment offset

/-! ### A persisted timestamp reads back as itself -/

theorem digitChar_cases (n : Nat) : ∃ k < 10, n % 10 = k ∧ digitChar n = Char.ofNat (48 + k) :=
  ⟨n % 10, Nat.mod_lt _ (by decide), rfl, rfl⟩

@[simp] theorem digit_digitChar (n : Nat) : digit (digitChar n) = some (n % 10) := by
  obtain ⟨k, bound, rest, eq⟩ := digitChar_cases n
  rw [eq, rest]
  interval_cases k <;> rfl

/-- No separator of the grammar, and no white space, is a digit. -/
theorem digitChar_ne (n : Nat) : isSpace (digitChar n) = false ∧ digitChar n ≠ '-' ∧
    digitChar n ≠ '+' := by
  obtain ⟨k, bound, _, eq⟩ := digitChar_cases n
  rw [eq]
  interval_cases k <;> decide

theorem number_two (n : Nat) (bound : n < 100) : number (two n) = some n := by
  simp [number, two, Option.map]
  omega

theorem number_four (n : Nat) (bound : n < 10000) : number (four n) = some n := by
  simp [number, four, two, Option.map]
  omega

theorem number_six (n : Nat) (bound : n < 1000000) : number (six n) = some n := by
  simp [number, six, four, two, Option.map]
  omega

theorem readTime_zulu (hour minute second micro : Nat) (h : hour < 24) (m : minute < 60) (s : second < 60)
    (u : micro < 1000000) :
    readTime (two hour ++ ':' :: two minute ++ ':' :: two second ++ '.' :: six micro ++
      ['+', '0', '0', ':', '0', '0']) = some (⟨hour, minute, second, micro⟩, some 0) := by
  have hours := number_two hour (by omega)
  have minutes := number_two minute (by omega)
  have seconds := number_two second (by omega)
  have micros := number_six micro u
  have noMinus n := (digitChar_ne n).2.1
  have noPlus n := (digitChar_ne n).2.2
  simp only [two, six, four, List.cons_append, List.nil_append] at hours minutes seconds micros ⊢
  have zero : readOffset ['0', '0', ':', '0', '0'] = some 0 := by decide
  simp [readTime, readClock, hours, minutes, seconds, micros, noMinus, noPlus, (noMinus _).symm,
    (noPlus _).symm, List.takeWhile, List.dropWhile, zero]

theorem clockOfMicros_micros (c : Clock) (h : c.hour < 24) (m : c.minute < 60) (s : c.second < 60)
    (u : c.microsecond < 1000000) : clockOfMicros c.micros = c := by
  cases c
  simp only [clockOfMicros, Clock.micros, Clock.mk.injEq] at *
  omega

@[simp] theorem normalizeTimestamp_text (t : Timestamp) (field : String) :
    normalizeTimestamp field t.text = .ok t := by
  have valid := t.valid
  simp only [isMoment, Bool.and_eq_true, decide_eq_true_eq] at valid
  obtain ⟨⟨⟨⟨⟨⟨⟨⟨⟨_, year⟩, _⟩, month⟩, _⟩, day⟩, hour⟩, minute⟩, second⟩, micro⟩ := valid
  have monthDays : t.day < 100 := by
    have : daysInMonth t.year t.month ≤ 31 := by unfold daysInMonth; split <;> split <;> decide
    omega
  have space n := (digitChar_ne n).1
  have zulu : isSpace 'Z' = false := by decide
  have stripped : strip t.chars = t.chars := by
    simp [strip, Timestamp.chars, four, two, six, List.dropWhile, space, zulu]
  have expanded : expandZulu t.chars = four t.year ++ '-' :: two t.month ++ '-' :: two t.day ++ 'T' ::
      (two t.hour ++ ':' :: two t.minute ++ ':' :: two t.second ++ '.' :: six t.microsecond ++
        ['+', '0', '0', ':', '0', '0']) := by
    simp [expandZulu, Timestamp.chars, four, two, six]
  have years := number_four t.year (by omega)
  have months := number_two t.month (by omega)
  have days := number_two t.day monthDays
  have time := readTime_zulu t.hour t.minute t.second t.microsecond (by omega) (by omega) (by omega) (by omega)
  have read : fromIsoFormat (expandZulu t.chars) =
      some ⟨t.year, t.month, t.day, ⟨t.hour, t.minute, t.second, t.microsecond⟩, some 0⟩ := by
    rw [expanded]
    simp only [four, two, List.cons_append, List.nil_append] at years months days time ⊢
    simp [fromIsoFormat, years, months, days, time, t.valid]
  have nonempty : t.chars ≠ [] := by simp [Timestamp.chars, four, two]
  have same := clockOfMicros_micros ⟨t.hour, t.minute, t.second, t.microsecond⟩ (by dsimp only; omega)
    (by dsimp only; omega) (by dsimp only; omega) (by dsimp only; omega)
  have small : (⟨t.hour, t.minute, t.second, t.microsecond⟩ : Clock).micros < 86400000000 := by
    simp only [Clock.micros]; omega
  simp only [normalizeTimestamp, Timestamp.text, String.toList_ofList, stripped, nonempty, ↓reduceIte, read,
    toUtc, Int.sub_zero, Int.toNat_natCast, same]
  rw [if_neg (by omega), if_neg (by omega)]
  simp [timestampOf, t.valid]

end Molly
