import Molly.File.Value

/-! `json.loads`, as the C scanner of CPython does it: the last item of a repeated key
stays, escaped surrogate pairs are joined, and text after the value is refused. -/
namespace Molly
open Effect (chars chars_eq)

inductive LoadsError where
  /-- `JSONDecodeError`. -/
  | decode
  /-- The `ValueError` of an integer with too many digits. -/
  | digits
  deriving DecidableEq

abbrev Scan (α : Type) : Type := Except LoadsError (α × List Char)

def isWhitespace (c : Char) : Bool := c = ' ' || c = '\t' || c = '\n' || c = '\r'

def skipWhitespace (cs : List Char) : List Char := cs.dropWhile isWhitespace

def hexValue (c : Char) : Option Nat :=
  if c.isDigit then some (c.toNat - 48)
  else if 'a' ≤ c ∧ c ≤ 'f' then some (c.toNat - 87)
  else if 'A' ≤ c ∧ c ≤ 'F' then some (c.toNat - 55)
  else none

def CodePoint.ofNat (n : Nat) : CodePoint := Fin.ofNat 1114112 n

def hexValues : List Char → Option CodePoint
  | [a, b, c, d] =>
    match hexValue a, hexValue b, hexValue c, hexValue d with
    | some a, some b, some c, some d => some (CodePoint.ofNat (((a * 16 + b) * 16 + c) * 16 + d))
    | _, _, _, _ => none
  | _ => none

def simpleEscape (c : Char) : Option CodePoint :=
  if c = '"' then some 34
  else if c = '\\' then some 92
  else if c = '/' then some 47
  else if c = 'b' then some 8
  else if c = 'f' then some 12
  else if c = 'n' then some 10
  else if c = 'r' then some 13
  else if c = 't' then some 9
  else none

/-- Put a unit before those that follow. -/
def pushUnit (p : CodePoint) : Option (PyText × List Char) → Option (PyText × List Char)
  | some (units, rest) => some (p :: units, rest)
  | none => none

/-- The units of a string up to its closing quote, each escape one unit. -/
def scanUnits : List Char → Option (PyText × List Char)
  | [] => none
  | c :: cs =>
    if c = '"' then some ([], cs)
    else if c = '\\' then
      match cs with
      | 'u' :: a :: b :: c :: d :: rest =>
        match hexValues [a, b, c, d] with
        | some p => pushUnit p (scanUnits rest)
        | none => none
      | e :: rest =>
        match simpleEscape e with
        | some p => pushUnit p (scanUnits rest)
        | none => none
      | [] => none
    else if c.toNat < 32 then none
    else pushUnit (CodePoint.ofChar c) (scanUnits cs)

/-- The scalar value of a surrogate pair. -/
def joinSurrogates (high low : CodePoint) : CodePoint :=
  CodePoint.ofNat (65536 + (high.val - 55296) * 1024 + (low.val - 56320))

/-- Only escapes are surrogates, so a pair of units is a pair of escapes. -/
def joinUnits : PyText → PyText
  | high :: low :: rest =>
    if high.isHigh && low.isLow then joinSurrogates high low :: joinUnits rest
    else high :: joinUnits (low :: rest)
  | [unit] => [unit]
  | [] => []

/-- `scanstring`, after the opening quote. -/
def scanString (cs : List Char) : Scan PyText :=
  match scanUnits cs with
  | some (units, rest) => .ok (joinUnits units, rest)
  | none => .error .decode

/-- `_match_number`. -/
def scanNumberValue (cs : List Char) : Scan PyValue :=
  match Effect.scanNumber cs with
  | none => .error .decode
  | some (.integer n, rest) => if intFits n then .ok (.int n, rest) else .error .digits
  | some (.decimal d, rest) =>
    match FiniteFloat.ofDecimal d with
    | some x => .ok (.float x, rest)
    | none => .ok (.nonFinite (if d.negative then .negativeInfinity else .infinity), rest)

/-- `d[key] = item`. -/
def setItem (fields : PyFields) (key : PyText) (item : PyValue) : PyFields :=
  if key ∈ fields.map Prod.fst then fields.map fun f => if f.1 = key then (key, item) else f
  else fields ++ [(key, item)]

/-- The rest of a text that begins with a word. -/
def afterWord : List Char → List Char → Option (List Char)
  | [], cs => some cs
  | w :: word, c :: cs => if w = c then afterWord word cs else none
  | _ :: _, [] => none

/-- `null`, `true`, `false` and the numbers that are no JSON. -/
def words : List (List Char × PyValue) :=
  [(chars "null", .null), (chars "true", .bool true), (chars "false", .bool false),
    (chars "NaN", .nonFinite .nan), (chars "Infinity", .nonFinite .infinity),
    (chars "-Infinity", .nonFinite .negativeInfinity)]

def scanWord (cs : List Char) : Option (PyValue × List Char) :=
  words.findSome? fun (word, value) => (afterWord word cs).map (value, ·)

mutual
/-- `scan_once`; a value nested in another begins after its bracket, so twice the
length of the text is fuel enough. -/
def scanOnce : (fuel : Nat) → List Char → Scan PyValue
  | 0, _ => .error .decode
  | fuel + 1, cs =>
    match cs with
    | [] => .error .decode
    | c :: rest =>
      if c = '"' then
        match scanString rest with
        | .ok (text, rest) => .ok (.str text, rest)
        | .error e => .error e
      else if c = '{' then
        match skipWhitespace rest with
        | '}' :: rest => .ok (.obj [], rest)
        | rest => scanMembers fuel [] rest
      else if c = '[' then
        match skipWhitespace rest with
        | ']' :: rest => .ok (.arr [], rest)
        | rest => scanItems fuel [] rest
      else
        match scanWord cs with
        | some found => .ok found
        | none => scanNumberValue cs

/-- The members of an object from a key on. -/
def scanMembers : (fuel : Nat) → PyFields → List Char → Scan PyValue
  | 0, _, _ => .error .decode
  | fuel + 1, fields, cs =>
    match cs with
    | '"' :: cs =>
      match scanString cs with
      | .error e => .error e
      | .ok (key, cs) =>
        match skipWhitespace cs with
        | ':' :: cs =>
          match scanOnce fuel (skipWhitespace cs) with
          | .error e => .error e
          | .ok (item, cs) =>
            match skipWhitespace cs with
            | '}' :: cs => .ok (.obj (setItem fields key item), cs)
            | ',' :: cs => scanMembers fuel (setItem fields key item) (skipWhitespace cs)
            | _ => .error .decode
        | _ => .error .decode
    | _ => .error .decode

/-- The items of an array from the next one on. -/
def scanItems : (fuel : Nat) → List PyValue → List Char → Scan PyValue
  | 0, _, _ => .error .decode
  | fuel + 1, items, cs =>
    match scanOnce fuel cs with
    | .error e => .error e
    | .ok (item, cs) =>
      match skipWhitespace cs with
      | ']' :: cs => .ok (.arr (items ++ [item]), cs)
      | ',' :: cs => scanItems fuel (items ++ [item]) (skipWhitespace cs)
      | _ => .error .decode
end

/-- `json.loads`. -/
def loads (cs : List Char) : Except LoadsError PyValue :=
  if cs.head? = some '\uFEFF' then .error .decode
  else
    match scanOnce (2 * cs.length + 1) (skipWhitespace cs) with
    | .error e => .error e
    | .ok (value, rest) => if skipWhitespace rest = [] then .ok value else .error .decode

/-- `bytes.decode("utf-8")`. -/
def decodeUtf8 (bytes : Bytes) : Option (List Char) :=
  match Effect.ascii bytes with
  | some cs => some cs
  | none => (ByteArray.utf8Decode? ⟨bytes.toArray⟩).map Array.toList

end Molly
