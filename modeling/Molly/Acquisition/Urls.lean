import Molly.Effect.Percent
import Molly.Effect.Utf8
import Molly.Oled.Texts

/-! The parts of `urllib.parse` and `ipaddress` that the acquisition policy uses. -/
namespace Molly

/-- `str.lower`, by the interpreter's Unicode database. -/
class LowerText where
  lower : PyText → PyText
  lower_ascii : ∀ text : PyText, (∀ p ∈ text, p.val < 128) → lower text = text.map fun p => if 65 ≤ p.val ∧ p.val ≤ 90 then p + 32 else p

/-- `unicodedata.normalize("NFKC", text)`. -/
class CompatText where
  nfkc : PyText → PyText

namespace Urls

/-! ### Cutting texts -/

/-- The text before the first of these marks, and the text from there on. -/
def cut (mark : CodePoint → Bool) (text : PyText) : PyText × PyText :=
  (text.takeWhile fun p => !mark p, text.dropWhile fun p => !mark p)

/-- `text.partition(mark)`: the second part is there when the mark is. -/
def partition (mark : CodePoint) (text : PyText) : PyText × Option PyText :=
  match cut (· = mark) text with
  | (head, _ :: rest) => (head, some rest)
  | (head, []) => (head, none)

/-- The text behind the last of these marks. -/
def afterLast (mark : CodePoint) (text : PyText) : PyText := (text.reverse.takeWhile (· ≠ mark)).reverse

def isDigit (p : CodePoint) : Bool := 48 ≤ p.val && p.val ≤ 57

def isLetter (p : CodePoint) : Bool := (65 ≤ p.val && p.val ≤ 90) || (97 ≤ p.val && p.val ≤ 122)

def isHex (p : CodePoint) : Bool := isDigit p || (65 ≤ p.val && p.val ≤ 70) || (97 ≤ p.val && p.val ≤ 102)

def asciiLower (p : CodePoint) : CodePoint := if 65 ≤ p.val ∧ p.val ≤ 90 then p + 32 else p

/-! ### Addresses -/

/-- `IPv4Address._parse_octet`. -/
def isOctet (part : PyText) : Bool :=
  part ≠ [] && part.all isDigit && part.length ≤ 3 && (part = [48] || part.head? ≠ some 48) &&
    Effect.valueOf (part.map CodePoint.toChar) ≤ 255

/-- `IPv4Address(text)` does not raise. -/
def isIpv4 (text : PyText) : Bool := (text.splitOn 46).length = 4 && (text.splitOn 46).all isOctet

/-- `IPv6Address._parse_hextet`. -/
def isHextet (part : PyText) : Bool := part ≠ [] && part.length ≤ 4 && part.all isHex

/-- The groups between the colons of an address: eight, or fewer around one `::`. -/
def isIpv6Groups (parts : List PyText) : Bool :=
  let gaps := (List.range parts.length).filter fun i => 0 < i && i + 1 < parts.length && parts[i]? = some []
  let groups (side : List PyText) := if side = [[]] then [] else side
  match gaps with
  | [] => parts.length = 8 && parts.all isHextet
  | [gap] =>
    let sides := groups (parts.take gap) ++ groups (parts.drop (gap + 1))
    parts.length ≤ 9 && sides.length ≤ 7 && sides.all isHextet
  | _ => false

/-- `IPv6Address(text)` does not raise: a scope behind a percent sign, the last group as an IPv4 address. -/
def isIpv6 (text : PyText) : Bool :=
  let (address, scope) := partition 37 text
  let parts := address.splitOn 58
  let last := parts.getLast?.getD []
  !text.contains 47 && scope.all (fun zone => zone ≠ [] && !zone.contains 37) && 3 ≤ parts.length &&
    if last.contains 46 then isIpv4 last && isIpv6Groups (parts.dropLast ++ [[48], [48]]) else isIpv6Groups parts

/-! ### Splitting -/

structure SplitResult where
  scheme : PyText
  netloc : PyText
  path : PyText
  query : PyText
  fragment : PyText

def valueError (message : String) : PyError := ⟨.valueError, message⟩

def isSchemeChar (p : CodePoint) : Bool := isLetter p || isDigit p || p = 43 || p = 45 || p = 46

/-- The scheme of a URL, and the rest. -/
def splitScheme (url : PyText) : PyText × PyText :=
  match partition 58 url with
  | (head, some rest) => if head.head?.any isLetter && head.all isSchemeChar then (head.map asciiLower, rest) else ([], url)
  | (_, none) => ([], url)

/-- `_check_bracketed_host`. -/
def checkBracketedHost (host : PyText) : Except PyError Unit :=
  match host with
  | 118 :: rest =>
    let (digits, name) := cut (fun p => !isHex p) rest
    ensure (digits ≠ [] && name.head? = some 46 && 2 ≤ name.length && !name.contains 10) (valueError "IPvFuture address is invalid")
  | _ => ensure (isIpv6 host) (valueError "An IPv4 address cannot be in brackets")

/-- `_checknetloc`: no character of the authority may become a mark under normalization. -/
def checkNetloc [CompatText] (netloc : PyText) : Except PyError Unit :=
  if netloc.all fun p => p.val < 128 then .ok ()
  else
    let bare := netloc.filter fun p => p ∉ ([64, 58, 35, 63] : List CodePoint)
    let normal := CompatText.nfkc bare
    ensure (bare = normal || normal.all fun p => p ∉ ([47, 63, 35, 64, 58] : List CodePoint))
      (valueError "netloc contains invalid characters under NFKC normalization")

def splitNetloc (url : PyText) : PyText × PyText :=
  match url with
  | 47 :: 47 :: rest => cut (fun p => p ∈ ([47, 63, 35] : List CodePoint)) rest
  | _ => ([], url)

/-- The URL without control characters and spaces at its head, and without line breaks and tabs. -/
def cleanUrl (url : PyText) : PyText := (url.dropWhile fun p => p.val ≤ 32).filter fun p => p ∉ ([9, 13, 10] : List CodePoint)

/-- `urlsplit(url)`. -/
def urlsplit [CompatText] (url : PyText) : Except PyError SplitResult := do
  let (scheme, url) := splitScheme (cleanUrl url)
  let (netloc, url) := splitNetloc url
  ensure (netloc.contains 91 == netloc.contains 93) (valueError "Invalid IPv6 URL")
  if netloc.contains 91 then
    checkBracketedHost (partition 93 ((partition 91 netloc).2.getD [])).1
  let (url, fragment) := partition 35 url
  let (path, query) := partition 63 url
  checkNetloc netloc
  return ⟨scheme, netloc, path, query.getD [], fragment.getD []⟩

namespace SplitResult

/-- `_hostinfo`: the host and the port as they stand. -/
def hostinfo (s : SplitResult) : PyText × PyText :=
  let info := afterLast 64 s.netloc
  match partition 91 info with
  | (_, some bracketed) =>
    let (host, rest) := partition 93 bracketed
    (host, (partition 58 (rest.getD [])).2.getD [])
  | (_, none) =>
    let (host, port) := partition 58 info
    (host, port.getD [])

/-- `hostname or ""`; a zone is not lowercased. -/
def hostname [LowerText] (s : SplitResult) : PyText :=
  match partition 37 s.hostinfo.1 with
  | (host, some zone) => LowerText.lower host ++ 37 :: zone
  | (host, none) => LowerText.lower host

def port (s : SplitResult) : Except PyError (Option Nat) :=
  let text := s.hostinfo.2
  if text = [] then .ok none
  else if !text.all isDigit then .error (valueError "Port could not be cast to integer value")
  else if maxStrDigits < text.length then .error (valueError "Exceeds the limit for integer string conversion")
  else
    let number := Effect.valueOf (text.map CodePoint.toChar)
    if number ≤ 65535 then .ok (some number) else .error (valueError "Port out of range 0-65535")

end SplitResult

/-- `urlunsplit((scheme, netloc, path, query, ""))` of a URL with an authority. -/
def urlunsplit (scheme netloc path query : PyText) : PyText :=
  let path := if path ≠ [] ∧ path.head? ≠ some 47 then 47 :: path else path
  let url := [47, 47] ++ netloc ++ path
  let url := if scheme = [] then url else scheme ++ 58 :: url
  if query = [] then url else url ++ 63 :: query

/-! ### Query fields -/

def ofByte (b : UInt8) : CodePoint := ⟨b.toNat, Nat.lt_trans b.toNat_lt (by decide)⟩

def toByte (p : CodePoint) : UInt8 := p.val.toUInt8

/-- The characters that the percent-coded bytes of a run of ASCII stand for. -/
def decodeRun (run : List UInt8) : PyText := (Effect.Utf8.decodeReplace (Effect.Percent.unquote run)).map CodePoint.ofChar

/-- The rest of a text behind a run of ASCII: the run is decoded as a whole, and other characters stay. -/
def unquoteFrom : List UInt8 → PyText → PyText
  | run, [] => decodeRun run
  | run, p :: rest =>
    if p.val < 128 then unquoteFrom (run ++ [toByte p]) rest else decodeRun run ++ p :: unquoteFrom [] rest

/-- `unquote(text)`. -/
def unquote (text : PyText) : PyText := unquoteFrom [] text

/-- `unquote_plus(text)`. -/
def unquotePlus (text : PyText) : PyText := unquote (text.map fun p => if p = 43 then 32 else p)

/-- `quote_plus(text)`; a surrogate has no encoding. -/
def quotePlus (text : PyText) : Except PyError PyText :=
  if text.any CodePoint.isSurrogate then .error ⟨.valueError, "surrogates not allowed"⟩
  else .ok ((Effect.Percent.quotePlus (Effect.Utf8.encode (text.map CodePoint.toChar))).map ofByte)

def parseField (field : PyText) : Except PyError (PyText × PyText) :=
  match partition 61 field with
  | (name, some value) => .ok (unquotePlus name, unquotePlus value)
  | (_, none) => .error (valueError "bad query field")

/-- `parse_qsl(query, keep_blank_values=True, strict_parsing=True)`. -/
def parseQsl (query : PyText) : Except PyError (List (PyText × PyText)) :=
  if query = [] then .ok [] else (query.splitOn 38).mapM parseField

def encodeField (field : PyText × PyText) : Except PyError PyText := do
  let name ← quotePlus field.1
  let value ← quotePlus field.2
  return name ++ 61 :: value

/-- `urlencode(fields)`. -/
def urlencode (fields : List (PyText × PyText)) : Except PyError PyText := do
  let parts ← fields.mapM encodeField
  return List.intercalate [38] parts

end Urls

end Molly
