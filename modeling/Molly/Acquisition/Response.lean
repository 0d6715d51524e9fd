import Molly.Acquisition.Config
import Molly.Acquisition.Sanitize

/-! What the transport makes of a response: where a redirect leads, which content is taken and how long a
retry waits. -/
namespace Molly

/-! ### Redirects -/

namespace Urls

/-- `_splitparams(path)`: the parameters of the last segment. -/
def splitParams (path : PyText) : PyText × PyText :=
  let last := afterLast 47 path
  match partition 59 last with
  | (name, some params) => (path.take (path.length - last.length) ++ name, params)
  | (_, none) => (path, [])

/-- `urlunparse(parts)`. -/
def unparse (s : SplitResult) (params : PyText) : PyText :=
  SplitResult.unsplit { s with path := if params = [] then s.path else s.path ++ 59 :: params }

/-- The segments of a joined path, without the dots. -/
def resolveSegments (segments : List PyText) : List PyText :=
  let resolved := segments.foldl (fun done segment =>
    if segment = [46, 46] then done.dropLast else if segment = [46] then done else done ++ [segment]) []
  match segments.getLast? with
  | some last => if last = [46] ∨ last = [46, 46] then resolved ++ [[]] else resolved
  | none => resolved

/-- The middle of a list without its empty texts. -/
def fillMiddle (segments : List PyText) : List PyText :=
  segments.take 1 ++ ((segments.drop 1).dropLast.filter (· ≠ [])) ++ (segments.drop 1).drop ((segments.drop 1).length - 1)

/-- `urljoin(base, url)`, for a base with the scheme `https`. -/
def urljoin [CompatText] (base url : PyText) : Except PyError PyText := do
  let b ← urlsplit base
  let u ← urlsplit url
  let (basePath, baseParams) := splitParams b.path
  let (path, params) := splitParams u.path
  let scheme := if u.scheme = [] then b.scheme else u.scheme
  if scheme ≠ b.scheme then return url
  else if u.netloc ≠ [] then return unparse ⟨scheme, u.netloc, path, u.query, u.fragment⟩ params
  else if path = [] ∧ params = [] then
    return unparse ⟨scheme, b.netloc, basePath, if u.query = [] then b.query else u.query, u.fragment⟩ baseParams
  else
    let baseParts := basePath.splitOn 47
    let directory := if baseParts.getLast? = some [] then baseParts else baseParts.dropLast
    let segments := if path.head? = some 47 then path.splitOn 47 else fillMiddle (directory ++ path.splitOn 47)
    let joined := List.intercalate [47] (resolveSegments segments)
    return unparse ⟨scheme, b.netloc, if joined = [] then [47] else joined, u.query, u.fragment⟩ params

end Urls

/-- `NetworkResponse`; header names are folded. -/
structure NetworkResponse where
  statusCode : Nat
  headers : List (PyText × List PyText)
  body : Bytes
  requestedUrl : PyText
  resolvedUrl : PyText
  redirectChain : List PyText

namespace NetworkResponse

def headerValues (response : NetworkResponse) (name : String) : List PyText := (response.headers.lookup (PyText.ofString name)).getD []

def header (response : NetworkResponse) (name : String) : Option PyText := (response.headerValues name).head?

end NetworkResponse

section
variable [CaseText] [LowerText] [CompatText]

/-- `normalize_content_type`. -/
def normalizeContentType (values : List PyText) (allowed : List MediaType) : Except PyError MediaType := do
  ensure (values ≠ [] && values.all fun value => (mediaType value).isSome) (policyError "response Content-Type is unsupported")
  match values.filterMap mediaType with
  | [] => throw (policyError "response Content-Type is unsupported")
  | first :: rest =>
    ensure (rest.all (· = first)) (policyError "response has contradictory Content-Type values")
    ensure (allowed.contains first) (policyError "response Content-Type is not allowed by the route")
    return first

/-- `resolve_redirect`. -/
def resolveRedirect (base location : PyText) (route : ProviderRoute) : Except PyError CanonicalURL := do
  ensure (location ≠ [] && location.length ≤ 16384) (policyError "redirect Location is missing or too long")
  ensure (location.all fun p => !isSpace p.toChar && 32 ≤ p.val) (policyError "redirect Location contains whitespace/control data")
  let joined ← Urls.urljoin base location
  route.canonicalize joined

end

def redirectStatuses : List Nat := [301, 302, 303, 307, 308]

def isRetryable (status : Nat) : Bool := status = 408 || status = 429 || (500 ≤ status && status < 600)

def maxRedirects : Nat := 5

/-! ### Delays -/

/-- A number that `float` reads, or a delay. -/
inductive Delay where
  | seconds (number : ℚ)
  | infinite

/-- `float(text)` where it is not negative, and the time that `email.utils.parsedate_to_datetime(text)` names, in seconds; nothing
stands for an exception. The results hold of any. -/
class DelayText where
  number : PyText → Option Delay
  date : PyText → Option ℚ

/-- `parse_retry_after`. -/
def parseRetryAfter [DelayText] (value : Option PyText) (now : ℚ) : Option Delay :=
  match value with
  | none => none
  | some text =>
    if text = [] then none
    else match DelayText.number text.strip with
      | some delay => some delay
      | none => (DelayText.date text.strip).map fun target => .seconds (max 0 (target - now))

/-- `_retry_delay`, for a number drawn at random. -/
def retryDelay (policy : RetryPolicy) (retryIndex : Nat) (retryAfter : Option Delay) (random : ℚ) : ℚ :=
  let exponential := min policy.maximumDelaySeconds (policy.initialDelaySeconds * 2 ^ retryIndex)
  let jitter := exponential * policy.jitterFraction * max 0 (min 1 random)
  let limit := min policy.maximumDelaySeconds policy.maximumRetryAfterSeconds
  match retryAfter with
  | none => min limit (min policy.maximumDelaySeconds (exponential + jitter))
  | some (.seconds delay) => min limit (max exponential delay)
  | some .infinite => limit

end Molly
