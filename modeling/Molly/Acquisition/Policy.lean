import Molly.Acquisition.Urls
import Molly.Effect.Ranking

/-! The URL policy of the acquisition routes. -/
namespace Molly
open Effect (Precedence)

/-! ### Routes -/

/-- One label of a DNS name: letters and digits, and dashes between them. -/
def isDnsLabel (label : PyText) : Bool :=
  let plain (p : CodePoint) : Bool := (97 ≤ p.val && p.val ≤ 122) || Urls.isDigit p
  label.length ≤ 63 && label.head?.any plain && label.getLast?.any plain && label.all fun p => plain p || p = 45

def isDnsName (host : PyText) : Bool := (host.splitOn 46).all isDnsLabel

/-- `ipaddress.ip_address(text)` does not raise. -/
def isIpLiteral (text : PyText) : Bool := Urls.isIpv4 text || Urls.isIpv6 text

/-- What the policy reads of a `ProviderRoute`. -/
structure ProviderRoute where
  host : PyText
  port : Nat
  pathPrefix : PyText
  allowedQueryFields : List PyText
  dnsName : isDnsName host = true ∧ isIpLiteral host = false
  portRange : 1 ≤ port ∧ port ≤ 65535

def configError (message : String) : PyError := ⟨.acquisitionConfiguration, message⟩

/-- `_text`. -/
def configText (field : String) (maximum : Nat) (text : PyText) : Except PyError Unit := do
  ensure (text.strip ≠ []) (configError (field ++ " is required"))
  ensure (text.length ≤ maximum && text.all fun p => p ∉ ([0, 13, 10] : List CodePoint))
    (configError (field ++ " is outside the bounded text contract"))

section
variable [CaseText]

/-- `_canonical_config_host`. -/
def canonicalConfigHost (value : PyText) : Except PyError { host : PyText // isDnsName host = true ∧ isIpLiteral host = false } := do
  configText "host" 253 value
  ensure (value = value.strip && value.getLast? ≠ some 46 && value.all fun p => !isSpace p.toChar)
    (configError "host is not a canonical host")
  ensure (value.all fun p => p.val ≤ 127) (configError "host must use an unambiguous ASCII hostname")
  ensure (value.all fun p => p ∉ ([47, 58, 64] : List CodePoint)) (configError "host must not contain a URL or userinfo")
  if named : isDnsName value.casefold = true then
    if literal : isIpLiteral value.casefold = false then return ⟨value.casefold, named, literal⟩
    else throw (configError "host must be a DNS hostname, not an IP literal")
  else throw (configError "host is not a canonical DNS hostname")

/-- The check of a path template and of a path prefix. -/
def checkConfigPath (field : String) (path : PyText) : Except PyError Unit :=
  if path = [] then .ok ()
  else do
    ensure (path.head? = some 47 && path.all fun p => p ∉ ([0, 63, 35, 92] : List CodePoint))
      (configError (field ++ " must be a safe absolute path"))
    ensure (!(path.splitOn 47).contains [46, 46]) (configError (field ++ " cannot contain parent traversal"))

def isQueryFieldName (name : PyText) : Bool :=
  1 ≤ name.length && name.length ≤ 64 && name.all fun p => Urls.isLetter p || Urls.isDigit p || p = 95 || p = 46 || p = 45

/-- The constructor, for the fields that are kept here; a missing prefix is the template before its first brace. -/
def ProviderRoute.create (host pathTemplate : PyText) (port : Int) (pathPrefix : Option PyText) (queryFields : List PyText) :
    Except PyError ProviderRoute := do
  let named ← canonicalConfigHost host
  if range : 1 ≤ port ∧ port ≤ 65535 then
    checkConfigPath "path_template" pathTemplate
    checkConfigPath "path_prefix" (pathPrefix.getD [])
    let chosen := match pathPrefix with
      | some text => text
      | none =>
        let static := pathTemplate.takeWhile (· ≠ 123)
        if static = [] then [47] else static
    ensure (chosen ≠ []) (configError "path_prefix is required")
    for name in queryFields do configText "allowed_query_fields" 128 name
    ensure (decide queryFields.Nodup) (configError "allowed_query_fields must not contain duplicates")
    ensure (queryFields.all isQueryFieldName) (configError "route query field names are malformed")
    return ⟨named.1, port.toNat, chosen, queryFields, named.2, by omega⟩
  else throw (configError "route port must be between 1 and 65535")

end

/-! ### Canonical URLs -/

/-- A URL after route validation. -/
structure CanonicalURL where
  value : PyText
  hostname : PyText
  port : Nat
  path : PyText
  query : List (PyText × PyText)

def policyError (message : String) : PyError := ⟨.acquisitionPolicy, message⟩

/-- `_safe_path`. -/
def safePath (path : PyText) : Except PyError PyText :=
  if path = [] then .ok [47]
  else do
    ensure (path.head? = some 47 && path.all fun p => p ∉ ([0, 13, 10, 92] : List CodePoint)) (policyError "URL path is not safe")
    ensure (((Urls.unquote path).splitOn 47).all fun part => part ≠ [46] && part ≠ [46, 46])
      (policyError "URL path contains traversal")
    return path

/-- Tuples of texts in their order. -/
def fieldOrder : Precedence (PyText × PyText) :=
  ((Precedence.ofOrdering keyOrder).pull Prod.fst).lex ((Precedence.ofOrdering keyOrder).pull Prod.snd)

/-- `text.rstrip("/")`. -/
def dropSlashes (text : PyText) : PyText := (text.reverse.dropWhile (· = 47)).reverse

section
variable [CaseText] [LowerText] [CompatText]

/-- `_canonical_hostname`. -/
def canonicalHostname (hostname : PyText) : Except PyError PyText := do
  ensure (hostname ≠ [] && hostname.getLast? ≠ some 46) (policyError "hostname is missing or non-canonical")
  ensure (hostname.all fun p => p.val ≤ 127 && !isSpace p.toChar) (policyError "hostname has ambiguous Unicode or whitespace")
  return hostname.casefold

/-- The parts of a URL, its hostname and its port. -/
def authority (value : PyText) : Except PyError (Urls.SplitResult × PyText × Option Nat) := do
  let parsed ← Urls.urlsplit value
  let hostname ← canonicalHostname parsed.hostname
  let explicitPort ← parsed.port
  return (parsed, hostname, explicitPort)

/-- `canonicalize_url`; user and password are there only with an `@`. -/
def canonicalizeUrl (value : PyText) (allowedHosts : List PyText) (allowedPort : Nat) (pathPrefix : PyText)
    (allowedQueryFields : List PyText) : Except PyError CanonicalURL := do
  ensure (value ≠ [] && value.length ≤ 16384) (policyError "URL is missing or too long")
  ensure (value.all fun p => !isSpace p.toChar && 32 ≤ p.val) (policyError "URL contains whitespace or a control character")
  let (parsed, hostname, explicitPort) ← orRaise (authority value) .acquisitionPolicy "URL authority is malformed"
  ensure (parsed.scheme.casefold = PyText.ofString "https") (policyError "only HTTPS URLs are allowed")
  ensure (!parsed.netloc.contains 64) (policyError "URL userinfo/embedded credentials are forbidden")
  ensure (parsed.fragment = []) (policyError "URL fragments are forbidden")
  ensure (explicitPort.all (· = allowedPort)) (policyError "URL uses an alternate port")
  let hosts ← allowedHosts.mapM canonicalHostname
  ensure (hosts.contains hostname) (policyError "URL host is not an exact configured route")
  ensure (!isIpLiteral hostname) (policyError "configured DNS routes do not accept IP-literal URLs")
  let path ← safePath parsed.path
  let base ← safePath pathPrefix
  ensure (path = base || base = [47] || (dropSlashes base ++ [47]).isPrefixOf path)
    (policyError "URL path is outside the exact configured route")
  let pairs ← orRaise (Urls.parseQsl parsed.query) .acquisitionPolicy "URL query is malformed"
  ensure (decide (pairs.map Prod.fst).Nodup) (policyError "URL query contains duplicate fields")
  ensure (pairs.all fun pair => allowedQueryFields.contains pair.1) (policyError "URL query contains an unconfigured field")
  let pairs := fieldOrder.sorted pairs
  let netloc := if explicitPort = none ∨ allowedPort = 443 then hostname
    else hostname ++ 58 :: PyText.ofString (toString allowedPort)
  let query ← Urls.urlencode pairs
  return ⟨Urls.urlunsplit (PyText.ofString "https") netloc path query, hostname, allowedPort, path, pairs⟩

/-- The call that every user of a route makes. -/
def ProviderRoute.canonicalize (route : ProviderRoute) (value : PyText) : Except PyError CanonicalURL :=
  canonicalizeUrl value [route.host] route.port (if route.pathPrefix = [] then [47] else route.pathPrefix) route.allowedQueryFields

end

end Molly
