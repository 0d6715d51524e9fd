import Molly.File.Lineage

/-! The manifest of a cached response, and the conversions and checks it is made by. -/
namespace Molly

/-! ### URLs -/

/-- `urlsplit(value)`, with the parts of the authority. -/
structure SplitUrl where
  scheme : PyText
  netloc : PyText
  path : PyText
  query : PyText
  fragment : PyText
  hostname : Option PyText
  username : Option PyText
  password : Option PyText

/-- The interpreter's case folding and its `urllib.parse`. The results hold of any. -/
class UrlLibrary where
  casefold : PyText → PyText
  /-- Nothing stands for a `ValueError`. -/
  urlsplit : PyText → Option SplitUrl
  /-- `parse_qsl` that keeps blank values; strict parsing may raise a `ValueError`. -/
  parseQsl : (strict : Bool) → PyText → Option (List (PyText × PyText))
  urlencode : List (PyText × PyText) → PyText
  urlunsplit : (scheme netloc path query fragment : PyText) → PyText

section
variable [UrlLibrary]

def secretQueryNames : List String :=
  ["access_token", "api_key", "apikey", "auth", "authorization", "credential", "email", "key", "mailto", "password",
    "passwd", "secret", "token"]

/-- `re.sub(r"[^a-z0-9]+", "_", text).strip("_")`. -/
def normalizedKey (text : PyText) : PyText :=
  let plain (p : CodePoint) : Bool := (97 ≤ p.val && p.val ≤ 122) || (48 ≤ p.val && p.val ≤ 57)
  let rec words : List CodePoint → List PyText → PyText → List PyText
    | [], done, [] => done
    | [], done, word => done ++ [word]
    | p :: ps, done, word =>
      if plain p then words ps done (word ++ [p])
      else words ps (if word = [] then done else done ++ [word]) []
  List.intercalate [95] (words text [] [])

/-- `text.replace(old, new)` for a text that is not empty. -/
def replaceText (old new : PyText) : Nat → PyText → PyText
  | 0, text => text
  | _, [] => []
  | fuel + 1, p :: ps =>
    if old.isPrefixOf (p :: ps) then new ++ replaceText old new fuel ((p :: ps).drop old.length)
    else p :: replaceText old new fuel ps

def redacted : PyText := PyText.ofString "<redacted>"

/-- `sanitize_url`. -/
def sanitizeUrl (value : PyText) (secretValues : List PyText) : PyText :=
  let secrets := secretValues.filter (· ≠ [])
  let hidden := secrets.foldl (fun text secret => replaceText secret redacted (text.length + 1) text) value
  match UrlLibrary.urlsplit hidden with
  | none => (secrets.foldl (fun text secret => replaceText secret redacted (text.length + 1) text) hidden).take 16384
  | some parsed =>
    match UrlLibrary.parseQsl false parsed.query with
    | none => (secrets.foldl (fun text secret => replaceText secret redacted (text.length + 1) text) hidden).take 16384
    | some pairs =>
      let safe := (pairs.filter fun pair =>
        normalizedKey (UrlLibrary.casefold pair.1) ∉ secretQueryNames.map fun name => normalizedKey (PyText.ofString name)).map
        fun pair => (pair.1, if pair.2 ∈ secrets then redacted else pair.2)
      UrlLibrary.urlunsplit parsed.scheme parsed.netloc parsed.path (UrlLibrary.urlencode safe) []

/-- The checks of `_validate_cache_url` on a text. -/
def cacheUrlFault (value : PyText) : Option String :=
  if value = [] ∨ value.any (fun p => isSpace p.toChar || p.val < 32) = true then some " is malformed"
  else
    match UrlLibrary.urlsplit value with
    | none => some " is malformed"
    | some parsed =>
      if UrlLibrary.casefold parsed.scheme ≠ PyText.ofString "https" ∨ (parsed.hostname.getD []) = [] ∨ parsed.username.isSome = true ∨
          parsed.password.isSome = true ∨ parsed.fragment ≠ [] then some " is not a sanitized HTTPS URL"
      else if sanitizeUrl value [] ≠ value then some " is not sanitized/canonical"
      else none

structure CacheUrl where
  text : PyText
  valid : cacheUrlFault text = none

def validateCacheUrl (field : String) : PyValue → Except PyError CacheUrl
  | .str text =>
    match valid : cacheUrlFault text with
    | none => .ok ⟨text, valid⟩
    | some words => .error ⟨.acquisitionCache, "cache " ++ field ++ words⟩
  | _ => .error ⟨.acquisitionCache, "cache " ++ field ++ " is malformed"⟩

@[simp] theorem validateCacheUrl_text (u : CacheUrl) (field : String) : validateCacheUrl field (.str u.text) = .ok u := by
  unfold validateCacheUrl
  split
  · rename_i same
    cases same
    split
    · rfl
    · rename_i fault
      cases u.valid.symm.trans fault
  · rename_i other
    exact (other _ rfl).elim

end

/-! ### Closed vocabularies -/

inductive AccessStatus where
  | configuredAuthorized | verifiedOpenAccess
  deriving DecidableEq

def AccessStatus.value : AccessStatus → String
  | .configuredAuthorized => "CONFIGURED_AUTHORIZED"
  | .verifiedOpenAccess => "VERIFIED_OPEN_ACCESS"

inductive ArtifactClass where
  | publicArtifact | privateArtifact | runtimeSecret | credentialReference
  deriving DecidableEq

def ArtifactClass.value : ArtifactClass → String
  | .publicArtifact => "PUBLIC_ARTIFACT"
  | .privateArtifact => "PRIVATE_ARTIFACT"
  | .runtimeSecret => "RUNTIME_SECRET"
  | .credentialReference => "CREDENTIAL_REFERENCE"

inductive ContentFamily where
  | json | xml | html | pdf
  deriving DecidableEq

def ContentFamily.value : ContentFamily → String
  | .json => "json"
  | .xml => "xml"
  | .html => "html"
  | .pdf => "pdf"

inductive MediaType where
  | applicationJson | applicationXml | textXml | textHtml | applicationPdf
  deriving DecidableEq

def MediaType.value : MediaType → String
  | .applicationJson => "application/json"
  | .applicationXml => "application/xml"
  | .textXml => "text/xml"
  | .textHtml => "text/html"
  | .applicationPdf => "application/pdf"

def MediaType.family : MediaType → ContentFamily
  | .applicationJson => .json
  | .applicationXml | .textXml => .xml
  | .textHtml => .html
  | .applicationPdf => .pdf

/-- The member of an enumeration with this value. -/
def memberOf (members : List α) (value : α → String) (text : PyText) : Option α :=
  members.find? fun member => PyText.ofString (value member) = text

/-- `text.casefold().split(";", 1)[0].strip()`. -/
def mediaText [UrlLibrary] (text : PyText) : PyText :=
  let head := (UrlLibrary.casefold text).takeWhile (· ≠ 59)
  ((head.dropWhile fun p => isSpace p.toChar).reverse.dropWhile fun p => isSpace p.toChar).reverse

def mediaTypes : List MediaType := [.applicationJson, .applicationXml, .textXml, .textHtml, .applicationPdf]

def mediaTypeOf [UrlLibrary] (text : PyText) : Option MediaType := memberOf mediaTypes MediaType.value (mediaText text)

/-- Text of at most 512 characters, not blank, without `NUL` and line ends. -/
def isCacheText (text : PyText) : Bool :=
  (text.any fun p => !isSpace p.toChar) && text.length ≤ 512 && text.all fun p => p ∉ [0, 13, 10]

structure CacheText where
  text : PyText
  valid : isCacheText text = true

def validateCacheText (field : String) (text : PyText) : Except PyError CacheText :=
  if valid : isCacheText text = true then .ok ⟨text, valid⟩
  else .error ⟨.acquisitionCache, "cache " ++ field ++ " is malformed"⟩

@[simp] theorem validateCacheText_text (t : CacheText) (field : String) : validateCacheText field t.text = .ok t := by
  simp [validateCacheText, t.valid]

def maxResponseBytes : Nat := 25 * 1024 * 1024

/-! ### The manifest -/

/-- The digest a reference names. -/
def DigestReference.digest (d : DigestReference) : Digest :=
  ⟨String.ofList ((removeSha256Prefix d.text.toList).getD d.text.toList), d.valid⟩

/-- A complete cache manifest with request and provenance bindings. -/
structure CacheEntry [UrlLibrary] where
  schemaVersion : Identifier
  cacheIdentity : DigestReference
  provider : Identifier
  providerConfigDigest : DigestReference
  routePolicyVersion : Identifier
  requestIdentity : DigestReference
  canonicalIdentifier : Option StoredReference
  routeId : Identifier
  requestShape : PyMapping
  sourceUrl : CacheUrl
  resolvedUrl : CacheUrl
  redirectChain : List CacheUrl
  responseStatus : Nat
  retrievedAt : Timestamp
  accessStatus : AccessStatus
  licenseStatus : CacheText
  accessBasis : CacheText
  redistributionBasis : CacheText
  contentType : MediaType
  bodySha256 : Digest
  bodySize : Nat
  artifactClass : ArtifactClass
  accessProfileRef : Option StoredReference
  cacheStatus : CacheText
  storedAt : Timestamp
  status : 100 ≤ responseStatus ∧ responseStatus ≤ 599
  bounded : bodySize ≤ maxResponseBytes
  cached : artifactClass = .publicArtifact ∨ artifactClass = .privateArtifact

namespace CacheEntry
variable [UrlLibrary]

/-- Only the family of the content type is accepted. -/
def contentFamily (e : CacheEntry) : ContentFamily := e.contentType.family

def pyText (text : String) : PyValue := .str (PyText.ofString text)

def pyReference : Option StoredReference → PyValue
  | none => .null
  | some reference => .str reference.text

def entries (e : CacheEntry) : List (String × PyValue) :=
  [("schema_version", pyText e.schemaVersion.text), ("cache_identity", pyText e.cacheIdentity.digest.text),
    ("provider", pyText e.provider.text), ("provider_config_digest", pyText e.providerConfigDigest.digest.text),
    ("route_policy_version", pyText e.routePolicyVersion.text), ("request_identity", pyText e.requestIdentity.text),
    ("canonical_identifier", pyReference e.canonicalIdentifier), ("route_id", pyText e.routeId.text),
    ("request_shape", e.requestShape.toValue), ("source_url", .str e.sourceUrl.text),
    ("resolved_url", .str e.resolvedUrl.text), ("redirect_chain", .arr (e.redirectChain.map fun u => .str u.text)),
    ("response_status", .int e.responseStatus), ("retrieved_at", pyText e.retrievedAt.text),
    ("access_status", pyText e.accessStatus.value), ("license_status", .str e.licenseStatus.text),
    ("access_basis", .str e.accessBasis.text), ("redistribution_basis", .str e.redistributionBasis.text),
    ("content_type", pyText e.contentType.value), ("content_family", pyText e.contentFamily.value),
    ("body_sha256", pyText e.bodySha256.text), ("body_size", .int e.bodySize),
    ("artifact_class", pyText e.artifactClass.value), ("access_profile_ref", pyReference e.accessProfileRef),
    ("cache_status", .str e.cacheStatus.text), ("stored_at", pyText e.storedAt.text)]

/-- `to_dict`. -/
def toDict (e : CacheEntry) : PyFields := e.entries.map fun f => (PyText.ofString f.1, f.2)

def optionalReference (field : String) : Option PyText → Except PyError (Option StoredReference)
  | none => .ok none
  | some text => some <$> validateStoredReference field text

def member (members : List α) (value : α → String) (text : PyText) (fault : String) : Except PyError α :=
  match memberOf members value text with
  | some found => .ok found
  | none => .error ⟨.acquisitionCache, fault⟩

variable [PrintableText] [DecimalText]

/-- The guarded part of `from_dict`: the arguments, then the checks of the constructor. -/
def parse (value : PyFields) : Except PyError CacheEntry := do
  let text key := PyValue.toText <$> pyItem value key
  let schemaVersion ← text "schema_version"
  let cacheIdentity ← text "cache_identity"
  let provider ← text "provider"
  let providerConfigDigest ← text "provider_config_digest"
  let routePolicyVersion ← text "route_policy_version"
  let requestIdentity ← text "request_identity"
  let routeId ← text "route_id"
  let requestShape ← (← pyItem value "request_shape").toDict
  let sourceUrl ← text "source_url"
  let resolvedUrl ← text "resolved_url"
  let redirectChain ← (pyGet value "redirect_chain" (.arr [])).iterate
  let responseStatus ← (← pyItem value "response_status").toInt
  let retrievedAt ← text "retrieved_at"
  let accessStatus ← text "access_status"
  let licenseStatus ← text "license_status"
  let accessBasis ← text "access_basis"
  let redistributionBasis ← text "redistribution_basis"
  let contentType ← text "content_type"
  let contentFamily ← text "content_family"
  let bodySha256 ← text "body_sha256"
  let bodySize ← (← pyItem value "body_size").toInt
  let artifactClass ← text "artifact_class"
  let cacheStatus ← text "cache_status"
  let storedAt ← text "stored_at"
  let schemaVersion ← validateIdentifier "cache schema_version" schemaVersion.display
  let cacheIdentity ← validateDigestText "cache_identity" cacheIdentity.display
  let provider ← validateIdentifier "cache provider" provider.display
  let providerConfigDigest ← validateDigestText "provider_config_digest" providerConfigDigest.display
  let requestIdentity ← validateDigestText "request_identity" requestIdentity.display
  let routeId ← validateIdentifier "cache route_id" routeId.display
  let routePolicyVersion ← validateIdentifier "route_policy_version" routePolicyVersion.display
  let canonicalIdentifier ← optionalReference "canonical_identifier" (pyOptional value "canonical_identifier")
  let requestShape ← freezePyFields "cache request shape" requestShape
  if status : 100 ≤ responseStatus.toNat ∧ responseStatus.toNat ≤ 599 then
    let retrievedAt ← normalizeTimestamp "retrieved_at" retrievedAt.display
    let _ ← validateCacheText "access_status" accessStatus
    let licenseStatus ← validateCacheText "license_status" licenseStatus
    let accessBasis ← validateCacheText "access_basis" accessBasis
    let redistributionBasis ← validateCacheText "redistribution_basis" redistributionBasis
    let cacheStatus ← validateCacheText "cache_status" cacheStatus
    let accessStatus ← member [.configuredAuthorized, .verifiedOpenAccess] AccessStatus.value accessStatus
      "cache access status is outside the closed vocabulary"
    let accessProfileRef ← optionalReference "access_profile_ref" (pyOptional value "access_profile_ref")
    let bodySha256 ← validateSha256 "body_sha256" bodySha256.display
    if bounded : 0 ≤ bodySize ∧ bodySize.toNat ≤ maxResponseBytes then
      let artifactClass ← member [.publicArtifact, .privateArtifact, .runtimeSecret, .credentialReference]
        ArtifactClass.value artifactClass "cache artifact class is outside the closed vocabulary"
      if cached : artifactClass = .publicArtifact ∨ artifactClass = .privateArtifact then
        let contentType ← member mediaTypes MediaType.value (mediaText contentType)
          "cache content type is outside the acquisition families"
        let contentFamily ← member [.json, .xml, .html, .pdf] ContentFamily.value contentFamily
          "cache content family is invalid"
        if contentFamily ≠ contentType.family then
          throw ⟨.acquisitionCache, "cache content family does not match content type"⟩
        else
          let sourceUrl ← validateCacheUrl "source_url" (.str sourceUrl)
          let resolvedUrl ← validateCacheUrl "resolved_url" (.str resolvedUrl)
          let redirectChain ← redirectChain.mapM (validateCacheUrl "redirect URL")
          let storedAt ← normalizeTimestamp "stored_at" storedAt.display
          return ⟨schemaVersion, cacheIdentity, provider, providerConfigDigest, routePolicyVersion, requestIdentity,
            canonicalIdentifier, routeId, requestShape, sourceUrl, resolvedUrl, redirectChain, responseStatus.toNat,
            retrievedAt, accessStatus, licenseStatus, accessBasis, redistributionBasis, contentType, bodySha256,
            bodySize.toNat, artifactClass, accessProfileRef, cacheStatus, storedAt, status, bounded.2, cached⟩
      else throw ⟨.acquisitionCache, "runtime secrets and credential references cannot be cached"⟩
    else throw ⟨.acquisitionCache, "cache body size is invalid"⟩
  else throw ⟨.acquisitionCache, "cache response status is invalid"⟩

/-- `from_dict`. -/
def fromDict : PyValue → Except PyError CacheEntry
  | .obj value => orMalformed (parse value) .acquisitionCache "cache manifest is malformed"
  | _ => .error ⟨.acquisitionCache, "cache manifest must be a JSON object"⟩

/-- The bytes of a manifest, as `_read_entry` takes them. -/
def decode (raw : Bytes) : Except PyError CacheEntry :=
  let invalid : PyError := ⟨.acquisitionCache, "cache manifest is not valid UTF-8 JSON"⟩
  let other : PyError := ⟨.acquisitionCache, "cache manifest is not canonical JSON"⟩
  match decodeUtf8 raw with
  | none => .error invalid
  | some text =>
    match loads text with
    | .error .decode => .error invalid
    | .error .digits => .error ⟨.valueError, "Exceeds the limit for integer string conversion"⟩
    | .ok value =>
      match value.canonicalBytes with
      | .error _ => .error other
      | .ok canonical => if canonical ++ [10] ≠ raw then .error other else fromDict value

end CacheEntry
end Molly
