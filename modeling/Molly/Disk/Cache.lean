import Molly.Disk.CacheEntry
import Molly.Disk.Store

/-! The acquisition cache: a body and a manifest under one identity, each linked once. -/
namespace Molly
open Effect

/-- `needle in bytes`. -/
def containsBytes (needle bytes : Bytes) : Bool := bytes.tails.any needle.isPrefixOf

/-- `assert_no_secret_values` on bytes. -/
def assertNoSecretValues (value : Bytes) (secretValues : List String) : Except PyError Unit :=
  if secretValues.any fun secret => secret ≠ "" && containsBytes secret.toUTF8.toList value then
    .error ⟨.credentialLeak, "durable acquisition value contains access material"⟩
  else .ok ()

/-- What the caller expects under each key, as a test of what it equals. -/
abbrev Binding := List (String × (PyValue → Bool))

namespace CacheEntry
variable [UrlLibrary]

/-- `entry.to_dict().get(key)`. -/
def get (e : CacheEntry) (key : String) : PyValue := pyGet e.toDict key .null

def assertBinding (e : CacheEntry) : Binding → Except PyError Unit
  | [] => .ok ()
  | (key, expected) :: binding =>
    if expected (e.get key) then e.assertBinding binding
    else .error ⟨.acquisitionCache, "cache manifest binding mismatch: " ++ key⟩

theorem assertBinding_ok {e : CacheEntry} : ∀ {binding : Binding},
    e.assertBinding binding = .ok () ↔ ∀ item ∈ binding, item.2 (e.get item.1) = true
  | [] => by simp [assertBinding]
  | (key, expected) :: binding => by
    rw [assertBinding]
    by_cases matched : expected (e.get key) = true
    · simp [matched, assertBinding_ok]
    · simp [matched]

/-- What two manifests of one response agree on: all but the moment they were stored. -/
def unstored (e : CacheEntry) : PyFields := e.toDict.filter fun f => f.1 ≠ PyText.ofString "stored_at"

end CacheEntry

/-- `candidate.setdefault(key, item)`. -/
def setDefault (fields : PyFields) (key : String) (item : PyValue) : PyFields :=
  if (fields.lookup (PyText.ofString key)).isSome then fields else fields ++ [(PyText.ofString key, item)]

structure CachedResponse [UrlLibrary] where
  entry : CacheEntry
  body : Bytes

namespace OnDisk.AcquisitionCache
variable {E : Signature} [Sha256] [UrlLibrary] [PrintableText] [DecimalText]

def partialEntry : PyError := ⟨.acquisitionCache, "cache entry is partial"⟩

omit [UrlLibrary] [PrintableText] [DecimalText] in
/-- `_read_bytes`. -/
def readBytes (identity expected : Digest) : Process E Bytes :=
  let missing : PyError := ⟨.acquisitionCache, "cache body is missing or not a regular file"⟩
  readable (.body identity) missing missing fileNotFound fun body =>
    if sha256Bytes body ≠ expected then throw ⟨.acquisitionIntegrity, "cache body digest mismatch"⟩
    else return body

omit [Sha256] in
/-- `_read_entry`. -/
def readEntry (identity : Digest) : Process E CacheEntry :=
  let missing : PyError := ⟨.acquisitionCache, "cache manifest is missing or not a regular file"⟩
  readable (.entry identity) missing missing ⟨.acquisitionCache, "cache manifest is not valid UTF-8 JSON"⟩ fun raw =>
    Task.ofExcept (CacheEntry.decode raw)

omit [Sha256] [PrintableText] [DecimalText] in
/-- The checks of `get` on a manifest alone. -/
def assertBound (identity : Digest) (binding : Binding) (entry : CacheEntry) : Except PyError Unit :=
  if entry.cacheIdentity.digest ≠ identity then
    .error ⟨.acquisitionCache, "cache manifest identity mismatch"⟩
  else entry.assertBinding binding

omit [Sha256] [PrintableText] [DecimalText] in
/-- The checks of `get` on a manifest with its body. -/
def assertWhole (secretValues : List String) (entry : CacheEntry) (body : Bytes) : Except PyError Unit := do
  if body.length ≠ entry.bodySize then throw ⟨.acquisitionIntegrity, "cache body size mismatch"⟩
  else
    assertNoSecretValues body secretValues
    assertNoSecretValues (← (PyValue.obj entry.toDict).canonicalBytes) secretValues

/-- The second half of `get`, once both files are there. -/
def readHit (identity : Digest) (binding : Binding) (secretValues : List String) : Process E (Option CachedResponse) := do
  let entry ← readEntry identity
  Task.ofExcept (assertBound identity binding entry)
  let body ← readBytes identity entry.bodySha256
  Task.ofExcept (assertWhole secretValues entry body)
  return some ⟨entry, body⟩

/-- `not entry_path.exists() or not body_path.exists()`, and a verified hit otherwise. -/
def readBoth (identity : Digest) (binding : Binding) (secretValues : List String) : Process E (Option CachedResponse) := do
  if !(← test (.entry identity)) then throw partialEntry
  else if !(← test (.body identity)) then throw partialEntry
  else readHit identity binding secretValues

/-- Return a verified hit, or nothing only when neither cache file exists. -/
def get (cacheIdentity : String) (binding : Binding) (secretValues : List String) : Process E (Option CachedResponse) := do
  let identity ← Task.ofExcept (validateDigestReference "cache_identity" cacheIdentity)
  if ← test (.entry identity) then readBoth identity binding secretValues
  else if ← test (.body identity) then readBoth identity binding secretValues
  else return none

omit [PrintableText] [DecimalText] [UrlLibrary] in
/-- `body_path` holds exactly these bytes afterwards. -/
def placeBody (identity : Digest) (body : Bytes) : Process E Unit := do
  if ← test (.body identity) then
    let existing ← readBytes identity (sha256Bytes body)
    if existing ≠ body then throw ⟨.acquisitionIntegrity, "cache identity already contains different bytes"⟩
    else return ()
  else
    let _ ← publishNoReplace (.body identity) body
    let existing ← readBytes identity (sha256Bytes body)
    if existing ≠ body then throw ⟨.acquisitionIntegrity, "cache body changed during publication"⟩
    else return ()

omit [Sha256] in
/-- The existing manifest stays; a new one is linked otherwise. -/
def placeEntry (identity : Digest) (entry : CacheEntry) (payload : Bytes) : Process E CacheEntry := do
  if ← test (.entry identity) then
    let existing ← readEntry identity
    if PyValue.equal (.obj existing.unstored) (.obj entry.unstored) then return existing
    else throw ⟨.acquisitionCache, "cache identity already contains a different manifest"⟩
  else
    let _ ← publishNoReplace (.entry identity) payload
    readEntry identity

/-- `candidate`, with its defaults. -/
def candidate (identity : Digest) (body : Bytes) (manifest : PyFields) : PyFields :=
  setDefault (setDefault (setDefault manifest "cache_identity" (CacheEntry.pyText identity.text)) "body_sha256"
    (CacheEntry.pyText (sha256Bytes body).text)) "body_size" (.int body.length)

/-- The checks of `put` before it looks at the file system: the manifest and its bytes. -/
def prepare (identity : Digest) (body : Bytes) (manifest : PyFields) (secretValues : List String) :
    Except PyError (CacheEntry × Bytes) := do
  assertNoSecretValues body secretValues
  let fields := candidate identity body manifest
  let named ← pyItem fields "cache_identity"
  let own ← validateDigestReference "cache_identity" named.toText.display
  if own ≠ identity then throw ⟨.acquisitionCache, "cache manifest identity does not match cache key"⟩
  else
    let digest ← pyItem fields "body_sha256"
    let unbound : PyError := ⟨.acquisitionIntegrity, "cache manifest body binding is incorrect"⟩
    if digest.toText ≠ PyText.ofString (sha256Bytes body).text then throw unbound
    else
      let size ← (← pyItem fields "body_size").toInt
      if size ≠ body.length then throw unbound
      else
        let entry ← CacheEntry.fromDict (.obj fields)
        let canonical ← (PyValue.obj entry.toDict).canonicalBytes
        assertNoSecretValues (canonical ++ [10]) secretValues
        return (entry, canonical ++ [10])

/-- The file system steps of `put`: body first, manifest second. -/
def publish (identity : Digest) (body : Bytes) (entry : CacheEntry) (payload : Bytes) : Process E CacheEntry := do
  let entered ← test (.entry identity)
  let stored ← test (.body identity)
  if entered ≠ stored then throw partialEntry
  else
    placeBody identity body
    placeEntry identity entry payload

/-- Commit body first and manifest second, never replacing either. -/
def put (cacheIdentity : String) (body : Bytes) (manifest : PyFields) (secretValues : List String) :
    Process E CacheEntry := do
  let identity ← Task.ofExcept (validateDigestReference "cache_identity" cacheIdentity)
  let (entry, payload) ← Task.ofExcept (prepare identity body manifest secretValues)
  publish identity body entry payload

end OnDisk.AcquisitionCache
end Molly
