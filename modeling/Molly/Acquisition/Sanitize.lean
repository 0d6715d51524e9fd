import Molly.Acquisition.Canonical
import Molly.Disk.CacheEntry

/-! What is kept of a URL in a record: no query field with a secret name, and no secret as it stands. -/
namespace Molly

/-! ### Names of secrets -/

/-- A name of `SECRET_QUERY_NAMES`, in any case and with any marks between its words. -/
def isSecretName [CaseText] (key : PyText) : Bool :=
  (secretQueryNames.map fun name => normalizedKey (PyText.ofString name)).contains (normalizedKey key.casefold)

/-! ### Reading a query -/

namespace Urls

/-- A field without an equals sign has a blank value. -/
def parseFieldBlank (field : PyText) : PyText × PyText :=
  match partition 61 field with
  | (name, value) => (unquotePlus name, unquotePlus (value.getD []))

/-- `parse_qsl(query, keep_blank_values=True)`. -/
def parseQslBlank (query : PyText) : List (PyText × PyText) := ((query.splitOn 38).filter (· ≠ [])).map parseFieldBlank

theorem parseFieldBlank_of_strict {part : PyText} {field : PyText × PyText} (read : parseField part = .ok field) :
    part ≠ [] ∧ parseFieldBlank part = field := by
  unfold parseField at read
  unfold parseFieldBlank
  cases cuts : partition 61 part with
  | mk name value =>
    rw [cuts] at read
    cases value with
    | none => cases read
    | some value =>
      cases read
      refine ⟨?_, rfl⟩
      rintro rfl
      cases cuts

/-- What the strict reader accepts, the other one reads the same. -/
theorem parseQslBlank_of_strict {query : PyText} {fields : List (PyText × PyText)} (read : parseQsl query = .ok fields) :
    parseQslBlank query = fields := by
  unfold parseQsl at read
  unfold parseQslBlank
  by_cases blank : query = []
  · rw [if_pos blank] at read
    cases read
    rw [blank]
    rfl
  · rw [if_neg blank] at read
    generalize query.splitOn 38 = parts at read ⊢
    have each := mapM_ok.mp read
    clear read blank
    induction each with
    | nil => rfl
    | cons first _ ih =>
      obtain ⟨full, same⟩ := parseFieldBlank_of_strict first
      rw [List.filter_cons_of_pos (by simpa using full), List.map_cons, same, ih]

/-! ### Writing a URL -/

def usesNetloc : List PyText :=
  ["ftp", "http", "gopher", "nntp", "telnet", "imap", "wais", "file", "mms", "https", "shttp", "snews", "prospero", "rtsp", "rtsps",
    "rtspu", "rsync", "svn", "svn+ssh", "sftp", "nfs", "git", "git+ssh", "ws", "wss"].map PyText.ofString

/-- `urlunsplit(parts)`. -/
def SplitResult.unsplit (s : SplitResult) : PyText :=
  let path :=
    if s.netloc ≠ [] || (usesNetloc.contains s.scheme && !([47, 47] : PyText).isPrefixOf s.path) then
      [47, 47] ++ s.netloc ++ if s.path ≠ [] ∧ s.path.head? ≠ some 47 then 47 :: s.path else s.path
    else s.path
  let url := if s.scheme = [] then path else s.scheme ++ 58 :: path
  let url := if s.query = [] then url else url ++ 63 :: s.query
  if s.fragment = [] then url else url ++ 35 :: s.fragment

/-! ### Sanitizing -/

/-- Every secret replaced by the marker, one after the other. -/
def hideSecrets (secrets : List PyText) (text : PyText) : PyText :=
  secrets.foldl (fun text secret => replaceText secret redacted (text.length + 1) text) text

/-- A field that is kept; a value that is a secret is replaced. -/
def safeField (secrets : List PyText) (field : PyText × PyText) : PyText × PyText :=
  (field.1, if secrets.contains field.2 then redacted else field.2)

/-- The part of `sanitize_url` that may raise. -/
def cleanedUrl [CaseText] [CompatText] (secrets : List PyText) (hidden : PyText) : Except PyError PyText := do
  let parsed ← urlsplit hidden
  let query ← urlencode (((parseQslBlank parsed.query).filter fun field => !isSecretName field.1).map (safeField secrets))
  return SplitResult.unsplit ⟨parsed.scheme, parsed.netloc, parsed.path, query, []⟩

/-- `sanitize_url`. -/
def sanitizeUrl [CaseText] [CompatText] (value : PyText) (secretValues : List PyText) : PyText :=
  let secrets := secretValues.filter (· ≠ [])
  let hidden := hideSecrets secrets value
  match cleanedUrl secrets hidden with
  | .ok url => url
  | .error _ => (hideSecrets secrets hidden).take 16384

end Urls
end Molly
