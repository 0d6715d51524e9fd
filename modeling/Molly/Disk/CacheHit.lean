import Molly.Disk.Cache
import Molly.Disk.Linearize

/-! The cache under concurrent fills: what one reader finds under an identity is what
every reader finds, whoever wrote it and whoever was interrupted. -/
namespace Molly
open Effect

namespace OnDisk

/-- Nothing is ever replaced. -/
def archive (E : Signature) (outer : (op : E.Op) → E.Reply op → Prop) :
    Interference (files Path Bytes E) (Disk Path Bytes E) where
  act := Disk.act outer
  inv _ := True
  may
    | .replace _ _, _ => False
    | _, _ => True
  rely := Disk.Grows
  refl := .refl
  trans := .trans
  keeps := by
    intro op d reply t _ may acted
    cases op with
    | test | read =>
      obtain ⟨_, rfl⟩ := acted
      exact ⟨trivial, .refl _⟩
    | link path file =>
      obtain ⟨_, rfl⟩ := acted
      exact ⟨trivial, Disk.link_grows d path file⟩
    | replace => exact may.elim
    | outside =>
      obtain ⟨_, rfl⟩ := acted
      exact ⟨trivial, fun _ _ same => same⟩

variable {E : Signature} {outer : (op : E.Op) → E.Reply op → Prop}

theorem archive_preserving : Disk.Preserving (archive E outer) outer :=
  ⟨id, fun _ _ => trivial, fun _ _ => trivial, fun _ _ => trivial, id⟩

/-- The requests of the cache. -/
def Linking : (files Path Bytes E).Op → Prop
  | .replace _ _ => False
  | _ => True

variable [Sha256] [UrlLibrary] [PrintableText] [DecimalText]

/-- A manifest and a body that `get` accepts together. -/
structure Hit (d : Disk Path Bytes E) (identity : Digest) (binding : Binding) (secretValues : List String)
    (response : CachedResponse) : Prop where
  entry : ∃ raw, d.content (.entry identity) = some raw ∧ CacheEntry.decode raw = .ok response.entry
  bound : AcquisitionCache.assertBound identity binding response.entry = .ok ()
  body : d.content (.body identity) = some response.body
  digest : sha256Bytes response.body = response.entry.bodySha256
  whole : AcquisitionCache.assertWhole secretValues response.entry response.body = .ok ()

section
variable {d t : Disk Path Bytes E} {identity : Digest} {binding binding' : Binding} {secretValues secretValues' : List String}
  {response response' : CachedResponse}

theorem Hit.later (hit : Hit d identity binding secretValues response) (grows : d.Grows t) :
    Hit t identity binding secretValues response := by
  obtain ⟨raw, found, decoded⟩ := hit.entry
  exact ⟨⟨raw, grows _ _ found, decoded⟩, hit.bound, grows _ _ hit.body, hit.digest, hit.whole⟩

theorem Hit.unique (hit : Hit d identity binding secretValues response)
    (hit' : Hit d identity binding' secretValues' response') : response = response' := by
  obtain ⟨raw, found, decoded⟩ := hit.entry
  obtain ⟨raw', found', decoded'⟩ := hit'.entry
  obtain rfl := Option.some.inj (found.symm.trans found')
  have entries := Except.ok.inj (decoded.symm.trans decoded')
  have bodies := Option.some.inj (hit.body.symm.trans hit'.body)
  cases response
  cases response'
  cases entries
  cases bodies
  rfl

end

namespace AcquisitionCache
variable {s : Disk Path Bytes E}

omit [Sha256] in
/-- A file that reads as a manifest. -/
def Entered (d : Disk Path Bytes E) (identity : Digest) (entry : CacheEntry) : Prop :=
  ∃ raw, d.content (.entry identity) = some raw ∧ CacheEntry.decode raw = .ok entry

omit [Sha256] in
theorem readEntry_endures (identity : Digest) :
    (archive E outer).Endures (fun entry _ t => Entered t identity entry) (fun _ _ _ => ∀ entry, ¬ Entered s identity entry)
      (readEntry identity) () s := by
  apply readable_endures archive_preserving
  · intro raw t _ _ found only
    apply Interference.endures_ofExcept
    · intro entry u decoded later _
      exact ⟨raw, later _ _ found, decoded⟩
    · rintro error u failed _ _ entry ⟨other, known, decoded⟩
      obtain rfl := only other known
      cases failed.symm.trans decoded
  · rintro _ _ _ _ absent entry ⟨raw, known, _⟩
    cases absent.symm.trans known

omit [UrlLibrary] [PrintableText] [DecimalText] in
theorem readBytes_endures (identity expected : Digest) :
    (archive E outer).Endures
      (fun body _ t => t.content (.body identity) = some body ∧ sha256Bytes body = expected)
      (fun _ _ _ => ∀ body, s.content (.body identity) = some body → sha256Bytes body ≠ expected)
      (readBytes identity expected) () s := by
  apply readable_endures archive_preserving
  · intro raw t _ _ found only
    split
    · rename_i corrupt
      refine Interference.endures_throw fun _ _ _ body known => ?_
      rw [only body known]
      exact corrupt
    · rename_i intact
      rw [ne_eq, Decidable.not_not] at intact
      exact Interference.endures_pure fun u later _ => ⟨later _ _ found, intact⟩
  · intro _ _ _ _ absent body known
    cases absent.symm.trans known

variable {identity : Digest} {binding : Binding} {secretValues : List String}

theorem readHit_endures :
    (archive E outer).Endures (fun reply _ t => ∃ response, reply = some response ∧ Hit t identity binding secretValues response)
      (fun _ _ _ => ∀ response, ¬ Hit s identity binding secretValues response)
      (readHit identity binding secretValues) () s := by
  apply Interference.endures_bind trivial
  refine Interference.endures_mono (Interference.endures_rely (readEntry_endures identity)) ?_ ?_
  · rintro entry _ t _ ⟨relied, entered⟩
    -- another reader's hit would have this manifest
    have same {response : CachedResponse} (hit : Hit s identity binding secretValues response) : response.entry = entry := by
      obtain ⟨raw, found, decoded⟩ := (hit.later relied).entry
      obtain ⟨raw', found', decoded'⟩ := entered
      obtain rfl := Option.some.inj (found.symm.trans found')
      exact Except.ok.inj (decoded.symm.trans decoded')
    apply Interference.endures_bind trivial
    apply Interference.endures_ofExcept
    · intro _ u bound later _
      apply Interference.endures_bind trivial
      refine Interference.endures_mono (Interference.endures_rely (readBytes_endures identity entry.bodySha256)) ?_ ?_
      · rintro body _ v _ ⟨last, there, digest⟩
        apply Interference.endures_bind trivial
        apply Interference.endures_ofExcept
        · intro _ w whole after _
          refine Interference.endures_pure fun x final _ => ⟨⟨entry, body⟩, rfl, ?_⟩
          obtain ⟨raw, found, decoded⟩ := entered
          exact ⟨⟨raw, ((later.trans last).trans (after.trans final)) _ _ found, decoded⟩, bound,
            (after.trans final) _ _ there, digest, whole⟩
        · intro error w failed _ _ x _ _ response hit
          have held := hit.later (relied.trans (later.trans last))
          have bodies : response.body = body := Option.some.inj (held.body.symm.trans there)
          have whole := hit.whole
          rw [same hit, bodies] at whole
          cases whole.symm.trans failed
      · rintro error _ v _ ⟨_, missed⟩ w _ _ response hit
        exact missed response.body (hit.later (relied.trans later)).body (same hit ▸ hit.digest)
    · intro error u failed _ _ v _ _ response hit
      have bound := hit.bound
      rw [same hit] at bound
      cases bound.symm.trans failed
  · rintro error _ t _ ⟨_, missed⟩ u _ _ response hit
    exact missed response.entry hit.entry

theorem readBoth_endures :
    (archive E outer).Endures (fun reply _ t => ∃ response, reply = some response ∧ Hit t identity binding secretValues response)
      (fun _ _ _ => ∀ response, ¬ Hit s identity binding secretValues response)
      (readBoth identity binding secretValues) () s := by
  apply archive_preserving.endures_test
  intro entered t relied _ _ seen
  split
  · rename_i absent
    refine Interference.endures_throw fun _ _ _ response hit => ?_
    obtain ⟨raw, found, _⟩ := hit.entry
    rw [seen (by rw [found]; rfl)] at absent
    cases absent
  · apply archive_preserving.endures_test
    intro stored u later _ _ seen
    split
    · rename_i absent
      refine Interference.endures_throw fun _ _ _ response hit => ?_
      rw [seen (by rw [(hit.later relied).body]; rfl)] at absent
      cases absent
    · refine Interference.endures_mono readHit_endures (fun _ _ _ _ known => known) ?_
      exact fun error _ v _ missed response hit => missed response (hit.later (relied.trans later))

/-- A response that `get` returns is a hit from then on, and an earlier hit is what it returns. -/
theorem get_endures (cacheIdentity : String) :
    (archive E outer).Endures
      (fun reply _ t => ∃ identity, validateDigestReference "cache_identity" cacheIdentity = .ok identity ∧
        (∀ response, reply = some response → Hit t identity binding secretValues response) ∧
        ∀ response, Hit s identity binding secretValues response → reply ≠ none)
      (fun _ _ _ => ∀ identity response, validateDigestReference "cache_identity" cacheIdentity = .ok identity →
        ¬ Hit s identity binding secretValues response)
      (get cacheIdentity binding secretValues) () s := by
  apply Interference.endures_bind trivial
  apply Interference.endures_ofExcept
  · intro identity t named relied _
    have both {u : Disk Path Bytes E} (relied : s.Grows u) :
        (archive E outer).Endures
          (fun reply _ t => ∃ identity, validateDigestReference "cache_identity" cacheIdentity = .ok identity ∧
            (∀ response, reply = some response → Hit t identity binding secretValues response) ∧
            ∀ response, Hit s identity binding secretValues response → reply ≠ none)
          (fun _ _ _ => ∀ identity response, validateDigestReference "cache_identity" cacheIdentity = .ok identity →
            ¬ Hit s identity binding secretValues response)
          (readBoth identity binding secretValues) () u := by
      refine Interference.endures_mono readBoth_endures ?_ ?_
      · rintro reply _ v _ ⟨response, rfl, hit⟩
        exact ⟨identity, named, fun _ same => Option.some.inj same ▸ hit, fun _ _ => nofun⟩
      · rintro error _ v _ missed other response same hit
        obtain rfl := Except.ok.inj (named.symm.trans same)
        exact missed response (hit.later relied)
    apply archive_preserving.endures_test
    intro entered u later _ _ seen
    split
    · exact both (relied.trans later)
    · rename_i unentered
      apply archive_preserving.endures_test
      intro stored v last _ _ _
      split
      · exact both (relied.trans (later.trans last))
      · refine Interference.endures_pure fun w _ _ => ⟨identity, named, nofun, fun response hit => ?_⟩
        obtain ⟨raw, found, _⟩ := (hit.later relied).entry
        exact absurd (seen (by rw [found]; rfl)) unentered
  · intro error t failed _ _ u _ _ identity response named
    cases named.symm.trans failed

omit [UrlLibrary] [PrintableText] [DecimalText] in
theorem readBytes_linking (identity expected : Digest) : (readBytes (E := E) identity expected).Only Linking :=
  only_readable trivial trivial fun raw => by
    split
    · exact Task.only_throw _
    · exact Task.only_pure _

omit [Sha256] in
theorem readEntry_linking (identity : Digest) : (readEntry (E := E) identity).Only Linking :=
  only_readable trivial trivial fun _ => Task.only_ofExcept _

omit [UrlLibrary] [PrintableText] [DecimalText] in
theorem placeBody_linking (identity : Digest) (body : Bytes) : (placeBody (E := E) identity body).Only Linking := by
  refine Task.only_bind (Task.only_ask trivial) fun stored => ?_
  split
  · refine Task.only_bind (readBytes_linking _ _) fun existing => ?_
    split
    · exact Task.only_throw _
    · exact Task.only_pure _
  · refine Task.only_bind (Task.only_ask trivial) fun _ => Task.only_bind (readBytes_linking _ _) fun existing => ?_
    split
    · exact Task.only_throw _
    · exact Task.only_pure _

omit [Sha256] in
theorem placeEntry_linking (identity : Digest) (entry : CacheEntry) (payload : Bytes) :
    (placeEntry (E := E) identity entry payload).Only Linking := by
  refine Task.only_bind (Task.only_ask trivial) fun entered => ?_
  split
  · refine Task.only_bind (readEntry_linking _) fun existing => ?_
    split
    · exact Task.only_pure _
    · exact Task.only_throw _
  · exact Task.only_bind (Task.only_ask trivial) fun _ => readEntry_linking _

/-- A fill replaces nothing, whatever it is given and whether it raises. -/
theorem put_linking (cacheIdentity : String) (body : Bytes) (manifest : PyFields) (secretValues : List String) :
    (put (E := E) cacheIdentity body manifest secretValues).Only Linking := by
  refine Task.only_bind (Task.only_ofExcept _) fun identity => Task.only_bind (Task.only_ofExcept _) fun prepared => ?_
  refine Task.only_bind (Task.only_ask trivial) fun entered => Task.only_bind (Task.only_ask trivial) fun stored => ?_
  split
  · exact Task.only_throw _
  · exact Task.only_bind (placeBody_linking _ _) fun _ => placeEntry_linking _ _ _

end AcquisitionCache

/-! ### Calls of the cache -/

inductive CacheCall where
  | get (cacheIdentity : String) (binding : Binding) (secretValues : List String)
  | put (cacheIdentity : String) (body : Bytes) (manifest : PyFields) (secretValues : List String)

inductive CacheReply where
  | response (response : Option CachedResponse)
  | entry (entry : CacheEntry)

def CacheCall.process : CacheCall → Process storeHost CacheReply
  | .get cacheIdentity binding secretValues => .response <$> AcquisitionCache.get cacheIdentity binding secretValues
  | .put cacheIdentity body manifest secretValues => .entry <$> AcquisitionCache.put cacheIdentity body manifest secretValues

def CacheCall.code (call : CacheCall) : Prog (files Path Bytes storeHost) (Except PyError CacheReply × Unit) := call.process ()

abbrev CacheRun := Pool (files Path Bytes storeHost) CacheCall (Except PyError CacheReply × Unit) (Disk Path Bytes storeHost)

abbrev CacheRun.Reach (P Q : CacheRun) : Prop := Pool.Reach (Disk.machine fun _ _ => True) CacheCall.code P Q

/-- What a call that returns knows from then on. -/
def CacheCall.Found (t : Disk Path Bytes storeHost) : CacheCall → CacheReply → Prop
  | .get cacheIdentity binding secretValues, .response (some response) =>
    ∃ identity, validateDigestReference "cache_identity" cacheIdentity = .ok identity ∧
      Hit t identity binding secretValues response
  | _, _ => True

/-- A reader of what is a hit when it starts does not miss it. -/
def CacheCall.Reads (s : Disk Path Bytes storeHost) : CacheCall → Except PyError CacheReply → Prop
  | .get cacheIdentity binding secretValues, reply => ∀ identity response,
    validateDigestReference "cache_identity" cacheIdentity = .ok identity → Hit s identity binding secretValues response →
      ∃ found, reply = .ok (.response (some found))
  | .put _ _ _ _, _ => True

theorem CacheCall.Found.later {s t : Disk Path Bytes storeHost} (grows : s.Grows t) {call : CacheCall} {reply : CacheReply}
    (found : call.Found s reply) : call.Found t reply := by
  unfold Found at found ⊢
  split
  · obtain ⟨identity, named, hit⟩ := found
    exact ⟨identity, named, hit.later grows⟩
  · trivial

theorem CacheCall.Reads.earlier {s t : Disk Path Bytes storeHost} (grows : s.Grows t) {call : CacheCall}
    {reply : Except PyError CacheReply} (reads : call.Reads t reply) : call.Reads s reply := by
  cases call with
  | get => exact fun identity response named hit => reads identity response named (hit.later grows)
  | put => trivial

/-- The cache, whatever the clocks say. -/
abbrev timedArchive : Interference (files Path Bytes storeHost) (Disk Path Bytes storeHost) :=
  archive storeHost fun _ _ => True

theorem CacheCall.endures (call : CacheCall) {s : Disk Path Bytes storeHost} :
    timedArchive.Endures (fun reply _ t => call.Found t reply ∧ call.Reads s (.ok reply))
      (fun error _ _ => call.Reads s (.error error)) call.process () s := by
  cases call with
  | get cacheIdentity binding secretValues =>
    apply Interference.endures_bind trivial
    refine Interference.endures_mono (AcquisitionCache.get_endures cacheIdentity) ?_ ?_
    · rintro reply _ t _ ⟨identity, named, hits, seen⟩
      refine Interference.endures_pure fun u later _ => ⟨?_, ?_⟩
      · cases reply with
        | none => trivial
        | some response => exact ⟨identity, named, (hits response rfl).later later⟩
      · intro other response same hit
        obtain rfl := Except.ok.inj (named.symm.trans same)
        obtain ⟨found, rfl⟩ := Option.ne_none_iff_exists'.mp (seen response hit)
        exact ⟨found, rfl⟩
    · exact fun error _ t _ missed u _ _ identity response named hit => (missed identity response named hit).elim
  | put cacheIdentity body manifest secretValues =>
    have linking : (CacheCall.put cacheIdentity body manifest secretValues).process.Only Linking :=
      Task.only_bind (AcquisitionCache.put_linking _ _ _ _) fun _ => Task.only_pure _
    refine Interference.endures_of_only linking ?_ (fun _ _ _ _ => ?_) fun _ _ _ _ => trivial
    · intro op t linking _
      cases op with
      | replace => exact linking
      | _ => trivial
    · refine ⟨?_, trivial⟩
      unfold Found
      split
      · rename_i impossible
        cases impossible
      · trivial

/-- What the calls of a cache know together. -/
theorem CacheRun.known {d : Disk Path Bytes storeHost} {P Q : CacheRun} (before : CacheRun.Reach (Pool.start d) P)
    (after : CacheRun.Reach P Q) : P.state.Grows Q.state ∧
      (∀ i call reply, Q.Returned i call (.ok reply, ()) → call.Found Q.state reply) ∧
      ∀ i call reply, P.threads.length ≤ i → Q.Returned i call (reply, ()) → call.Reads P.state reply := by
  let knows (new : Prop) (call : CacheCall) : Except PyError CacheReply × Unit → Disk Path Bytes storeHost → Prop :=
    Task.outcome (fun reply _ t => call.Found t reply ∧ (new → call.Reads P.state (.ok reply)))
      fun error _ _ => new → call.Reads P.state (.error error)
  obtain ⟨_, _, kept⟩ := timedArchive.pool (fun _ call => knows False call) before trivial
    (fun _ _ absent => by simp [Pool.start] at absent) fun i call s _ _ _ _ =>
      Interference.endures_mono call.endures (fun _ _ _ _ known => ⟨known.1, False.elim⟩) fun _ _ _ _ _ => False.elim
  obtain ⟨_, grows, each⟩ := timedArchive.pool (fun i call => knows (P.threads.length ≤ i) call) after trivial
    (fun i thread found => by
      obtain ⟨inside, _⟩ := List.getElem?_eq_some_iff.mp found
      refine Interference.survives_mono ?_ (kept i thread found)
      rintro ⟨_ | reply, _⟩ t _ known
      · exact fun new => absurd inside (Nat.not_lt.mpr new)
      · exact ⟨known.1, fun new => absurd inside (Nat.not_lt.mpr new)⟩) fun i call s _ _ relied _ =>
      Interference.endures_mono call.endures (fun _ _ _ _ known => ⟨known.1, fun _ => known.2.earlier relied⟩)
        fun _ _ _ _ known _ => known.earlier relied
  refine ⟨grows, fun i call reply returned => ?_, fun i call reply new returned => ?_⟩
  · exact (each i _ returned _ (.refl _) trivial).1
  · cases reply with
    | error error => exact each i _ returned _ (.refl _) trivial new
    | ok reply => exact (each i _ returned _ (.refl _) trivial).2 new

end OnDisk

open OnDisk in
/-- Whatever calls of the cache run together on whatever is there, and wherever they are
interrupted: a response that is returned is whole, it is what any other reader of the
identity returns, and no fill, raising or not, keeps the same reader from finding it again. -/
theorem cache_hits_agree [Sha256] [UrlLibrary] [PrintableText] [DecimalText] {d : Disk Path Bytes storeHost} {P Q : CacheRun}
    (before : CacheRun.Reach (Pool.start d) P) (after : CacheRun.Reach P Q) {i : Nat} {cacheIdentity : String}
    {binding : Binding} {secretValues : List String} {response : CachedResponse}
    (returned : P.Returned i (.get cacheIdentity binding secretValues) (.ok (.response (some response)), ())) :
    ∃ identity, validateDigestReference "cache_identity" cacheIdentity = .ok identity ∧
      sha256Bytes response.body = response.entry.bodySha256 ∧ response.body.length = response.entry.bodySize ∧
      (∀ item ∈ binding, item.2 (response.entry.get item.1) = true) ∧
      (∀ j other binding' secretValues' response', validateDigestReference "cache_identity" other = .ok identity →
        Q.Returned j (.get other binding' secretValues') (.ok (.response (some response')), ()) → response' = response) ∧
      (∀ path ∈ [Path.entry identity, Path.body identity], (P.state.content path).isSome = true ∧
        Q.state.content path = P.state.content path) ∧
      ∀ j value, P.threads.length ≤ j → Q.Returned j (.get cacheIdentity binding secretValues) value →
        value = (.ok (.response (some response)), ()) := by
  obtain ⟨_, found, _⟩ := CacheRun.known before (.refl : CacheRun.Reach P P)
  obtain ⟨grows, founds, reads⟩ := CacheRun.known before after
  obtain ⟨identity, named, hit⟩ := found i _ _ returned
  have agree {j : Nat} {other : String} {binding' : Binding} {secretValues' : List String} {response' : CachedResponse}
      (same : validateDigestReference "cache_identity" other = .ok identity)
      (returned' : Q.Returned j (.get other binding' secretValues') (.ok (.response (some response')), ())) :
      response' = response := by
    obtain ⟨identity', named', hit'⟩ := founds j _ _ returned'
    obtain rfl := Except.ok.inj (same.symm.trans named')
    exact hit'.unique (hit.later grows)
  refine ⟨identity, named, hit.digest, ?_, ?_, fun j other _ _ _ same => agree same, ?_, ?_⟩
  · by_contra different
    have whole := hit.whole
    rw [AcquisitionCache.assertWhole, if_pos different] at whole
    cases whole
  · have bound := hit.bound
    unfold AcquisitionCache.assertBound at bound
    split at bound
    · cases bound
    · exact CacheEntry.assertBinding_ok.mp bound
  · obtain ⟨raw, there, _⟩ := hit.entry
    intro path member
    rcases List.mem_cons.mp member with rfl | member
    · exact ⟨by rw [there]; rfl, (grows _ _ there).trans there.symm⟩
    · obtain rfl := List.mem_singleton.mp member
      exact ⟨by rw [hit.body]; rfl, (grows _ _ hit.body).trans hit.body.symm⟩
  · rintro j ⟨reply, _⟩ new returned'
    obtain ⟨again, rfl⟩ := reads j _ reply new returned' identity response named hit
    rw [agree named returned']

/-! ### A fill, a rival and a reader -/

namespace Sample
attribute [local instance] standardSha256 asciiPrintable asciiDecimal

/-- The part before the first of these characters, and the part from there on. -/
def cut (marks : List CodePoint) (text : PyText) : PyText × PyText :=
  (text.takeWhile (· ∉ marks), text.dropWhile (· ∉ marks))

/-- URLs of the form `scheme://netloc/path?query#fragment`, without user or port; a query
of fields with values that need no quoting. -/
@[reducible] def plainUrls : UrlLibrary where
  casefold text := text.map fun p => if 65 ≤ p.val ∧ p.val ≤ 90 then p + 32 else p
  urlsplit text :=
    let (scheme, rest) := cut [58] text
    let (netloc, rest) := cut [47, 63, 35] (rest.drop 3)
    let (path, rest) := cut [63, 35] rest
    let (query, rest) := cut [35] rest
    some ⟨scheme, netloc, path, query.drop 1, rest.drop 1, some netloc, none, none⟩
  parseQsl _ text :=
    let fields := (text.splitOn 38).filter (· ≠ [])
    some (fields.map fun field => ((cut [61] field).1, (cut [61] field).2.drop 1))
  urlencode fields := List.intercalate [38] (fields.map fun field => field.1 ++ 61 :: field.2)
  urlunsplit scheme netloc path query fragment :=
    scheme ++ [58, 47, 47] ++ netloc ++ path ++ (if query = [] then [] else 63 :: query) ++
      if fragment = [] then [] else 35 :: fragment

attribute [local instance] plainUrls

open OnDisk

def cacheKey : String := "sha256:" ++ (sha256Bytes [0]).text

def manifest : PyFields :=
  [("schema_version", .str (PyText.ofString "molly.acquisition.cache.v1")), ("provider", .str (PyText.ofString "crossref")),
    ("provider_config_digest", .str (PyText.ofString (sha256Bytes [1]).text)),
    ("route_policy_version", .str (PyText.ofString "v1")),
    ("request_identity", .str (PyText.ofString (sha256Bytes [2]).text)), ("canonical_identifier", .null),
    ("route_id", .str (PyText.ofString "works")), ("request_shape", .obj []),
    ("source_url", .str (PyText.ofString "https://api.crossref.org/works?rows=1")),
    ("resolved_url", .str (PyText.ofString "https://api.crossref.org/works?rows=1")), ("redirect_chain", .arr []),
    ("response_status", .int 200), ("retrieved_at", .str (PyText.ofString "2024-01-01T00:00:00Z")),
    ("access_status", .str (PyText.ofString "CONFIGURED_AUTHORIZED")), ("license_status", .str (PyText.ofString "known")),
    ("access_basis", .str (PyText.ofString "public")), ("redistribution_basis", .str (PyText.ofString "cc0")),
    ("content_type", .str (PyText.ofString "Application/JSON; charset=utf-8")),
    ("content_family", .str (PyText.ofString "json")), ("artifact_class", .str (PyText.ofString "PUBLIC_ARTIFACT")),
    ("access_profile_ref", .null), ("cache_status", .str (PyText.ofString "MISS")),
    ("stored_at", .str (PyText.ofString "2024-01-01T00:00:00Z"))].map fun f => (PyText.ofString f.1, f.2)

def fill (body : Bytes) : CacheCall := .put cacheKey body manifest []

def lookUp : CacheCall := .get cacheKey [("provider", (PyValue.str (PyText.ofString "crossref")).equal)] []

/-- A rival meets the body without its manifest. -/
def contested : List (Pool.Turn CacheCall) :=
  [.start (fill [7]), .start (fill [8]), .start lookUp] ++ moves 0 4 ++ moves 1 2 ++ moves 0 8 ++ moves 2 9

/-- Another one meets both files. -/
def thenRefill : List (Pool.Turn CacheCall) := [.start (fill [9]), .start lookUp] ++ moves 3 6 ++ moves 4 9

def playCache (turns : List (Pool.Turn CacheCall)) (P : CacheRun) : Option CacheRun :=
  Pool.play (Disk.answer fun _ => epoch) CacheCall.code turns P

theorem reach_of_playCache {turns : List (Pool.Turn CacheCall)} {P Q : CacheRun} (played : playCache turns P = some Q) :
    CacheRun.Reach P Q :=
  Pool.reach_of_play (Disk.act_of_answer fun _ => trivial) played

/-- The calls that have returned, and whether with a response. -/
def hits (P : CacheRun) : List (Option Bool) := P.threads.map fun thread =>
  match thread.rest with
  | .ret (.ok (.response (some _)), _) => some true
  | .ret _ => some false
  | .call _ _ => none

theorem returned_of_hits {P : CacheRun} {i : Nat} {call : CacheCall} (hit : (hits P)[i]? = some (some true))
    (label : (P.threads.map Thread.label)[i]? = some call) : ∃ response, P.Returned i call (.ok (.response (some response)), ()) := by
  simp only [hits, List.getElem?_map, Option.map_eq_some_iff] at hit label
  obtain ⟨thread, found, hit⟩ := hit
  obtain ⟨same, found', label⟩ := label
  obtain rfl := Option.some.inj (found.symm.trans found')
  obtain ⟨name, rest⟩ := thread
  subst label
  split at hit
  · rename_i response _ returned
    cases returned
    exact ⟨response, found⟩
  · cases hit
  · cases hit

/-- A reader before and a reader after a fill that is refused find one response. -/
theorem cache_hits_agree_contested : ∃ P Q : CacheRun, ∃ response, CacheRun.Reach (Pool.start Disk.empty) P ∧
    CacheRun.Reach P Q ∧ P.Returned 2 lookUp (.ok (.response (some response)), ()) ∧
    Q.Returned 4 lookUp (.ok (.response (some response)), ()) := by
  have checked : ((playCache contested (Pool.start Disk.empty)).map fun P => (hits P, (playCache thenRefill P).map hits)) =
      some ([some false, some false, some true], some [some false, some false, some true, some false, some true]) := by
    decide +kernel
  obtain ⟨P, played, hit⟩ := Option.map_eq_some_iff.mp checked
  obtain ⟨first, second⟩ := Prod.mk.inj hit
  obtain ⟨Q, playedOn, then'⟩ := Option.map_eq_some_iff.mp second
  have labels := Pool.labels_of_play played
  have labelsOn := Pool.labels_of_play playedOn
  rw [labels] at labelsOn
  have before := reach_of_playCache played
  have after := reach_of_playCache playedOn
  obtain ⟨response, returned⟩ := returned_of_hits (i := 2) (by rw [first]; rfl) (by rw [labels]; rfl)
  obtain ⟨again, returned'⟩ := returned_of_hits (i := 4) (by rw [then']; rfl) (by rw [labelsOn]; rfl)
  obtain ⟨identity, named, _, _, _, agree, _⟩ := cache_hits_agree before after returned
  obtain rfl := agree 4 _ _ _ again named returned'
  exact ⟨P, Q, again, before, after, returned, returned'⟩

end Sample
end Molly
