import Molly.Acquisition.Config
import Molly.Acquisition.Doi
import Molly.Acquisition.Sanitize

/-! The choice of a full-text source: the candidates of a resolver are tried on every configured
route, and the least of those that qualify is requested. -/
namespace Molly
open Effect (Precedence)

/-- What the choice reads of a `SourceCandidate`. -/
structure SourceCandidate where
  url : PyText
  contentTypeHint : Option PyText
  licenseStatus : Option PyText
  accessStatus : Option PyText

/-- `_EligibleSource`. -/
structure EligibleSource where
  candidate : SourceCandidate
  route : ConfiguredRoute
  providerConfig : ProviderConfig
  canonicalUrl : PyText
  artifactClass : ArtifactClass
  priority : Nat

section
variable [CaseText] [LowerText] [CompatText]

/-! ### The rules -/

def unverifiedMarks : List PyText := ["unknown", "denied", "unverified", "not-verified"].map PyText.ofString

/-- `classify_route`. -/
def classifyRoute (route : ConfiguredRoute) : Except PyError ArtifactClass := do
  let access := route.accessBasis.casefold.strip
  let licenseStatus := route.licenseStatus.casefold.strip
  let redistribution := route.redistributionBasis.casefold.strip
  ensure (!unverifiedMarks.contains access && !unverifiedMarks.contains licenseStatus)
    (policyError "route access or license status is not verified")
  if (PyText.ofString "verified").isPrefixOf redistribution || decide (PyText.ofString "public-safe" <:+: redistribution) ||
      (["cc-by", "cc0", "public-domain"].map PyText.ofString).contains redistribution then
    return .publicArtifact
  else if access ≠ [] ∧ licenseStatus ≠ [] then return .privateArtifact
  else throw (policyError "route lacks an explicit access basis")

def familyPriority : ContentFamily → Nat
  | .xml => 0
  | .json => 1
  | .html => 2
  | .pdf => 3

/-- `_candidate_content_priority`. -/
def candidateContentPriority (candidate : SourceCandidate) (route : ConfiguredRoute) : Option Nat :=
  match candidate.contentTypeHint with
  | none => some 4
  | some hint =>
    match mediaType hint with
    | some media => if media ∈ route.acceptedContentTypes then some (familyPriority media.family) else none
    | none => none

/-- `_candidate_query_is_safe`. -/
def candidateQueryIsSafe (url : PyText) : Bool :=
  match Urls.urlsplit url with
  | .ok parsed => (Urls.parseQslBlank parsed.query).all fun field => !isSecretName field.1
  | .error _ => false

/-- A status that is given and is one of these. -/
def isMarked (status : Option PyText) (marks : List String) : Bool :=
  status.any fun (text : PyText) => text ≠ [] && (marks.map PyText.ofString).contains text.casefold

def SourceCandidate.isClosed (candidate : SourceCandidate) : Bool :=
  isMarked candidate.accessStatus ["unknown", "denied", "closed"] ||
    isMarked candidate.licenseStatus ["unknown", "denied", "unverified", "closed"]

/-- What a candidate is on a route; an exception of a rule leaves the pair out. -/
def sourceOn (candidate : SourceCandidate) (route : ConfiguredRoute) (providerConfig : ProviderConfig) : Option EligibleSource :=
  match route.canonicalize candidate.url, classifyRoute route, candidateContentPriority candidate route with
  | .ok canonical, .ok artifactClass, some priority =>
    if candidate.isClosed then none else some ⟨candidate, route, providerConfig, canonical.value, artifactClass, priority⟩
  | _, _, _ => none

/-! ### The choice -/

def natOrder : Effect.SortedMap.Ordering Nat where
  lt a b := decide (a < b)
  irrefl a := decide_eq_false (Nat.lt_irrefl a)
  trans first second := decide_eq_true ((of_decide_eq_true first).trans (of_decide_eq_true second))
  total differ := by
    rcases Nat.lt_or_gt_of_ne differ with less | more
    · exact .inl (decide_eq_true less)
    · exact .inr (decide_eq_true more)

/-- `route.provider_id`. -/
def ConfiguredRoute.providerText (route : ConfiguredRoute) : PyText :=
  match route.providerId with
  | some id => id.pyText
  | none => []

/-- The key of the sort: the priority, the provider, the route and the URL. -/
def sourceOrder : Precedence EligibleSource :=
  ((Precedence.ofOrdering natOrder).pull (·.priority)).lex
    (((Precedence.ofOrdering keyOrder).pull (·.route.providerText)).lex
      (((Precedence.ofOrdering keyOrder).pull (·.route.routeId.pyText)).lex
        ((Precedence.ofOrdering keyOrder).pull (·.canonicalUrl))))

/-- A full-text route with the configuration of its provider. -/
def boundRoute (config : AcquisitionConfig) (route : ConfiguredRoute) : Except PyError (ConfiguredRoute × ProviderConfig) := do
  let providerId ← match route.providerId with
    | some id => pure id
    | none => validateIdentifier "provider_id" ""
  let providerConfig ← config.provider providerId
  ensure (providerConfig.providerClass = .fullText) (configError "full-text route is not bound to a FULL_TEXT provider")
  return (route, providerConfig)

/-- `_eligible_sources`. -/
def eligibleSources (config : AcquisitionConfig) (candidates : List SourceCandidate) : Except PyError (List EligibleSource) := do
  let routes ← config.fullTextRoutes.mapM (boundRoute config)
  let found := candidates.flatMap fun candidate =>
    if candidateQueryIsSafe candidate.url then routes.filterMap fun (route, providerConfig) => sourceOn candidate route providerConfig
    else []
  return sourceOrder.sorted found

/-- A `ProviderRequest` for a full text, with the members of its request shape. -/
structure FullTextRequest where
  providerConfig : ProviderConfig
  route : ConfiguredRoute
  path : PyText
  query : List (PyText × PyText)
  doi : PyText
  sourceUrl : PyText
  canonicalIdentifier : StoredReference

variable [DecimalText]

/-- `ConfiguredFullTextFetcher(provider_config, route).request(doi, source_url)`. -/
def configuredRequest (providerConfig : ProviderConfig) (route : ConfiguredRoute) (doi sourceUrl : PyText) :
    Except PyError FullTextRequest := do
  ensure (providerConfig.providerClass = .fullText) (configError "full-text fetcher requires a FULL_TEXT provider configuration")
  ensure (route.providerId = some providerConfig.providerId) (configError "full-text fetcher route/provider mismatch")
  let _ ← providerConfig.route route.routeId
  let canonicalDoi ← normalizeDoi doi
  let canonical ← route.canonicalize sourceUrl
  ensure (canonical.path.head? = some 47 && canonical.path.all fun p => p ∉ ([0, 13, 10] : List CodePoint))
    (configError "provider request path is unsafe")
  let reference ← validateStoredReference "canonical_identifier" canonicalDoi
  return ⟨providerConfig, route, canonical.path, canonical.query, canonicalDoi, canonical.value, reference⟩

/-- The choice in `acquire_full_text`: what is requested for the candidates, or that none qualifies. -/
def fullTextRequest (config : AcquisitionConfig) (identifier : PyText) (candidates : List SourceCandidate) :
    Except PyError (Option FullTextRequest) := do
  let doi ← normalizeDoi identifier
  match ← eligibleSources config candidates with
  | [] => return none
  | selected :: _ =>
    let request ← configuredRequest selected.providerConfig selected.route doi selected.canonicalUrl
    return some request

/-! ### What qualifies -/

/-- The access and the license of a route are not marked as unverified. -/
def ConfiguredRoute.Verified (route : ConfiguredRoute) : Prop :=
  route.accessBasis.casefold.strip ∉ unverifiedMarks ∧ route.licenseStatus.casefold.strip ∉ unverifiedMarks

omit [LowerText] [CompatText] [DecimalText] in
theorem verified_of_class {route : ConfiguredRoute} {artifactClass : ArtifactClass} (made : classifyRoute route = .ok artifactClass) :
    route.Verified := by
  simp only [classifyRoute, bind_ok, ensure_ok, exists_const, Bool.and_eq_true, Bool.not_eq_true', List.contains_eq_mem,
    decide_eq_false_iff_not] at made
  exact made.1

/-- A candidate on a full-text route that all rules let pass. -/
structure Qualifies (config : AcquisitionConfig) (candidates : List SourceCandidate) (source : EligibleSource) : Prop where
  candidate : source.candidate ∈ candidates
  route : source.route ∈ config.fullTextRoutes
  provider : source.providerConfig ∈ config.providers
  bound : source.route.providerId = some source.providerConfig.providerId
  fullText : source.providerConfig.providerClass = .fullText
  plain : candidateQueryIsSafe source.candidate.url = true
  canonical : ∃ canonical, source.route.canonicalize source.candidate.url = .ok canonical ∧ canonical.value = source.canonicalUrl
  verified : classifyRoute source.route = .ok source.artifactClass
  priority : candidateContentPriority source.candidate source.route = some source.priority
  unmarked : source.candidate.isClosed = false

omit [DecimalText] in
theorem sourceOn_iff {candidate : SourceCandidate} {route : ConfiguredRoute} {providerConfig : ProviderConfig}
    {source : EligibleSource} : sourceOn candidate route providerConfig = some source ↔
      source.candidate = candidate ∧ source.route = route ∧ source.providerConfig = providerConfig ∧
      (∃ canonical, route.canonicalize candidate.url = .ok canonical ∧ canonical.value = source.canonicalUrl) ∧
      classifyRoute route = .ok source.artifactClass ∧ candidateContentPriority candidate route = some source.priority ∧
      candidate.isClosed = false := by
  constructor
  · intro made
    unfold sourceOn at made
    split at made
    · rename_i canonical artifactClass priority accepted classified placed
      split at made
      · cases made
      · rename_i unmarked
        cases made
        exact ⟨rfl, rfl, rfl, ⟨canonical, accepted, rfl⟩, classified, placed, by simpa using unmarked⟩
    · cases made
  · rintro ⟨rfl, rfl, rfl, ⟨canonical, accepted, same⟩, classified, placed, unmarked⟩
    simp only [sourceOn, accepted, classified, placed, unmarked, same]
    rfl

omit [CaseText] [LowerText] [CompatText] [DecimalText] in
theorem boundRoute_ok {config : AcquisitionConfig} {route : ConfiguredRoute} {bound : ConfiguredRoute × ProviderConfig}
    (made : boundRoute config route = .ok bound) : bound.1 = route ∧ bound.2 ∈ config.providers ∧
      route.providerId = some bound.2.providerId ∧ bound.2.providerClass = .fullText := by
  unfold boundRoute at made
  cases named : route.providerId with
  | none =>
    rw [named] at made
    cases made
  | some id =>
    rw [named] at made
    simp only [bind_ok, ensure_ok, exists_const] at made
    obtain ⟨_, same, providerConfig, found, full, whole⟩ := made
    cases same
    cases whole
    unfold AcquisitionConfig.provider at found
    split at found
    · rename_i known
      cases found
      have named := List.find?_some known
      exact ⟨rfl, List.mem_of_find?_eq_some known, by rw [of_decide_eq_true named], by simpa using full⟩
    · cases found

omit [CaseText] [LowerText] [CompatText] [DecimalText] in
/-- Two providers of a configuration have two names. -/
theorem AcquisitionConfig.provider_unique (config : AcquisitionConfig) {p q : ProviderConfig} (known : p ∈ config.providers)
    (known' : q ∈ config.providers) (same : p.providerId = q.providerId) : p = q :=
  List.inj_on_of_nodup_map config.distinct known known' same

omit [DecimalText] in
/-- The eligible sources are those that qualify. -/
theorem mem_eligibleSources {config : AcquisitionConfig} {candidates : List SourceCandidate} {sources : List EligibleSource}
    (made : eligibleSources config candidates = .ok sources) (source : EligibleSource) :
    source ∈ sources ↔ Qualifies config candidates source := by
  simp only [eligibleSources, bind_ok] at made
  obtain ⟨routes, bound, same⟩ := made
  cases same
  have each := mapM_ok.mp bound
  simp only [Precedence.mem_sorted, List.mem_flatMap]
  constructor
  · rintro ⟨candidate, given, found⟩
    split at found
    · rename_i plain
      obtain ⟨⟨route, providerConfig⟩, listed, made⟩ := List.mem_filterMap.mp found
      obtain ⟨rfl, rfl, rfl, canonical, verified, placed, unmarked⟩ := sourceOn_iff.mp made
      obtain ⟨own, configured, binds⟩ := forall₂_right each listed
      obtain ⟨same, known, named, full⟩ := boundRoute_ok binds
      dsimp only at same known named full
      subst same
      exact ⟨given, configured, known, named, full, plain, canonical, verified, placed, unmarked⟩
    · cases found
  · intro qualifies
    refine ⟨source.candidate, qualifies.candidate, ?_⟩
    rw [if_pos qualifies.plain]
    obtain ⟨⟨route, providerConfig⟩, listed, binds⟩ := forall₂_left each qualifies.route
    obtain ⟨same, known, named, _⟩ := boundRoute_ok binds
    dsimp only at same known named
    subst same
    have own : source.providerConfig = providerConfig :=
      config.provider_unique qualifies.provider known (Option.some.inj (qualifies.bound.symm.trans named))
    exact List.mem_filterMap.mpr ⟨(source.route, providerConfig), listed, sourceOn_iff.mpr
      ⟨rfl, rfl, own, qualifies.canonical, qualifies.verified, qualifies.priority, qualifies.unmarked⟩⟩

/-! ### Ties and orders -/

omit [DecimalText] in
/-- Sources that the key does not put apart lead to the same request. -/
theorem Qualifies.tied {config : AcquisitionConfig} {candidates candidates' : List SourceCandidate} {a b : EligibleSource}
    (qualifies : Qualifies config candidates a) (qualifies' : Qualifies config candidates' b) (tied : sourceOrder.Tied a b) :
    a.providerConfig = b.providerConfig ∧ a.route = b.route ∧ a.canonicalUrl = b.canonicalUrl := by
  obtain ⟨_, tied⟩ := Precedence.tied_lex.mp tied
  obtain ⟨providers, tied⟩ := Precedence.tied_lex.mp tied
  obtain ⟨routes, urls⟩ := Precedence.tied_lex.mp tied
  have providers := Precedence.tied_ofOrdering.mp providers
  have routes := Precedence.tied_ofOrdering.mp routes
  simp only [ConfiguredRoute.providerText, qualifies.bound, qualifies'.bound] at providers
  have provider : a.providerConfig.providerId = b.providerConfig.providerId := Identifier.ext (PyText.ofString_injective providers)
  have route : a.route.routeId = b.route.routeId := Identifier.ext (PyText.ofString_injective routes)
  have key : a.route.key = b.route.key := by rw [ConfiguredRoute.key, ConfiguredRoute.key, qualifies.bound, qualifies'.bound, provider, route]
  exact ⟨config.provider_unique qualifies.provider qualifies'.provider provider,
    List.inj_on_of_nodup_map config.routesDistinct qualifies.route qualifies'.route key, Precedence.tied_ofOrdering.mp urls⟩

omit [DecimalText] in
/-- Candidates in another order are eligible on the same routes. -/
theorem eligibleSources_perm {config : AcquisitionConfig} {candidates candidates' : List SourceCandidate} (same : candidates.Perm candidates')
    {sources : List EligibleSource} (made : eligibleSources config candidates = .ok sources) :
    ∃ sources', eligibleSources config candidates' = .ok sources' ∧
      ∃ found found', sources = sourceOrder.sorted found ∧ sources' = sourceOrder.sorted found' ∧ found.Perm found' := by
  simp only [eligibleSources, bind_ok] at made
  obtain ⟨routes, bound, whole⟩ := made
  cases whole
  refine ⟨_, ?_, _, _, rfl, rfl, same.flatMap_right _⟩
  simp only [eligibleSources, bound]
  rfl

/-- The fields of what is requested come from the candidate. -/
theorem Qualifies.query {config : AcquisitionConfig} {candidates : List SourceCandidate} {source : EligibleSource}
    (qualifies : Qualifies config candidates source) {doi : PyText} {request : FullTextRequest}
    (made : configuredRequest source.providerConfig source.route doi source.canonicalUrl = .ok request) :
    request.providerConfig = source.providerConfig ∧ request.route = source.route ∧ request.sourceUrl = source.canonicalUrl ∧
      ∀ field ∈ request.query, isSecretName field.1 = false := by
  simp only [configuredRequest, bind_ok, ensure_ok, exists_const] at made
  obtain ⟨_, _, _, _, canonicalDoi, _, canonical, accepted, _, reference, _, whole⟩ := made
  cases whole
  obtain ⟨first, given, value⟩ := qualifies.canonical
  obtain ⟨s, port, fields, query, accepts⟩ := ProviderRoute.canonicalize_accepts given
  obtain ⟨_, _, _, _, again⟩ := ProviderRoute.canonicalize_accepts accepted
  have recognized := accepts.recognized (value ▸ again.short.2)
  rw [value] at recognized
  obtain rfl := Except.ok.inj (recognized.symm.trans accepted)
  refine ⟨rfl, rfl, value, fun field member => ?_⟩
  have plain := qualifies.plain
  simp only [candidateQueryIsSafe, accepts.split, Urls.parseQslBlank_of_strict accepts.read] at plain
  have inside : field ∈ fields := Precedence.mem_sorted.mp (accepts.sorted ▸ member)
  simpa using List.all_eq_true.mp plain field inside

/-- What is requested is on a verified full-text route, has no field with a secret name, is the least of the sources that
qualify, and does not depend on the order of the candidates. -/
theorem fullTextRequest_least {config : AcquisitionConfig} {identifier : PyText} {candidates : List SourceCandidate}
    {request : FullTextRequest} (made : fullTextRequest config identifier candidates = .ok (some request)) :
    (∃ source, Qualifies config candidates source ∧ source.route.Verified ∧
      (request.providerConfig = source.providerConfig ∧ request.route = source.route ∧ request.sourceUrl = source.canonicalUrl) ∧
      ∀ other, Qualifies config candidates other → sourceOrder.before other source = false) ∧
    (∀ field ∈ request.query, isSecretName field.1 = false) ∧
    ∀ candidates', candidates.Perm candidates' → fullTextRequest config identifier candidates' = .ok (some request) := by
  simp only [fullTextRequest, bind_ok] at made
  obtain ⟨doi, normal, sources, eligible, chosen⟩ := made
  cases sources with
  | nil => cases chosen
  | cons selected rest =>
    simp only [bind_ok] at chosen
    obtain ⟨own, requested, same⟩ := chosen
    cases same
    have qualifies := (mem_eligibleSources eligible selected).mp List.mem_cons_self
    obtain ⟨config', route, url, query⟩ := qualifies.query requested
    refine ⟨⟨selected, qualifies, verified_of_class qualifies.verified, ⟨config', route, url⟩, fun other others => ?_⟩, query, ?_⟩
    · obtain ⟨_, _, found, _, sorted, _, _⟩ := eligibleSources_perm (List.Perm.refl candidates) eligible
      have listed : other ∈ sourceOrder.sorted found := sorted ▸ (mem_eligibleSources eligible other).mpr others
      exact (Precedence.sorted_first sorted.symm).2 other (Precedence.mem_sorted.mp listed)
    · intro candidates' perm
      obtain ⟨sources', eligible', found, found', sorted, sorted', moved⟩ := eligibleSources_perm perm eligible
      simp only [fullTextRequest, normal, eligible', bind, Except.bind]
      cases sources' with
      | nil =>
        have none : found' = [] := List.Perm.eq_nil (sorted' ▸ (sourceOrder.sorted_perm found').symm)
        rw [none] at moved
        rw [moved.eq_nil] at sorted
        cases sorted
      | cons selected' rest' =>
        have qualifies' := (mem_eligibleSources eligible' selected').mp List.mem_cons_self
        obtain ⟨sameConfig, sameRoute, sameUrl⟩ := qualifies.tied qualifies' (Precedence.firsts_tied moved sorted.symm sorted'.symm)
        simp only [← sameConfig, ← sameRoute, ← sameUrl, requested]
        rfl

end

/-! ### Two candidates of one archive -/

namespace Sample

attribute [local instance] asciiCase asciiLowerText asciiCompat asciiDecimal

def archiveSources : AcquisitionConfig where
  providers := [archiveConfig 1 unit_rate]
  fullTextRoutes := [archiveRoute]
  distinct := List.nodup_singleton _
  known := by
    intro route member
    rw [List.mem_singleton.mp member]
    exact ⟨_, List.mem_singleton.mpr rfl, rfl⟩
  routesDistinct := List.nodup_singleton _

def suggestions : List SourceCandidate :=
  [⟨PyText.ofString "https://archive.example/works/1", none, none, some (PyText.ofString "open")⟩,
    ⟨PyText.ofString "https://archive.example/works/1.xml", some (PyText.ofString "application/xml"), none, none⟩,
    ⟨PyText.ofString "https://elsewhere.example/works/1.xml", some (PyText.ofString "application/xml"), none, none⟩]

/-- The XML is requested, in whichever order the candidates come. -/
theorem fullTextRequest_least_archive : ∃ request,
    fullTextRequest archiveSources (PyText.ofString "10.1234/a") suggestions = .ok (some request) ∧
    request.sourceUrl = PyText.ofString "https://archive.example/works/1.xml" ∧
    fullTextRequest archiveSources (PyText.ofString "10.1234/a") suggestions.reverse = .ok (some request) := by
  have chosen : ((fullTextRequest archiveSources (PyText.ofString "10.1234/a") suggestions).toOption.any fun made =>
      made.any fun request => request.sourceUrl = PyText.ofString "https://archive.example/works/1.xml") = true := by decide +kernel
  obtain ⟨made, whole, shown⟩ := ok_of_any chosen
  obtain ⟨request, same, url⟩ := (Option.any_eq_true _ _).mp shown
  subst same
  exact ⟨request, whole, of_decide_eq_true url, (fullTextRequest_least whole).2.2 _ (List.reverse_perm _).symm⟩

end Sample
end Molly
