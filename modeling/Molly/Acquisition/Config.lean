import Mathlib.Algebra.Order.Field.Rat
import Mathlib.Tactic.NormNum
import Molly.Acquisition.Policy
import Molly.Disk.CacheEntry
import Molly.Effect.Firsts

/-! The configuration of the acquisition: routes, providers and their limits. Seconds and
rates are rational numbers. -/
namespace Molly
open Effect (firsts)

/-- A check whose outcome is kept. -/
def require (p : Prop) [Decidable p] (error : PyError) : Except PyError (PLift p) := if holds : p then .ok ⟨holds⟩ else .error error

inductive ProviderClass where
  | metadata | oaResolution | fullText
  deriving DecidableEq, Repr

/-! ### Routes -/

/-- The member of the frozen media types whose value is `value.casefold().split(";", 1)[0].strip()`. -/
def mediaType [CaseText] (value : PyText) : Option MediaType :=
  memberOf mediaTypes MediaType.value (Urls.partition 59 value.casefold).1.strip

/-- A `ProviderRoute` with its binding and its policy texts; an empty `provider_id` is none. -/
structure ConfiguredRoute extends ProviderRoute where
  routeId : Identifier
  providerId : Option Identifier
  acceptedContentTypes : List MediaType
  accessBasis : PyText
  licenseStatus : PyText
  redistributionBasis : PyText

namespace ConfiguredRoute

def create [CaseText] (routeId providerId : String) (host pathTemplate : PyText) (port : Int) (pathPrefix : Option PyText)
    (queryFields contentTypes : List PyText) (accessBasis licenseStatus redistributionBasis : PyText) : Except PyError ConfiguredRoute := do
  let routeId ← validateIdentifier "route_id" routeId
  let route ← ProviderRoute.create host pathTemplate port pathPrefix queryFields
  ensure (contentTypes ≠ [] && contentTypes.all fun value => (mediaType value).isSome)
    (configError "route has an unsupported accepted content type")
  let media := contentTypes.filterMap mediaType
  ensure (decide media.Nodup) (configError "accepted_content_types must not contain duplicates")
  configText "access_basis" 256 accessBasis
  configText "license_status" 256 licenseStatus
  configText "redistribution_basis" 256 redistributionBasis
  let bound ← if providerId = "" then pure none else some <$> validateIdentifier "provider_id" providerId
  return ⟨route, routeId, bound, media, accessBasis, licenseStatus, redistributionBasis⟩

def withProvider (route : ConfiguredRoute) (providerId : Identifier) : Except PyError ConfiguredRoute :=
  if route.providerId.all (· = providerId) then .ok { route with providerId := some providerId }
  else .error (configError "route is bound to a different provider")

/-- The provider and the name of a route. -/
def key (route : ConfiguredRoute) : Option Identifier × Identifier := (route.providerId, route.routeId)

end ConfiguredRoute

/-! ### Providers -/

structure RetryPolicy where
  initialDelaySeconds : ℚ
  maximumDelaySeconds : ℚ
  maximumRetries : Nat
  jitterFraction : ℚ
  maximumRetryAfterSeconds : ℚ
  initial : 0 < initialDelaySeconds ∧ initialDelaySeconds ≤ 32
  maximum : initialDelaySeconds ≤ maximumDelaySeconds ∧ maximumDelaySeconds ≤ 32
  retries : maximumRetries ≤ 3
  jitter : 0 ≤ jitterFraction ∧ jitterFraction ≤ 1
  retryAfter : 0 ≤ maximumRetryAfterSeconds ∧ maximumRetryAfterSeconds ≤ 32

def RetryPolicy.create (initialDelay maximumDelay : ℚ) (maximumRetries : Int) (jitterFraction maximumRetryAfter : ℚ) :
    Except PyError RetryPolicy := do
  let initial ← require (0 < initialDelay ∧ initialDelay ≤ 32) (configError "initial retry delay is outside the bound")
  let maximum ← require (initialDelay ≤ maximumDelay ∧ maximumDelay ≤ 32) (configError "maximum retry delay is outside the bound")
  let retries ← require (0 ≤ maximumRetries ∧ maximumRetries ≤ 3) (configError "maximum retries must be between 0 and 3")
  let jitter ← require (0 ≤ jitterFraction ∧ jitterFraction ≤ 1) (configError "retry jitter must be between 0 and 1")
  let retryAfter ← require (0 ≤ maximumRetryAfter ∧ maximumRetryAfter ≤ 32)
    (configError "maximum Retry-After delay is outside the bound")
  return ⟨initialDelay, maximumDelay, maximumRetries.toNat, jitterFraction, maximumRetryAfter, initial.down, maximum.down,
    by have := retries.down; omega, jitter.down, retryAfter.down⟩

structure ProviderConfig where
  providerId : Identifier
  providerClass : ProviderClass
  routes : List ConfiguredRoute
  readTimeoutSeconds : ℚ
  totalTimeoutSeconds : ℚ
  maxResponseBytes : Nat
  requestsPerSecond : ℚ
  retryPolicy : RetryPolicy
  readTimeout : 0 < readTimeoutSeconds ∧ readTimeoutSeconds ≤ 30
  totalTimeout : 0 < totalTimeoutSeconds ∧ totalTimeoutSeconds ≤ 60
  responseBound : 0 < maxResponseBytes ∧ maxResponseBytes ≤ Molly.maxResponseBytes
  rate : 0 < requestsPerSecond ∧ requestsPerSecond ≤ 1
  bound : ∀ route ∈ routes, route.providerId = some providerId
  distinct : (routes.map (·.routeId)).Nodup

/-- The loop over the routes of a provider. -/
def bindRoutes (providerId : Identifier) : List Identifier → List ConfiguredRoute → Except PyError (List ConfiguredRoute)
  | _, [] => .ok []
  | seen, route :: rest => do
    let route ← route.withProvider providerId
    ensure (!seen.contains route.routeId) (configError "provider route IDs must be unique")
    let rest ← bindRoutes providerId (route.routeId :: seen) rest
    return route :: rest

theorem bindRoutes_ok {providerId : Identifier} : ∀ {routes bound : List ConfiguredRoute} {seen : List Identifier},
    bindRoutes providerId seen routes = .ok bound →
      (∀ route ∈ bound, route.providerId = some providerId ∧ route.routeId ∉ seen) ∧ (bound.map (·.routeId)).Nodup
  | [], bound, seen, made => by
    cases made
    exact ⟨fun _ member => absurd member List.not_mem_nil, List.nodup_nil⟩
  | route :: routes, bound, seen, made => by
    simp only [bindRoutes, bind_ok, ensure_ok, exists_const] at made
    obtain ⟨own, taken, fresh, rest, others, whole⟩ := made
    cases whole
    have owned : own.providerId = some providerId := by
      unfold ConfiguredRoute.withProvider at taken
      split at taken
      · cases taken
        rfl
      · cases taken
    have new : own.routeId ∉ seen := by simpa using fresh
    obtain ⟨facts, distinct⟩ := bindRoutes_ok others
    refine ⟨fun other member => ?_, List.nodup_cons.mpr ⟨fun member => ?_, distinct⟩⟩
    · rcases List.mem_cons.mp member with rfl | later
      · exact ⟨owned, new⟩
      · exact ⟨(facts other later).1, fun old => (facts other later).2 (List.mem_cons_of_mem _ old)⟩
    · obtain ⟨other, later, same⟩ := List.mem_map.mp member
      exact (facts other later).2 (same ▸ List.mem_cons_self)

/-- A limit in seconds. -/
def requireSeconds (field : String) (value maximum : ℚ) : Except PyError (PLift (0 < value ∧ value ≤ maximum)) :=
  require (0 < value ∧ value ≤ maximum) (configError (field ++ " is outside the frozen maximum"))

def ProviderConfig.create (providerId : String) (providerClass : ProviderClass) (routes : List ConfiguredRoute)
    (connectTimeout readTimeout totalTimeout : ℚ) (responseBytes : Int) (requestsPerSecond : ℚ) (retryPolicy : RetryPolicy) :
    Except PyError ProviderConfig := do
  let providerId ← validateIdentifier "provider_id" providerId
  let _ ← requireSeconds "connect_timeout_seconds" connectTimeout 10
  let read ← requireSeconds "read_timeout_seconds" readTimeout 30
  let total ← requireSeconds "total_timeout_seconds" totalTimeout 60
  let size ← require (0 < responseBytes ∧ responseBytes ≤ Molly.maxResponseBytes)
    (configError "max_response_bytes is outside the frozen maximum")
  let rate ← require (0 < requestsPerSecond ∧ requestsPerSecond ≤ 1) (configError "requests_per_second is outside the frozen maximum")
  match made : bindRoutes providerId [] routes with
  | .error e => throw e
  | .ok bound =>
    ensure (bound ≠ []) (configError "provider must expose at least one route")
    return ⟨providerId, providerClass, bound, readTimeout, totalTimeout, responseBytes.toNat, requestsPerSecond, retryPolicy,
      read.down, total.down, by have := size.down; omega, rate.down, fun route member => ((bindRoutes_ok made).1 route member).1,
      (bindRoutes_ok made).2⟩

/-- `route`. -/
def ProviderConfig.route (config : ProviderConfig) (routeId : Identifier) : Except PyError ConfiguredRoute :=
  match config.routes.find? fun route => route.routeId = routeId with
  | some route => .ok route
  | none => .error (configError s!"unknown route {pyQuote routeId.text} for provider {pyQuote config.providerId.text}")

/-! ### The whole configuration -/

structure AcquisitionConfig where
  providers : List ProviderConfig
  fullTextRoutes : List ConfiguredRoute
  distinct : (providers.map (·.providerId)).Nodup
  known : ∀ route ∈ fullTextRoutes, ∃ provider ∈ providers, route.providerId = some provider.providerId
  routesDistinct : (fullTextRoutes.map ConfiguredRoute.key).Nodup

/-- The loop over the full-text routes. -/
def checkFullTextRoutes (providers : List ProviderConfig) : List (Option Identifier × Identifier) → List ConfiguredRoute → Except PyError Unit
  | _, [] => .ok ()
  | seen, route :: rest => do
    ensure route.providerId.isSome (configError "full-text routes need a server-owned provider binding")
    ensure (providers.any fun provider => route.providerId = some provider.providerId)
      (configError "full-text route references an unknown provider")
    ensure (!seen.contains route.key) (configError "full-text route IDs must be unique per provider")
    checkFullTextRoutes providers (route.key :: seen) rest

theorem checkFullTextRoutes_known {providers : List ProviderConfig} : ∀ {routes : List ConfiguredRoute}
    {seen : List (Option Identifier × Identifier)}, checkFullTextRoutes providers seen routes = .ok () →
      ∀ route ∈ routes, ∃ provider ∈ providers, route.providerId = some provider.providerId
  | [], _, _ => fun _ member => absurd member List.not_mem_nil
  | route :: routes, seen, passed => by
    simp only [checkFullTextRoutes, bind_ok, ensure_ok, exists_const] at passed
    obtain ⟨_, known, _, rest⟩ := passed
    intro other member
    rcases List.mem_cons.mp member with rfl | later
    · simpa using known
    · exact checkFullTextRoutes_known rest other later

namespace AcquisitionConfig

/-- The routes of the full-text providers, behind the routes that are named. -/
def withOwnRoutes (providers : List ProviderConfig) (named : List ConfiguredRoute) : List ConfiguredRoute :=
  firsts ConfiguredRoute.key (named ++ (providers.filter (·.providerClass = .fullText)).flatMap (·.routes))

theorem withOwnRoutes_known {providers : List ProviderConfig} {named : List ConfiguredRoute}
    (known : ∀ route ∈ named, ∃ provider ∈ providers, route.providerId = some provider.providerId) :
    ∀ route ∈ withOwnRoutes providers named, ∃ provider ∈ providers, route.providerId = some provider.providerId := by
  intro route member
  rcases List.mem_append.mp ((Effect.firsts_sublist _).mem member) with given | own
  · exact known route given
  · obtain ⟨provider, listed, exposed⟩ := List.mem_flatMap.mp own
    exact ⟨provider, (List.mem_filter.mp listed).1, provider.bound route exposed⟩

def create (providers : List ProviderConfig) (fullTextRoutes : List ConfiguredRoute) : Except PyError AcquisitionConfig := do
  let distinct ← require (providers.map (·.providerId)).Nodup (configError "provider IDs must be unique")
  match passed : checkFullTextRoutes providers [] fullTextRoutes with
  | .error e => throw e
  | .ok () =>
    return ⟨providers, withOwnRoutes providers fullTextRoutes, distinct.down, withOwnRoutes_known (checkFullTextRoutes_known passed),
      Effect.firsts_nodup _⟩

/-- `provider`. -/
def provider (config : AcquisitionConfig) (providerId : Identifier) : Except PyError ProviderConfig :=
  match config.providers.find? fun provider => provider.providerId = providerId with
  | some provider => .ok provider
  | none => .error (configError s!"unknown provider {pyQuote providerId.text}")

end AcquisitionConfig

/-! ### One archive -/

namespace Sample

def archive : ProviderRoute where
  host := PyText.ofString "archive.example"
  port := 443
  pathPrefix := [47]
  allowedQueryFields := []
  dnsName := by decide +kernel
  portRange := by decide

def archiveRoute : ConfiguredRoute where
  toProviderRoute := archive
  routeId := ⟨"works", by decide +kernel⟩
  providerId := some ⟨"archive", by decide +kernel⟩
  acceptedContentTypes := [.applicationXml]
  accessBasis := PyText.ofString "open"
  licenseStatus := PyText.ofString "cc-by"
  redistributionBasis := PyText.ofString "cc-by"

def patient : RetryPolicy := ⟨1, 32, 3, 0, 32, by norm_num, by norm_num, by decide, by norm_num, by norm_num⟩

theorem unit_rate : (0 : ℚ) < 1 ∧ (1 : ℚ) ≤ 1 := by norm_num

def archiveConfig (rate : ℚ) (range : 0 < rate ∧ rate ≤ 1) : ProviderConfig where
  providerId := ⟨"archive", by decide +kernel⟩
  providerClass := .fullText
  routes := [archiveRoute]
  readTimeoutSeconds := 30
  totalTimeoutSeconds := 60
  maxResponseBytes := 1000
  requestsPerSecond := rate
  retryPolicy := patient
  readTimeout := by norm_num
  totalTimeout := by norm_num
  responseBound := by decide
  rate := range
  bound := by
    intro route member
    rw [List.mem_singleton.mp member]
    rfl
  distinct := List.nodup_singleton _

end Sample
end Molly
