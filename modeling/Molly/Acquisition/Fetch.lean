import Mathlib.Tactic.Linarith
import Molly.Acquisition.Response
import Molly.Effect.Program

/-! Fetching a URL: chains of redirects within retries, for every behaviour of the server and the clock. -/
namespace Molly
open Effect (Signature Machine Task Prog Steps Discipline)

/-! ### The program -/

inductive FetchOp where
  /-- `_request_once`. -/
  | request (url : CanonicalURL) (headers : List (PyText × PyText)) (deadline : ℚ)
  | monotonic
  | sleep (seconds : ℚ)
  | random
  | wallClock

def network : Signature where
  Op := FetchOp
  Reply
    | .request _ _ _ => Except PyError NetworkResponse
    | .sleep _ => Unit
    | .monotonic | .random | .wallClock => ℚ

abbrev Fetching (α : Type) : Type := Task network Unit PyError α

namespace Fetching

def request (url : CanonicalURL) (headers : List (PyText × PyText)) (deadline : ℚ) : Fetching (Except PyError NetworkResponse) :=
  Task.ask (S := network) (.request url headers deadline)

def monotonic : Fetching ℚ := Task.ask (S := network) .monotonic

def sleep (seconds : ℚ) : Fetching Unit := Task.ask (S := network) (.sleep seconds)

def random : Fetching ℚ := Task.ask (S := network) .random

def wallClock : Fetching ℚ := Task.ask (S := network) .wallClock

end Fetching

section
variable [CaseText] [LowerText] [CompatText]

/-- What a chain makes of a response: nothing when it ends there, or the URL that it is led to. -/
def follow (route : ConfiguredRoute) (visited : List PyText) (current : CanonicalURL) (response : NetworkResponse) :
    Except PyError (Option CanonicalURL) :=
  if redirectStatuses.contains response.statusCode then do
    let location := (response.header "location").getD []
    ensure (location ≠ []) (policyError "redirect response has no Location")
    ensure (visited.length ≤ maxRedirects) (policyError "redirect limit exceeded")
    let target ← resolveRedirect current.value location route.toProviderRoute
    ensure (!visited.contains target.value) (policyError "redirect loop detected")
    return some target
  else if 200 ≤ response.statusCode ∧ response.statusCode ≤ 299 then do
    let _ ← normalizeContentType (response.headerValues "content-type") route.acceptedContentTypes
    return none
  else return none

def authorityHeaders : List PyText := ["authorization", "cookie", "proxy-authorization", "x-api-key"].map PyText.ofString

/-- `_one_redirect_chain`, with the number of requests that its loop has left. -/
def redirectChain (route : ConfiguredRoute) (secrets : List PyText) (deadline : ℚ) (initial : CanonicalURL) :
    Nat → CanonicalURL → List (PyText × PyText) → (visited chain : List PyText) → Fetching NetworkResponse
  | 0, _, _, _, _ => throw (policyError "redirect limit exceeded")
  | left + 1, current, headers, visited, chain => do
    let reply ← Fetching.request current headers deadline
    let response ← Task.ofExcept reply
    match ← Task.ofExcept (follow route visited current response) with
    | none => return { response with requestedUrl := initial.value, resolvedUrl := current.value, redirectChain := chain }
    | some target =>
      let headers := if target.hostname = current.hostname then headers
        else headers.filter fun header => !authorityHeaders.contains header.1.casefold
      redirectChain route secrets deadline initial left target headers (visited ++ [target.value])
        (chain ++ [Urls.sanitizeUrl target.value secrets])

/-- `_remaining`. -/
def Fetching.remaining (deadline : ℚ) : Fetching ℚ := do
  let now ← Fetching.monotonic
  if deadline - now ≤ 0 then throw ⟨.acquisitionTimeout, "acquisition total timeout exceeded"⟩
  else return deadline - now

/-- The wait before a retry. -/
def pause (config : ProviderConfig) (deadline : ℚ) (retryCount : Nat) (retryAfter : Option Delay) : Fetching Unit := do
  let random ← Fetching.random
  let delay := retryDelay config.retryPolicy retryCount retryAfter random
  let left ← Fetching.remaining deadline
  if left ≤ delay then throw ⟨.acquisitionTimeout, "acquisition total timeout exceeded before retry"⟩
  else Fetching.sleep delay

/-- What `fetch` does after a chain; `again` is the rest of its loop when a retry is left. -/
def settle [DelayText] (config : ProviderConfig) (deadline : ℚ) (retryCount : Nat) (again : Option (Fetching NetworkResponse)) :
    Except PyError NetworkResponse → Fetching NetworkResponse
  | .error e =>
    if e.cls = .acquisitionTransport then
      match again with
      | none => throw e
      | some again => do
        pause config deadline retryCount none
        again
    else throw e
  | .ok response =>
    if isRetryable response.statusCode then
      match again with
      | none => return response
      | some again => do
        let now ← Fetching.wallClock
        pause config deadline retryCount (parseRetryAfter (response.header "retry-after") now)
        again
    else return response

/-- The chain of one attempt, with its error caught. -/
def attemptChain (route : ConfiguredRoute) (secrets : List PyText) (headers : List (PyText × PyText)) (deadline : ℚ)
    (initial : CanonicalURL) : Fetching (Except PyError NetworkResponse) :=
  tryCatch
    (do
      let response ← redirectChain route secrets deadline initial (maxRedirects + 1) initial headers [initial.value] []
      return .ok response)
    fun e => return .error e

/-- The loop of `fetch`, with the number of retries that are left. -/
def fetchLoop [DelayText] (route : ConfiguredRoute) (config : ProviderConfig) (secrets : List PyText)
    (headers : List (PyText × PyText)) (deadline : ℚ) (initial : CanonicalURL) : Nat → Nat → Fetching NetworkResponse
  | 0, retryCount => do
    let outcome ← attemptChain route secrets headers deadline initial
    settle config deadline retryCount none outcome
  | left + 1, retryCount => do
    let outcome ← attemptChain route secrets headers deadline initial
    settle config deadline retryCount (some (fetchLoop route config secrets headers deadline initial left (retryCount + 1))) outcome

/-- `fetch`. -/
def fetch [DelayText] (route : ConfiguredRoute) (config : ProviderConfig) (url : PyText) (headers : List (PyText × PyText))
    (secrets : List PyText) : Fetching NetworkResponse := do
  Task.ofExcept (ensure (route.providerId.all (· = config.providerId)) (policyError "route/provider binding mismatch"))
  let initial ← Task.ofExcept (route.canonicalize url)
  let start ← Fetching.monotonic
  fetchLoop route config secrets headers (start + config.totalTimeoutSeconds) initial config.retryPolicy.maximumRetries 0

/-! ### Servers and clocks -/

inductive FetchEvent where
  | requested (url : CanonicalURL) (reply : Except PyError NetworkResponse)
  | slept (seconds : ℚ)

/-- The clock, and what was asked of the network and of the sleeper. -/
structure Network where
  clock : ℚ
  log : List FetchEvent

/-- A server may reply anything, and a clock goes on; a sleep lasts as long as it was asked to. -/
def networkMachine : Machine network Network where
  act
    | .request url _ _, s, reply, t => s.clock ≤ t.clock ∧ t.log = s.log ++ [.requested url reply]
    | .monotonic, s, now, t => now = t.clock ∧ s.clock ≤ t.clock ∧ t.log = s.log
    | .sleep seconds, s, _, t => s.clock ≤ t.clock ∧ s.clock + seconds ≤ t.clock ∧ t.log = s.log ++ [.slept seconds]
    | .random, s, _, t => s.clock ≤ t.clock ∧ t.log = s.log
    | .wallClock, s, _, t => s.clock ≤ t.clock ∧ t.log = s.log

/-! ### Logs -/

def urlsOf (log : List FetchEvent) : List CanonicalURL :=
  log.filterMap fun
    | .requested url _ => some url
    | .slept _ => none

def sleepsOf (log : List FetchEvent) : List ℚ :=
  log.filterMap fun
    | .requested _ _ => none
    | .slept seconds => some seconds

/-- The URLs of a chain, one event later. -/
def chainStep (chain : List CanonicalURL) : FetchEvent → List CanonicalURL
  | .requested url _ => chain ++ [url]
  | .slept _ => []

/-- The URLs that were requested since the last sleep. -/
def chainOf (log : List FetchEvent) : List CanonicalURL := log.foldl chainStep []

/-- The text that the next URL is made of: the Location of the last response, joined to its URL, or what `fetch` was given. -/
def sourceOf (url : PyText) (log : List FetchEvent) : PyText :=
  match log.getLast? with
  | some (.requested current (.ok response)) =>
    ((Urls.urljoin current.value ((response.header "location").getD [])).toOption).getD []
  | _ => url

/-- What a chain makes of a reply. -/
def judgeReply (route : ConfiguredRoute) (chain : List CanonicalURL) (url : CanonicalURL) (reply : Except PyError NetworkResponse) :
    Except PyError (Option CanonicalURL) :=
  reply >>= follow route (chain.map (·.value) ++ [url.value]) url

/-- The last request failed with a policy error, or its response did. -/
def PolicyFailure (route : ConfiguredRoute) (log : List FetchEvent) : Prop :=
  ∃ before url reply e, log = before ++ [.requested url reply] ∧ judgeReply route (chainOf before) url reply = .error e ∧
    e.cls = .acquisitionPolicy

/-- The logs of a fetch: what held when an event was added. -/
inductive FetchOrder (route : ConfiguredRoute) (config : ProviderConfig) (url : PyText) : List FetchEvent → Prop
  | nil : FetchOrder route config url []
  | requested : FetchOrder route config url log → route.canonicalize (sourceOf url log) = .ok current →
      current.value ∉ (chainOf log).map (·.value) → (chainOf log).length ≤ maxRedirects → ¬PolicyFailure route log →
      FetchOrder route config url (log ++ [.requested current reply])
  | slept : FetchOrder route config url log → (sleepsOf log).length < config.retryPolicy.maximumRetries →
      (sleepsOf log).sum + seconds < config.totalTimeoutSeconds → ¬PolicyFailure route log →
      FetchOrder route config url (log ++ [.slept seconds])

end

theorem urlsOf_append (xs ys : List FetchEvent) : urlsOf (xs ++ ys) = urlsOf xs ++ urlsOf ys := List.filterMap_append

theorem sleepsOf_append (xs ys : List FetchEvent) : sleepsOf (xs ++ ys) = sleepsOf xs ++ sleepsOf ys := List.filterMap_append

theorem chainOf_append (xs ys : List FetchEvent) : chainOf (xs ++ ys) = ys.foldl chainStep (chainOf xs) := List.foldl_append

/-- A block of requests is part of the chain at its end. -/
theorem chainOf_requests (log : List FetchEvent) : ∀ {block : List FetchEvent}, sleepsOf block = [] →
    chainOf (log ++ block) = chainOf log ++ urlsOf block := by
  intro block awake
  rw [chainOf_append]
  generalize chainOf log = chain
  induction block generalizing chain with
  | nil => exact (List.append_nil _).symm
  | cons event block ih =>
    cases event with
    | requested url reply =>
      rw [List.foldl_cons, ih awake]
      simp [chainStep, urlsOf]
    | slept seconds => cases awake

namespace FetchOrder

section
variable [CaseText] [LowerText] [CompatText] {route : ConfiguredRoute} {config : ProviderConfig} {url : PyText} {log : List FetchEvent}

/-- What came before was orderly. -/
theorem before (orderly : FetchOrder route config url log) : ∀ {early : List FetchEvent}, early <+: log → FetchOrder route config url early := by
  induction orderly with
  | nil =>
    intro early part
    rw [List.prefix_nil.mp part]
    exact .nil
  | requested kept source fresh short calm ih =>
    intro early part
    rcases List.prefix_concat_iff.mp part with whole | inside
    · exact whole ▸ .requested kept source fresh short calm
    · exact ih inside
  | slept kept left short calm ih =>
    intro early part
    rcases List.prefix_concat_iff.mp part with whole | inside
    · exact whole ▸ .slept kept left short calm
    · exact ih inside

/-- A chain has at most one request more than redirects, and its URLs are distinct. -/
theorem chain (orderly : FetchOrder route config url log) :
    (chainOf log).length ≤ maxRedirects + 1 ∧ ((chainOf log).map (·.value)).Nodup := by
  induction orderly with
  | nil => exact ⟨by decide, List.nodup_nil⟩
  | requested kept source fresh short calm ih =>
    rw [chainOf_requests _ rfl]
    refine ⟨?_, ?_⟩
    · simp only [urlsOf, List.filterMap_cons, List.filterMap_nil, List.length_append, List.length_cons, List.length_nil]
      omega
    · simp only [urlsOf, List.filterMap_cons, List.filterMap_nil, List.map_append, List.map_cons, List.map_nil]
      exact List.nodup_append.mpr ⟨ih.2, List.nodup_singleton _, fun value old value' new same =>
        fresh (List.mem_singleton.mp new ▸ same ▸ old)⟩
  | slept kept left short calm ih =>
    rw [chainOf_append]
    exact ⟨Nat.zero_le _, List.nodup_nil⟩

theorem sleeps (orderly : FetchOrder route config url log) :
    (sleepsOf log).length ≤ config.retryPolicy.maximumRetries ∧ (sleepsOf log).sum < config.totalTimeoutSeconds := by
  induction orderly with
  | nil => exact ⟨Nat.zero_le _, config.totalTimeout.1⟩
  | requested kept source fresh short calm ih =>
    rw [sleepsOf_append]
    simpa [sleepsOf] using ih
  | slept kept left short calm ih =>
    rw [sleepsOf_append]
    refine ⟨?_, ?_⟩
    · simp only [sleepsOf, List.filterMap_cons, List.filterMap_nil, List.length_append, List.length_cons, List.length_nil] at left ⊢
      omega
    · simpa [sleepsOf] using short

/-- The chains before a sleep are whole, and the last one counts for itself. -/
theorem requests (orderly : FetchOrder route config url log) :
    (urlsOf log).length ≤ (sleepsOf log).length * (maxRedirects + 1) + (chainOf log).length := by
  induction orderly with
  | nil => exact Nat.zero_le _
  | @requested log current reply kept source fresh short calm ih =>
    rw [chainOf_requests _ rfl, urlsOf_append, sleepsOf_append, List.length_append, List.length_append, List.length_append,
      show (sleepsOf [FetchEvent.requested current reply]).length = 0 from rfl, Nat.add_zero]
    omega
  | @slept log seconds kept left short calm ih =>
    have bound := kept.chain.1
    rw [urlsOf_append, sleepsOf_append, List.length_append, List.length_append,
      show (sleepsOf [FetchEvent.slept seconds]).length = 1 from rfl, show (urlsOf [FetchEvent.slept seconds]).length = 0 from rfl,
      Nat.add_mul]
    omega

theorem bounded (orderly : FetchOrder route config url log) :
    (urlsOf log).length ≤ (config.retryPolicy.maximumRetries + 1) * (maxRedirects + 1) := by
  have whole := orderly.requests
  have last := orderly.chain.1
  have retries := Nat.mul_le_mul_right (maxRedirects + 1) orderly.sleeps.1
  rw [Nat.add_mul]
  omega

/-- A block of requests without a sleep lies in one chain. -/
theorem distinct (orderly : FetchOrder route config url log) {before' block after : List FetchEvent}
    (split : log = before' ++ block ++ after) (awake : sleepsOf block = []) : ((urlsOf block).map (·.value)).Nodup := by
  have early := orderly.before ⟨after, split.symm⟩
  have whole := early.chain.2
  rw [chainOf_requests _ awake, List.map_append] at whole
  exact (List.nodup_append.mp whole).2.1

/-- Nothing follows a policy error. -/
theorem stops (orderly : FetchOrder route config url log) {before' after : List FetchEvent} (split : log = before' ++ after)
    (failed : PolicyFailure route before') : after = [] := by
  cases after with
  | nil => rfl
  | cons event after =>
    have early : before' ++ [event] <+: log := ⟨after, by rw [split, List.append_assoc]; rfl⟩
    have next := orderly.before early
    generalize whole : before' ++ [event] = now at next
    cases next with
    | nil => simp at whole
    | requested kept source fresh short calm =>
      obtain ⟨same, _⟩ := List.append_inj' whole rfl
      exact absurd (same ▸ failed) calm
    | slept kept left short calm =>
      obtain ⟨same, _⟩ := List.append_inj' whole rfl
      exact absurd (same ▸ failed) calm

/-- Every URL is made of its source. -/
theorem made (orderly : FetchOrder route config url log) {before' : List FetchEvent} {current : CanonicalURL}
    {reply : Except PyError NetworkResponse} (early : before' ++ [.requested current reply] <+: log) :
    route.canonicalize (sourceOf url before') = .ok current := by
  have next := orderly.before early
  generalize whole : before' ++ [FetchEvent.requested current reply] = now at next
  cases next with
  | nil => simp at whole
  | requested kept source fresh short calm =>
    obtain ⟨same, event⟩ := List.append_inj' whole rfl
    cases event
    exact same ▸ source
  | slept kept left short calm =>
    obtain ⟨_, event⟩ := List.append_inj' whole rfl
    cases event

end
end FetchOrder

/-! ### Runs -/

section
variable [CaseText] [LowerText] [CompatText] {route : ConfiguredRoute} {config : ProviderConfig} {url : PyText}

/-- Every step leaves an orderly log. -/
def orderly (route : ConfiguredRoute) (config : ProviderConfig) (url : PyText) : Discipline network Network :=
  { networkMachine with inv := fun s => FetchOrder route config url s.log, may := fun _ _ => True }

/-- A log at which a chain begins. -/
def AtStart (log : List FetchEvent) : Prop := log = [] ∨ ∃ before seconds, log = before ++ [.slept seconds]

omit [CaseText] [LowerText] in
theorem AtStart.source {log : List FetchEvent} (start : AtStart log) : chainOf log = [] ∧ sourceOf url log = url := by
  rcases start with rfl | ⟨before, seconds, rfl⟩
  · exact ⟨rfl, rfl⟩
  · rw [chainOf_append, sourceOf, List.getLast?_concat]
    exact ⟨rfl, rfl⟩

/-- What the loop of `fetch` relies on when an attempt begins. -/
structure Ready (route : ConfiguredRoute) (config : ProviderConfig) (url : PyText) (start : ℚ) (left : Nat) (s : Network) : Prop where
  kept : FetchOrder route config url s.log
  calm : ¬PolicyFailure route s.log
  fresh : AtStart s.log
  retries : (sleepsOf s.log).length + left = config.retryPolicy.maximumRetries
  elapsed : start + (sleepsOf s.log).sum ≤ s.clock

end

/-! ### A scripted server -/

namespace Sample

attribute [local instance] asciiCase asciiLowerText asciiCompat

@[reducible] def noDelay : DelayText := ⟨fun _ => none, fun _ => none⟩

attribute [local instance] noDelay

def replied (status : Nat) (headers : List (String × String)) : Except PyError NetworkResponse :=
  .ok ⟨status, headers.map fun header => (PyText.ofString header.1, [PyText.ofString header.2]), [], [], [], []⟩

end Sample
end Molly
