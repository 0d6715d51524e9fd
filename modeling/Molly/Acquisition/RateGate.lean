import Molly.Acquisition.Config
import Molly.Effect.Dict

/-! The request rate that the providers of one host share. Callers take turns: one turn is a
lookup under the lock of the gates, an attempt under the lock of one gate, or a reading of the
clock outside both. -/
namespace Molly
open Effect.Dict (put lookup_put)

/-! ### Gates -/

/-- `_HostRateGate`, without its lock. -/
structure HostRateGate where
  requestsPerSecond : ℚ
  nextAllowed : ℚ
  lastReservedAt : Option ℚ
  deriving DecidableEq

namespace HostRateGate

def fresh (rate : ℚ) : HostRateGate := ⟨rate, 0, none⟩

/-- What a lookup does to a gate that is there. -/
def lower (gate : HostRateGate) (rate : ℚ) : HostRateGate :=
  let effectiveRate := min gate.requestsPerSecond rate
  if effectiveRate = gate.requestsPerSecond then gate
  else match gate.lastReservedAt with
    | none => { gate with requestsPerSecond := effectiveRate }
    | some last =>
      { gate with requestsPerSecond := effectiveRate, nextAllowed := max gate.nextAllowed (last + 1 / effectiveRate) }

def waitFor (gate : HostRateGate) (now : ℚ) : ℚ := max 0 (gate.nextAllowed - now)

def reserve (gate : HostRateGate) (now : ℚ) : HostRateGate :=
  { gate with nextAllowed := now + 1 / gate.requestsPerSecond, lastReservedAt := some now }

end HostRateGate

structure HostKey where
  host : PyText
  port : Nat
  deriving DecidableEq

/-- `_host_rate_gate_for`. -/
def hostRateGateFor (gates : List (HostKey × HostRateGate)) (key : HostKey) (rate : ℚ) : List (HostKey × HostRateGate) :=
  match gates.lookup key with
  | none => put key (.fresh rate) gates
  | some gate => put key (gate.lower rate) gates

/-! ### Callers -/

/-- Where a call of `_acquire_host_rate_slot` stands. -/
inductive RateCaller where
  | called (config : ProviderConfig) (route : ProviderRoute) (deadline : ℚ)
  | looping (key : HostKey) (deadline : ℚ)
  | measured (key : HostKey) (deadline remaining : ℚ)
  | timed (key : HostKey) (deadline remaining now : ℚ)
  | sleeping (key : HostKey) (deadline wakes : ℚ)
  | reserved
  | timedOut

inductive RateEvent where
  | lookup (key : HostKey) (rate : ℚ)
  | reservation (key : HostKey) (time : ℚ)
  deriving DecidableEq

structure RateSystem where
  clock : ℚ
  gates : List (HostKey × HostRateGate)
  callers : List RateCaller
  history : List RateEvent

namespace RateSystem

def start (clock : ℚ) : RateSystem := ⟨clock, [], [], []⟩

/-- The next turn of a caller: where it stands then, the gates, and what is recorded. -/
def next (s : RateSystem) : RateCaller → Option (RateCaller × List (HostKey × HostRateGate) × List RateEvent)
  | .called config route deadline =>
    let key := ⟨route.host, route.port⟩
    some (.looping key deadline, hostRateGateFor s.gates key config.requestsPerSecond, [.lookup key config.requestsPerSecond])
  | .looping key deadline =>
    let remaining := deadline - s.clock
    some (if remaining ≤ 0 then .timedOut else .measured key deadline remaining, s.gates, [])
  | .measured key deadline remaining => some (.timed key deadline remaining s.clock, s.gates, [])
  | .timed key deadline remaining now =>
    match s.gates.lookup key with
    | none => none
    | some gate =>
      let wait := gate.waitFor now
      if wait = 0 then some (.reserved, put key (gate.reserve now) s.gates, [.reservation key now])
      else if remaining ≤ wait then some (.timedOut, s.gates, [])
      else some (.sleeping key deadline (s.clock + wait), s.gates, [])
  | .sleeping key deadline wakes => if wakes ≤ s.clock then some (.looping key deadline, s.gates, []) else none
  | .reserved | .timedOut => none

inductive Action where
  | pass (seconds : ℚ)
  | call (config : ProviderConfig) (route : ProviderRoute) (deadline : ℚ)
  | turn (caller : Nat)

/-- Time passes, a call is made, or a caller has its turn. -/
def act (s : RateSystem) : Action → Option RateSystem
  | .pass seconds => if 0 ≤ seconds then some { s with clock := s.clock + seconds } else none
  | .call config route deadline => some { s with callers := s.callers ++ [.called config route deadline] }
  | .turn i =>
    match s.callers[i]? with
    | none => none
    | some caller =>
      match s.next caller with
      | none => none
      | some (moved, gates, events) =>
        some { s with gates := gates, callers := s.callers.set i moved, history := s.history ++ events }

/-- The system after these actions, when each of them is possible. -/
def play : List Action → RateSystem → Option RateSystem
  | [], s => some s
  | action :: actions, s => (s.act action).bind (play actions)

/-- An action leaves the gates and the history, looks a gate up, or reserves one that is free. -/
theorem act_cases {s t : RateSystem} {action : Action} (acted : s.act action = some t) :
    (t.gates = s.gates ∧ t.history = s.history) ∨
    (∃ key rate, 0 < rate ∧ t.gates = hostRateGateFor s.gates key rate ∧ t.history = s.history ++ [.lookup key rate]) ∨
    (∃ key now gate, s.gates.lookup key = some gate ∧ gate.nextAllowed ≤ now ∧
      t.gates = put key (gate.reserve now) s.gates ∧ t.history = s.history ++ [.reservation key now]) := by
  cases action with
  | pass seconds =>
    simp only [act] at acted
    split at acted
    · cases acted
      exact .inl ⟨rfl, rfl⟩
    · cases acted
  | call config route deadline =>
    cases acted
    exact .inl ⟨rfl, rfl⟩
  | turn i =>
    simp only [act] at acted
    split at acted
    · cases acted
    · rename_i caller standing
      split at acted
      · cases acted
      · rename_i moved gates events turned
        cases acted
        cases caller with
        | called config route deadline =>
          cases turned
          exact .inr (.inl ⟨_, _, config.rate.1, rfl, rfl⟩)
        | looping key deadline =>
          cases turned
          exact .inl ⟨rfl, List.append_nil _⟩
        | measured key deadline remaining =>
          cases turned
          exact .inl ⟨rfl, List.append_nil _⟩
        | timed key deadline remaining now =>
          simp only [next] at turned
          split at turned
          · cases turned
          · rename_i gate found
            split at turned
            · rename_i free
              cases turned
              have allowed : gate.nextAllowed - now ≤ 0 := free ▸ le_max_right 0 (gate.nextAllowed - now)
              exact .inr (.inr ⟨key, now, gate, found, sub_nonpos.mp allowed, rfl, rfl⟩)
            · split at turned
              · cases turned
                exact .inl ⟨rfl, List.append_nil _⟩
              · cases turned
                exact .inl ⟨rfl, List.append_nil _⟩
        | sleeping key deadline wakes =>
          simp only [next] at turned
          split at turned
          · cases turned
            exact .inl ⟨rfl, List.append_nil _⟩
          · cases turned
        | reserved => cases turned
        | timedOut => cases turned

end RateSystem

/-! ### Spacing -/

/-- The rates of the lookups of a gate. -/
def ratesOf (key : HostKey) (history : List RateEvent) : List ℚ :=
  history.filterMap fun
    | .lookup k rate => if k = key then some rate else none
    | .reservation _ _ => none

/-- The times of the reservations of a gate. -/
def reservationsOf (key : HostKey) (history : List RateEvent) : List ℚ :=
  history.filterMap fun
    | .lookup _ _ => none
    | .reservation k time => if k = key then some time else none

theorem ratesOf_append (key : HostKey) (xs ys : List RateEvent) : ratesOf key (xs ++ ys) = ratesOf key xs ++ ratesOf key ys :=
  List.filterMap_append

theorem reservationsOf_append (key : HostKey) (xs ys : List RateEvent) :
    reservationsOf key (xs ++ ys) = reservationsOf key xs ++ reservationsOf key ys := List.filterMap_append

/-- The smallest of some rates. -/
def Least (rate : ℚ) (rates : List ℚ) : Prop := rate ∈ rates ∧ ∀ other ∈ rates, rate ≤ other

/-- A gate knows the smallest rate it was looked up with and its last reservation, and holds the next one off for as long
as that rate asks. -/
structure HostRateGate.Keeps (gate : HostRateGate) (key : HostKey) (history : List RateEvent) : Prop where
  positive : 0 < gate.requestsPerSecond
  least : Least gate.requestsPerSecond (ratesOf key history)
  last : gate.lastReservedAt = (reservationsOf key history).getLast?
  spaced : ∀ last, gate.lastReservedAt = some last → last + 1 / gate.requestsPerSecond ≤ gate.nextAllowed

/-- Every gate keeps its own history, and a host without a gate has none. -/
def RateSystem.Kept (s : RateSystem) : Prop := ∀ key,
  match s.gates.lookup key with
  | none => ratesOf key s.history = [] ∧ reservationsOf key s.history = []
  | some gate => gate.Keeps key s.history

/-- The last entry of a history is a reservation only when it is far enough from the reservation before it. -/
def SpacedLast (history : List RateEvent) (event : RateEvent) : Prop := ∀ key now last, event = .reservation key now →
  (reservationsOf key history).getLast? = some last → ∃ rate, Least rate (ratesOf key history) ∧ last + 1 / rate ≤ now

namespace HostRateGate

theorem keeps_fresh {key : HostKey} {rate : ℚ} {history : List RateEvent} (positive : 0 < rate) (rates : ratesOf key history = [])
    (reservations : reservationsOf key history = []) : (fresh rate).Keeps key (history ++ [.lookup key rate]) where
  positive := positive
  least := by
    rw [ratesOf_append, rates]
    simp [Least, fresh, ratesOf]
  last := by
    rw [reservationsOf_append, reservations]
    simp [fresh, reservationsOf]
  spaced last reserved := by cases reserved

theorem keeps_lower {gate : HostRateGate} {key : HostKey} {rate : ℚ} {history : List RateEvent} (positive : 0 < rate)
    (keeps : gate.Keeps key history) : (gate.lower rate).Keeps key (history ++ [.lookup key rate]) := by
  have rates : ratesOf key (history ++ [.lookup key rate]) = ratesOf key history ++ [rate] := by
    rw [ratesOf_append]
    simp [ratesOf]
  have reservations : reservationsOf key (history ++ [.lookup key rate]) = reservationsOf key history := by
    rw [reservationsOf_append]
    simp [reservationsOf]
  have effective : (gate.lower rate).requestsPerSecond = min gate.requestsPerSecond rate := by
    simp only [lower]
    split
    · rename_i same
      exact same.symm
    · split <;> rfl
  have last : (gate.lower rate).lastReservedAt = gate.lastReservedAt := by
    simp only [lower]
    split
    · rfl
    · split <;> rfl
  refine ⟨?_, ⟨?_, ?_⟩, ?_, ?_⟩
  · rw [effective]
    exact lt_min keeps.positive positive
  · rw [effective, rates]
    rcases min_choice gate.requestsPerSecond rate with same | same
    · rw [same]
      exact List.mem_append_left _ keeps.least.1
    · rw [same]
      exact List.mem_append_right _ (List.mem_singleton.mpr rfl)
  · intro other member
    rw [effective]
    rw [rates] at member
    rcases List.mem_append.mp member with old | new
    · exact (min_le_left _ _).trans (keeps.least.2 other old)
    · exact List.mem_singleton.mp new ▸ min_le_right _ _
  · rw [last, reservations, keeps.last]
  · intro time reserved
    rw [last] at reserved
    have before := keeps.spaced time reserved
    simp only [lower]
    split
    · exact before
    · rw [reserved]
      exact le_max_right _ _

theorem keeps_reserve {gate : HostRateGate} {key : HostKey} {history : List RateEvent} (keeps : gate.Keeps key history) (now : ℚ) :
    (gate.reserve now).Keeps key (history ++ [.reservation key now]) where
  positive := keeps.positive
  least := by
    rw [ratesOf_append]
    simpa [ratesOf, reserve] using keeps.least
  last := by
    rw [reservationsOf_append]
    simp [reservationsOf, reserve]
  spaced last reserved := by
    cases reserved
    exact le_rfl

/-- What happens at another host does not count. -/
theorem Keeps.other {gate : HostRateGate} {key : HostKey} {history : List RateEvent} (keeps : gate.Keeps key history) {event : RateEvent}
    (rates : ratesOf key [event] = []) (reservations : reservationsOf key [event] = []) : gate.Keeps key (history ++ [event]) where
  positive := keeps.positive
  least := by
    rw [ratesOf_append, rates, List.append_nil]
    exact keeps.least
  last := by
    rw [reservationsOf_append, reservations, List.append_nil]
    exact keeps.last
  spaced := keeps.spaced

end HostRateGate

namespace RateSystem

/-- The gates after a change at one host. -/
theorem kept_put {s t : RateSystem} {key : HostKey} {gate : HostRateGate} {event : RateEvent} (kept : s.Kept)
    (gates : t.gates = put key gate s.gates) (history : t.history = s.history ++ [event])
    (elsewhere : ∀ k, k ≠ key → ratesOf k [event] = [] ∧ reservationsOf k [event] = [])
    (here : gate.Keeps key (s.history ++ [event])) : t.Kept := by
  intro k
  rw [gates, history, lookup_put]
  by_cases same : k = key
  · subst same
    simpa using here
  · rw [if_neg same]
    have old := kept k
    cases found : s.gates.lookup k with
    | none =>
      rw [found] at old
      obtain ⟨rates, reservations⟩ := old
      obtain ⟨noRate, noReservation⟩ := elsewhere k same
      exact ⟨by rw [ratesOf_append, rates, noRate]; rfl, by rw [reservationsOf_append, reservations, noReservation]; rfl⟩
    | some other =>
      rw [found] at old
      exact old.other (elsewhere k same).1 (elsewhere k same).2

/-- One action keeps the gates true to the history, and adds no reservation too early. -/
theorem kept_act {s t : RateSystem} {action : Action} (kept : s.Kept) (acted : s.act action = some t) :
    t.Kept ∧ (t.history = s.history ∨ ∃ event, t.history = s.history ++ [event] ∧ SpacedLast s.history event) := by
  rcases act_cases acted with ⟨gates, history⟩ | ⟨key, rate, positive, gates, history⟩ | ⟨key, now, gate, found, allowed, gates, history⟩
  · exact ⟨fun key => by rw [gates, history]; exact kept key, .inl history⟩
  · have elsewhere (k : HostKey) (other : k ≠ key) :
        ratesOf k [.lookup key rate] = [] ∧ reservationsOf k [.lookup key rate] = [] := by
      simp [ratesOf, reservationsOf, Ne.symm other]
    refine ⟨?_, .inr ⟨_, history, fun k now last same => by cases same⟩⟩
    have old := kept key
    unfold hostRateGateFor at gates
    cases found : s.gates.lookup key with
    | none =>
      rw [found] at old gates
      exact kept_put kept gates history elsewhere (HostRateGate.keeps_fresh positive old.1 old.2)
    | some gate =>
      rw [found] at old gates
      exact kept_put kept gates history elsewhere (HostRateGate.keeps_lower positive old)
  · have elsewhere (k : HostKey) (other : k ≠ key) :
        ratesOf k [.reservation key now] = [] ∧ reservationsOf k [.reservation key now] = [] := by
      simp [ratesOf, reservationsOf, Ne.symm other]
    have old := kept key
    rw [found] at old
    refine ⟨kept_put kept gates history elsewhere (HostRateGate.keeps_reserve old now), .inr ⟨_, history, ?_⟩⟩
    intro k time last same before
    cases same
    exact ⟨gate.requestsPerSecond, old.least, (old.spaced last (old.last.trans before)).trans allowed⟩

/-- Every reservation of a run is far enough from the one before it. -/
theorem spaced_play : ∀ {actions : List Action} {s t : RateSystem}, s.Kept → s.play actions = some t →
    ∃ added, t.history = s.history ++ added ∧
      ∀ before event after, added = before ++ event :: after → SpacedLast (s.history ++ before) event
  | [], s, t, _, played => by
    cases played
    refine ⟨[], (List.append_nil _).symm, fun before event after none => ?_⟩
    simp at none
  | action :: actions, s, t, kept, played => by
    obtain ⟨u, acted, rest⟩ := Option.bind_eq_some_iff.mp played
    obtain ⟨kept', grows⟩ := kept_act kept acted
    obtain ⟨added, history, spaced⟩ := spaced_play kept' rest
    rcases grows with same | ⟨event, more, spacedFirst⟩
    · exact ⟨added, by rw [history, same], by rw [← same]; exact spaced⟩
    · refine ⟨event :: added, by rw [history, more, List.append_assoc]; rfl, fun before other after split => ?_⟩
      cases before with
      | nil =>
        cases split
        rwa [List.append_nil]
      | cons head before =>
        cases split
        have later := spaced before other after rfl
        rwa [more, List.append_assoc] at later

theorem kept_start (clock : ℚ) : (start clock).Kept := fun _ => ⟨rfl, rfl⟩

end RateSystem

/-- Two consecutive reservations at one host are at least as far apart as the smallest rate asks that any lookup of the host
had before the later of them, whatever the callers and their turns. -/
theorem reservations_spaced {clock : ℚ} {actions : List RateSystem.Action} {s : RateSystem} {key : HostKey}
    {before between after : List RateEvent} {first second : ℚ} (played : (RateSystem.start clock).play actions = some s)
    (history : s.history = before ++ .reservation key first :: (between ++ .reservation key second :: after))
    (consecutive : reservationsOf key between = []) :
    ∃ rate, Least rate (ratesOf key (before ++ .reservation key first :: between)) ∧ first + 1 / rate ≤ second := by
  obtain ⟨added, whole, spaced⟩ := RateSystem.spaced_play (RateSystem.kept_start clock) played
  have split : added = (before ++ .reservation key first :: between) ++ .reservation key second :: after := by
    rw [List.append_assoc, List.cons_append, ← history, whole]
    rfl
  have last : (reservationsOf key (before ++ .reservation key first :: between)).getLast? = some first := by
    have here : reservationsOf key (.reservation key first :: between) = [first] := by
      rw [show RateEvent.reservation key first :: between = [.reservation key first] ++ between from rfl, reservationsOf_append,
        consecutive]
      simp [reservationsOf]
    rw [reservationsOf_append, here, List.getLast?_append]
    rfl
  exact spaced _ _ _ split key second first rfl last

/-! ### Two providers of one host -/

namespace Sample

def archiveKey : HostKey := ⟨archive.host, 443⟩

/-- A call at one request in a second is served, and then one at a request in two seconds. -/
def sharedTurns : List RateSystem.Action :=
  [.call (archiveConfig 1 unit_rate) archive 60, .turn 0, .turn 0, .turn 0, .turn 0,
    .call (archiveConfig (1 / 2) (by norm_num)) archive 60, .turn 1, .pass 2, .turn 1, .turn 1, .turn 1]

theorem reservations_spaced_shared : ∃ rate, Least rate [1, 1 / 2] ∧ (0 : ℚ) + 1 / rate ≤ 2 := by
  have runs : ((RateSystem.start 0).play sharedTurns).any (fun s => s.history = [.lookup archiveKey 1] ++
      .reservation archiveKey 0 :: ([.lookup archiveKey (1 / 2)] ++ .reservation archiveKey 2 :: [])) = true := by decide +kernel
  obtain ⟨s, played, shown⟩ := (Option.any_eq_true _ _).mp runs
  exact reservations_spaced played (of_decide_eq_true shown) rfl

end Sample
end Molly
