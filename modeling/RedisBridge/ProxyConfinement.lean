import RedisBridge.AuthRuns
import RedisBridge.ProxyRanges

/-!
Whom a request can concern. A request is counted under its client address, and
outside the configured proxies that is its peer. So a stranger's request leaves
every entry but its own as it was, or drops one that was stale.
-/
namespace RedisBridge.App

open AssocTables ClientAddress Instants IpAddress Lockout Targets BridgeConfig

/-- An entry as it was, or dropped because it was stale at one of the instants. -/
def KeptOrDropped (w : Duration) (instants : List Instant) (before after : Option AuthState) :
    Prop :=
  after = before ∨ ∃ own, before = some own ∧ after = none ∧
    ∃ now ∈ instants, own.isStale now w = true

theorem KeptOrDropped.trans {w : Duration} {earlier later : List Instant}
    {first second third : Option AuthState} (h : KeptOrDropped w earlier first second)
    (h' : KeptOrDropped w later second third) :
    KeptOrDropped w (earlier ++ later) first third := by
  rcases h with rfl | ⟨own, rfl, rfl, now, hnow, hstale⟩
  · rcases h' with rfl | ⟨own, rfl, rfl, now, hnow, hstale⟩
    · exact Or.inl rfl
    · exact Or.inr ⟨own, rfl, rfl, now, List.mem_append_right _ hnow, hstale⟩
  · rcases h' with rfl | ⟨own', hbad, _⟩
    · exact Or.inr ⟨own, rfl, rfl, now, List.mem_append_left _ hnow, hstale⟩
    · cases hbad

theorem keptOrDropped_of_stale {w : Duration} {now : Instant} {before after : Option AuthState}
    (h : AuthLockout.KeptOrStale w now before after) : KeptOrDropped w [now] before after := by
  rcases h with rfl | ⟨own, rfl, hstale, rfl⟩
  · exact Or.inl rfl
  · exact Or.inr ⟨own, rfl, rfl, now, List.mem_singleton.mpr rfl, hstale⟩

theorem KeptOrDropped.mono {w : Duration} {instants more : List Instant}
    {before after : Option AuthState} (h : KeptOrDropped w instants before after)
    (hsub : ∀ now ∈ instants, now ∈ more) : KeptOrDropped w more before after := by
  rcases h with hsame | ⟨own, hown, hnone, now, hnow, hstale⟩
  · exact Or.inl hsame
  · exact Or.inr ⟨own, hown, hnone, now, hsub now hnow, hstale⟩

/-- The clock readings at which a request may clean up the table. -/
def AuthRequest.readings (request : AuthRequest) : List Instant :=
  request.clock.failure :: request.refreshes

theorem AuthRequest.snapshot_mem_readings (request : AuthRequest) :
    request.clock.snapshot ∈ request.readings := by
  unfold readings refreshes
  split
  · simp
  · simp

namespace AppState

variable (state : AppState) (crates : Crates)

/-- Snapshots only drop entries that are stale. -/
theorem refreshed_keptOrDropped (entries : Entries) (instants : List Instant) (ip : IpAddr) :
    KeptOrDropped state.authLockout.failureWindow instants (entries.lookup ip)
      ((state.refreshed entries instants).lookup ip) := by
  induction instants generalizing entries with
  | nil => exact Or.inl rfl
  | cons now rest ih =>
    have hnow := keptOrDropped_of_stale (state.authLockout.snapshotAt_other entries now ip)
    exact hnow.trans (ih (state.authLockout.snapshotAt entries now).2)

/-- A request drops other addresses' stale entries at most. -/
theorem effect_other (request : AuthRequest) (entries entries' : Entries) (metrics : Metrics)
    (outcome : AuthOutcome) (after : Cells) (other : IpAddr)
    (h : state.Effect crates request entries metrics outcome after)
    (hafter : after.lockout = .available entries') (hne : other ≠ state.requestIp request) :
    KeptOrDropped state.authLockout.failureWindow request.readings (entries.lookup other)
      (entries'.lookup other) := by
  cases h with
  | closed hclosed =>
    cases hafter
    exact Or.inl rfl
  | rejected message result recorded hopen hrejected hrecord =>
    cases hafter
    have hfailure := keptOrDropped_of_stale
      (state.authLockout.recordFailureAt_other entries recorded _ other _ result hne hrecord)
    have hsnapshot := keptOrDropped_of_stale
      (state.authLockout.snapshotAt_other recorded request.clock.snapshot other)
    apply (hfailure.trans hsnapshot).mono
    intro now hnow
    rcases List.mem_append.mp hnow with hfirst | hlast
    · rw [List.mem_singleton.mp hfirst]
      exact List.mem_cons_self
    · rw [List.mem_singleton.mp hlast]
      exact request.snapshot_mem_readings
  | panicked panic hopen hrejected hrecord => cases hafter
  | granted outcome counts haccepted houtcome =>
    cases hafter
    have hsuccess := state.authLockout.recordSuccess_other entries _ other hne
    have hrefresh := refreshed_keptOrDropped state
      (state.authLockout.recordSuccess entries (state.requestIp request)) request.refreshes other
    rw [hsuccess] at hrefresh
    exact hrefresh.mono (fun now hnow => List.mem_cons_of_mem _ hnow)

/-- The peers whose forwarding headers are believed. -/
def Forwards (value : String) (peer : IpAddr) : Prop :=
  state.trustProxyHeaders = true ∧ TrustedProxies.Configured value peer

/-- The configuration that the state was built from. -/
def ConfiguredBy (value : String) : Prop :=
  state.trustProxyHeaders = false ∨ TrustedProxies.parse value = .ok state.trustedProxies

/-- Outside the configured ranges the client address is the peer. -/
theorem clientIp_of_stranger (value : String) (hvalue : state.ConfiguredBy value) (peer : IpAddr)
    (hpeer : ¬state.Forwards value peer) (headers : HeaderMap) :
    state.clientIp headers peer = peer := by
  unfold clientIp
  by_cases htrust : state.trustProxyHeaders = false
  · rw [if_pos htrust]
  · rw [if_neg htrust]
    have hparse := hvalue.resolve_left htrust
    apply TrustedProxies.resolve_of_untrusted
    apply Bool.eq_false_iff.mpr
    intro htrusted
    exact hpeer ⟨Bool.eq_true_of_not_eq_false htrust,
      (TrustedProxies.isTrusted_iff value _ peer hparse).mp htrusted⟩

/-- A request concerns an address that is not its peer only through a proxy. -/
theorem effect_stranger (value : String) (hvalue : state.ConfiguredBy value)
    (request : AuthRequest) (entries entries' : Entries) (metrics : Metrics)
    (outcome : AuthOutcome) (after : Cells) (victim : IpAddr)
    (h : state.Effect crates request entries metrics outcome after)
    (hafter : after.lockout = .available entries') (hne : request.peer ≠ victim)
    (hpeer : ¬state.Forwards value request.peer) :
    KeptOrDropped state.authLockout.failureWindow request.readings (entries.lookup victim)
      (entries'.lookup victim) := by
  apply effect_other state crates request entries entries' metrics outcome after victim h hafter
  intro heq
  apply hne
  rw [heq]
  exact (clientIp_of_stranger state value hvalue request.peer hpeer request.headers).symm

/-- By induction on the run: strangers keep an entry, or drop it once stale. -/
theorem authRun_strangers (value : String) (hvalue : state.ConfiguredBy value)
    (requests : List AuthRequest) (entries entries' : Entries) (metrics : Metrics)
    (victim : IpAddr)
    (hstrangers : ∀ request ∈ requests,
      request.peer ≠ victim ∧ ¬state.Forwards value request.peer)
    (hafter : (state.authRun crates ⟨.available entries, metrics⟩ requests).2.lockout =
      .available entries') :
    KeptOrDropped state.authLockout.failureWindow (requests.flatMap AuthRequest.readings)
      (entries.lookup victim) (entries'.lookup victim) := by
  induction requests generalizing entries metrics with
  | nil =>
    cases hafter
    exact Or.inl rfl
  | cons request rest ih =>
    obtain ⟨⟨hne, hpeer⟩, hrest⟩ := List.forall_mem_cons.mp hstrangers
    have heffect := authenticate_effect state crates entries metrics request
    cases hmid : (state.authenticate crates ⟨.available entries, metrics⟩ request).2.lockout with
    | poisoned =>
      have hend := authRun_poisoned state crates rest _ hmid
      have hcontra := hafter.symm.trans hend
      cases hcontra
    | available between =>
      have hstep := effect_stranger state crates value hvalue request entries between metrics _ _
        victim heffect hmid hne hpeer
      have hcells : (state.authenticate crates ⟨.available entries, metrics⟩ request).2 =
          ⟨.available between,
            (state.authenticate crates ⟨.available entries, metrics⟩ request).2.metrics⟩ := by
        rw [← hmid]
      have hlater := ih between _ hrest (by rw [← hcells]; exact hafter)
      rw [List.flatMap_cons]
      exact hstep.trans hlater

/-- For a configuration text that the parser accepts, or with forwarding off: a
request changes an entry only if its peer is that address or a configured proxy,
and everyone else's requests at most drop it once it is stale. -/
theorem entry_confined (value : String) (hvalue : state.ConfiguredBy value) :
    (∀ (requests : List AuthRequest) (cells : Cells) (event : AuthEvent)
      (entries entries' : Entries) (victim : IpAddr),
      event ∈ (state.authRun crates cells requests).1 →
      event.before.lockout = .available entries → event.after.lockout = .available entries' →
      entries'.lookup victim = entries.lookup victim ∨
        event.request.peer = victim ∨ state.Forwards value event.request.peer ∨
        ∃ own, entries.lookup victim = some own ∧ entries'.lookup victim = none ∧
          ∃ now ∈ event.request.readings, own.isStale now state.authLockout.failureWindow = true) ∧
    (∀ (requests : List AuthRequest) (entries entries' : Entries) (metrics : Metrics)
      (victim : IpAddr),
      (state.authRun crates ⟨.available entries, metrics⟩ requests).2.lockout =
        .available entries' →
      (∀ request ∈ requests, request.peer ≠ victim ∧ ¬state.Forwards value request.peer) →
      KeptOrDropped state.authLockout.failureWindow (requests.flatMap AuthRequest.readings)
        (entries.lookup victim) (entries'.lookup victim)) ∧
    ∀ peer, ¬state.Forwards value peer → ∀ headers, state.clientIp headers peer = peer := by
  refine ⟨?_, ?_, ?_⟩
  · intro requests cells event entries entries' victim hevent hbefore hafter
    have heffect := event_effect state crates requests cells event entries hevent hbefore
    by_cases hown : event.request.peer = victim
    · exact Or.inr (Or.inl hown)
    · by_cases hpeer : state.Forwards value event.request.peer
      · exact Or.inr (Or.inr (Or.inl hpeer))
      · rcases effect_stranger state crates value hvalue event.request entries entries' _ _ _ victim
          heffect hafter hown hpeer with hsame | hdropped
        · exact Or.inl hsame
        · exact Or.inr (Or.inr (Or.inr hdropped))
  · intro requests entries entries' metrics victim hafter hstrangers
    exact authRun_strangers state crates value hvalue requests entries entries' metrics victim
      hstrangers hafter
  · intro peer hpeer headers
    exact clientIp_of_stranger state value hvalue peer hpeer headers

end AppState

/-- The two targets behind the proxies of one network. -/
def behindProxies : Bridge :=
  { twoTargets with trustProxyHeaders := true, trustedProxies := ⟨[⟨.v4 0x0A000000, 8⟩]⟩ }

/-- A request without credentials from a peer outside the network. -/
def straying : AuthRequest :=
  ⟨.command, fun _ => none, .v4 0x0B000001, ⟨.ofSecs 1, .ofSecs 1⟩, .ofSecs 1⟩

namespace AppState

/-- Its failure is its own: the entry of an address in the network stays. -/
theorem entry_confined_straying : ∃ state entries entries',
    new (fun _ => .ok ()) behindProxies = .ok state ∧
    (state.authRun abcCrates freshCells [straying]).2.lockout = .available entries ∧
    (state.authRun abcCrates ⟨.available entries, Metrics.new⟩ [straying]).2.lockout =
      .available entries' ∧
    KeptOrDropped state.authLockout.failureWindow [.ofSecs 1, .ofSecs 1]
      (entries.lookup (.v4 0x0A000001)) (entries'.lookup (.v4 0x0A000001)) ∧
    ∀ headers, state.clientIp headers (.v4 0x0B000001) = .v4 0x0B000001 := by
  obtain ⟨state, entries, entries', hnew, htrust, hproxies, hbefore, hafter⟩ :
      ∃ state entries entries', new (fun _ => .ok ()) behindProxies = .ok state ∧
        state.trustProxyHeaders = true ∧ state.trustedProxies = ⟨[⟨.v4 0x0A000000, 8⟩]⟩ ∧
        (state.authRun abcCrates freshCells [straying]).2.lockout = .available entries ∧
        (state.authRun abcCrates ⟨.available entries, Metrics.new⟩ [straying]).2.lockout =
          .available entries' := ⟨_, _, _, rfl, rfl, rfl, rfl, rfl⟩
  have hparse : TrustedProxies.parse "10.0.0.0/8" = .ok state.trustedProxies := by
    rw [hproxies]
    decide
  have hstranger : ¬state.Forwards "10.0.0.0/8" (.v4 0x0B000001) := by
    intro h
    obtain ⟨_, hconfigured⟩ := h
    have htrusted := (TrustedProxies.isTrusted_iff _ _ _ hparse).mpr hconfigured
    rw [hproxies] at htrusted
    exact absurd htrusted (by decide)
  obtain ⟨_, hrun, hpeer⟩ := entry_confined state abcCrates "10.0.0.0/8" (Or.inr hparse)
  refine ⟨state, entries, entries', hnew, hbefore, hafter, ?_, hpeer _ hstranger⟩
  refine hrun [straying] entries entries' Metrics.new (.v4 0x0A000001) hafter ?_
  intro request hmem
  rw [List.mem_singleton.mp hmem]
  exact ⟨by decide, hstranger⟩

end AppState

end RedisBridge.App
