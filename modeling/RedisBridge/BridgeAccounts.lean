import RedisBridge.WholeBridge

/-!
The accounts of a whole bridge. In every interleaving of requests at all routes
each counter is the number of requests past the step that moves it, whichever
route they came to; permits and seats are free or held; the routes' denials are
counted apart; and a request that is over is in exactly one account of its route.
-/
namespace RedisBridge.App

open BridgeConfig ClientAddress Instants IpAddress JointPrograms Lockout Responses RustText
open Security SharedThreads Targets TokenType TransitionRuns
open OperationPermits (Operation Operations Outcome)

namespace AppState

variable (state : AppState) (crates : Crates)

theorem scrape_denied_tallies (label reason : String) :
    (state.scrapeProgram crates).Tallies ScrapeFit
      (fun hall => (hall.cells.metrics.served.requestDenied label reason : ℤ))
      (Scrape.deniedFor label reason) := by
  apply scrape_tallies state crates (fun served => served.requestDenied label reason)
    (fun denied => ("metrics" == label && "auth" == reason) && denied)
  · exact Bool.and_false _
  · intro served
    dsimp only
    rw [bump_toNat, Bool.and_true]
    push_cast
    rfl

theorem subscriber_denied_tallies (label reason : String) :
    (state.subscriberProgram crates).Tallies (state.SubscriberFit crates)
      (fun lobby => (lobby.hall.cells.metrics.served.requestDenied label reason : ℤ))
      (Subscriber.deniedFor label reason) := by
  apply served_tallies state crates (fun served => served.requestDenied label reason)
    (fun denied => "subscribe" == label && denied == some reason)
  · exact Bool.and_false _
  · intro served own
    dsimp only
    rw [bump_toNat]
    push_cast
    simp

theorem bridge_fit (clock : Instant) (events : List GuestEvent) (s : Threads House Guest)
    (h : run (state.bridgeProgram crates).step (state.openHouse clock) events = some s) :
    (∀ scrape ∈ scrapes s, ScrapeFit scrape) ∧ (∀ visit ∈ visits s, state.VisitFit crates visit) ∧
      ∀ subscriber ∈ subscribers s, state.SubscriberFit crates subscriber := by
  have htallies := tallies_beside
    (tallies_within House.hallPart (scrape_denied_tallies state crates "metrics" "auth"))
    (tallies_beside (tallies_within House.deskPart (denied_tallies state crates "metrics" "auth"))
      (tallies_within House.lobbyPart (subscriber_denied_tallies state crates "metrics" "auth")))
  have hfit := (htallies.run events _ s
    ⟨fun guest hmem => absurd hmem List.not_mem_nil, rfl⟩ h).1
  unfold scrapes visits subscribers
  refine ⟨?_, ?_, ?_⟩
  · intro scrape hmem
    obtain ⟨guest, hguest, hleft⟩ := List.mem_filterMap.mp hmem
    obtain rfl := Sum.getLeft?_eq_some_iff.mp hleft
    exact hfit _ hguest
  · intro visit hmem
    obtain ⟨other, hother, hleft⟩ := List.mem_filterMap.mp hmem
    obtain ⟨guest, hguest, hright⟩ := List.mem_filterMap.mp hother
    obtain rfl := Sum.getLeft?_eq_some_iff.mp hleft
    obtain rfl := Sum.getRight?_eq_some_iff.mp hright
    exact hfit _ hguest
  · intro subscriber hmem
    obtain ⟨other, hother, hown⟩ := List.mem_filterMap.mp hmem
    obtain ⟨guest, hguest, hright⟩ := List.mem_filterMap.mp hother
    obtain rfl := Sum.getRight?_eq_some_iff.mp hown
    obtain rfl := Sum.getRight?_eq_some_iff.mp hright
    exact hfit _ hguest

/-- A total that each route keeps in step with its own requests is in every state
the number of requests of all routes that are counted towards it. -/
theorem bridge_counts (clock : Instant) (events : List GuestEvent) (s : Threads House Guest)
    (h : run (state.bridgeProgram crates).step (state.openHouse clock) events = some s)
    (total : House → ℤ) (hstart : total (state.openHouse clock).shared = 0)
    {scraped : Scrape → Bool} {visited : Visit → Bool} {subscribed : Subscriber → Bool}
    (hscrapes : (within House.hallPart (state.scrapeProgram crates)).Tallies ScrapeFit total
      scraped)
    (hvisits : (within House.deskPart (state.visitProgram crates)).Tallies (state.VisitFit crates)
      total visited)
    (hsubscribers : (within House.lobbyPart (state.subscriberProgram crates)).Tallies
      (state.SubscriberFit crates) total subscribed) :
    total s.shared = (scrapes s).countP scraped + (visits s).countP visited +
      (subscribers s).countP subscribed := by
  have htotal := ((tallies_beside hscrapes (tallies_beside hvisits hsubscribers)).run events _ s
    ⟨fun guest hmem => absurd hmem List.not_mem_nil, hstart⟩ h).2
  rw [countP_elim, countP_elim] at htotal
  unfold scrapes visits subscribers
  omega

/-- A counter of the command routes, which the other routes leave alone. -/
theorem visits_count (clock : Instant) (events : List GuestEvent) (s : Threads House Guest)
    (h : run (state.bridgeProgram crates).step (state.openHouse clock) events = some s)
    (measure : Served → ℤ) (hstart : measure Metrics.new.served = 0) {visited : Visit → Bool}
    (hdenies : ∀ served : Served, ∀ label reason, measure { served with
      requestDenied := Metrics.bump served.requestDenied label reason } = measure served)
    (hvisits : (state.visitProgram crates).Tallies (state.VisitFit crates)
      (fun desk => measure desk.books.served) visited) :
    measure s.shared.desk.metrics.served = (visits s).countP visited := by
  have htotal := bridge_counts state crates clock events s h
    (fun house => measure house.desk.metrics.served) hstart
    (tallies_within House.hallPart (scrape_tallies state crates measure (fun _ => false) rfl
      (fun served => (hdenies served "metrics" "auth").trans (Int.add_zero _).symm)))
    (tallies_within House.deskPart hvisits)
    (tallies_within House.lobbyPart (served_tallies state crates measure (fun _ => false) rfl
      (fun served reason => (hdenies served "subscribe" reason).trans (Int.add_zero _).symm)))
  simpa using htotal

/-- A number of the hub, which only subscriptions move. -/
theorem sessions_count (clock : Instant) (events : List GuestEvent) (s : Threads House Guest)
    (h : run (state.bridgeProgram crates).step (state.openHouse clock) events = some s)
    (total : Hub → ℤ) (hstart : total (quietHub state.realtimeLimit.val).shared = 0)
    {counted : Session → Bool}
    (hsessions : realtimeProgram.Tallies Session.Fit total counted) :
    total s.shared.hub =
      (subscribers s).countP (fun subscriber => subscriber.session.any counted) := by
  have htotal := bridge_counts state crates clock events s h (fun house => total house.hub) hstart
    (tallies_elsewhere House.hallPart (scrape_denied_tallies state crates "metrics" "auth") _
      (fun _ _ => rfl))
    (tallies_elsewhere House.deskPart (denied_tallies state crates "metrics" "auth") _
      (fun _ _ => rfl))
    (tallies_within House.lobbyPart (hub_tallies state crates total counted hsessions))
  simpa using htotal

theorem scrape_settled_once (scrape : Scrape) (hfit : ScrapeFit scrape)
    (hsettled : scrape.isSettled = true) :
    true.toNat = ([Scrape.hasPanicked, Scrape.isServed, Scrape.deniedFor "metrics" "auth"].map
      fun part => (part scrape).toNat).sum := by
  unfold ScrapeFit at hfit
  unfold Scrape.isSettled at hsettled
  simp only [List.map_cons, List.map_nil, List.sum_cons, List.sum_nil, Scrape.hasPanicked,
    Scrape.isServed, Scrape.deniedFor]
  cases hstage : scrape.stage with
  | answered reply =>
    rw [hstage] at hfit
    cases reply <;> rw [show scrape.denied = _ from hfit] <;> rfl
  | panicked panic =>
    rw [hstage] at hfit
    rw [show scrape.denied = false from hfit]
    rfl
  | authenticating | denying | rendering =>
    rw [hstage] at hsettled
    cases hsettled

/-- Every counter of the bridge against its requests, and every request against
the counters. -/
structure Reconciled (s : Threads House Guest) : Prop where
  authFailed : s.shared.desk.metrics.authFailedTotal =
    (s.threads.map Guest.attempt).countP Attempt.failed
  results : ∀ result, HasCounter result → resultTotal s.shared.desk.metrics result =
    (s.threads.map Guest.attempt).countP (Attempt.countedAs result)
  denied : ∀ label reason, s.shared.desk.metrics.requestDeniedTotal label reason =
    (scrapes s).countP (Scrape.deniedFor label reason) +
      (visits s).countP (Visit.deniedFor label reason) +
        (subscribers s).countP (Subscriber.deniedFor label reason)
  disallowed : ∀ target kind, s.shared.desk.metrics.commandDeniedTotal target kind =
    (visits s).countP (Visit.disallowedAt state target kind)
  inflight : ∀ target label, s.shared.desk.metrics.redisOperationsInflight target label =
    (visits s).countP (Visit.operatesAt state target label)
  ended : ∀ target label outcome,
    s.shared.desk.metrics.redisOperationsTotal target label outcome.name =
      (visits s).countP (Visit.endedAt state target label outcome)
  streams : ∀ target, s.shared.hub.realtimeTotal target = (subscribers s).countP
      (fun subscriber => subscriber.session.any (Session.acceptedAt target)) ∧
    s.shared.hub.realtimeInflight target = (subscribers s).countP
      (fun subscriber => subscriber.session.any (Session.guardedAt target))
  permits : ∀ target, s.shared.desk.available target + (visits s).countP (Visit.holdsAt target) =
    OperationPermits.limit state.targets target
  seats : s.shared.hub.permits + (subscribers s).countP
    (fun subscriber => subscriber.session.any Session.permit) = state.realtimeLimit.val
  scraped : (∀ scrape ∈ scrapes s, scrape.isSettled = true) →
    (scrapes s).length = (scrapes s).countP Scrape.hasPanicked +
      (scrapes s).countP Scrape.isServed +
        s.shared.desk.metrics.requestDeniedTotal "metrics" "auth"
  visited : (∀ visit ∈ visits s, visit.left.isSome = true) → ∀ kind : PacketKind,
    (visits s).countP (fun visit => visit.label == kind.name) =
      (visits s).countP (Visit.panickedFor kind.name) +
        s.shared.desk.metrics.requestDeniedTotal kind.name "auth" +
        s.shared.desk.metrics.requestDeniedTotal kind.name "invalid_json" +
        s.shared.desk.metrics.requestDeniedTotal kind.name "policy" +
        (visits s).countP (Visit.operatedFor kind.name)
  subscribed : (∀ subscriber ∈ subscribers s, subscriber.isSettled = true) →
    (subscribers s).length = (subscribers s).countP Subscriber.hasPanicked +
      (subscribers s).countP Subscriber.parted + (subscribers s).countP Subscriber.accepted +
        (Subscriber.reasons.map
          (s.shared.desk.metrics.requestDeniedTotal "subscribe")).sum

theorem scrapes_apart (s : Threads House Guest) (label reason : String)
    (hlabel : label ≠ "metrics") :
    (scrapes s).countP (Scrape.deniedFor label reason) = 0 := by
  apply List.countP_eq_zero.mpr
  intro scrape _
  simp [Scrape.deniedFor, Ne.symm hlabel]

theorem visits_apart (s : Threads House Guest) (label reason : String)
    (hlabel : ∀ kind : PacketKind, kind.name ≠ label) :
    (visits s).countP (Visit.deniedFor label reason) = 0 := by
  apply List.countP_eq_zero.mpr
  intro visit _
  simp [Visit.deniedFor, Visit.label, hlabel visit.visitor.posted.kind]

theorem subscribers_apart (s : Threads House Guest) (label reason : String)
    (hlabel : label ≠ "subscribe") :
    (subscribers s).countP (Subscriber.deniedFor label reason) = 0 := by
  apply List.countP_eq_zero.mpr
  intro subscriber _
  simp [Subscriber.deniedFor, Ne.symm hlabel]

theorem bridge_denied (clock : Instant) (events : List GuestEvent) (s : Threads House Guest)
    (h : run (state.bridgeProgram crates).step (state.openHouse clock) events = some s)
    (label reason : String) :
    s.shared.desk.metrics.requestDeniedTotal label reason =
      (scrapes s).countP (Scrape.deniedFor label reason) +
        (visits s).countP (Visit.deniedFor label reason) +
          (subscribers s).countP (Subscriber.deniedFor label reason) := by
  have htotal := bridge_counts state crates clock events s h
    (fun house => (house.desk.metrics.requestDeniedTotal label reason : ℤ)) rfl
    (tallies_within House.hallPart (scrape_denied_tallies state crates label reason))
    (tallies_within House.deskPart (denied_tallies state crates label reason))
    (tallies_within House.lobbyPart (subscriber_denied_tallies state crates label reason))
  exact_mod_cast htotal

/-- Scrapes that are over, each in one account. -/
theorem scrapes_settled (served : List Scrape) (hfit : ∀ scrape ∈ served, ScrapeFit scrape)
    (hsettled : ∀ scrape ∈ served, scrape.isSettled = true) :
    served.length = served.countP Scrape.hasPanicked + served.countP Scrape.isServed +
      served.countP (Scrape.deniedFor "metrics" "auth") := by
  have honce := Program.countP_eq_sum (fun _ => true) _ served
    (fun scrape hmem => scrape_settled_once scrape (hfit scrape hmem) (hsettled scrape hmem))
  rw [List.countP_true] at honce
  simp only [List.map_cons, List.map_nil, List.sum_cons, List.sum_nil] at honce
  omega

/-- Subscriptions that are over, or have their stream, each in one account. -/
theorem subscribers_settled (attended : List Subscriber)
    (hfit : ∀ subscriber ∈ attended, state.SubscriberFit crates subscriber)
    (hsettled : ∀ subscriber ∈ attended, subscriber.isSettled = true) :
    attended.length = attended.countP Subscriber.hasPanicked +
      attended.countP Subscriber.parted + attended.countP Subscriber.accepted +
        (Subscriber.reasons.map
          fun reason => attended.countP (Subscriber.deniedFor "subscribe" reason)).sum := by
  have honce := Program.countP_eq_sum (fun _ => true) _ attended
    (fun subscriber hmem => settled_once state crates subscriber (hfit subscriber hmem)
      (hsettled subscriber hmem))
  rw [List.countP_true, List.map_append, List.sum_append, List.map_map] at honce
  simp only [List.map_cons, List.map_nil, List.sum_cons, List.sum_nil] at honce
  rw [honce]
  simp only [Function.comp_def]
  omega

/-- In every interleaving of requests at all routes, over one lockout table and
one set of counters, each counter is at every moment the number of requests past
the step that moves it, permits are left or held, and no route's denials are
counted for another; once the requests of a route are over, or have their stream,
each of them is in exactly one of its accounts. -/
theorem bridge_reconciles (clock : Instant) (events : List GuestEvent)
    (s : Threads House Guest)
    (h : run (state.bridgeProgram crates).step (state.openHouse clock) events = some s) :
    Reconciled state s := by
  obtain ⟨events', hrun, _⟩ := (bridge_refines state crates).run events _ s h
  obtain ⟨hscraped, hvisited, hsubscribed⟩ := bridge_fit state crates clock events s h
  have hnobody : ∀ attempt ∈ (openHall clock).threads,
      attempt.Fit ∧ state.Came crates attempt := fun attempt hmem => absurd hmem List.not_mem_nil
  have hdenied := bridge_denied state crates clock events s h
  have hkind (kind : PacketKind) (reason : String) :
      s.shared.desk.metrics.requestDeniedTotal kind.name reason =
        (visits s).countP (Visit.deniedFor kind.name reason) := by
    rw [hdenied, scrapes_apart s kind.name reason (by cases kind <;> decide),
      subscribers_apart s kind.name reason (by cases kind <;> decide), Nat.zero_add, Nat.add_zero]
  refine ⟨?_, ?_, hdenied, ?_, ?_, ?_, ?_, ?_, ?_, ?_, ?_, ?_⟩
  · exact ((failed_tallies state crates).run_nat events' _ _ hnobody rfl hrun).2
  · intro result hcounter
    have hstart : resultTotal (openHall clock).shared.cells.metrics result = 0 := by
      cases result <;> rfl
    have htotal := ((result_tallies state crates result hcounter).run_nat events' _ _ hnobody hstart
      hrun).2
    refine Eq.trans ?_ htotal
    cases result <;> rfl
  · intro target kind
    exact_mod_cast visits_count state crates clock events s h
      (fun served => (served.commandDenied target kind : ℤ)) rfl (fun _ _ _ => rfl)
      (disallowed_tallies state crates target kind)
  · intro target label
    exact visits_count state crates clock events s h
      (fun served => served.inflight target label) rfl (fun _ _ _ => rfl)
      (operates_tallies state crates target label)
  · intro target label outcome
    exact_mod_cast visits_count state crates clock events s h
      (fun served => (served.operations target label outcome.name : ℤ)) rfl (fun _ _ _ => rfl)
      (ended_tallies state crates target label outcome)
  · intro target
    constructor
    · exact_mod_cast sessions_count state crates clock events s h
        (fun hub => (hub.realtimeTotal target : ℤ)) rfl (total_tallies target)
    · exact sessions_count state crates clock events s h
        (fun hub => hub.realtimeInflight target) rfl (inflight_tallies target)
  · intro target
    have hheld := bridge_counts state crates clock events s h
      (fun house => OperationPermits.limit state.targets target -
        (house.desk.available target : ℤ)) (sub_self _)
      (tallies_elsewhere House.hallPart (scrape_denied_tallies state crates "metrics" "auth") _
        (fun _ _ => rfl))
      (tallies_within House.deskPart (holds_tallies state crates target))
      (tallies_elsewhere House.lobbyPart
        (subscriber_denied_tallies state crates "subscribe" "auth") _ (fun _ _ => rfl))
    simp only [List.countP_false, Function.const] at hheld
    omega
  · have hseats := sessions_count state crates clock events s h
      (fun hub => state.realtimeLimit.val - (hub.permits : ℤ)) (sub_self _)
      (permits_tallies state.realtimeLimit.val)
    omega
  · intro hsettled
    rw [hdenied, visits_apart s "metrics" "auth" (fun kind => by cases kind <;> decide),
      subscribers_apart s "metrics" "auth" (by decide)]
    exact scrapes_settled (scrapes s) hscraped hsettled
  · intro hleft kind
    rw [Program.countP_eq_sum _ _ (visits s)
      (fun visit hmem => left_once state crates kind.name visit (hvisited visit hmem)
        (hleft visit hmem))]
    simp only [List.map_cons, List.map_nil, List.sum_cons, List.sum_nil, hkind]
    omega
  · intro hsettled
    have hreason : s.shared.desk.metrics.requestDeniedTotal "subscribe" =
        fun reason => (subscribers s).countP (Subscriber.deniedFor "subscribe" reason) := by
      funext reason
      rw [hdenied, scrapes_apart s "subscribe" reason (by decide),
        visits_apart s "subscribe" reason (fun kind => by cases kind <;> decide), Nat.zero_add]
    rw [hreason]
    exact subscribers_settled state crates (subscribers s) hsubscribed hsettled

theorem bridge_reconciles_three : ∃ state s, new (fun _ => .ok ()) twoTargets = .ok state ∧
    run (state.bridgeProgram abcCrates).step (state.openHouse (.ofSecs 0)) threeRoutes = some s ∧
    s.shared.desk.metrics.requestDeniedTotal "metrics" "auth" = 1 ∧
    s.shared.desk.metrics.authFailedTotal = 0 := by
  obtain ⟨state, s, hnew, hrun, hscrapes, hvisits, hsubscribers, hfailed⟩ : ∃ state s,
      new (fun _ => .ok ()) twoTargets = .ok state ∧
      run (state.bridgeProgram abcCrates).step (state.openHouse (.ofSecs 0)) threeRoutes = some s ∧
      (scrapes s).countP (Scrape.deniedFor "metrics" "auth") = 1 ∧
      (visits s).countP (Visit.deniedFor "metrics" "auth") = 0 ∧
      (subscribers s).countP (Subscriber.deniedFor "metrics" "auth") = 0 ∧
      (s.threads.map Guest.attempt).countP Attempt.failed = 0 :=
    ⟨_, _, rfl, rfl, rfl, rfl, rfl, rfl⟩
  have hreconciled := bridge_reconciles state abcCrates (.ofSecs 0) threeRoutes s hrun
  refine ⟨state, s, hnew, hrun, ?_, hreconciled.authFailed.trans hfailed⟩
  rw [hreconciled.denied, hscrapes, hvisits, hsubscribers]

end AppState

end RedisBridge.App
