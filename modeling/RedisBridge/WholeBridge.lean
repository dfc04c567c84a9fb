import RedisBridge.JointPrograms
import RedisBridge.SubscribeAccounts
import RedisBridge.VisitProgress

/-!
All routes of a bridge side by side: scrapes of its metrics, commands and
subscriptions. They share one lockout table, one set of counters and the permits
of each kind. Seen at the lockout table, a run of the bridge is a run of requests
that do nothing but authenticate, with the same calls in the same order.
-/
namespace RedisBridge.App

open BridgeConfig ClientAddress Instants IpAddress JointPrograms Lockout Responses RustText
open Security SharedThreads Targets TokenType TransitionRuns
open OperationPermits (Operation Operations Outcome)

/-! The metrics route. -/

structure Scraper where
  headers : HeaderMap
  peer : IpAddr

/-- What a scrape is answered; the text is rendered from the registry. -/
inductive ScrapeReply
  | refused (response : Response)
  | rendered (body : String)
  | failed (response : Response)

inductive ScrapeStage
  | authenticating
  | denying (error : ApiError)
  | rendering
  | answered (reply : ScrapeReply)
  | panicked (panic : Panic)

/-- A scrape, and whether it was counted as denied. -/
structure Scrape where
  scraper : Scraper
  attempt : Attempt
  denied : Bool
  stage : ScrapeStage

/-- The next step of a scrape, or the end of its rendering. -/
inductive ScrapeAct
  | step
  | rendered (body : Option String)

namespace Scrape

def goTo (scrape : Scrape) (stage : ScrapeStage) : Scrape := { scrape with stage := stage }

/-- The scrape was counted as denied under a label and a reason. -/
def deniedFor (label reason : String) (scrape : Scrape) : Bool :=
  ("metrics" == label && "auth" == reason) && scrape.denied

/-- A scrape that was not refused. -/
def isServed (scrape : Scrape) : Bool :=
  match scrape.stage with
  | .answered (.rendered _) | .answered (.failed _) => true
  | _ => false

def hasPanicked (scrape : Scrape) : Bool :=
  match scrape.stage with
  | .panicked _ => true
  | _ => false

def isSettled (scrape : Scrape) : Bool :=
  match scrape.stage with
  | .answered _ | .panicked _ => true
  | _ => false

end Scrape

namespace AppState

variable (state : AppState) (crates : Crates)

def Scraper.arrival (scraper : Scraper) : Arrival := ⟨.metrics, scraper.headers, scraper.peer⟩

def scrape (scraper : Scraper) : Scrape where
  scraper := scraper
  attempt := state.attempt crates (Scraper.arrival scraper)
  denied := false
  stage := .authenticating

def moveScrape (hall : Hall) (scrape : Scrape) (act : ScrapeAct) : Option (Hall × Scrape) :=
  match scrape.stage, act with
  | .authenticating, .step =>
      match scrape.attempt.left with
      | none =>
          (state.moveAttempt hall scrape.attempt).map fun (hall', attempt) =>
            (hall', { scrape with attempt := attempt })
      | some (.error panic) => some (hall, scrape.goTo (.panicked panic))
      | some (.ok (.error error)) => some (hall, scrape.goTo (.denying error))
      | some (.ok (.ok _)) => some (hall, scrape.goTo .rendering)
  | .denying error, .step =>
      some (hall.setMetrics (hall.cells.metrics.requestDenied "metrics" "auth"),
        { scrape with denied := true, stage := .answered (.refused error.intoResponse) })
  | .rendering, .rendered (some body) => some (hall, scrape.goTo (.answered (.rendered body)))
  | .rendering, .rendered none =>
      some (hall, scrape.goTo
        (.answered (.failed (ApiError.unavailable "Metrics unavailable").intoResponse)))
  | _, _ => none

def scrapeProgram : Program Hall Scrape Scraper ScrapeAct Instant where
  enter := state.scrape crates
  move := state.moveScrape
  drift := passTime

/-- Everything one step of a scrape can do. -/
inductive ScrapeMoves (hall : Hall) (scrape : Scrape) : ScrapeAct → Hall → Scrape → Prop
  | authenticates (hall' : Hall) (attempt : Attempt) (hstage : scrape.stage = .authenticating)
      (hmove : state.moveAttempt hall scrape.attempt = some (hall', attempt)) :
      ScrapeMoves hall scrape .step hall' { scrape with attempt := attempt }
  | leaves (outcome : AuthOutcome) (stage : ScrapeStage)
      (hstage : scrape.stage = .authenticating) (hleft : scrape.attempt.left = some outcome)
      (hgoes : ∀ reply, stage ≠ .answered reply) :
      ScrapeMoves hall scrape .step hall (scrape.goTo stage)
  | denies (error : ApiError) (hstage : scrape.stage = .denying error) :
      ScrapeMoves hall scrape .step
        (hall.setMetrics (hall.cells.metrics.requestDenied "metrics" "auth"))
        { scrape with denied := true, stage := .answered (.refused error.intoResponse) }
  | renders (body : Option String) (reply : ScrapeReply) (hstage : scrape.stage = .rendering)
      (hreply : ∀ response, reply ≠ .refused response) :
      ScrapeMoves hall scrape (.rendered body) hall (scrape.goTo (.answered reply))

theorem moveScrape_moves (hall hall' : Hall) (scrape scrape' : Scrape) (act : ScrapeAct)
    (h : state.moveScrape hall scrape act = some (hall', scrape')) :
    ScrapeMoves state hall scrape act hall' scrape' := by
  unfold moveScrape at h
  split at h
  · rename_i hstage
    split at h
    · obtain ⟨⟨moved, attempt⟩, hmove, heq⟩ := Option.map_eq_some_iff.mp h
      cases heq
      exact .authenticates _ attempt hstage hmove
    · rename_i panic hleft
      cases h
      exact .leaves _ _ hstage hleft fun _ => ScrapeStage.noConfusion
    · rename_i error hleft
      cases h
      exact .leaves _ _ hstage hleft fun _ => ScrapeStage.noConfusion
    · rename_i route hleft
      cases h
      exact .leaves _ _ hstage hleft fun _ => ScrapeStage.noConfusion
  · rename_i error hstage
    cases h
    exact .denies error hstage
  · rename_i body hstage
    cases h
    exact .renders (some body) _ hstage fun _ => ScrapeReply.noConfusion
  · rename_i hstage
    cases h
    exact .renders none _ hstage fun _ => ScrapeReply.noConfusion
  · cases h

/-- A scrape is counted as denied exactly once it was refused. -/
def ScrapeFit (scrape : Scrape) : Prop :=
  match scrape.stage with
  | .answered (.refused _) => scrape.denied = true
  | _ => scrape.denied = false

theorem ScrapeMoves.fit {hall hall' : Hall} {scrape scrape' : Scrape} {act : ScrapeAct}
    (hfit : ScrapeFit scrape) (h : ScrapeMoves state hall scrape act hall' scrape') :
    ScrapeFit scrape' := by
  unfold ScrapeFit at hfit
  cases h with
  | authenticates moved attempt hstage hmove => exact hfit
  | leaves outcome stage hstage hleft hgoes =>
    rw [hstage] at hfit
    unfold ScrapeFit Scrape.goTo
    cases stage with
    | answered reply => exact absurd rfl (hgoes reply)
    | _ => exact hfit
  | denies error hstage => rfl
  | renders body reply hstage hreply =>
    rw [hstage] at hfit
    unfold ScrapeFit Scrape.goTo
    cases reply with
    | refused response => exact absurd rfl (hreply response)
    | _ => exact hfit

/-- A counter that the denials of scrapes move, or none of their steps. -/
theorem scrape_tallies (measure : Served → ℤ) (counted : Bool → Bool)
    (hnone : counted false = false)
    (hdenies : ∀ served : Served, measure { served with
      requestDenied := Metrics.bump served.requestDenied "metrics" "auth" } =
        measure served + (counted true).toNat) :
    (state.scrapeProgram crates).Tallies ScrapeFit
      (fun hall => measure hall.cells.metrics.served) (fun scrape => counted scrape.denied) := by
  refine ⟨fun scraper => ⟨rfl, hnone⟩, ?_, ?_⟩
  · intro hall scrape act hall' scrape' hfit h
    have hmoves := moveScrape_moves state hall hall' scrape scrape' act h
    refine ⟨hmoves.fit state hfit, ?_⟩
    cases hmoves with
    | authenticates moved attempt hstage hmove =>
      rw [(moveAttempt_moves state _ _ _ _ hmove).served]
    | denies error hstage =>
      unfold ScrapeFit at hfit
      rw [hstage] at hfit
      have hcounted : measure (hall.setMetrics
          (hall.cells.metrics.requestDenied "metrics" "auth")).cells.metrics.served =
            measure hall.cells.metrics.served + (counted true).toNat :=
        hdenies hall.cells.metrics.served
      rw [hcounted, show scrape.denied = false from hfit, hnone]
      exact Int.add_zero _
    | _ => rfl
  · intro hall later hall' h
    rw [((passTime_eq_some _ _ _).mp h).2]

end AppState

/-! What a route does at the lockout table. -/

/-- The counters that authentication moves; the others are left out. -/
def Metrics.authPart (metrics : Metrics) : Metrics :=
  { Metrics.new with
    authFailedTotal := metrics.authFailedTotal
    authLockoutsTotal := metrics.authLockoutsTotal
    authLockedRequestsTotal := metrics.authLockedRequestsTotal
    authLockoutEntryLimitTotal := metrics.authLockoutEntryLimitTotal
    authLockoutTrackedIps := metrics.authLockoutTrackedIps
    authLockoutLockedIps := metrics.authLockoutLockedIps }

def Hall.authPart (hall : Hall) : Hall := hall.setMetrics hall.cells.metrics.authPart

namespace AppState

variable (state : AppState) (crates : Crates)

theorem afterLock_authPart {β : Type} (hall : Hall) (attempt : Attempt)
    (outcome : Except Panic β × Guarded) (next : β → Attempt) :
    afterLock hall.authPart attempt (outcome.1, setLockout hall.authPart.cells outcome.2) next =
      ((afterLock hall attempt (outcome.1, setLockout hall.cells outcome.2) next).1.authPart,
        (afterLock hall attempt (outcome.1, setLockout hall.cells outcome.2) next).2) := by
  obtain ⟨result, cell⟩ := outcome
  cases result <;> rfl

/-- Authentication neither reads nor moves the other counters. -/
theorem moveAttempt_authPart (hall : Hall) (attempt : Attempt) :
    state.moveAttempt hall.authPart attempt =
      (state.moveAttempt hall attempt).map fun (hall', attempt') => (hall'.authPart, attempt') := by
  unfold moveAttempt
  cases attempt.place with
  | deciding => cases attempt.verdict <;> rfl
  | recording now => exact congrArg some (afterLock_authPart hall attempt _ _)
  | clearing => exact congrArg some (afterLock_authPart hall attempt _ _)
  | surveying now => exact congrArg some (afterLock_authPart hall attempt _ _)
  | counting result => cases result <;> rfl
  | _ => rfl

/-! Every route is seen as authentication. -/

theorem tableCall_of_left (attempt : Attempt) (outcome : AuthOutcome)
    (hleft : attempt.left = some outcome) : attempt.tableCall = none := by
  unfold Attempt.left at hleft
  unfold Attempt.tableCall
  split at hleft
  · rename_i hplace
    rw [hplace]
  · rename_i panic hplace
    rw [hplace]
  · cases hleft

theorem tableCalls_of_left (hall : Hall) (attempt : Attempt) (outcome : AuthOutcome)
    (hleft : attempt.left = some outcome) : state.tableCalls hall attempt () = [] := by
  rw [tableCalls, tableCall_of_left attempt outcome hleft]
  rfl

theorem authProgram_move (hall hall' : Hall) (attempt attempt' : Attempt)
    (hmove : state.moveAttempt hall attempt = some (hall', attempt')) :
    (state.authProgram crates).move hall.authPart attempt () = some (hall'.authPart, attempt') := by
  change state.moveAttempt hall.authPart attempt = _
  rw [moveAttempt_authPart, hmove]
  rfl

theorem authProgram_drift (hall hall' : Hall) (later : Instant)
    (h : passTime hall later = some hall') :
    (state.authProgram crates).drift hall.authPart later = some hall'.authPart := by
  obtain ⟨hle, rfl⟩ := (passTime_eq_some _ _ _).mp h
  exact (passTime_eq_some _ _ _).mpr ⟨hle, rfl⟩

/-- What a step of a route calls on the table. -/
def scrapeCalls (hall : Hall) (scrape : Scrape) (_ : ScrapeAct) :
    List (Call × Except Panic Reply) :=
  match scrape.stage with
  | .authenticating => state.tableCalls hall scrape.attempt ()
  | _ => []

def visitCalls (desk : Desk) (visit : Visit) (_ : VisitAct) : List (Call × Except Panic Reply) :=
  match visit.stage with
  | .authenticating => state.tableCalls desk.hall visit.attempt ()
  | _ => []

def subscriberCalls (lobby : Lobby) (subscriber : Subscriber) (_ : SubscriberAct) :
    List (Call × Except Panic Reply) :=
  match subscriber.stage with
  | .authenticating => state.tableCalls lobby.hall subscriber.attempt ()
  | _ => []

theorem scrape_refines : Refines (state.scrapeProgram crates) (state.authProgram crates)
    Hall.authPart Scrape.attempt state.scrapeCalls state.tableCalls := by
  refine ⟨fun scraper => ⟨Scraper.arrival scraper, rfl⟩, ?_, ?_⟩
  · intro hall scrape act hall' scrape' h
    have hmoves := moveScrape_moves state hall hall' scrape scrape' act h
    unfold scrapeCalls
    cases hmoves with
    | authenticates moved attempt hstage hmove =>
      refine Or.inl ⟨(), authProgram_move state crates hall hall' scrape.attempt attempt hmove, ?_⟩
      rw [hstage]
      rfl
    | leaves outcome stage hstage hleft hgoes =>
      rw [hstage]
      exact Or.inr ⟨rfl, rfl, tableCalls_of_left state hall scrape.attempt outcome hleft⟩
    | denies error hstage =>
      rw [hstage]
      exact Or.inr ⟨rfl, rfl, rfl⟩
    | renders body reply hstage hreply =>
      rw [hstage]
      exact Or.inr ⟨rfl, rfl, rfl⟩
  · intro hall later hall' h
    exact ⟨later, authProgram_drift state crates hall hall' later h⟩

theorem visit_refines : Refines (state.visitProgram crates) (state.authProgram crates)
    (fun desk => desk.hall.authPart) Visit.attempt state.visitCalls state.tableCalls := by
  refine ⟨fun visitor => ⟨Visitor.arrival visitor, rfl⟩, ?_, ?_⟩
  · intro desk visit act desk' visit' h
    have hmoves := moveVisit_moves state desk desk' visit visit' act h
    unfold visitCalls
    cases hmoves with
    | authenticates attempt hall hstage hmove =>
      refine Or.inl ⟨(), authProgram_move state crates desk.hall hall visit.attempt attempt hmove,
        ?_⟩
      rw [hstage]
      rfl
    | panics panic hstage hleft =>
      rw [hstage]
      exact Or.inr ⟨rfl, rfl, tableCalls_of_left state desk.hall visit.attempt _ hleft⟩
    | refuses error hstage hleft =>
      rw [hstage]
      exact Or.inr ⟨rfl, rfl, tableCalls_of_left state desk.hall visit.attempt _ hleft⟩
    | passes route hstage hleft =>
      rw [hstage]
      exact Or.inr ⟨rfl, rfl, tableCalls_of_left state desk.hall visit.attempt _ hleft⟩
    | rejects route hstage | disallows route message hstage | begins route commands hstage
    | denies reason error hstage | operates commands op op' act opAct hstage
    | finishes commands op op' act opAct outcome hstage | counts op outcome ended hstage
    | falls op outcome ended hstage | observes op outcome ended hstage
    | replies value response hstage | overflows value error hstage =>
      rw [hstage]
      exact Or.inr ⟨rfl, rfl, rfl⟩
  · intro desk later desk' h
    obtain ⟨hall, hpass, rfl⟩ := Option.map_eq_some_iff.mp h
    exact ⟨later, authProgram_drift state crates desk.hall hall later hpass⟩

theorem subscriber_refines : Refines (state.subscriberProgram crates) (state.authProgram crates)
    (fun lobby => lobby.hall.authPart) Subscriber.attempt state.subscriberCalls
    state.tableCalls := by
  refine ⟨fun listener => ⟨Listener.arrival listener, rfl⟩, ?_, ?_⟩
  · intro lobby subscriber act lobby' subscriber' h
    have hmoves := moveSubscriber_moves state lobby lobby' subscriber subscriber' act h
    unfold subscriberCalls
    cases hmoves with
    | authenticates attempt hall hstage hmove =>
      refine Or.inl ⟨(), authProgram_move state crates lobby.hall hall subscriber.attempt attempt
        hmove, ?_⟩
      rw [hstage]
      rfl
    | panics panic hstage hleft =>
      rw [hstage]
      exact Or.inr ⟨rfl, rfl, tableCalls_of_left state lobby.hall subscriber.attempt _ hleft⟩
    | refuses error hstage hleft =>
      rw [hstage]
      exact Or.inr ⟨rfl, rfl, tableCalls_of_left state lobby.hall subscriber.attempt _ hleft⟩
    | passes route hstage hleft =>
      rw [hstage]
      exact Or.inr ⟨rfl, rfl, tableCalls_of_left state lobby.hall subscriber.attempt _ hleft⟩
    | clears own session session' hub hstage hsession hmove =>
      rcases hstage with ⟨response, hstage⟩ | hstage
      · rw [hstage]
        exact Or.inr ⟨rfl, rfl, rfl⟩
      · rw [hstage]
        exact Or.inr ⟨rfl, rfl, rfl⟩
    | rejects route reason error hstage | begins route hstage | denies reason error hstage
    | attends own session session' hub hstage =>
      rw [hstage]
      exact Or.inr ⟨rfl, rfl, rfl⟩
  · intro lobby later lobby' h
    obtain ⟨hall, hpass, rfl⟩ := Option.map_eq_some_iff.mp h
    exact ⟨later, authProgram_drift state crates lobby.hall hall later hpass⟩

end AppState

/-! The bridge. -/

/-- What all routes share. -/
structure House where
  desk : Desk
  hub : Hub

namespace House

def hallPart : Part House Hall :=
  ⟨fun house => house.desk.hall,
    fun house hall => { house with desk := { house.desk with hall := hall } }, fun _ _ => rfl⟩

def deskPart : Part House Desk :=
  ⟨House.desk, fun house desk => { house with desk := desk }, fun _ _ => rfl⟩

def lobbyPart : Part House Lobby :=
  ⟨fun house => ⟨house.desk.hall, house.hub⟩,
    fun house lobby => ⟨{ house.desk with hall := lobby.hall }, lobby.hub⟩, fun _ _ => rfl⟩

end House

/-- A request at one of the routes. -/
abbrev Guest := Scrape ⊕ Visit ⊕ Subscriber

def Guest.attempt : Guest → Attempt :=
  Sum.elim Scrape.attempt (Sum.elim Visit.attempt Subscriber.attempt)

abbrev GuestEvent :=
  Event (Scraper ⊕ Visitor ⊕ Listener) (ScrapeAct ⊕ VisitAct ⊕ SubscriberAct) Instant

def scrapes (s : Threads House Guest) : List Scrape := s.threads.filterMap Sum.getLeft?

def visits (s : Threads House Guest) : List Visit :=
  (s.threads.filterMap Sum.getRight?).filterMap Sum.getLeft?

def subscribers (s : Threads House Guest) : List Subscriber :=
  (s.threads.filterMap Sum.getRight?).filterMap Sum.getRight?

namespace AppState

variable (state : AppState) (crates : Crates)

/-- All routes, over one house. -/
def bridgeProgram : Program House Guest (Scraper ⊕ Visitor ⊕ Listener)
    (ScrapeAct ⊕ VisitAct ⊕ SubscriberAct) Instant :=
  beside (within House.hallPart (state.scrapeProgram crates))
    (beside (within House.deskPart (state.visitProgram crates))
      (within House.lobbyPart (state.subscriberProgram crates)))

def openHouse (clock : Instant) : Threads House Guest :=
  ⟨⟨(state.openDesk clock).shared, (quietHub state.realtimeLimit.val).shared⟩, []⟩

/-- What a step of any route calls on the table. -/
def bridgeCalls : House → Guest → ScrapeAct ⊕ VisitAct ⊕ SubscriberAct →
    List (Call × Except Panic Reply) :=
  observeEither (fun house => state.scrapeCalls house.desk.hall)
    (observeEither (fun house => state.visitCalls house.desk)
      (fun house => state.subscriberCalls ⟨house.desk.hall, house.hub⟩))

theorem bridge_refines : Refines (state.bridgeProgram crates) (state.authProgram crates)
    (fun house => house.desk.hall.authPart) Guest.attempt state.bridgeCalls state.tableCalls :=
  Refines.beside (Refines.within House.hallPart (scrape_refines state crates))
    (Refines.beside (Refines.within House.deskPart (visit_refines state crates))
      (Refines.within House.lobbyPart (subscriber_refines state crates)))

/-- The calls of a run on the table, in order, with their answers. -/
def bridgeJournal (clock : Instant) (events : List GuestEvent) :
    List (Call × Except Panic Reply) :=
  (state.bridgeProgram crates).journal state.bridgeCalls (state.openHouse clock) events

/-- Whatever the requests of all routes do side by side, at the lockout table it
is what requests do that only authenticate: the same calls in the same order with
the same answers, which form one sequential run; and while locks end inside the
clock's range, the mutex is not poisoned and no request of any route panics. -/
theorem bridge_authenticates (clock : Instant) (events : List GuestEvent)
    (s : Threads House Guest)
    (h : run (state.bridgeProgram crates).step (state.openHouse clock) events = some s) :
    (∃ events', run (state.authProgram crates).step (openHall clock) events' =
        some ⟨s.shared.desk.hall.authPart, s.threads.map Guest.attempt⟩ ∧
      state.journal crates (openHall clock) events' = state.bridgeJournal crates clock events) ∧
    state.authLockout.runGuarded (.available ∅)
        ((state.bridgeJournal crates clock events).map Prod.fst) =
      ((state.bridgeJournal crates clock events).map Prod.snd,
        s.shared.desk.hall.cells.lockout) ∧
    (∀ ip result, (s.threads.map Guest.attempt).countP (Attempt.recordedAs ip result) =
      (state.bridgeJournal crates clock events).countP (answersFailure ip result)) ∧
    (CanLock state.authLockout s.shared.desk.hall.clock →
      (∃ entries, s.shared.desk.hall.cells.lockout = .available entries) ∧
      ∀ guest ∈ s.threads, ∀ panic, (Guest.attempt guest).left ≠ some (.error panic)) := by
  obtain ⟨events', hrun, hjournal⟩ := (bridge_refines state crates).run events _ s h
  have hstart : seen (fun house : House => house.desk.hall.authPart) Guest.attempt
      (state.openHouse clock) = openHall clock := rfl
  rw [hstart] at hrun hjournal
  have hnobody : ∀ attempt ∈ (openHall clock).threads, False :=
    fun attempt hmem => List.not_mem_nil hmem
  refine ⟨⟨events', hrun, hjournal⟩, ?_, ?_, ?_⟩
  · rw [bridgeJournal, ← hjournal]
    exact (journal_replays state crates events' (openHall clock) _
      (fun attempt hmem => (hnobody attempt hmem).elim) hrun).1.replay
  · intro ip result
    rw [bridgeJournal, ← hjournal]
    have hcounts := (recorded_fit state crates events' (openHall clock) _
      (fun attempt hmem => (hnobody attempt hmem).elim) hrun ip result).2
    exact hcounts.trans (Nat.zero_add _)
  · intro hlock
    have hsound := calm_of_run state crates clock events' _ hrun
    obtain ⟨entries, htable, _⟩ := hsound.shared hlock
    refine ⟨⟨entries, htable⟩, ?_⟩
    intro guest hmem panic hleft
    have hease := hsound.each (Guest.attempt guest) (List.mem_map_of_mem hmem)
    apply hease.2 hlock panic
    unfold Attempt.left at hleft
    split at hleft
    · cases hleft
    · rename_i hplace
      cases hleft
      exact hplace
    · cases hleft

/-- A scrape, a command and a subscription: the scrape is refused, and the other
two are cleared at the table. -/
def threeRoutes : List GuestEvent :=
  [.entered (.inl ⟨bearerAbc, .v4 2⟩), .entered (.inr (.inl getVisitor)),
    .entered (.inr (.inr chanListener)), .moved 0 (.inl .step), .moved 1 (.inr (.inl .step)),
    .moved 2 (.inr (.inr .step)), .moved 0 (.inl .step), .moved 2 (.inr (.inr .step)),
    .moved 1 (.inr (.inl .step)), .moved 0 (.inl .step)]

theorem bridge_authenticates_three : ∃ state s, new (fun _ => .ok ()) twoTargets = .ok state ∧
    run (state.bridgeProgram abcCrates).step (state.openHouse (.ofSecs 0)) threeRoutes = some s ∧
    state.authLockout.runGuarded (.available ∅) [.success (.v4 1), .success (.v4 1)] =
      ([.ok .success, .ok .success], s.shared.desk.hall.cells.lockout) := by
  obtain ⟨state, s, hnew, hrun, hjournal⟩ : ∃ state s,
      new (fun _ => .ok ()) twoTargets = .ok state ∧
      run (state.bridgeProgram abcCrates).step (state.openHouse (.ofSecs 0)) threeRoutes = some s ∧
      state.bridgeJournal abcCrates (.ofSecs 0) threeRoutes =
        [(.success (.v4 1), .ok .success), (.success (.v4 1), .ok .success)] :=
    ⟨_, _, rfl, rfl, rfl⟩
  have hreplay := (bridge_authenticates state abcCrates (.ofSecs 0) threeRoutes s hrun).2.1
  rw [hjournal] at hreplay
  exact ⟨state, s, hnew, hrun, hreplay⟩

end AppState

end RedisBridge.App
