import RedisBridge.LockoutGuard

/-!
Isolation of one client address. `clientRun` is the abstract lockout of a single
address: no table, no capacity and no cleanup. The table's run refines it for
every address that is never refused, because an entry that cleanup drops would
have been restarted by the address's next failure anyway. The run that receives
only the address's own calls is the same abstract run, so the two agree as long
as neither panics. A panic of one client's count is seen by every other client,
so addresses are isolated exactly where no lock overflows the clock.
-/
namespace RedisBridge.Lockout

open AssocTables Instants IpAddress RustText

/-- A call that names the address. -/
def Call.concerns (ip : IpAddr) : Call → Bool
  | .failure ip' _ => ip' = ip
  | .success ip' => ip' = ip
  | .snapshot _ => false

namespace AuthLockout

variable (lockout : AuthLockout)

/-- One call as a single address sees it: its record and what its own failures
return. Calls of other addresses and snapshots do nothing. -/
def clientStep (ip : IpAddr) (own : Option AuthState) :
    Call → Except Panic (List (Instant × AuthFailure) × Option AuthState)
  | .failure ip' now =>
      if ip' = ip then
        if lockout.isEnabled then
          match lockout.failEntry (own.getD (AuthState.new now)) now with
          | .error panic => .error panic
          | .ok (result, state) => .ok ([(now, result)], some state)
        else .ok ([(now, .disabled)], own)
      else .ok ([], own)
  | .success ip' => .ok ([], if ip' = ip ∧ lockout.isEnabled = true then none else own)
  | .snapshot _ => .ok ([], own)

def clientRun (ip : IpAddr) (own : Option AuthState) :
    List Call → Except Panic (List (Instant × AuthFailure) × Option AuthState)
  | [] => .ok ([], own)
  | call :: rest =>
      match lockout.clientStep ip own call with
      | .error panic => .error panic
      | .ok (results, own') =>
          match clientRun ip own' rest with
          | .error panic => .error panic
          | .ok (more, last) => .ok (results ++ more, last)

theorem clientRun_cons_eq_ok (ip : IpAddr) (own last : Option AuthState) (call : Call)
    (rest : List Call) (results : List (Instant × AuthFailure)) :
    lockout.clientRun ip own (call :: rest) = .ok (results, last) ↔
      ∃ now own' more, lockout.clientStep ip own call = .ok (now, own') ∧
        lockout.clientRun ip own' rest = .ok (more, last) ∧ results = now ++ more := by
  rw [clientRun]
  constructor
  · intro h
    split at h
    · cases h
    · rename_i now own' hstep
      split at h
      · cases h
      · rename_i more last' hrest
        cases h
        exact ⟨now, own', more, hstep, hrest, rfl⟩
  · rintro ⟨now, own', more, hstep, hrest, rfl⟩
    rw [hstep]
    simp only [hrest]

/-- The window of an entry starts no later than its last failure, and both lie
in the past. -/
def Anchored (now : Instant) (own : Option AuthState) : Prop :=
  ∀ state, own = some state →
    state.windowStartedAt ≤ state.lastSeenAt ∧ state.lastSeenAt ≤ now

theorem Anchored.mono {s t : Instant} {own : Option AuthState} (h : Anchored s own)
    (hst : s ≤ t) : Anchored t own := by
  intro state hstate
  obtain ⟨hwindow, hseen⟩ := h state hstate
  exact ⟨hwindow, le_trans hseen hst⟩

theorem failEntry_anchored (own : Option AuthState) (next : AuthState) (now : Instant)
    (result : AuthFailure) (hown : Anchored now own)
    (h : lockout.failEntry (own.getD (AuthState.new now)) now = .ok (result, next)) :
    Anchored now (some next) := by
  have hbase : (own.getD (AuthState.new now)).windowStartedAt ≤ now ∧
      ((own.getD (AuthState.new now)).windowStartedAt ≤
        (own.getD (AuthState.new now)).lastSeenAt) ∧
      (own.getD (AuthState.new now)).lastSeenAt ≤ now := by
    cases own with
    | none => exact ⟨le_refl _, le_refl _, le_refl _⟩
    | some state =>
      obtain ⟨hwindow, hseen⟩ := hown state rfl
      exact ⟨le_trans hwindow hseen, hwindow, hseen⟩
  intro state hstate
  cases hstate
  rcases failEntry_cases lockout (own.getD (AuthState.new now)) now with
    ⟨_, _, _, heq⟩ | ⟨_, heq⟩ | ⟨_, _, heq⟩
  · rw [heq] at h
    cases h
    exact hbase.2
  · rw [heq] at h
    obtain ⟨_, hseen, hwindow, _⟩ := tallyFailure_cases lockout _ _ _ _ h
    rw [hseen, hwindow]
    exact ⟨le_refl _, le_refl _⟩
  · rw [heq] at h
    obtain ⟨_, hseen, hwindow, _⟩ := tallyFailure_cases lockout _ _ _ _ h
    rw [hseen, hwindow]
    exact ⟨hbase.1, le_refl _⟩

/-- An entry that cleanup may drop is one whose next failure restarts it. -/
theorem failEntry_of_stale (state : AuthState) (now : Instant)
    (hanchored : Anchored now (some state))
    (hstale : state.isStale now lockout.failureWindow = true) :
    lockout.failEntry state now = lockout.failEntry (AuthState.new now) now := by
  obtain ⟨hwindow, _⟩ := hanchored state rfl
  rw [failEntry_new]
  rcases failEntry_cases lockout state now with
    ⟨expiry, hlocked, hnow, _⟩ | ⟨_, heq⟩ | ⟨hfree, hinside, _⟩
  · have hexpired := state.expired_of_stale now expiry _ hlocked hstale
    exact absurd hexpired (not_le.mpr hnow)
  · exact heq
  · unfold AuthState.isStale at hstale
    rw [hfree] at hstale
    simp only [decide_eq_true_eq, Instant.le_durationSince] at hstale
    rw [Instant.le_durationSince] at hinside
    rw [Instant.le_iff] at hwindow
    omega

/-- The table's entry is the abstract record, or is missing while the record
is stale. -/
def Shadows (now : Instant) (entry own : Option AuthState) : Prop :=
  entry = own ∨
    entry = none ∧ ∃ state, own = some state ∧ state.isStale now lockout.failureWindow = true

variable {lockout}

theorem Shadows.mono {s t : Instant} {entry own : Option AuthState}
    (h : lockout.Shadows s entry own) (hst : s ≤ t) : lockout.Shadows t entry own := by
  rcases h with heq | ⟨hnone, state, hstate, hstale⟩
  · exact Or.inl heq
  · exact Or.inr ⟨hnone, state, hstate, AuthState.isStale_mono state s t _ hst hstale⟩

theorem Shadows.kept {now : Instant} {before after own : Option AuthState}
    (h : lockout.Shadows now before own)
    (hkept : KeptOrStale lockout.failureWindow now before after) :
    lockout.Shadows now after own := by
  rcases hkept with rfl | ⟨state, hbefore, hstale, hafter⟩
  · exact h
  · rcases h with heq | ⟨hnone, _⟩
    · exact Or.inr ⟨hafter, state, heq ▸ hbefore, hstale⟩
    · rw [hnone] at hbefore
      cases hbefore

/-- A failure works on the missing entry as it does on the stale record. -/
theorem Shadows.failEntry_eq {now : Instant} {entry own : Option AuthState}
    (h : lockout.Shadows now entry own) (hown : Anchored now own) :
    lockout.failEntry (own.getD (AuthState.new now)) now =
      lockout.failEntry (entry.getD (AuthState.new now)) now := by
  rcases h with rfl | ⟨rfl, state, rfl, hstale⟩
  · rfl
  · exact failEntry_of_stale lockout state now hown hstale

variable (lockout)

theorem answers_cons_other (ip : IpAddr) (entry : Call × Reply) (log : List (Call × Reply))
    (h : ∀ now, entry.1 ≠ .failure ip now) :
    answers ip (entry :: log) = answers ip log := by
  obtain ⟨call, reply⟩ := entry
  cases call with
  | failure ip' now =>
    have hne : ip' ≠ ip := by
      intro heq
      exact h now (by rw [heq])
    cases reply <;> simp [answers, hne]
  | success ip' => cases reply <;> simp [answers]
  | snapshot now => cases reply <;> simp [answers]

theorem answers_cons_self (ip : IpAddr) (now : Instant) (result : AuthFailure)
    (log : List (Call × Reply)) :
    answers ip ((.failure ip now, .failure result) :: log) =
      (now, result) :: answers ip log := by
  simp [answers]

/-- One call of the table refines one step of the abstract record. -/
theorem perform_refines (entries entries' : Entries) (call : Call) (reply : Reply) (ip : IpAddr)
    (own : Option AuthState) (s t : Instant) (hst : s ≤ t)
    (hcall : ∀ now, call.instant? = some now → now = t)
    (hshadow : lockout.Shadows s (entries.lookup ip) own) (hown : Anchored s own)
    (h : lockout.perform entries call = .ok (reply, entries'))
    (hroom : ∀ answer ∈ answers ip [(call, reply)], answer.2 ≠ .entryLimitReached) :
    ∃ own', lockout.clientStep ip own call = .ok (answers ip [(call, reply)], own') ∧
      lockout.Shadows t (entries'.lookup ip) own' ∧ Anchored t own' := by
  have hshadow' := hshadow.mono hst
  have hown' := hown.mono hst
  cases call with
  | failure ip' now =>
    obtain rfl := hcall now rfl
    obtain ⟨result, rfl, hrec⟩ := perform_failure_eq_ok lockout entries entries' ip' now reply h
    by_cases hip : ip' = ip
    · subst ip'
      rw [answers_cons_self] at hroom ⊢
      by_cases henabled : lockout.isEnabled = true
      · have hne : result ≠ .entryLimitReached := hroom (now, result) List.mem_cons_self
        obtain ⟨state, hfail, hlook⟩ :=
          recordFailureAt_self lockout entries entries' ip now result henabled hne hrec
        have hsame := hshadow'.failEntry_eq hown'
        rw [hfail] at hsame
        refine ⟨some state, ?_, Or.inl hlook, ?_⟩
        · simp only [clientStep, if_pos henabled, hsame]
          rfl
        · exact failEntry_anchored lockout own state now result hown' hsame
      · rcases recordFailureAt_cases lockout entries entries' ip now result hrec with
          ⟨_, rfl, rfl⟩ | ⟨hon, _⟩ | ⟨hon, _⟩
        · refine ⟨own, ?_, hshadow', hown'⟩
          simp only [clientStep, if_neg henabled]
          rfl
        · exact absurd hon henabled
        · exact absurd hon henabled
    · rw [answers_cons_other ip _ [] (by simp [hip])]
      refine ⟨own, ?_, hshadow'.kept ?_, hown'⟩
      · simp only [clientStep, if_neg hip]
        rfl
      · exact recordFailureAt_other lockout entries entries' ip' ip now result
          (fun heq => hip heq.symm) hrec
  | success ip' =>
    cases h
    rw [answers_cons_other ip _ [] (by simp)]
    by_cases hclear : ip' = ip ∧ lockout.isEnabled = true
    · obtain ⟨rfl, henabled⟩ := hclear
      refine ⟨none, ?_, Or.inl (recordSuccess_self lockout entries ip' henabled), ?_⟩
      · simp [clientStep, henabled, answers]
      · intro state hstate
        cases hstate
    · refine ⟨own, ?_, ?_, hown'⟩
      · simp [clientStep, hclear, answers]
      · have hlook : (lockout.recordSuccess entries ip').lookup ip = entries.lookup ip := by
          by_cases hip : ip' = ip
          · unfold recordSuccess
            rw [if_pos]
            simpa [hip] using hclear
          · exact recordSuccess_other lockout entries ip' ip (fun heq => hip heq.symm)
        rw [hlook]
        exact hshadow'
  | snapshot now =>
    obtain rfl := hcall now rfl
    cases h
    rw [answers_cons_other ip _ [] (by simp)]
    exact ⟨own, rfl, hshadow'.kept (snapshotAt_other lockout entries now ip), hown'⟩

theorem nonDecreasing_cons (call : Call) (rest : List Call) (s : Instant)
    (hmono : NonDecreasing (call :: rest))
    (hlater : ∀ now ∈ (call :: rest).filterMap Call.instant?, s ≤ now) :
    s ≤ call.instant?.getD s ∧ NonDecreasing rest ∧
      ∀ now ∈ rest.filterMap Call.instant?, call.instant?.getD s ≤ now := by
  unfold NonDecreasing at hmono ⊢
  cases hinstant : call.instant? with
  | none =>
    rw [List.filterMap_cons_none hinstant] at hmono hlater
    exact ⟨le_refl _, hmono, hlater⟩
  | some t =>
    rw [List.filterMap_cons_some hinstant, List.pairwise_cons] at hmono
    rw [List.filterMap_cons_some hinstant] at hlater
    exact ⟨hlater t List.mem_cons_self, hmono.2, hmono.1⟩

theorem answers_cons (ip : IpAddr) (entry : Call × Reply) (log : List (Call × Reply)) :
    answers ip (entry :: log) = answers ip [entry] ++ answers ip log := by
  rw [show entry :: log = [entry] ++ log from rfl]
  exact List.filterMap_append

/-- A run of the table refines the abstract run of every address that it never
refuses for want of room. -/
theorem run_refines (calls : List Call) (entries last : Entries) (ip : IpAddr)
    (own : Option AuthState) (s : Instant) (log : List (Call × Reply))
    (hmono : NonDecreasing calls) (hlater : ∀ now ∈ calls.filterMap Call.instant?, s ≤ now)
    (hshadow : lockout.Shadows s (entries.lookup ip) own) (hown : Anchored s own)
    (hrun : lockout.run entries calls = .ok (log, last))
    (hroom : ∀ answer ∈ answers ip log, answer.2 ≠ .entryLimitReached) :
    ∃ own', lockout.clientRun ip own calls = .ok (answers ip log, own') := by
  induction calls generalizing entries own s log with
  | nil =>
    cases hrun
    exact ⟨own, rfl⟩
  | cons call rest ih =>
    obtain ⟨reply, entries', log', hperform, hrest, rfl⟩ :=
      (run_cons_eq_ok lockout entries last call rest log).mp hrun
    obtain ⟨hst, hmono', hlater'⟩ := nonDecreasing_cons call rest s hmono hlater
    rw [answers_cons, List.forall_mem_append] at hroom
    obtain ⟨own', hstep, hshadow', hown'⟩ :=
      perform_refines lockout entries entries' call reply ip own s (call.instant?.getD s) hst
        (fun now hnow => by rw [hnow]; rfl) hshadow hown hperform hroom.1
    obtain ⟨last', hclient⟩ := ih entries' own' (call.instant?.getD s) log' hmono' hlater'
      hshadow' hown' hrest hroom.2
    refine ⟨last', (clientRun_cons_eq_ok lockout ip own last' call rest _).mpr ?_⟩
    exact ⟨_, own', _, hstep, hclient, answers_cons ip _ log'⟩

/-- The table holds the abstract record and nothing else. -/
def HoldsOnly (ip : IpAddr) (own : Option AuthState) (entries : Entries) : Prop :=
  entries.lookup ip = own ∧ ∀ other, other ≠ ip → entries.lookup other = none

theorem perform_alone (entries : Entries) (call : Call) (ip : IpAddr)
    (own own' : Option AuthState) (results : List (Instant × AuthFailure))
    (hcapacity : 1 ≤ lockout.maxEntries.val) (hconcerns : call.concerns ip = true)
    (halone : HoldsOnly ip own entries)
    (h : lockout.clientStep ip own call = .ok (results, own')) :
    ∃ reply entries', lockout.perform entries call = .ok (reply, entries') ∧
      answers ip [(call, reply)] = results ∧ HoldsOnly ip own' entries' := by
  obtain ⟨hself, hother⟩ := halone
  cases call with
  | failure ip' now =>
    have hip : ip' = ip := by simpa [Call.concerns] using hconcerns
    subst ip'
    simp only [clientStep, if_true] at h
    by_cases henabled : lockout.isEnabled = true
    · rw [if_pos henabled] at h
      split at h
      · cases h
      · rename_i result state hfail
        cases h
        have hroom : ¬ (lockout.maxEntries.val ≤ entries.len ∧ ip ∉ entries) := by
          rintro ⟨hfull, hmissing⟩
          have hnone : entries.lookup ip = none := AList.lookup_eq_none.mpr hmissing
          have hempty : entries.len = 0 := by
            apply Table.len_eq_zero_of_lookup
            intro other
            by_cases heq : other = ip
            · rw [heq, hnone]
            · exact hother other heq
          omega
        refine ⟨.failure result, entries.insert ip state, ?_, ?_, ?_⟩
        · simp [perform, recordFailureAt, henabled, hroom, recordEntry, hself, hfail, Except.map]
        · exact answers_cons_self ip now result []
        · refine ⟨AList.lookup_insert _, fun other hne => ?_⟩
          rw [AList.lookup_insert_ne hne]
          exact hother other hne
    · rw [if_neg henabled] at h
      cases h
      refine ⟨.failure .disabled, entries, ?_, answers_cons_self ip now _ [], hself, hother⟩
      simp [perform, recordFailureAt, henabled, Except.map]
  | success ip' =>
    have hip : ip' = ip := by simpa [Call.concerns] using hconcerns
    subst ip'
    cases h
    refine ⟨.success, lockout.recordSuccess entries ip, rfl, rfl, ?_, fun other hne => ?_⟩
    · by_cases henabled : lockout.isEnabled = true
      · rw [if_pos ⟨rfl, henabled⟩]
        exact recordSuccess_self lockout entries ip henabled
      · rw [if_neg (by simp [henabled])]
        unfold recordSuccess
        rw [if_pos (by simpa using henabled)]
        exact hself
    · rw [recordSuccess_other lockout entries ip other hne]
      exact hother other hne
  | snapshot now => simp [Call.concerns] at hconcerns

theorem clientStep_unconcerned (ip : IpAddr) (own : Option AuthState) (call : Call)
    (h : call.concerns ip = false) : lockout.clientStep ip own call = .ok ([], own) := by
  cases call with
  | failure ip' now =>
    simp only [Call.concerns, decide_eq_false_iff_not] at h
    simp [clientStep, h]
  | success ip' =>
    simp only [Call.concerns, decide_eq_false_iff_not] at h
    simp [clientStep, h]
  | snapshot now => rfl

/-- The abstract run is the run of a table that receives only the address's own
failures and successes. -/
theorem run_alone (calls : List Call) (entries : Entries) (ip : IpAddr)
    (own last : Option AuthState) (results : List (Instant × AuthFailure))
    (hcapacity : 1 ≤ lockout.maxEntries.val) (halone : HoldsOnly ip own entries)
    (h : lockout.clientRun ip own calls = .ok (results, last)) :
    ∃ log entries', lockout.run entries (calls.filter (Call.concerns ip)) = .ok (log, entries') ∧
      answers ip log = results := by
  induction calls generalizing entries own results with
  | nil =>
    cases h
    exact ⟨[], entries, rfl, rfl⟩
  | cons call rest ih =>
    obtain ⟨now, own', more, hstep, hrest, rfl⟩ :=
      (clientRun_cons_eq_ok lockout ip own last call rest results).mp h
    by_cases hconcerns : call.concerns ip = true
    · obtain ⟨reply, entries', hperform, hresults, halone'⟩ :=
        perform_alone lockout entries call ip own own' now hcapacity hconcerns halone hstep
      obtain ⟨log, last', hrun, hlog⟩ := ih entries' own' more halone' hrest
      refine ⟨(call, reply) :: log, last', ?_, ?_⟩
      · rw [List.filter_cons_of_pos hconcerns]
        exact (run_cons_eq_ok lockout entries last' call _ _).mpr
          ⟨reply, entries', log, hperform, hrun, rfl⟩
      · rw [answers_cons, hresults, hlog]
    · rw [clientStep_unconcerned lockout ip own call (by simpa using hconcerns)] at hstep
      cases hstep
      rw [List.filter_cons_of_neg hconcerns]
      exact ih entries own more halone hrest

/-- What the failures of one address came to, with their instants. -/
def observed (ip : IpAddr) (log : List (Call × Except Panic Reply)) :
    List (Instant × Except Panic Reply) :=
  log.filterMap fun
    | (.failure ip' now, outcome) => if ip' = ip then some (now, outcome) else none
    | _ => none

theorem observed_append (ip : IpAddr) (xs ys : List (Call × Except Panic Reply)) :
    observed ip (xs ++ ys) = observed ip xs ++ observed ip ys := List.filterMap_append

theorem observed_cons (ip : IpAddr) (entry : Call × Except Panic Reply)
    (log : List (Call × Except Panic Reply)) :
    observed ip (entry :: log) = observed ip [entry] ++ observed ip log :=
  observed_append ip [entry] log

/-- In a run without a panic every failure comes to its answer. -/
theorem observed_of_run (calls : List Call) (entries last : Entries) (ip : IpAddr)
    (log : List (Call × Reply)) (h : lockout.run entries calls = .ok (log, last)) :
    observed ip (lockout.outcomes (.available entries) calls) =
      (answers ip log).map (fun answer => (answer.1, .ok (.failure answer.2))) := by
  induction calls generalizing entries log with
  | nil =>
    cases h
    rfl
  | cons call rest ih =>
    obtain ⟨reply, entries', log', hperform, hrest, rfl⟩ :=
      (run_cons_eq_ok lockout entries last call rest log).mp h
    have hcall : lockout.performGuarded (.available entries) call =
        (.ok reply, .available entries') := by
      simp only [performGuarded, withLock, hperform]
    rw [outcomes_cons, hcall, observed_cons, answers_cons, List.map_append,
      ih entries' log' hrest]
    congr 1
    cases call with
    | failure ip' now =>
      obtain ⟨result, rfl, _⟩ :=
        perform_failure_eq_ok lockout entries entries' ip' now reply hperform
      by_cases hip : ip' = ip
      · simp [observed, answers, hip]
      · simp [observed, answers, hip]
    | success ip' => cases reply <;> rfl
    | snapshot now => cases reply <;> rfl

/-- Calls that do not concern an address show it nothing. -/
theorem observed_eq_nil (ip : IpAddr) (log : List (Call × Except Panic Reply))
    (h : ∀ entry ∈ log, entry.1.concerns ip = false) : observed ip log = [] := by
  apply List.filterMap_eq_nil_iff.mpr
  rintro ⟨call, outcome⟩ hmem
  have hcall := h _ hmem
  cases call with
  | failure ip' now =>
    simp only [Call.concerns, decide_eq_false_iff_not] at hcall
    simp [hcall]
  | success ip' => rfl
  | snapshot now => rfl

/-- The failures of an address come to what they come to when the table receives
only the address's own calls. -/
def Isolated (calls : List Call) (ip : IpAddr) : Prop :=
  observed ip (lockout.outcomes (.available ∅) calls) =
    observed ip (lockout.outcomes (.available ∅) (calls.filter (Call.concerns ip)))

/-- In a run without a panic other clients' failures and successes, cleanups and
snapshots do not change what an address that is never refused is answered. -/
theorem isolated_of_run (calls : List Call) (ip : IpAddr) (log : List (Call × Reply))
    (last : Entries) (hcapacity : 1 ≤ lockout.maxEntries.val) (hmono : NonDecreasing calls)
    (hrun : lockout.run ∅ calls = .ok (log, last))
    (hroom : ∀ answer ∈ answers ip log, answer.2 ≠ .entryLimitReached) :
    lockout.Isolated calls ip := by
  obtain ⟨own, hclient⟩ := run_refines lockout calls ∅ last ip none Instant.earliest log hmono
    (fun now _ => Instant.earliest_le now) (Or.inl (AList.lookup_empty ip))
    (fun state hstate => by cases hstate) hrun hroom
  obtain ⟨log', last', hown, hsame⟩ := run_alone lockout calls ∅ ip none own _ hcapacity
    ⟨AList.lookup_empty ip, fun other _ => AList.lookup_empty other⟩ hclient
  unfold Isolated
  rw [observed_of_run lockout calls ∅ last ip log hrun,
    observed_of_run lockout _ ∅ last' ip log' hown, hsame]

end AuthLockout

def clientA : IpAddr := .v4 0xCB00710A

def clientB : IpAddr := .v4 0xCB00710B

/-- Three failures in a minute lock for five minutes; room for two addresses. -/
def threeStrikes : AuthLockout := ⟨3, Duration.fromSecs 60, Duration.fromSecs 300, 2⟩

namespace AuthLockout

variable (lockout : AuthLockout)

/-- One client reaches the maximum, and then another fails once. -/
def trespass (now : Instant) : List Call :=
  List.replicate lockout.maxFailures.val (.failure clientB now) ++ [.failure clientA now]

theorem trespass_readings (now t : Instant)
    (h : t ∈ (lockout.trespass now).filterMap Call.instant?) : t = now := by
  obtain ⟨call, hcall, hinstant⟩ := List.mem_filterMap.mp h
  rcases List.mem_append.mp hcall with hmem | hmem
  · rw [List.eq_of_mem_replicate hmem] at hinstant
    exact (Option.some.inj hinstant).symm
  · rw [List.mem_singleton.mp hmem] at hinstant
    exact (Option.some.inj hinstant).symm

theorem trespass_nonDecreasing (now : Instant) : NonDecreasing (lockout.trespass now) := by
  unfold NonDecreasing
  apply List.pairwise_of_forall_mem_list
  intro s hs t ht
  rw [trespass_readings lockout now s hs, trespass_readings lockout now t ht]

/-- Alone, a first failure finds no poisoned mutex. -/
theorem first_failure (ip : IpAddr) (now : Instant) (henabled : lockout.isEnabled = true)
    (hcapacity : 1 ≤ lockout.maxEntries.val) (hends : ¬lockout.LockEnds now) :
    (lockout.performGuarded (.available ∅) (.failure ip now)).1 ≠ .error .mutexPoisoned := by
  have hpos : 0 < lockout.maxFailures.val := of_decide_eq_true henabled
  have hfresh : 0 < (0 : Usize).val → 0 < lockout.failureWindow.nanos :=
    fun h => absurd h (lt_irrefl 0)
  by_cases hone : lockout.maxFailures.val = 1
  · have hrecord := recordFailureAt_overflows lockout ∅ ip now 0 henabled hfresh
      (Or.inl hcapacity) rfl hone hends
    simp [performGuarded, withLock, perform, hrecord, Except.map]
  · obtain ⟨one, hval⟩ : ∃ one : Usize, one.val = 1 := ⟨⟨1, by omega⟩, rfl⟩
    have hrecord := recordFailureAt_countedAt lockout ∅ ip now 0 one henabled hfresh
      (Or.inl hcapacity) rfl hval (by rw [Fin.lt_def]; omega)
    simp [performGuarded, withLock, perform, hrecord, Except.map]

/-- The panic of one client's count reaches the other client. -/
theorem not_isolated_trespass (now : Instant) (hcapacity : 1 ≤ lockout.maxEntries.val)
    (hlocks : ¬lockout.NeverLocks) (hends : ¬lockout.LockEnds now) :
    observed clientA (lockout.outcomes (.available ∅) (lockout.trespass now)) =
        [(now, .error .mutexPoisoned)] ∧
      ¬lockout.Isolated (lockout.trespass now) clientA := by
  unfold NeverLocks at hlocks
  rw [not_or, not_and] at hlocks
  obtain ⟨hpos, hwindow⟩ := hlocks
  have henabled : lockout.isEnabled = true := by
    simp only [isEnabled, decide_eq_true_eq, Fin.lt_def]
    exact Nat.pos_of_ne_zero hpos
  obtain ⟨replies, hpoisons⟩ := threshold_poisons lockout clientB now henabled
    (fun hmax => by by_contra hzero; exact hwindow (by omega) hmax) hcapacity hends
  have hother : observed clientA (lockout.outcomes (.available ∅)
      (List.replicate lockout.maxFailures.val (.failure clientB now))) = [] := by
    apply observed_eq_nil
    rintro ⟨call, outcome⟩ hmem
    rw [List.eq_of_mem_replicate (List.of_mem_zip hmem).1]
    rfl
  have hseen : observed clientA (lockout.outcomes (.available ∅) (lockout.trespass now)) =
      [(now, .error .mutexPoisoned)] := by
    rw [trespass, outcomes_append, observed_append, hother, hpoisons, outcomes,
      poisoned_forever lockout henabled]
    rfl
  refine ⟨hseen, ?_⟩
  unfold Isolated
  have halone : (lockout.trespass now).filter (Call.concerns clientA) =
      [.failure clientA now] := by
    unfold trespass
    rw [List.filter_append,
      List.filter_replicate_of_neg (by simp [Call.concerns, clientA, clientB])]
    rfl
  rw [hseen, halone]
  intro hsame
  have hfirst : (lockout.performGuarded (.available ∅) (.failure clientA now)).1 =
      .error .mutexPoisoned := by
    simpa [outcomes, runGuarded, observed] using hsame.symm
  exact first_failure lockout clientA now henabled hcapacity hends hfirst

/-- With room for an address and for the clock readings of a set, other clients'
calls are unobservable to every address that is never refused exactly when no
failure ever locks or every lock taken at one of these readings ends inside the
clock's range. -/
theorem results_isolated_iff (hcapacity : 1 ≤ lockout.maxEntries.val) (clock : Set Instant) :
    (∀ calls ip, (∀ now ∈ calls.filterMap Call.instant?, now ∈ clock) → NonDecreasing calls →
      (∀ result ∈ observed ip (lockout.outcomes (.available ∅) calls),
        result.2 ≠ .ok (.failure .entryLimitReached)) →
      lockout.Isolated calls ip) ↔
      lockout.NeverLocks ∨ ∀ now ∈ clock, lockout.LockEnds now := by
  constructor
  · intro hisolated
    by_contra hcondition
    rw [not_or] at hcondition
    obtain ⟨hlocks, hends⟩ := hcondition
    push Not at hends
    obtain ⟨now, hnow, hlate⟩ := hends
    obtain ⟨hseen, hnot⟩ := not_isolated_trespass lockout now hcapacity hlocks hlate
    apply hnot
    apply hisolated
    · intro t ht
      rw [trespass_readings lockout now t ht]
      exact hnow
    · exact trespass_nonDecreasing lockout now
    · intro result hresult
      rw [hseen, List.mem_singleton] at hresult
      rw [hresult]
      simp
  · intro hcondition calls ip hclock hmono hroom
    obtain ⟨log, last, hrun⟩ : ∃ log last, lockout.run ∅ calls = .ok (log, last) := by
      rcases hcondition with hnever | hends
      · exact run_returns_neverLocks lockout calls hnever
      · exact run_returns lockout calls ∅ (fun _ now hnow => hends now (hclock now hnow))
          (every_empty _)
    apply isolated_of_run lockout calls ip log last hcapacity hmono hrun
    rintro ⟨now, result⟩ hanswer rfl
    apply hroom (now, .ok (.failure .entryLimitReached)) _ rfl
    rw [observed_of_run lockout calls ∅ last ip log hrun]
    exact List.mem_map.mpr ⟨_, hanswer, rfl⟩

/-- The snapshot drops the first client's entry before its second failure. -/
def droppedBetween : List Call :=
  [.failure clientA (.ofSecs 0), .failure clientB (.ofSecs 61), .snapshot (.ofSecs 61),
    .success clientB, .failure clientA (.ofSecs 62)]

/-- On a clock that reads up to 2^32 seconds every lock of five minutes ends. -/
theorem results_isolated_dropped :
    observed clientA (threeStrikes.outcomes (.available ∅) droppedBetween) =
      observed clientA (threeStrikes.outcomes (.available ∅)
        [.failure clientA (.ofSecs 0), .failure clientA (.ofSecs 62)]) := by
  have hends : ∀ now ∈ {t | t ≤ Instant.ofSecs 4294967295}, threeStrikes.LockEnds now := by
    intro now hnow
    have hlast : now.nanos ≤ 4294967295 * 10 ^ 9 := hnow
    show now.nanos + 300 * 10 ^ 9 < 2 ^ 63 * 10 ^ 9
    omega
  exact (results_isolated_iff threeStrikes (by decide) _).mpr (Or.inr hends) droppedBetween clientA
    (by decide) (by decide) (by decide)

/-- Two failures in five minutes lock for longer than any clock runs. -/
def longestLock : AuthLockout :=
  ⟨2, Duration.fromSecs 300, Duration.fromSecs 18446744073709551615, 16⟩

/-- The other client's second failure overflows while it holds the mutex, and the
first failure of the client finds the mutex poisoned; alone it is tracked. -/
theorem poisoned_by_other_client :
    ¬ ∀ (lockout : AuthLockout) (calls : List Call) (ip : IpAddr), 1 ≤ lockout.maxEntries.val →
      NonDecreasing calls →
      (∀ result ∈ observed ip (lockout.outcomes (.available ∅) calls),
        result.2 ≠ .ok (.failure .entryLimitReached)) →
      lockout.Isolated calls ip := by
  intro hisolated
  have hsame := hisolated longestLock [.failure clientB (.ofSecs 0), .failure clientB (.ofSecs 0),
    .failure clientA (.ofSecs 1)] clientA (by decide) (by decide) (by decide)
  revert hsame
  unfold Isolated
  decide

end AuthLockout

end RedisBridge.Lockout
