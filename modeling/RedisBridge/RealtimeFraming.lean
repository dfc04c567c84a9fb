import RedisBridge.Realtime

/-!
What a reader of the realtime stream gets back. Every message received makes one
text, over any lost connections between, and its channel cannot disturb the
framing. Its payload can: the stream is read back faithfully exactly when no
payload contains a line break.
-/
namespace RedisBridge.App

open ClientAddress EventFraming Responses RustText Targets Utf8Text

theorem isDelimiter_eq_false (c : Char) (h : isDelimiter c = false) :
    c ≠ ',' ∧ isBreak c = false := by
  unfold isDelimiter at h
  simp only [Bool.or_eq_false_iff, beq_eq_false_iff_ne] at h
  obtain ⟨⟨⟨hcomma, hreturn⟩, hfeed⟩, _⟩ := h
  exact ⟨hcomma, by simp [isBreak, hreturn, hfeed]⟩

/-- An accepted channel is not empty and contains no delimiter. -/
theorem validateChannel_eq_ok (channel : String) (maxBytes : Usize) :
    validateChannel channel maxBytes = .ok () ↔
      channel ≠ "" ∧ (asBytes channel).length ≤ maxBytes.val ∧
        ∀ c ∈ channel.toList, isDelimiter c = false := by
  unfold validateChannel
  split_ifs with hempty hlong hdelimiter
  · simp [hempty]
  · simp [hlong]
  · simp only [List.any_eq_true] at hdelimiter
    obtain ⟨c, hmem, hc⟩ := hdelimiter
    simp only [false_iff, not_and]
    intro _ _ hnone
    rw [hnone c hmem] at hc
    cases hc
  · simp only [true_iff]
    refine ⟨hempty, not_lt.mp hlong, ?_⟩
    intro c hmem
    apply Bool.eq_false_iff.mpr
    intro hc
    exact hdelimiter (List.any_eq_true.mpr ⟨c, hmem, hc⟩)

/-- A stream is opened for accepted credentials that allow it, and for the
channel of the request, which was accepted. -/
theorem AppState.subscribe_eq_ok (state : AppState) (crates : Crates) (cells cells' : Cells)
    (request : SubscribeRequest) (permitted : Bool) (setup : Setup) (subscription : Subscription)
    (h : state.subscribe crates cells request permitted setup = (.ok (.ok subscription), cells')) :
    subscription.channel = request.channel ∧ subscription.connected = true ∧
      validateChannel request.channel state.security.maxArgBytes = .ok () ∧
      ∃ route, AuthRoute.allowsRealtime route = true ∧
        state.realtimeAuth crates cells request.headers
          (state.clientIp request.headers request.peer) request.clock =
            (.ok (.ok route), cells') := by
  rw [AppState.subscribe, Step.andThen_eq_ok] at h
  obtain ⟨result, mid, hauth, h⟩ := h
  cases result with
  | error error => simp at h
  | ok route =>
    obtain ⟨_, hallows⟩ := state.routeAuth_eq_ok crates cells mid _ _ _ _ _ route hauth
    dsimp only at h
    split at h
    · cases h
    · split at h
      · cases h
      · split at h
        · cases h
        · rename_i hchannel
          split at h
          · cases h
          · split at h
            · cases h
            · cases h
            · cases h
              exact ⟨rfl, rfl, hchannel, route, hallows, hauth⟩

namespace Subscription

/-- The text that a message makes. -/
def messageText (message : String × List UInt8) : String :=
  "message," ++ (message.1 ++ "," ++ fromUtf8Lossy message.2)

/-- A turn yields an event for a message, and for nothing else. -/
theorem turn_event (subscription next : Subscription) (happening : Happening)
    (event : Option String) (h : subscription.turn happening = some (event, next)) :
    event.toList = (received [happening]).map messageText ∧
      next.channel = subscription.channel := by
  cases happening with
  | message channel payload =>
    simp only [turn] at h
    split_ifs at h
    cases h
    exact ⟨rfl, rfl⟩
  | disconnected =>
    simp only [turn] at h
    split_ifs at h
    cases h
    exact ⟨rfl, rfl⟩
  | reconnected =>
    simp only [turn] at h
    split_ifs at h
    cases h
    exact ⟨rfl, rfl⟩
  | reconnectFailed =>
    simp only [turn] at h
    split_ifs at h
    cases h
    exact ⟨rfl, rfl⟩

theorem received_cons (happening : Happening) (rest : List Happening) :
    received (happening :: rest) = received [happening] ++ received rest :=
  List.filterMap_append (l := [happening])

/-- Each message received makes one text, whatever happens in between. -/
theorem turns_events (happenings : List Happening) (subscription last : Subscription)
    (events : List String) (h : subscription.turns happenings = some (events, last)) :
    events = (received happenings).map messageText := by
  induction happenings generalizing subscription events with
  | nil =>
    cases h
    rfl
  | cons happening rest ih =>
    rw [turns] at h
    split at h
    · cases h
    · rename_i event next hturn
      split at h
      · cases h
      · rename_i more end_ hrest
        cases h
        rw [received_cons, List.map_append, (turn_event subscription next happening event hturn).1,
          ih next more hrest]

theorem stream_texts (subscription : Subscription) (happenings : List Happening)
    (texts : List String) (h : subscription.stream happenings = some texts) :
    texts = ("subscribe," ++ (subscription.channel ++ "," ++ "1")) ::
      (received happenings).map messageText := by
  obtain ⟨⟨events, last⟩, hturns, rfl⟩ := Option.map_eq_some_iff.mp h
  rw [turns_events happenings subscription last events hturns]

/-- The messages that a reader should get back. -/
def expected (subscription : Subscription) (payloads : List String) : List Frame :=
  ⟨"subscribe", subscription.channel, "1"⟩ ::
    payloads.map (fun payload => ⟨"message", subscription.channel, payload⟩)

/-- The texts of a stream are those of the expected messages. -/
theorem stream_expected (subscription : Subscription) (happenings : List Happening)
    (texts payloads : List String) (h : subscription.stream happenings = some texts)
    (hreceived : received happenings =
      payloads.map (fun payload => (subscription.channel, asBytes payload))) :
    texts = (subscription.expected payloads).map Frame.text := by
  rw [stream_texts subscription happenings texts h, hreceived, expected, List.map_cons,
    List.map_map, List.map_map]
  congr 1
  apply List.map_congr_left
  intro payload _
  simp only [Function.comp, messageText, fromUtf8Lossy_asBytes]
  rfl

/-- A stream on an accepted channel is read back as its confirmation and one
message for each that was received, unchanged, exactly when no payload contains
a line break. -/
theorem read_back_iff (write : String → List String) (hwrite : WritesLines write)
    (subscription : Subscription) (maxBytes : Usize)
    (hchannel : validateChannel subscription.channel maxBytes = .ok ())
    (happenings : List Happening) (texts : List String)
    (hstream : subscription.stream happenings = some texts) (payloads : List String)
    (hreceived : received happenings =
      payloads.map (fun payload => (subscription.channel, asBytes payload))) :
    readStream write texts = ⟨"subscribe", subscription.channel, "1"⟩ ::
        payloads.map (fun payload => ⟨"message", subscription.channel, payload⟩) ↔
      ∀ payload ∈ payloads, Unbroken payload := by
  change readStream write texts = subscription.expected payloads ↔ _
  obtain ⟨_, _, hdelimiters⟩ := (validateChannel_eq_ok _ maxBytes).mp hchannel
  rw [stream_expected subscription happenings texts payloads hstream hreceived]
  constructor
  · intro hread payload hmem
    apply readStream_unbroken write hwrite _ ⟨"message", subscription.channel, payload⟩
    rw [hread]
    exact List.mem_cons_of_mem _ (List.mem_map.mpr ⟨payload, hmem, rfl⟩)
  · intro hall
    have hcomma : ',' ∉ subscription.channel.toList := by
      intro hmem
      exact (isDelimiter_eq_false ',' (hdelimiters ',' hmem)).1 rfl
    have hunbroken : Unbroken subscription.channel := by
      intro c hmem
      exact (isDelimiter_eq_false c (hdelimiters c hmem)).2
    have hconfirm : ',' ∉ "subscribe".toList ∧ Unbroken "subscribe" := ⟨by decide, by decide⟩
    have hcount : Unbroken "1" := by decide
    have hmessage : ',' ∉ "message".toList ∧ Unbroken "message" := ⟨by decide, by decide⟩
    apply readStream_text write hwrite
    intro frame hframe
    rcases List.mem_cons.mp hframe with rfl | hlater
    · exact ⟨⟨hconfirm.1, hconfirm.2, hcomma, hunbroken⟩, hcount⟩
    · obtain ⟨payload, hmem, rfl⟩ := List.mem_map.mp hlater
      exact ⟨⟨hmessage.1, hmessage.2, hcomma, hunbroken⟩, hall payload hmem⟩

/-- An open stream on the sample channel. -/
def onChan : Subscription := ⟨"chan", true, Instants.Duration.fromMillis 250⟩

/-- Two messages with a lost connection between them. -/
def interrupted : List Happening :=
  [.message "chan" (asBytes "a,b"), .disconnected, .reconnectFailed, .reconnected,
    .message "chan" (asBytes "")]

/-- Commas and empty payloads come through, over a lost connection. -/
theorem read_back_interrupted : ∃ texts, onChan.stream interrupted = some texts ∧
    readStream dataLines texts =
      [⟨"subscribe", "chan", "1"⟩, ⟨"message", "chan", "a,b"⟩, ⟨"message", "chan", ""⟩] := by
  have hunbroken : ∀ payload ∈ ["a,b", ""], Unbroken payload :=
    List.forall_mem_cons.mpr ⟨by decide, List.forall_mem_singleton.mpr (by decide)⟩
  obtain ⟨texts, hstream⟩ : ∃ texts, onChan.stream interrupted = some texts := ⟨_, rfl⟩
  exact ⟨texts, hstream, (read_back_iff dataLines dataLines_writesLines onChan 64 (by decide)
    interrupted texts hstream ["a,b", ""] rfl).mpr hunbroken⟩

/-- A payload with a line break is read as two messages, the second one forged. -/
theorem message_forged : validateChannel "chan" 64 = .ok () ∧ ∃ texts,
    onChan.stream [.message "chan" (asBytes "a\nmessage,chan,forged")] = some texts ∧
    readStream dataLines texts =
      [⟨"subscribe", "chan", "1"⟩, ⟨"message", "chan", "a"⟩, ⟨"message", "chan", "forged"⟩] ∧
    readStream dataLines texts ≠
      [⟨"subscribe", "chan", "1"⟩, ⟨"message", "chan", "a\nmessage,chan,forged"⟩] := by
  obtain ⟨texts, hstream⟩ : ∃ texts,
      onChan.stream [.message "chan" (asBytes "a\nmessage,chan,forged")] = some texts := ⟨_, rfl⟩
  have htexts := stream_expected onChan _ texts ["a\nmessage,chan,forged"] hstream rfl
  have hread : readStream dataLines texts =
      [⟨"subscribe", "chan", "1"⟩, ⟨"message", "chan", "a"⟩, ⟨"message", "chan", "forged"⟩] := by
    rw [htexts]
    decide
  refine ⟨by decide, texts, hstream, hread, ?_⟩
  rw [hread]
  decide

end Subscription

end RedisBridge.App
