import RedisBridge.CapabilityLaws
import RedisBridge.Handlers
import RedisBridge.TargetIsolation

/-!
What a command route lets through. A request reaches Redis only with the token
of an enabled entry, with a body whose commands the policy accepts under that
entry's capabilities, and only at the target that lists the entry; then the
whole body is handed over. With failing credentials the body is never looked at.
-/
namespace RedisBridge.App

open BridgeConfig ClientAddress Fallible Instants IpAddress Lockout Responses RustText
open Security Targets TokenType

variable {β γ ρ : Type}

namespace CommandRoute

theorem finish_handed (spec : CommandRoute β γ ρ) (state : AppState) (cells : Cells)
    (base64Encoding : Bool) (execution : Execution ρ) :
    (spec.finish state cells base64Encoding execution).1.handed = execution.handed := by
  unfold finish
  split
  · rfl
  · rfl
  · rfl
  · rfl

theorem perform_handed (spec : CommandRoute β γ ρ) (state : AppState) (cells : Cells)
    (base64Encoding : Bool) (target : ℕ) (checked : γ) :
    (spec.perform state cells base64Encoding target checked).1.handed =
      (spec.execute target checked).handed :=
  spec.finish_handed state _ base64Encoding _

/-- With accepted credentials, a checked body is handed over as a whole or not
at all, and any other body is not handed over. -/
theorem serve_handed (spec : CommandRoute β γ ρ) (state : AppState) (cells : Cells)
    (request : Request β) (route : AuthRoute) :
    (spec.serve state cells request route).1.handed = [] ∨
      ∃ body checked, request.body = some body ∧
        spec.parse state.security body route.tokenType = .ok checked ∧
        (spec.serve state cells request route).1.handed =
          [⟨route.target, ⟨spec.kind, spec.commands checked⟩⟩] := by
  cases hbody : request.body with
  | none =>
    left
    unfold serve
    rw [hbody]
  | some body =>
    cases hparse : spec.parse state.security body route.tokenType with
    | error error =>
      left
      unfold serve
      rw [hbody]
      dsimp only
      rw [hparse]
    | ok checked =>
      have hserve : spec.serve state cells request route = spec.perform state cells
          (AppState.base64 request.headers) route.target checked := by
        unfold serve
        rw [hbody]
        dsimp only
        rw [hparse]
      rw [hserve, perform_handed]
      rcases spec.sends route.target checked with hnone | hsent
      · exact Or.inl hnone
      · exact Or.inr ⟨body, checked, rfl, hparse, hsent⟩

end CommandRoute

namespace AppState

/-- Authentication reads no header but the authorization. -/
theorem commandAuth_congr (state : AppState) (crates : Crates) (cells : Cells)
    (headers headers' : HeaderMap) (ip : IpAddr) (clock : Readings)
    (hsame : headers "authorization" = headers' "authorization") :
    state.commandAuth crates cells headers ip clock =
      state.commandAuth crates cells headers' ip clock := by
  have htoken : presentedToken headers = presentedToken headers' := by
    unfold presentedToken
    rw [hsame]
  unfold commandAuth routeAuth bridgeAuth bearerToken
  rw [htoken]

end AppState

/-- The gate of one command route, for every behaviour of its backend. What is
handed over is one packet with all commands of the body, each accepted under the
capabilities of an enabled token that the request presents, to the target that
lists the token. A body that is not accepted as a whole is not handed over. Two
requests of one client address with the same authorization header that fails
come to the same answer and the same state, whatever their bodies. -/
structure Gatekept {ω β : Type} (crates : Crates) (config : Bridge) (state : AppState)
    (kind : PacketKind) (accepts : TokenCaps → β → List RedisCommand → Prop)
    (handler : ω → Cells → Request β → Step Answer) : Prop where
  handed : ∀ world cells request answer cells',
    handler world cells request = (.ok answer, cells') →
      answer.handed = [] ∨ ∃ token i target listed body commands,
        AppState.presentedToken request.headers = some token ∧
        config.targets[i]? = some target ∧ listed ∈ target.tokens ∧ listed.enabled = true ∧
        listed.hash = state.tokenDigest crates token ∧
        request.body = some body ∧ accepts listed.tokenType body commands ∧
        answer.handed = [⟨i, ⟨kind, commands⟩⟩]
  rejected : ∀ world cells request answer cells' route authorized body,
    handler world cells request = (.ok answer, cells') →
      state.commandAuth crates cells request.headers
        (state.clientIp request.headers request.peer) request.clock =
          (.ok (.ok route), authorized) →
      request.body = some body → (∀ commands, ¬ accepts route.tokenType body commands) →
      answer.handed = []
  blind : ∀ world world' cells (request request' : Request β),
    state.clientIp request.headers request.peer = state.clientIp request'.headers request'.peer →
    request.headers "authorization" = request'.headers "authorization" →
    request.clock = request'.clock →
    (∀ route authorized, state.commandAuth crates cells request.headers
      (state.clientIp request.headers request.peer) request.clock ≠
        (.ok (.ok route), authorized)) →
    handler world cells request = handler world' cells request'

namespace CommandRoute

/-- A route yields what serving the authorized request yields, or nothing was
handed over. -/
theorem handle_eq_ok (spec : CommandRoute β γ ρ) (state : AppState) (crates : Crates)
    (cells cells' : Cells) (request : Request β) (answer : Answer)
    (h : spec.handle state crates cells request = (.ok answer, cells')) :
    answer.handed = [] ∨ ∃ route authorized,
      state.commandAuth crates cells request.headers
        (state.clientIp request.headers request.peer) request.clock =
          (.ok (.ok route), authorized) ∧
      answer = (spec.serve state authorized request route).1 := by
  rw [handle, Step.andThen_eq_ok] at h
  obtain ⟨result, authorized, hauth, h⟩ := h
  cases result with
  | error error =>
    left
    rw [← Except.ok.inj (congrArg Prod.fst h)]
  | ok route =>
    right
    exact ⟨route, authorized, hauth, (Except.ok.inj (congrArg Prod.fst h)).symm⟩

/-- Failing credentials decide the answer before the body is looked at. -/
theorem handle_failing (spec : CommandRoute β γ ρ) (state : AppState) (crates : Crates)
    (cells : Cells) (request : Request β)
    (hfail : ∀ route authorized, state.commandAuth crates cells request.headers
      (state.clientIp request.headers request.peer) request.clock ≠
        (.ok (.ok route), authorized)) :
    spec.handle state crates cells request =
      (state.commandAuth crates cells request.headers
        (state.clientIp request.headers request.peer) request.clock).andThen
        fun result cells => match result with
          | .error error =>
              (.ok ⟨some error.intoResponse, []⟩, AppState.denyRequest cells spec.route "auth")
          | .ok _ => (.ok ⟨none, []⟩, cells) := by
  unfold handle
  dsimp only
  generalize hstep : state.commandAuth crates cells request.headers
    (state.clientIp request.headers request.peer) request.clock = step at hfail ⊢
  obtain ⟨result, after⟩ := step
  rcases result with panic | (error | route)
  · rfl
  · rfl
  · exact absurd rfl (hfail route after)

theorem handle_gatekept {ω : Type} (spec : ω → CommandRoute β γ ρ) (crates : Crates)
    (openClient : String → Except String Unit) (config : Bridge) (state : AppState)
    (hnew : AppState.new openClient config = .ok state) (kind : PacketKind) (label : String)
    (accepts : TokenCaps → β → List RedisCommand → Prop)
    (hkind : ∀ world, (spec world).kind = kind) (hlabel : ∀ world, (spec world).route = label)
    (haccepts : ∀ world body caps checked, (spec world).parse state.security body caps =
      .ok checked → accepts caps body ((spec world).commands checked)) :
    Gatekept crates config state kind accepts
      (fun world cells request => (spec world).handle state crates cells request) where
  handed := by
    intro world cells request answer cells' h
    rcases handle_eq_ok (spec world) state crates cells cells' request answer h with
      hnone | ⟨route, authorized, hauth, rfl⟩
    · exact Or.inl hnone
    · rcases (spec world).serve_handed state authorized request route with
        hnone | ⟨body, checked, hbody, hparse, hsent⟩
      · exact Or.inl hnone
      · obtain ⟨hbridge, _⟩ := state.routeAuth_eq_ok crates cells authorized request.headers _
          request.clock _ _ route hauth
        obtain ⟨token, htoken, hlook⟩ := state.bridgeAuth_eq_ok crates cells authorized
          request.headers _ request.clock route hbridge
        obtain ⟨_, _, hrouted⟩ := AppState.new_routed openClient config state hnew
        obtain ⟨target, listed, htarget, hlisted, henabled, hhash, htype⟩ :=
          (mem_routePairs config.targets _ route).mp ((hrouted.2 _ route).mp hlook)
        right
        rw [hkind world] at hsent
        refine ⟨token, route.target, target, listed, body, _, htoken, htarget, hlisted,
          henabled, hhash, hbody, ?_, hsent⟩
        rw [htype]
        exact haccepts world body route.tokenType checked hparse
  rejected := by
    intro world cells request answer cells' route authorized body h hauth hbody hreject
    rcases handle_eq_ok (spec world) state crates cells cells' request answer h with
      hnone | ⟨route', authorized', hauth', rfl⟩
    · exact hnone
    · rw [hauth] at hauth'
      obtain ⟨rfl, rfl⟩ : route = route' ∧ authorized = authorized' := by
        simpa using hauth'
      rcases (spec world).serve_handed state authorized request route with
        hnone | ⟨body', checked, hbody', hparse, _⟩
      · exact hnone
      · rw [hbody, Option.some.injEq] at hbody'
        subst hbody'
        exact absurd (haccepts world body route.tokenType checked hparse) (hreject _)
  blind := by
    intro world world' cells request request' hip hheader hclock hfail
    have hsame : state.commandAuth crates cells request.headers
        (state.clientIp request.headers request.peer) request.clock =
        state.commandAuth crates cells request'.headers
          (state.clientIp request'.headers request'.peer) request'.clock := by
      rw [hip, hclock]
      exact state.commandAuth_congr crates cells _ _ _ _ hheader
    rw [handle_failing _ state crates cells request hfail,
      handle_failing _ state crates cells request' (hsame ▸ hfail), hsame, hlabel, hlabel]

end CommandRoute

/-- Gatekeeping of the three command routes, on the state of any configuration. -/
theorem routes_gatekept {Value : Type} (crates : Crates)
    (openClient : String → Except String Unit) (config : Bridge) (state : AppState)
    (hnew : AppState.new openClient config = .ok state) :
    Gatekept crates config state .command
      (fun caps array commands => ∃ command,
        state.security.parseCommand array caps = .ok command ∧ commands = [command])
      (@command Value state crates) ∧
    Gatekept crates config state .pipeline
      (fun caps arrays commands => arrays.length ≤ state.security.maxPipelineCommands.val ∧
        List.Forall₂ (fun array command => state.security.parseCommand array caps = .ok command)
          arrays commands)
      (@pipeline Value state crates) ∧
    Gatekept crates config state .multiExec
      (fun caps arrays commands => arrays.length ≤ state.security.maxPipelineCommands.val ∧
        List.Forall₂ (fun array command => state.security.parseCommand array caps = .ok command)
          arrays commands)
      (@multiExec Value state crates) := by
  refine ⟨?_, ?_, ?_⟩
  · apply CommandRoute.handle_gatekept commandRoute crates openClient config state hnew .command
      "command" _ (fun _ => rfl) (fun _ => rfl)
    intro _ body caps checked hparse
    exact ⟨checked, hparse, rfl⟩
  · apply CommandRoute.handle_gatekept pipelineRoute crates openClient config state hnew .pipeline
      "pipeline" _ (fun _ => rfl) (fun _ => rfl)
    intro _ body caps checked hparse
    exact (state.security.parseCommandList_eq_ok body caps checked).mp hparse
  · apply CommandRoute.handle_gatekept multiExecRoute crates openClient config state hnew
      .multiExec "multi_exec" _ (fun _ => rfl) (fun _ => rfl)
    intro _ body caps checked hparse
    exact (state.security.parseCommandList_eq_ok body caps checked).mp hparse

def getKey : Request (List CommandArg) :=
  ⟨.v4 1, bearerAbc, some [.string "get", .string "key"], ⟨Instant.ofSecs 0, Instant.ofSecs 0⟩⟩

/-- A backend with room and connections that answers nothing of interest. -/
def readyBackend : Backend Unit Unit :=
  ⟨⟨.ready .granted, .ready true, .ready (.ok ())⟩, fun _ _ => ⟨[], false⟩⟩

/-- The command is handed to the second target, which lists the token enabled. -/
theorem routes_gatekept_abc : ∃ state answer cells,
    AppState.new (fun _ => .ok ()) twoTargets = .ok state ∧
      command state abcCrates readyBackend freshCells getKey = (.ok answer, cells) ∧
      answer.handed = [⟨1, ⟨.command, [⟨"GET", [asBytes "key"]⟩]⟩⟩] ∧
      ∃ (i : ℕ) (target : Redis) (listed : AuthToken), twoTargets.targets[i]? = some target ∧
        listed ∈ target.tokens ∧ listed.enabled = true := by
  obtain ⟨state, answer, cells, hnew, hcommand, hsent⟩ : ∃ state answer cells,
      AppState.new (fun _ => .ok ()) twoTargets = .ok state ∧
        command state abcCrates readyBackend freshCells getKey = (.ok answer, cells) ∧
        answer.handed = [⟨1, ⟨.command, [⟨"GET", [asBytes "key"]⟩]⟩⟩] :=
    ⟨_, _, _, rfl, rfl, rfl⟩
  obtain ⟨hgate, _⟩ := routes_gatekept abcCrates (fun _ => .ok ()) twoTargets state hnew
  rcases hgate.handed readyBackend freshCells getKey answer cells hcommand with
    hnone | ⟨_, i, target, listed, _, _, _, htarget, hlisted, henabled, _⟩
  · rw [hnone] at hsent
    cases hsent
  · exact ⟨state, answer, cells, hnew, hcommand, hsent, i, target, listed, htarget, hlisted,
      henabled⟩

end RedisBridge.App
