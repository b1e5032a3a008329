import TenantSaas.App.World
import TenantSaas.Web.Serve

/-!
# Views entered on an expired session

`login_required` refreshes the tokens of a session that is about to expire, `admin_required`
does not look at them.  Requests are served at times that do not go back.
-/

namespace TenantSaas

/-- The world during a request served at `now`. -/
def World.atTime (world : World) (now : ℚ) : World := { world with time := fun _ => now }

/-- A request to a guarded route, the state it met and when. -/
structure Attempt where
  now : ℚ
  state : AppState
  request : Request
  route : Route

section Definitions

variable (config : Config) (world : World)

namespace Attempt

variable (a : Attempt)

/-- What a guard makes of the request. -/
def decision (guard : App Gate) : Except PyError Gate × AppState :=
  (world.atTime a.now).run guard a.state

/-- The calls the guard made while deciding. -/
def calls (guard : App Gate) : List ((op : AppOp) × Except PyError op.Res) :=
  Prog.trace (world.atTime a.now).exec guard a.state

/-- While the guard decided, the token endpoint answered the session's refresh token with new
tokens, and the session has their lifetime. -/
def Refreshed (guard : App Gate) (s' : AppState) : Prop :=
  ∃ body json lifetime, ∃ seconds : Int,
    ⟨.tokenRequest a.state.session.refreshToken, .ok (.http 200 body)⟩ ∈ a.calls world guard ∧
      body.loads = .ok json ∧ json.dictGet "expires_in" (.int 3600) = .ok lifetime ∧
      lifetime.toSeconds = .ok seconds ∧ s'.session.tokenExpiresAt = some (a.now + seconds)

/-- A view entered on the session's identity finds tokens that are not about to expire, or
refreshed in this request. -/
def FreshEntry : Prop :=
  ∀ identity s', a.decision world (a.route.guard config a.request) = (.ok (.enter identity), s') →
    a.state.session.identity.isSome = true →
      ∀ expiresAt, a.state.session.tokenExpiresAt = some expiresAt →
        a.now < expiresAt - tokenRefreshSkewSeconds ∨
          a.Refreshed world (a.route.guard config a.request) s'

/-- `login_required` would admit what `admin_required` admits. -/
def AdmitsAsLogin : Prop :=
  ∀ identity s', a.decision world (adminRequired config a.request) = (.ok (.enter identity), s') →
    ∃ identity' s'',
      a.decision world (loginRequired config a.request) = (.ok (.enter identity'), s'')

def NoExpiredEntry : Prop :=
  a.FreshEntry config world ∧ (a.route.isAdmin = true → a.AdmitsAsLogin config world)

/-- The session has an expiry, and it is reached or less than a minute away. -/
def Stale : Prop :=
  ∃ expiresAt, a.state.session.tokenExpiresAt = some expiresAt ∧
    ¬ a.now < expiresAt - tokenRefreshSkewSeconds

/-- The guard lets the session's identity in without a look at the expiry: an administrator
under `admin_required`, anyone under `login_required` when the expiry is `0`. -/
def Unchecked : Prop :=
  if a.route.isAdmin then
    ∃ identity, a.state.session.identity = some identity ∧ identity.role = "admin"
  else a.state.session.identity.isSome = true ∧ a.state.session.tokenExpiresAt = some 0

end Attempt

/-- Runs of requests over one session; between two of them the unguarded routes may leave any
session. -/
inductive SessionRun : List Attempt → ℚ → AppState → Prop where
  | init (now : ℚ) (s : AppState) : SessionRun [] now s
  | unguarded {trace : List Attempt} {now : ℚ} {s : AppState} (session : Session)
      (run : SessionRun trace now s) : SessionRun trace now { s with session := session }
  | guarded {trace : List Attempt} {now now' : ℚ} {s : AppState} (lower : String → String)
      (request : Request) (route : Route) (run : SessionRun trace now s) (later : now ≤ now') :
      SessionRun (trace ++ [⟨now', s, request, route⟩]) now'
        ((world.atTime now').run (serve config lower request route) s).2

end Definitions

section Guards

variable {config : Config} {world : World} {request : Request} {s : AppState}

theorem run_resolveIdentity {identity : Identity} (h : s.session.identity = some identity) :
    world.run (resolveIdentity config request) s =
      (.ok (some identity), { s with tick := s.tick + 1 }) := by
  unfold resolveIdentity
  rw [World.run_session_bind, h]
  rfl

theorem run_adminRequired_session {identity : Identity} (h : s.session.identity = some identity)
    (admin : identity.role = "admin") :
    world.run (adminRequired config request) s =
      (.ok (.enter identity), { s with tick := s.tick + 1 }) := by
  unfold adminRequired
  rw [World.run_bind_ok (run_resolveIdentity h)]
  simp [admin]

/-- `login_required` on a session identity comes down to the refresh. -/
theorem run_loginRequired_session {identity : Identity}
    (h : s.session.identity = some identity) (demo : config.demoMode = false) :
    world.run (loginRequired config request) s =
      world.run (enterRefreshed identity) { s with tick := s.tick + 2 } := by
  unfold loginRequired
  rw [World.run_bind_ok (run_resolveIdentity h)]
  simp only
  rw [World.run_session_bind, h, demo]
  rfl

theorem trace_loginRequired_session {identity : Identity}
    (h : s.session.identity = some identity) (demo : config.demoMode = false) :
    Prog.trace world.exec (loginRequired config request) s =
      ⟨.session, .ok s.session⟩ :: ⟨.session, .ok s.session⟩ ::
        Prog.trace world.exec (enterRefreshed identity) { s with tick := s.tick + 2 } := by
  have hresolve := @run_resolveIdentity config world request s identity h
  have htrace : Prog.trace world.exec (resolveIdentity config request) s =
      [⟨.session, .ok s.session⟩] := by
    unfold resolveIdentity
    rw [World.trace_session_bind, h]
    rfl
  unfold loginRequired
  rw [World.run] at hresolve
  rw [Prog.bind_def, Prog.trace_bind, htrace, hresolve]
  simp only
  rw [World.trace_session_bind, h, demo]
  rfl

/-- The view is entered only after a refresh that found nothing wrong. -/
theorem run_enterRefreshed {identity i : Identity} {s' : AppState} :
    world.run (enterRefreshed identity) s = (.ok (.enter i), s') ↔
      i = identity ∧ world.run refreshSessionTokensIfNeeded s = (.ok true, s') := by
  unfold enterRefreshed
  rw [World.run_bind_eq_ok]
  constructor
  · intro h'
    obtain ⟨refreshed, t, hrefresh, h⟩ := h'
    cases refreshed with
    | true =>
      cases h
      exact ⟨rfl, hrefresh⟩
    | false => cases h
  · intro h'
    obtain ⟨rfl, hrefresh⟩ := h'
    exact ⟨true, s', hrefresh, rfl⟩

theorem trace_enterRefreshed {identity : Identity} {s' : AppState}
    (h : world.run refreshSessionTokensIfNeeded s = (.ok true, s')) :
    Prog.trace world.exec (enterRefreshed identity) s =
      Prog.trace world.exec refreshSessionTokensIfNeeded s := by
  unfold enterRefreshed
  rw [World.run] at h
  rw [Prog.bind_def, Prog.trace_bind, h]
  exact List.append_nil _

/-- A token request that returns was answered with HTTP 200. -/
theorem run_tokenRequest {refreshToken json : Json} {t : AppState}
    (h : world.run (tokenRequest refreshToken) s = (.ok json, t)) :
    ∃ body, ⟨.tokenRequest refreshToken, .ok (.http 200 body)⟩ ∈
        Prog.trace world.exec (tokenRequest refreshToken) s ∧ body.loads = .ok json ∧
      t = { s with tick := s.tick + 1 } := by
  obtain ⟨reply, t', hreply, h⟩ := World.run_bind_eq_ok.mp h
  rw [World.run_perform] at hreply
  have htrace : ⟨.tokenRequest refreshToken, .ok reply⟩ ∈
      Prog.trace world.exec (tokenRequest refreshToken) s := by
    have hfirst : (world.exec s (.tokenRequest refreshToken)).1 = .ok reply :=
      congrArg Prod.fst hreply
    rw [← hfirst]
    exact List.mem_cons_self
  obtain ⟨-, -, rfl⟩ := World.answer_of_exec hreply
  cases reply with
  | unreachable => cases h
  | http status body =>
    by_cases hstatus : status = 200
    · subst hstatus
      have h : world.run (Prog.ofExcept body.loads) _ = _ := h
      rw [World.run, Prog.run_ofExcept] at h
      obtain ⟨hloads, rfl⟩ := Prod.mk.inj h
      exact ⟨body, htrace, hloads, rfl⟩
    · simp only [hstatus, if_false] at h
      cases h

theorem run_refreshTokens {refreshToken : Json} {tokens : Tokens} {t : AppState}
    (h : world.run (refreshTokens refreshToken) s = (.ok tokens, t)) :
    ∃ body json, ⟨.tokenRequest refreshToken, .ok (.http 200 body)⟩ ∈
        Prog.trace world.exec (refreshTokens refreshToken) s ∧ body.loads = .ok json ∧
      json.dictGet "expires_in" (.int 3600) = .ok tokens.expiresIn ∧
      t = { s with tick := s.tick + 1 } := by
  obtain ⟨json, t', hjson, h⟩ := World.run_bind_eq_ok.mp h
  obtain ⟨body, htrace, hloads, rfl⟩ := run_tokenRequest hjson
  have htrace' : ⟨.tokenRequest refreshToken, .ok (.http 200 body)⟩ ∈
      Prog.trace world.exec (refreshTokens refreshToken) s := by
    unfold refreshTokens
    rw [Prog.bind_def, Prog.trace_bind]
    exact List.mem_append_left _ htrace
  cases json with
  | obj fields =>
    have h : (_, _) = (Except.ok tokens, t) := h
    obtain ⟨htokens, rfl⟩ := Prod.mk.inj h
    obtain rfl := Except.ok.inj htokens
    exact ⟨body, _, htrace', hloads, rfl, rfl⟩
  | _ => cases h

/-- The refresh that succeeded got its new expiry from the token endpoint. -/
theorem run_refreshSessionTokens {refreshToken : Json} {s' : AppState}
    (h : world.run (refreshSessionTokens refreshToken) s = (.ok true, s')) :
    ∃ body json lifetime now, ∃ seconds : Int, ⟨.tokenRequest refreshToken, .ok (.http 200 body)⟩ ∈
        Prog.trace world.exec (refreshSessionTokens refreshToken) s ∧
      body.loads = .ok json ∧ json.dictGet "expires_in" (.int 3600) = .ok lifetime ∧
      lifetime.toSeconds = .ok seconds ∧
      s'.session.tokenExpiresAt = some (world.time now + seconds) := by
  unfold refreshSessionTokens at h ⊢
  rcases World.run_tryCatch_eq_ok.mp h with h | ⟨e, t, -, h⟩
  · obtain ⟨tokens, t, htokens, h⟩ := World.run_bind_eq_ok.mp h
    obtain ⟨body, json, htrace, hloads, hlifetime, rfl⟩ := run_refreshTokens htokens
    rw [World.run_session_bind] at h
    obtain ⟨_, t, hset, h⟩ := World.run_bind_eq_ok.mp h
    obtain ⟨-, rfl⟩ := Prod.mk.inj hset
    obtain ⟨now, t, hnow, h⟩ := World.run_bind_eq_ok.mp h
    obtain ⟨hok, rfl⟩ := Prod.mk.inj hnow
    obtain rfl := Except.ok.inj hok
    obtain ⟨seconds, t, hseconds, h⟩ := World.run_bind_eq_ok.mp h
    rw [World.run, Prog.run_ofExcept] at hseconds
    obtain ⟨hint, rfl⟩ := Prod.mk.inj hseconds
    have h : (_, _) = (Except.ok true, s') := h
    obtain ⟨-, rfl⟩ := Prod.mk.inj h
    refine ⟨body, json, _, _, seconds, ?_, hloads, hlifetime, hint, rfl⟩
    rw [Prog.tryCatch_def, Prog.trace_handle, Prog.bind_def, Prog.trace_bind]
    exact List.mem_append_left _ (List.mem_append_left _ htrace)
  · cases e with
    | oauthExchangeError message => cases h
    | _ => cases h

/-- What the refresh does once the expiry has passed or is near. -/
theorem run_refreshIfDue {refreshToken : Json} {expiresAt : ℚ}
    (due : ¬ world.time s.tick < expiresAt - tokenRefreshSkewSeconds) {s' : AppState}
    (h : world.run (refreshIfDue refreshToken expiresAt) s = (.ok true, s')) :
    ∃ body json lifetime now, ∃ seconds : Int,
      ⟨.tokenRequest refreshToken, .ok (.http 200 body)⟩ ∈
        Prog.trace world.exec (refreshIfDue refreshToken expiresAt) s ∧
      body.loads = .ok json ∧ json.dictGet "expires_in" (.int 3600) = .ok lifetime ∧
      lifetime.toSeconds = .ok seconds ∧
      s'.session.tokenExpiresAt = some (world.time now + seconds) := by
  unfold refreshIfDue at h ⊢
  rw [World.run_time_bind, if_neg due] at h
  rw [World.trace_time_bind, if_neg due]
  by_cases htoken : refreshToken.truthy = true
  · simp only [htoken, Bool.not_true, Bool.false_eq_true, if_false] at h ⊢
    obtain ⟨body, json, lifetime, now, seconds, htrace, hrest⟩ := run_refreshSessionTokens h
    exact ⟨body, json, lifetime, now, seconds, List.mem_cons_of_mem _ htrace, hrest⟩
  · simp only [htoken, Bool.not_false, if_true] at h
    cases h

/-- Without an expiry there is nothing to refresh; the expiry `0` is none. -/
theorem run_refresh_of_none
    (h : s.session.tokenExpiresAt = none ∨ s.session.tokenExpiresAt = some 0) :
    world.run refreshSessionTokensIfNeeded s = (.ok true, { s with tick := s.tick + 1 }) ∧
      Prog.trace world.exec refreshSessionTokensIfNeeded s = [⟨.session, .ok s.session⟩] := by
  unfold refreshSessionTokensIfNeeded
  rw [World.run_session_bind, World.trace_session_bind]
  rcases h with h | h
  · rw [h]
    exact ⟨rfl, rfl⟩
  · rw [h]
    exact ⟨rfl, rfl⟩

theorem run_refresh_of_some {expiresAt : ℚ} (h : s.session.tokenExpiresAt = some expiresAt)
    (nonzero : expiresAt ≠ 0) :
    world.run refreshSessionTokensIfNeeded s =
        world.run (refreshIfDue s.session.refreshToken expiresAt) { s with tick := s.tick + 1 } ∧
      Prog.trace world.exec refreshSessionTokensIfNeeded s = ⟨.session, .ok s.session⟩ ::
        Prog.trace world.exec (refreshIfDue s.session.refreshToken expiresAt)
          { s with tick := s.tick + 1 } := by
  unfold refreshSessionTokensIfNeeded
  rw [World.run_session_bind, World.trace_session_bind]
  simp only [h, nonzero, if_false, and_self]

/-- Tokens that are not about to expire are kept. -/
theorem run_refresh_of_fresh {expiresAt : ℚ} (h : s.session.tokenExpiresAt = some expiresAt)
    (fresh : world.time (s.tick + 1) < expiresAt - tokenRefreshSkewSeconds) : ∃ s',
    world.run refreshSessionTokensIfNeeded s = (.ok true, s') ∧ s'.session = s.session := by
  by_cases hzero : expiresAt = 0
  · rw [hzero] at h
    exact ⟨_, (run_refresh_of_none (.inr h)).1, rfl⟩
  · rw [(run_refresh_of_some h hzero).1, refreshIfDue, World.run_time_bind, if_pos fresh]
    exact ⟨_, rfl, rfl⟩

/-- Finding out who is asking changes nothing. -/
theorem exec_readsIdentity {op : AppOp} (h : op.readsIdentity = true) (s : AppState) :
    (world.exec s op).2 = { s with tick := s.tick + 1 } := by
  cases op with
  | session => rfl
  | time => rfl
  | decodeJwt token =>
    cases hfailure : world.failure s (.decodeJwt token) with
    | some e => rw [World.exec_of_failure hfailure]
    | none =>
      rw [World.exec_of_answer hfailure]
      rfl
  | _ => cases h

theorem run_readsIdentity {α : Type} {p : App α} (hp : p.Calls fun op => op.readsIdentity = true)
    (s : AppState) : ∃ tick, (world.run p s).2 = { s with tick := tick } := by
  refine Prog.run_invariant world.exec (I := fun t => ∃ tick, t = { s with tick := tick }) ?_ hp
    ⟨s.tick, rfl⟩
  rintro op t hop ⟨tick, rfl⟩
  exact ⟨tick + 1, exec_readsIdentity hop _⟩

/-- What `admin_required` lets in is an administrator's session, or no session. -/
theorem admin_of_enter {identity : Identity} {s' : AppState}
    (h : world.run (adminRequired config request) s = (.ok (.enter identity), s')) :
    ∀ i, s.session.identity = some i → i.role = "admin" := by
  intro i hi
  by_cases hrole : i.role = "admin"
  · exact hrole
  · unfold adminRequired at h
    rw [World.run_bind_ok (run_resolveIdentity hi)] at h
    simp only [hrole, ne_eq, not_false_eq_true, if_true] at h
    split at h
    · cases h
    · cases h

/-- A bearer or a gateway caller passes `login_required` when `admin_required` lets it in. -/
theorem login_of_admin {identity : Identity} {s' : AppState}
    (h : world.run (adminRequired config request) s = (.ok (.enter identity), s'))
    (nobody : s.session.identity = none) :
    ∃ s'', world.run (loginRequired config request) s = (.ok (.enter identity), s'') := by
  obtain ⟨found, t, hresolve, h⟩ := World.run_bind_eq_ok.mp h
  obtain ⟨tick, ht⟩ := run_readsIdentity (resolveIdentity_calls config request) s
  rw [hresolve] at ht
  obtain rfl : t = { s with tick := tick } := ht
  cases found with
  | none =>
    simp only [unauthenticatedResponse] at h
    split at h
    · cases h
    · cases h
  | some found =>
    by_cases hrole : found.role = "admin"
    · simp only [hrole, ne_eq, not_true_eq_false, if_false] at h
      obtain ⟨hok, -⟩ := Prod.mk.inj h
      cases hok
      unfold loginRequired
      rw [World.run_bind_ok hresolve]
      simp only
      rw [World.run_session_bind]
      simp only [nobody]
      exact ⟨_, rfl⟩
    · simp only [hrole, ne_eq, not_false_eq_true, if_true] at h
      split at h
      · cases h
      · cases h

end Guards

/-! ## One request -/

section Attempts

variable {config : Config} {world : World} {a : Attempt}

theorem noTokenRequest_of_admin {reply : Except PyError TokenReply} :
    ⟨.tokenRequest a.state.session.refreshToken, reply⟩ ∉
      a.calls world (adminRequired config a.request) := by
  intro hcall
  have hop := Prog.of_mem_trace _ (adminRequired_calls config a.request) hcall
  cases hop

/-- Under `login_required` a session identity enters when the expiry is `0`, without a call to
the token endpoint. -/
theorem login_of_zero {identity : Identity} (demo : config.demoMode = false)
    (h : a.state.session.identity = some identity)
    (zero : a.state.session.tokenExpiresAt = some 0) :
    (∃ s', a.decision world (loginRequired config a.request) = (.ok (.enter identity), s')) ∧
      ∀ reply, ⟨.tokenRequest a.state.session.refreshToken, reply⟩ ∉
        a.calls world (loginRequired config a.request) := by
  obtain ⟨hrun, htrace⟩ := @run_refresh_of_none (world.atTime a.now)
    { a.state with tick := a.state.tick + 2 } (.inr zero)
  unfold Attempt.decision Attempt.calls
  rw [run_loginRequired_session h demo, trace_loginRequired_session h demo,
    trace_enterRefreshed hrun, htrace]
  exact ⟨⟨_, run_enterRefreshed.mpr ⟨rfl, hrun⟩⟩, by simp⟩

/-- Under `login_required` a session identity with any other expiry enters on tokens that are
not about to expire, or on refreshed ones. -/
theorem login_of_nonzero {identity i : Identity} {s' : AppState} {expiresAt : ℚ}
    (demo : config.demoMode = false) (h : a.state.session.identity = some identity)
    (expires : a.state.session.tokenExpiresAt = some expiresAt) (nonzero : expiresAt ≠ 0)
    (henter : a.decision world (loginRequired config a.request) = (.ok (.enter i), s')) :
    a.now < expiresAt - tokenRefreshSkewSeconds ∨
      a.Refreshed world (loginRequired config a.request) s' := by
  unfold Attempt.decision at henter
  rw [run_loginRequired_session h demo, run_enterRefreshed] at henter
  obtain ⟨hrun, htrace⟩ := @run_refresh_of_some (world.atTime a.now)
    { a.state with tick := a.state.tick + 2 } _ expires nonzero
  by_cases hfresh : a.now < expiresAt - tokenRefreshSkewSeconds
  · exact .inl hfresh
  · right
    rw [hrun] at henter
    obtain ⟨body, json, lifetime, _, seconds, hcall, hrest⟩ := run_refreshIfDue hfresh henter.2
    refine ⟨body, json, lifetime, seconds, ?_, hrest⟩
    unfold Attempt.calls
    rw [trace_loginRequired_session h demo, trace_enterRefreshed (hrun.trans henter.2), htrace]
    exact List.mem_cons_of_mem _ (List.mem_cons_of_mem _ (List.mem_cons_of_mem _ hcall))

theorem noExpiredEntry_of_admin (hroute : a.route.isAdmin = true) (demo : config.demoMode = false) :
    a.NoExpiredEntry config world ↔ ¬ (a.Stale ∧ a.Unchecked) := by
  have hguard : a.route.guard config a.request = adminRequired config a.request := by
    simp [Route.guard, hroute]
  have hunchecked : a.Unchecked ↔
      ∃ identity, a.state.session.identity = some identity ∧ identity.role = "admin" := by
    simp [Attempt.Unchecked, hroute]
  rw [hunchecked]
  constructor
  · rintro ⟨hfresh, -⟩ ⟨⟨expiresAt, hexpires, hstale⟩, identity, hidentity, hadmin⟩
    have hentry := hfresh identity _
      (by rw [hguard]; exact run_adminRequired_session hidentity hadmin)
      (by rw [hidentity]; rfl) expiresAt hexpires
    rcases hentry with hnow | ⟨body, _, _, _, hcall, -⟩
    · exact hstale hnow
    · rw [hguard] at hcall
      exact noTokenRequest_of_admin hcall
  · intro hmeets
    have hnow : ∀ i, a.state.session.identity = some i → i.role = "admin" →
        ∀ expiresAt, a.state.session.tokenExpiresAt = some expiresAt →
          a.now < expiresAt - tokenRefreshSkewSeconds := by
      intro i hi hrole expiresAt hexpires
      by_contra hstale
      exact hmeets ⟨⟨expiresAt, hexpires, hstale⟩, i, hi, hrole⟩
    refine ⟨?_, fun _ => ?_⟩
    · intro identity s' henter hsession expiresAt hexpires
      rw [hguard] at henter
      obtain ⟨i, hi⟩ := Option.isSome_iff_exists.mp hsession
      exact .inl (hnow i hi (admin_of_enter henter i hi) expiresAt hexpires)
    · intro identity s' henter
      cases hi : a.state.session.identity with
      | none =>
        obtain ⟨s'', hlogin⟩ := login_of_admin henter hi
        exact ⟨identity, s'', hlogin⟩
      | some i =>
        have hrefresh : ∃ t, (world.atTime a.now).run refreshSessionTokensIfNeeded
            { a.state with tick := a.state.tick + 2 } = (.ok true, t) := by
          cases hexpires : a.state.session.tokenExpiresAt with
          | none => exact ⟨_, (run_refresh_of_none (s := { a.state with tick := a.state.tick + 2 })
              (.inl hexpires)).1⟩
          | some expiresAt =>
            have hfresh := hnow i hi (admin_of_enter henter i hi) expiresAt hexpires
            obtain ⟨t, ht, -⟩ := @run_refresh_of_fresh (world.atTime a.now)
              { a.state with tick := a.state.tick + 2 } expiresAt hexpires hfresh
            exact ⟨t, ht⟩
        obtain ⟨t, ht⟩ := hrefresh
        exact ⟨i, t, (run_loginRequired_session hi demo).trans (run_enterRefreshed.mpr ⟨rfl, ht⟩)⟩

theorem noExpiredEntry_of_login (hroute : a.route.isAdmin = false)
    (demo : config.demoMode = false) :
    a.NoExpiredEntry config world ↔ ¬ (a.Stale ∧ a.Unchecked) := by
  have hguard : a.route.guard config a.request = loginRequired config a.request := by
    simp [Route.guard, hroute]
  have hunchecked : a.Unchecked ↔
      a.state.session.identity.isSome = true ∧ a.state.session.tokenExpiresAt = some 0 := by
    simp [Attempt.Unchecked, hroute]
  rw [hunchecked]
  constructor
  · rintro ⟨hfresh, -⟩ ⟨⟨expiresAt, hexpires, hstale⟩, hsession, hzero⟩
    obtain ⟨i, hi⟩ := Option.isSome_iff_exists.mp hsession
    obtain ⟨⟨s', henter⟩, hcalls⟩ := @login_of_zero config world a i demo hi hzero
    rcases hfresh i s' (by rw [hguard]; exact henter) hsession expiresAt hexpires with
      hnow | ⟨body, _, _, _, hcall, -⟩
    · exact hstale hnow
    · rw [hguard] at hcall
      exact hcalls _ hcall
  · intro hmeets
    refine ⟨?_, fun h => absurd h (by simp [hroute])⟩
    intro identity s' henter hsession expiresAt hexpires
    obtain ⟨i, hi⟩ := Option.isSome_iff_exists.mp hsession
    rw [hguard] at henter ⊢
    by_cases hzero : expiresAt = 0
    · rw [hzero] at hexpires ⊢
      by_contra hstale
      exact hmeets ⟨⟨0, hexpires, fun hnow => hstale (.inl hnow)⟩, hsession, hexpires⟩
    · exact login_of_nonzero demo hi hexpires hzero henter

theorem noExpiredEntry_iff (demo : config.demoMode = false) :
    a.NoExpiredEntry config world ↔ ¬ (a.Stale ∧ a.Unchecked) := by
  cases hroute : a.route.isAdmin with
  | true => exact noExpiredEntry_of_admin hroute demo
  | false => exact noExpiredEntry_of_login hroute demo

end Attempts

/-! ## Runs -/

section Runs

variable {config : Config} {world : World}

/-- Over any requests, those of a run among them, no view is entered on an expired session, and
`admin_required` is as strict as `login_required`, exactly when no stale session meets a guard
that does not look at its expiry. -/
theorem noExpiredEntry_iff_unchecked {trace : List Attempt} (demo : config.demoMode = false) :
    (∀ a ∈ trace, a.NoExpiredEntry config world) ↔ ∀ a ∈ trace, ¬ (a.Stale ∧ a.Unchecked) := by
  constructor
  · intro h a ha
    exact (noExpiredEntry_iff demo).mp (h a ha)
  · intro h a ha
    exact (noExpiredEntry_iff demo).mpr (h a ha)

/-- Cognito refuses every refresh. -/
def refusingWorld : World := { quietWorld with token := fun _ _ => .http 400 .malformed }

/-- The session of an administrator whose tokens expire an hour after time `0`. -/
def adminSession : Session :=
  { Session.cleared with
    identity := some sampleAdmin
    accessToken := .str "access-1"
    refreshToken := .str "refresh-1"
    tokenExpiresAt := some 3600 }

def dashboardRequest : Request where
  method := "GET"
  path := "/api/v1/admin/dashboard"
  headers _ := none
  cookies _ := none
  args _ := none
  form _ := none

/-- The administrator's request two hours after signing in. -/
def lateAttempt : Attempt where
  now := 7200
  state := { emptyState with session := adminSession }
  request := dashboardRequest
  route := .adminDashboard

/-- A disabled administrator, whose tokens Cognito no longer refreshes, is let in. -/
theorem exists_late_run : ∃ now s, SessionRun sampleConfig refusingWorld [lateAttempt] now s ∧
    lateAttempt.Stale ∧ lateAttempt.Unchecked := by
  have run := ((@SessionRun.init sampleConfig refusingWorld 0 emptyState).unguarded
    adminSession).guarded id dashboardRequest .adminDashboard (by norm_num : (0 : ℚ) ≤ 7200)
  have hlate : ¬ (7200 : ℚ) < 3600 - 60 := by norm_num
  exact ⟨_, _, run, ⟨3600, rfl, hlate⟩, sampleAdmin, rfl, rfl⟩

theorem late_run_unchecked : ∃ now s, SessionRun sampleConfig refusingWorld [lateAttempt] now s ∧
    ¬ ∀ a ∈ [lateAttempt], a.NoExpiredEntry sampleConfig refusingWorld := by
  obtain ⟨now, s, run, hstale, hunchecked⟩ := exists_late_run
  refine ⟨now, s, run, ?_⟩
  rw [noExpiredEntry_iff_unchecked rfl]
  intro h
  exact h lateAttempt (List.mem_singleton_self _) ⟨hstale, hunchecked⟩

theorem expired_admin_enters : ¬ ∀ config world trace now s, config.demoMode = false →
    SessionRun config world trace now s →
      ∀ a ∈ trace, a.NoExpiredEntry config world := by
  intro h
  obtain ⟨now, s, run, hstale, hunchecked⟩ := exists_late_run
  have hentry := h _ _ _ now s rfl run lateAttempt (List.mem_singleton_self _)
  exact (noExpiredEntry_iff rfl).mp hentry ⟨hstale, hunchecked⟩

end Runs

end TenantSaas
