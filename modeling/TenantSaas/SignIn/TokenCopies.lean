import TenantSaas.SignIn.Binding
import TenantSaas.Web.Renewal

/-!
# The two copies of the access token

A sign-in leaves its access token in the session and, for the gateway in front of the
application, in a cookie of its own.  One browser processes its responses in order; the session
ends half an hour after it was last signed, the cookie with the token after its lifetime.
-/

namespace TenantSaas

open AuthPages

/-- What a response does to the cookie with the token; the guarded routes leave it. -/
def Errand.cookieChange (config : Config) : Errand → App CookieChange
  | loginRedirect => do return (← AuthPages.loginRedirect config).cookie
  | callback request => do return (← AuthPages.callback config request).cookie
  | logout => do return (← AuthPages.logout config).cookie
  | guarded lower request route => do
    let _ ← serve config lower request route
    return .keep

/-- `PERMANENT_SESSION_LIFETIME` (`app.py:200`), in seconds. -/
def permanentSessionLifetime : Int := 1800

/-- What a browser keeps between two requests: its session, signed at a time, and the cookie with
the token and with the time it lasts until. -/
structure Client where
  session : Session
  signed : ℚ
  cookie : Option (Json × Option ℚ)

namespace Client

variable (client : Client) (now : ℚ)

/-- The session that a request is served with; one that was signed too long ago is refused. -/
def opened : Session :=
  let age := ⌊now⌋ - ⌊client.signed⌋
  if 0 ≤ age ∧ age ≤ permanentSessionLifetime then client.session else .cleared

/-- The cookie with the token, until it has run out. -/
def tokenCookie : Option (Json × Option ℚ) :=
  client.cookie.filter fun kept => kept.2.all fun lasts => decide (now < lasts)

/-- The cookie has the token, and lasts until then at least; where there is no token it need
not. -/
def Keeps (token : Json) (expiresAt : Option ℚ) : Prop :=
  token.truthy = true → ∃ lasts, client.tokenCookie now = some (token, some lasts) ∧
    ∀ time, expiresAt = some time → time ≤ lasts

end Client

/-- There is an identity, and its tokens have expired or are about to. -/
def Session.Due (session : Session) (now : ℚ) : Prop :=
  session.identity.isSome = true ∧ ∃ expiresAt, session.tokenExpiresAt = some expiresAt ∧
    expiresAt ≠ 0 ∧ ¬ now < expiresAt - tokenRefreshSkewSeconds

/-- The cookie after a response that is received at a time. -/
def AuthPages.CookieChange.apply (received : ℚ) (cookie : Option (Json × Option ℚ)) :
    CookieChange → Option (Json × Option ℚ)
  | keep => cookie
  | set value maxAge => some (value, maxAge.map fun seconds => received + seconds)
  | clear => none

/-- A request of a browser and the response to it. -/
structure Roundtrip where
  client : Client
  errand : Errand
  /-- The server, up to the session of the browser. -/
  server : AppState
  served : ℚ
  received : ℚ
  /-- The response has the session in a cookie. -/
  saved : Bool

namespace Roundtrip

section Definitions

variable (config : Config) (world : World) (r : Roundtrip)

def opened : Session := r.client.opened r.served

def state : AppState := { r.server with session := r.opened }

def respond : Except PyError CookieChange × AppState :=
  (world.atTime r.served).run (r.errand.cookieChange config) r.state

/-- The browser with the response. -/
def after : Client where
  session := (r.respond config world).2.session
  signed := if r.saved then r.served else r.client.signed
  cookie :=
    match (r.respond config world).1 with
    | .ok change => change.apply r.received r.client.cookie
    | .error _ => r.client.cookie

/-- A session that is modified is saved, and a permanent one at every response; a session is
permanent while it has an identity. -/
def Saves : Prop :=
  r.saved = false → r.opened.identity = none ∧ (r.after config world).session = r.opened

/-- The response left both copies alike.  Only `session.clear()` takes the identity out of a
session. -/
structure InStep : Prop where
  copied : (r.after config world).Keeps r.received (r.after config world).session.accessToken
    (r.after config world).session.tokenExpiresAt
  cleared : r.errand = .logout ∨ r.opened.identity.isSome = true ∧
    (r.after config world).session.identity = none →
      (r.after config world).tokenCookie r.received = none

/-- The request is one for which `login_required` refreshes the tokens. -/
def RefreshDue : Prop :=
  ∃ lower request route, r.errand = .guarded lower request route ∧ route.isAdmin = false ∧
    r.opened.Due r.served

/-- What the token endpoint then makes of the refresh token. -/
def refreshed : Except PyError Tokens :=
  ((world.atTime r.served).run (refreshTokens r.opened.refreshToken)
    { r.state with tick := r.server.tick + 4 }).1

/-- There is no refresh token, or it is refused. -/
def RefreshFails : Prop :=
  r.opened.refreshToken.truthy = false ∨
    ∃ message, r.refreshed world = .error (.oauthExchangeError message)

/-- The expiry of tokens with this lifetime; the old one stays where it cannot be added. -/
def expiry (expiresIn : Json) (old : Option ℚ) : Option ℚ :=
  match expiresIn.toSeconds with
  | .ok seconds => some (r.served + seconds)
  | .error _ => old

/-- The tokens of the session are taken away or are others afterwards. -/
inductive Replaces : Prop where
  | logout (errand : r.errand = .logout)
  | signIn {request : Request} {tokens : CodeTokens} {identity : Identity}
      (errand : r.errand = .callback request)
      (reached : reached config (world.atTime r.served) request r.state = some (tokens, identity))
  | fails (due : r.RefreshDue) (fails : r.RefreshFails world)
  | brings (due : r.RefreshDue) {tokens : Tokens} (brings : r.refreshed world = .ok tokens)

/-- The tokens of a sign-in are accepted.  A refresh comes when it is not due, or its answer is
no answer; if it fails, there was no cookie, and if it brings a token, then the one in the
cookie.  All other responses come before the cookie has run out. -/
structure Meets : Prop where
  accepted : ∀ request tokens identity, r.errand = .callback request →
    reached config (world.atTime r.served) request r.state = some (tokens, identity) →
      Accepted world tokens ∨
        r.client.Keeps r.received tokens.accessToken (r.expiry tokens.expiresIn none)
  failed : r.RefreshDue → r.RefreshFails world → r.client.tokenCookie r.received = none
  brings : r.RefreshDue → r.opened.refreshToken.truthy = true →
    ∀ tokens, r.refreshed world = .ok tokens → r.client.Keeps r.received tokens.accessToken
      (r.expiry tokens.expiresIn r.opened.tokenExpiresAt)
  stays : ¬ r.Replaces config world → r.opened.accessToken.truthy = true →
    (r.client.tokenCookie r.received).isSome = true

end Definitions

/-- A browser without session and cookie, and its requests one after the other. -/
inductive Run (config : Config) (world : World) : List Roundtrip → Client → Prop where
  | fresh : Run config world [] ⟨.cleared, 0, none⟩
  | next {trace : List Roundtrip} {client : Client} (run : Run config world trace client)
      (r : Roundtrip) (carries : r.client = client) (later : r.served ≤ r.received)
      (saves : r.Saves config world) : Run config world (trace ++ [r]) (r.after config world)

end Roundtrip

/-! ## The pages of the sign-in -/

section Pages

variable {config : Config} {world : World} {s : AppState}

theorem run_loginRedirect : ∃ answer t, world.run (loginRedirect config) s = (.ok answer, t) ∧
    answer.cookie = .keep ∧ s.session.SameLogin t.session := by
  unfold loginRedirect
  split
  · exact ⟨_, _, rfl, rfl, rfl⟩
  split
  · exact ⟨_, _, rfl, rfl, rfl⟩
  · exact ⟨_, _, rfl, rfl, rfl⟩

theorem run_logout : ∃ answer t, world.run (logout config) s = (.ok answer, t) ∧
    answer.cookie = .clear ∧ t.session.accessToken = .null := by
  unfold logout
  split <;> exact ⟨_, _, rfl, rfl, rfl⟩

end Pages

/-! ## The refresh -/

section Refresh

variable {config : Config} {world : World} {s : AppState} {request : Request} {now : ℚ}

/-- A refresh that is not due leaves the session. -/
theorem run_refresh_undue (identity : s.session.identity.isSome = true)
    (h : ¬ s.session.Due now) : ∃ t,
    (world.atTime now).run refreshSessionTokensIfNeeded s = (.ok true, t) ∧
      t.session = s.session := by
  cases hexpires : s.session.tokenExpiresAt with
  | none => exact ⟨_, (run_refresh_of_none (.inl hexpires)).1, rfl⟩
  | some expiresAt =>
    by_cases hzero : expiresAt = 0
    · rw [hzero] at hexpires
      exact ⟨_, (run_refresh_of_none (.inr hexpires)).1, rfl⟩
    · have hfresh : now < expiresAt - tokenRefreshSkewSeconds := by
        by_contra hdue
        exact h ⟨identity, expiresAt, hexpires, hzero, hdue⟩
      exact run_refresh_of_fresh hexpires hfresh

/-- So does `login_required`, up to the messages. -/
theorem run_loginRequired_undue (demo : config.demoMode = false) (h : ¬ s.session.Due now) :
    s.session.SameKeys ((world.atTime now).run (loginRequired config request) s).2.session := by
  cases hidentity : s.session.identity with
  | some identity =>
    obtain ⟨t, hrun, ht⟩ := @run_refresh_undue world { s with tick := s.tick + 2 } now
      (by rw [hidentity]; rfl) h
    rw [run_loginRequired_session hidentity demo, run_enterRefreshed.mpr ⟨rfl, hrun⟩, ht]
    exact .refl _
  | none =>
    obtain ⟨tick, ht⟩ := @run_readsIdentity (world.atTime now) _ _
      (resolveIdentity_calls config request) s
    unfold loginRequired
    rcases hresolve : (world.atTime now).run (resolveIdentity config request) s with ⟨e | found, t⟩
    · rw [World.run_bind_error hresolve]
      rw [hresolve] at ht
      rw [ht]
      exact .refl _
    · rw [hresolve] at ht
      obtain rfl : t = { s with tick := tick } := ht
      rw [World.run_bind_ok hresolve]
      cases found with
      | none =>
        exact run_movesSession ((keepsKeys_closed "").bind
          (unauthenticatedResponse_keepsKeys config request) fun _ => (keepsKeys_closed "").ret _)
          (world.atTime now) { s with tick := tick }
      | some identity =>
        simp only
        rw [World.run_session_bind]
        simp only [hidentity]
        exact .refl _

/-- The session with what the token endpoint made of its refresh token. -/
def Session.withAnswer (session : Session) (now : ℚ) : Except PyError Tokens → Session
  | .ok tokens => { session with
      accessToken := tokens.accessToken
      tokenExpiresAt :=
        match tokens.expiresIn.toSeconds with
        | .ok seconds => some (now + seconds)
        | .error _ => session.tokenExpiresAt }
  | .error (.oauthExchangeError _) => .cleared
  | .error _ => session

theorem run_refreshTokens_session (refreshToken : Json) :
    (world.run (refreshTokens refreshToken) s).2.session = s.session := by
  have hleaves : (refreshTokens refreshToken).Calls fun op => op.changesSession = false := by
    apply (refreshTokens_leaves refreshToken).mono
    intro op hop
    simp only [AppOp.leavesSession, Bool.and_eq_true, Bool.not_eq_true'] at hop
    exact hop.1
  exact run_keepsSession hleaves s

theorem run_refreshSessionTokens_session (refreshToken : Json) :
    ((world.atTime now).run (refreshSessionTokens refreshToken) s).2.session =
      s.session.withAnswer now ((world.atTime now).run (refreshTokens refreshToken) s).1 := by
  have hsession := @run_refreshTokens_session (world.atTime now) s refreshToken
  rcases htokens : (world.atTime now).run (refreshTokens refreshToken) s with ⟨e | tokens, t⟩
  · rw [htokens] at hsession
    rw [refreshSessionTokens, World.run_tryCatch_error (World.run_bind_error htokens)]
    cases e <;> first | rfl | exact hsession
  · rw [htokens] at hsession
    cases hseconds : tokens.expiresIn.toSeconds with
    | ok seconds =>
      rw [run_refreshSessionTokens_renewed htokens hseconds]
      simp only [Session.withAnswer, hseconds, ← hsession]
      rfl
    | error e =>
      rw [run_refreshSessionTokens_unread htokens hseconds]
      simp only [Session.withAnswer, hseconds, ← hsession]

/-- What follows the refresh writes a message at most. -/
theorem run_enterRefreshed_sameKeys (identity : Identity) :
    (world.run refreshSessionTokensIfNeeded s).2.session.SameKeys
      (world.run (enterRefreshed identity) s).2.session := by
  have hC := keepsKeys_closed ""
  unfold enterRefreshed
  rcases hrun : world.run refreshSessionTokensIfNeeded s with ⟨e | refreshed, t⟩
  · rw [World.run_bind_error hrun]
    exact .refl _
  · rw [World.run_bind_ok hrun]
    cases refreshed with
    | true => exact .refl _
    | false =>
      exact run_movesSession (hC.bind (flash_keepsKeys _ _) fun _ => hC.ret _) world t

theorem run_refreshIfDue_session {refreshToken : Json} {expiresAt : ℚ}
    (due : ¬ now < expiresAt - tokenRefreshSkewSeconds) (token : refreshToken.truthy = true) :
    ((world.atTime now).run (refreshIfDue refreshToken expiresAt) s).2.session =
      s.session.withAnswer now
        ((world.atTime now).run (refreshTokens refreshToken) { s with tick := s.tick + 1 }).1 := by
  have htime : (world.atTime now).time s.tick = now := rfl
  rw [refreshIfDue, World.run_time_bind, htime, if_neg due, if_neg (by simp [token])]
  exact run_refreshSessionTokens_session refreshToken

/-- Where a refresh is due and fails, the session is cleared. -/
theorem run_refreshIfDue_fails {refreshToken : Json} {expiresAt : ℚ}
    (due : ¬ now < expiresAt - tokenRefreshSkewSeconds)
    (fails : refreshToken.truthy = false ∨ ∃ message,
      ((world.atTime now).run (refreshTokens refreshToken) { s with tick := s.tick + 1 }).1 =
        .error (.oauthExchangeError message)) :
    ∃ t, (world.atTime now).run (refreshIfDue refreshToken expiresAt) s = (.ok false, t) ∧
      t.session = .cleared := by
  have htime : (world.atTime now).time s.tick = now := rfl
  rw [refreshIfDue, World.run_time_bind, htime, if_neg due]
  by_cases htoken : refreshToken.truthy = true
  · rw [if_neg (by simp [htoken])]
    rcases fails with hfalsy | ⟨message, hrefused⟩
    · rw [htoken] at hfalsy
      cases hfalsy
    rcases htokens : (world.atTime now).run (refreshTokens refreshToken)
      { s with tick := s.tick + 1 } with ⟨r, t⟩
    rw [htokens] at hrefused
    obtain rfl : r = .error (.oauthExchangeError message) := hrefused
    exact ⟨_, run_refreshSessionTokens_refused htokens, rfl⟩
  · rw [if_pos (by simpa using htoken)]
    exact ⟨_, rfl, rfl⟩

theorem run_loginRequired_fails (demo : config.demoMode = false) (h : s.session.Due now)
    (fails : s.session.refreshToken.truthy = false ∨ ∃ message,
      ((world.atTime now).run (refreshTokens s.session.refreshToken)
        { s with tick := s.tick + 4 }).1 = .error (.oauthExchangeError message)) :
    ∃ t, (world.atTime now).run (loginRequired config request) s =
        (.ok (.deny (.redirect .login)), t) ∧
      t.session.identity = none ∧ t.session.accessToken = .null := by
  obtain ⟨hsession, expiresAt, hexpires, hzero, hdue⟩ := h
  obtain ⟨identity, hidentity⟩ := Option.isSome_iff_exists.mp hsession
  have hrefresh := (@run_refresh_of_some (world.atTime now) { s with tick := s.tick + 2 } _
    hexpires hzero).1
  obtain ⟨t, hrun, ht⟩ := @run_refreshIfDue_fails world { s with tick := s.tick + 3 } now
    s.session.refreshToken expiresAt hdue fails
  rw [run_loginRequired_session hidentity demo, enterRefreshed,
    World.run_bind_ok (hrefresh.trans hrun)]
  refine ⟨_, rfl, ?_, ?_⟩
  · exact congrArg Session.identity ht
  · exact congrArg Session.accessToken ht

/-- Where a refresh is due and tried, its answer decides. -/
theorem run_loginRequired_due (demo : config.demoMode = false) (h : s.session.Due now)
    (token : s.session.refreshToken.truthy = true) :
    (s.session.withAnswer now ((world.atTime now).run (refreshTokens s.session.refreshToken)
        { s with tick := s.tick + 4 }).1).SameKeys
      ((world.atTime now).run (loginRequired config request) s).2.session := by
  obtain ⟨hsession, expiresAt, hexpires, hzero, hdue⟩ := h
  obtain ⟨identity, hidentity⟩ := Option.isSome_iff_exists.mp hsession
  have hrefresh : ((world.atTime now).run refreshSessionTokensIfNeeded
      { s with tick := s.tick + 2 }).2.session =
      s.session.withAnswer now ((world.atTime now).run (refreshTokens s.session.refreshToken)
        { s with tick := s.tick + 4 }).1 := by
    rw [(@run_refresh_of_some (world.atTime now) { s with tick := s.tick + 2 } _ hexpires hzero).1]
    exact run_refreshIfDue_session hdue token
  rw [run_loginRequired_session hidentity demo, ← hrefresh]
  exact run_enterRefreshed_sameKeys identity

end Refresh

/-! ## One roundtrip -/

namespace Client

variable {client : Client} {now : ℚ} {token : Json} {expiresAt : Option ℚ}

theorem opened_eq (client : Client) (now : ℚ) :
    client.opened now = client.session ∨ client.opened now = .cleared := by
  unfold opened
  dsimp only
  split
  · exact .inl rfl
  · exact .inr rfl

theorem tokenCookie_set {kept : Json × Option ℚ} (h : client.tokenCookie now = some kept) :
    client.cookie = some kept := (Option.filter_eq_some_iff.mp h).1

/-- What the cookie has, it has until it runs out. -/
theorem Keeps.still {before : ℚ} (h : client.Keeps before token expiresAt)
    (there : (client.tokenCookie now).isSome = true) : client.Keeps now token expiresAt := by
  intro htruthy
  obtain ⟨lasts, hcookie, hlasts⟩ := h htruthy
  obtain ⟨kept, hkept⟩ := Option.isSome_iff_exists.mp there
  obtain rfl := Option.some.inj ((tokenCookie_set hkept).symm.trans (tokenCookie_set hcookie))
  exact ⟨lasts, hkept, hlasts⟩

theorem Keeps.opened {before : ℚ}
    (h : client.Keeps before client.session.accessToken client.session.tokenExpiresAt) (now : ℚ) :
    client.Keeps before (client.opened now).accessToken (client.opened now).tokenExpiresAt := by
  rcases client.opened_eq now with hopened | hopened
  · rwa [hopened]
  · rw [hopened]
    rintro ⟨⟩

end Client

namespace Roundtrip

section Steps

variable {config : Config} {world : World} {r : Roundtrip}

theorem after_of_ok {change : CookieChange} {t : AppState}
    (h : r.respond config world = (.ok change, t)) :
    (r.after config world).session = t.session ∧
      (r.after config world).cookie = change.apply r.received r.client.cookie := by
  rw [after, h]
  exact ⟨rfl, rfl⟩

/-- The response of a page of the sign-in. -/
theorem respond_of_page {page : App Answer} {answer : Answer} {t : AppState}
    (herrand : r.errand.cookieChange config = do return (← page).cookie)
    (h : (world.atTime r.served).run page r.state = (.ok answer, t)) :
    r.respond config world = (.ok answer.cookie, t) := by
  rw [respond, herrand, World.run_bind_ok h]
  rfl

/-- Where the cookie is left, it is in step with what the session has then. -/
theorem keeps_after (hcookie : (r.after config world).cookie = r.client.cookie) (now : ℚ)
    (token : Json) (expiresAt : Option ℚ) :
    (r.after config world).Keeps now token expiresAt ↔ r.client.Keeps now token expiresAt := by
  unfold Client.Keeps Client.tokenCookie
  rw [hcookie]

/-- A response that leaves the cookie, the token and the identity. -/
theorem inStep_iff_of_kept (herrand : r.errand ≠ .logout)
    (hcookie : (r.after config world).cookie = r.client.cookie)
    (htoken : (r.after config world).session.accessToken = r.opened.accessToken)
    (hexpires : (r.after config world).session.tokenExpiresAt = r.opened.tokenExpiresAt)
    (hidentity : r.opened.identity.isSome = true →
      (r.after config world).session.identity.isSome = true) :
    r.InStep config world ↔
      r.client.Keeps r.received r.opened.accessToken r.opened.tokenExpiresAt := by
  rw [← htoken, ← hexpires, ← keeps_after hcookie]
  constructor
  · exact InStep.copied
  · refine fun hcopied => ⟨hcopied, fun h => ?_⟩
    rcases h with hlogout | ⟨hsome, hnone⟩
    · exact absurd hlogout herrand
    · have hkept := hidentity hsome
      rw [hnone] at hkept
      cases hkept

theorem inStep_iff_of_sameLogin (herrand : r.errand ≠ .logout)
    (hcookie : (r.after config world).cookie = r.client.cookie)
    (hlogin : r.opened.SameLogin (r.after config world).session) :
    r.InStep config world ↔
      r.client.Keeps r.received r.opened.accessToken r.opened.tokenExpiresAt := by
  apply inStep_iff_of_kept herrand hcookie
  · rw [hlogin]
  · rw [hlogin]
  · rw [hlogin]
    exact id

theorem inStep_iff_of_sameKeys (herrand : r.errand ≠ .logout)
    (hcookie : (r.after config world).cookie = r.client.cookie)
    (hkeys : r.opened.SameKeys (r.after config world).session) :
    r.InStep config world ↔
      r.client.Keeps r.received r.opened.accessToken r.opened.tokenExpiresAt := by
  refine inStep_iff_of_kept herrand hcookie ?_ ?_ hkeys.identity
  · rw [hkeys.keys]
  · rw [hkeys.keys]

theorem inStep_iff_of_loginRedirect (herrand : r.errand = .loginRedirect) :
    r.InStep config world ↔
      r.client.Keeps r.received r.opened.accessToken r.opened.tokenExpiresAt := by
  obtain ⟨answer, t, hrun, hcookie, hlogin⟩ :=
    @run_loginRedirect config (world.atTime r.served) r.state
  obtain ⟨hsession, hafter⟩ := after_of_ok (respond_of_page (by rw [herrand]; rfl) hrun)
  refine inStep_iff_of_sameLogin (by rw [herrand]; rintro ⟨⟩) ?_ ?_
  · rw [hafter, hcookie]
    rfl
  · rw [hsession]
    exact hlogin

theorem inStep_of_logout (herrand : r.errand = .logout) : r.InStep config world := by
  obtain ⟨answer, t, hrun, hcookie, htoken⟩ := @run_logout config (world.atTime r.served) r.state
  obtain ⟨hsession, hafter⟩ := after_of_ok (respond_of_page (by rw [herrand]; rfl) hrun)
  refine ⟨?_, fun _ => ?_⟩
  · intro htruthy
    rw [hsession, htoken] at htruthy
    cases htruthy
  · rw [Client.tokenCookie, hafter, hcookie]
    rfl

/-! ### The callback -/

theorem inStep_iff_of_unreached {request : Request} (herrand : r.errand = .callback request)
    (h : reached config (world.atTime r.served) request r.state = none) :
    r.InStep config world ↔
      r.client.Keeps r.received r.opened.accessToken r.opened.tokenExpiresAt := by
  obtain ⟨t, hrun, hlogin⟩ := run_callback_none h
  obtain ⟨hsession, hafter⟩ := after_of_ok (respond_of_page (by rw [herrand]; rfl) hrun)
  refine inStep_iff_of_sameLogin (by rw [herrand]; rintro ⟨⟩) ?_ ?_
  · rw [hafter]
    rfl
  · rw [hsession]
    exact hlogin

/-- Where somebody is signed in afterwards, the copies are what matters. -/
theorem inStep_iff_copied (herrand : r.errand ≠ .logout)
    (hidentity : (r.after config world).session.identity.isSome = true) :
    r.InStep config world ↔
      (r.after config world).Keeps r.received (r.after config world).session.accessToken
        (r.after config world).session.tokenExpiresAt := by
  constructor
  · exact InStep.copied
  · intro hcopied
    refine ⟨hcopied, ?_⟩
    intro h
    rcases h with hlogout | ⟨-, hnone⟩
    · exact absurd hlogout herrand
    · rw [hnone] at hidentity
      cases hidentity

/-- A sign-in whose last part raises leaves the cookie. -/
theorem inStep_iff_of_refused {request : Request} {tokens : CodeTokens} {identity : Identity}
    {e : PyError} {u v : AppState} (herrand : r.errand = .callback request)
    (hcallback : (world.atTime r.served).run (callback config request) r.state =
      (world.atTime r.served).run (tryCatch (establish tokens identity) signInFailed) u)
    (hrun : (world.atTime r.served).run (establish tokens identity) u = (.error e, v))
    (hidentity : v.session.identity = some identity) :
    r.InStep config world ↔
      r.client.Keeps r.received v.session.accessToken v.session.tokenExpiresAt := by
  obtain ⟨t, hfailed, hmessage⟩ := @run_signInFailed (world.atTime r.served) e v
  have hanswer := hcallback.trans ((World.run_tryCatch_error hrun).trans hfailed)
  obtain ⟨hsession, hafter⟩ := after_of_ok (respond_of_page (by rw [herrand]; rfl) hanswer)
  rw [hmessage] at hsession
  rw [inStep_iff_copied (by rw [herrand]; rintro ⟨⟩) (by rw [hsession, hidentity]; rfl), hsession,
    keeps_after hafter]

/-- A sign-in that goes through. -/
theorem inStep_iff_of_established {request : Request} {tokens : CodeTokens} {identity : Identity}
    {answer : Answer} {u v : AppState} (herrand : r.errand = .callback request)
    (hcallback : (world.atTime r.served).run (callback config request) r.state =
      (world.atTime r.served).run (tryCatch (establish tokens identity) signInFailed) u)
    (hrun : (world.atTime r.served).run (establish tokens identity) u = (.ok answer, v))
    (hidentity : v.session.identity = some identity) :
    r.InStep config world ↔
      Client.Keeps ⟨v.session, r.served, answer.cookie.apply r.received r.client.cookie⟩
        r.received v.session.accessToken v.session.tokenExpiresAt := by
  obtain ⟨hsession, hafter⟩ := after_of_ok (respond_of_page (by rw [herrand]; rfl)
    (hcallback.trans (World.run_tryCatch_ok hrun)))
  rw [inStep_iff_copied (by rw [herrand]; rintro ⟨⟩) (by rw [hsession, hidentity]; rfl), hsession]
  unfold Client.Keeps Client.tokenCookie
  rw [hafter]

/-- A sign-in whose tokens are accepted is in step: the cookie outlasts the session's token. -/
theorem inStep_of_accepted {request : Request} {tokens : CodeTokens} {identity : Identity}
    {u : AppState} (herrand : r.errand = .callback request) (later : r.served ≤ r.received)
    (hcallback : (world.atTime r.served).run (callback config request) r.state =
      (world.atTime r.served).run (tryCatch (establish tokens identity) signInFailed) u)
    (haccepted : Accepted world tokens) : r.InStep config world := by
  obtain ⟨seconds, hseconds, hcookie⟩ := haccepted
  obtain ⟨v, hrun, hv⟩ := @run_establish_ok (world.atTime r.served) tokens identity u _ hseconds
  by_cases htoken : tokens.accessToken.truthy = true
  · have hcookie : (world.atTime r.served).cookieError tokens.accessToken
        (some (max 1 seconds)) = none := hcookie htoken
    rw [if_pos htoken, hcookie] at hrun
    rw [inStep_iff_of_established herrand hcallback hrun (by rw [hv]; rfl), hv]
    intro _
    have hmax : (seconds : ℚ) ≤ (max 1 seconds : Int) := by
      exact_mod_cast le_max_right 1 seconds
    have hone : (1 : ℚ) ≤ (max 1 seconds : Int) := by
      exact_mod_cast le_max_left 1 seconds
    refine ⟨r.received + (max 1 seconds : Int), ?_, fun time htime => ?_⟩
    · have halive : r.received < r.received + (max 1 seconds : Int) := by linarith
      refine Option.filter_eq_some_iff.mpr ⟨rfl, ?_⟩
      exact decide_eq_true halive
    · obtain rfl : r.served + seconds = time := Option.some.inj htime
      linarith
  · rw [if_neg htoken] at hrun
    rw [inStep_iff_of_established herrand hcallback hrun (by rw [hv]; rfl), hv]
    exact fun htruthy => absurd htruthy htoken

/-- A sign-in whose tokens are refused has them in the session, but not in the cookie. -/
theorem inStep_iff_of_not_accepted {request : Request} {tokens : CodeTokens} {identity : Identity}
    {u : AppState} (herrand : r.errand = .callback request)
    (hcallback : (world.atTime r.served).run (callback config request) r.state =
      (world.atTime r.served).run (tryCatch (establish tokens identity) signInFailed) u)
    (hrefused : ¬ Accepted world tokens) :
    r.InStep config world ↔
      r.client.Keeps r.received tokens.accessToken (r.expiry tokens.expiresIn none) := by
  cases hseconds : tokens.expiresIn.toSeconds with
  | error e =>
    rw [inStep_iff_of_refused herrand hcallback (run_establish_error hseconds) rfl, expiry,
      hseconds]
    rfl
  | ok seconds =>
    obtain ⟨v, hrun, hv⟩ := @run_establish_ok (world.atTime r.served) tokens identity u _ hseconds
    have htoken : tokens.accessToken.truthy = true := by
      by_contra htoken
      exact hrefused ⟨seconds, hseconds, fun htruthy => absurd htruthy htoken⟩
    cases hcookie : world.cookieError tokens.accessToken (some (max 1 seconds)) with
    | none => exact absurd ⟨seconds, hseconds, fun _ => hcookie⟩ hrefused
    | some e =>
      have hcookie : (world.atTime r.served).cookieError tokens.accessToken
          (some (max 1 seconds)) = some e := hcookie
      rw [if_pos htoken, hcookie] at hrun
      rw [inStep_iff_of_refused herrand hcallback hrun (by rw [hv]; rfl), expiry, hseconds, hv]
      rfl

/-- A sign-in is in step if its tokens are accepted, or were in the cookie already. -/
theorem inStep_iff_of_reached {request : Request} {tokens : CodeTokens} {identity : Identity}
    (herrand : r.errand = .callback request) (later : r.served ≤ r.received)
    (h : reached config (world.atTime r.served) request r.state = some (tokens, identity)) :
    r.InStep config world ↔
      Accepted world tokens ∨
        r.client.Keeps r.received tokens.accessToken (r.expiry tokens.expiresIn none) := by
  obtain ⟨u, hcallback⟩ := run_callback_some h
  by_cases haccepted : Accepted world tokens
  · exact iff_of_true (inStep_of_accepted herrand later hcallback haccepted) (.inl haccepted)
  · rw [inStep_iff_of_not_accepted herrand hcallback haccepted, or_iff_right haccepted]

/-! ### Guarded requests -/

section Guarded

variable {lower : String → String} {request : Request} {route : Route}

theorem after_guarded (herrand : r.errand = .guarded lower request route) :
    (r.after config world).cookie = r.client.cookie ∧
      (r.after config world).session =
        ((world.atTime r.served).run (serve config lower request route) r.state).2.session := by
  unfold after respond
  rw [herrand, Errand.cookieChange]
  rcases hrun : (world.atTime r.served).run (serve config lower request route) r.state with
    ⟨e | response, t⟩
  · rw [World.run_bind_error hrun]
    exact ⟨rfl, rfl⟩
  · rw [World.run_bind_ok hrun]
    exact ⟨rfl, rfl⟩

theorem guard_sameKeys_after (herrand : r.errand = .guarded lower request route) :
    ((world.atTime r.served).run (route.guard config request) r.state).2.session.SameKeys
      (r.after config world).session := by
  rw [(after_guarded herrand).2]
  exact run_serve_sameKeys config (world.atTime r.served) lower request route r.state

/-- The tokens are left alone where no refresh is due. -/
theorem sameKeys_of_undue (demo : config.demoMode = false)
    (herrand : r.errand = .guarded lower request route) (undue : ¬ r.RefreshDue) :
    r.opened.SameKeys (r.after config world).session := by
  have hguard : r.opened.SameKeys
      ((world.atTime r.served).run (route.guard config request) r.state).2.session := by
    unfold Route.guard
    by_cases hadmin : route.isAdmin = true
    · rw [if_pos hadmin]
      exact run_movesSession (adminRequired_keepsKeys config request) (world.atTime r.served)
        r.state
    · rw [if_neg hadmin]
      apply @run_loginRequired_undue config world r.state request r.served demo
      intro hdue
      exact undue ⟨lower, request, route, herrand, by simpa using hadmin, hdue⟩
  exact hguard.trans (guard_sameKeys_after herrand)

/-- A failed refresh leaves the cookie. -/
theorem inStep_iff_of_fails (demo : config.demoMode = false) (due : r.RefreshDue)
    (fails : r.RefreshFails world) :
    r.InStep config world ↔ r.client.tokenCookie r.received = none := by
  obtain ⟨lower, request, route, herrand, hroute, due⟩ := due
  obtain ⟨t, hrun, hidentity, htoken⟩ := @run_loginRequired_fails config world r.state request
    r.served demo due fails
  have hguard : (world.atTime r.served).run (route.guard config request) r.state =
      (.ok (.deny (.redirect .login)), t) := by
    rw [Route.guard, hroute]
    exact hrun
  obtain ⟨hcookie, hsession⟩ := @after_guarded config world r lower request route herrand
  rw [run_serve_deny hguard] at hsession
  have htokenCookie : (r.after config world).tokenCookie r.received =
      r.client.tokenCookie r.received := by
    unfold Client.tokenCookie
    rw [hcookie]
  rw [← htokenCookie]
  constructor
  · intro hstep
    apply hstep.cleared
    right
    rw [hsession]
    exact ⟨due.1, hidentity⟩
  · intro hnone
    refine ⟨fun htruthy => ?_, fun _ => hnone⟩
    rw [hsession, htoken] at htruthy
    cases htruthy

theorem token_of_not_fails (h : ¬ r.RefreshFails world) :
    r.opened.refreshToken.truthy = true := by
  by_contra htoken
  exact h (.inl (by simpa using htoken))

/-- A refresh that brings tokens leaves the cookie. -/
theorem inStep_iff_of_brings (demo : config.demoMode = false) (due : r.RefreshDue)
    (token : r.opened.refreshToken.truthy = true) {tokens : Tokens}
    (brings : r.refreshed world = .ok tokens) :
    r.InStep config world ↔ r.client.Keeps r.received tokens.accessToken
      (r.expiry tokens.expiresIn r.opened.tokenExpiresAt) := by
  obtain ⟨lower, request, route, herrand, hroute, due⟩ := due
  have hguard := @run_loginRequired_due config world r.state request r.served demo due token
  have hafter := @guard_sameKeys_after config world r lower request route herrand
  have hbrings : ((world.atTime r.served).run (refreshTokens r.state.session.refreshToken)
      { r.state with tick := r.state.tick + 4 }).1 = .ok tokens := brings
  rw [Route.guard, hroute] at hafter
  rw [hbrings] at hguard
  have hkeys := hguard.trans hafter
  rw [inStep_iff_copied (by rw [herrand]; rintro ⟨⟩) (hkeys.identity due.1),
    keeps_after (after_guarded herrand).1, hkeys.keys]
  rfl

/-- A refresh that is answered by nothing readable leaves the session. -/
theorem sameKeys_of_unreadable (demo : config.demoMode = false)
    (herrand : r.errand = .guarded lower request route) (due : r.RefreshDue)
    (hfails : ¬ r.RefreshFails world) {e : PyError} (unreadable : r.refreshed world = .error e) :
    r.opened.SameKeys (r.after config world).session := by
  obtain ⟨lower', request', route', herrand', hroute, due⟩ := due
  obtain ⟨rfl, rfl, rfl⟩ := Errand.guarded.inj (herrand.symm.trans herrand')
  have token := token_of_not_fails hfails
  have hguard := @run_loginRequired_due config world r.state request r.served demo due token
  have hafter := @guard_sameKeys_after config world r lower request route herrand
  have hunreadable : ((world.atTime r.served).run (refreshTokens r.state.session.refreshToken)
      { r.state with tick := r.state.tick + 4 }).1 = .error e := unreadable
  rw [Route.guard, hroute] at hafter
  rw [hunreadable] at hguard
  refine .trans ?_ hafter
  cases e with
  | oauthExchangeError message => exact absurd (.inr ⟨message, unreadable⟩) hfails
  | _ => exact hguard

end Guarded

/-! ### The condition -/

theorem not_refreshDue (hpage : ∀ lower request route, r.errand ≠ .guarded lower request route) :
    ¬ r.RefreshDue := by
  intro h
  obtain ⟨lower, request, route, herrand, -⟩ := h
  exact hpage lower request route herrand

/-- A response that leaves the tokens is in step as long as the cookie is there. -/
theorem inStep_iff_of_stays (demo : config.demoMode = false) (stays : ¬ r.Replaces config world) :
    r.InStep config world ↔
      r.client.Keeps r.received r.opened.accessToken r.opened.tokenExpiresAt := by
  cases herrand : r.errand with
  | loginRedirect => exact inStep_iff_of_loginRedirect herrand
  | logout => exact absurd (.logout herrand) stays
  | callback request =>
    cases hreached : reached config (world.atTime r.served) request r.state with
    | none => exact inStep_iff_of_unreached herrand hreached
    | some result => exact absurd (.signIn herrand hreached) stays
  | guarded lower request route =>
    have hkeys : r.opened.SameKeys (r.after config world).session := by
      by_cases due : r.RefreshDue
      · cases hrefreshed : r.refreshed world with
        | ok tokens => exact absurd (.brings due hrefreshed) stays
        | error e =>
          exact sameKeys_of_unreadable demo herrand due (fun h => stays (.fails due h)) hrefreshed
      · exact sameKeys_of_undue demo herrand due
    exact inStep_iff_of_sameKeys (by rw [herrand]; rintro ⟨⟩) (after_guarded herrand).1 hkeys

theorem meets_iff_of_stays (stays : ¬ r.Replaces config world) :
    r.Meets config world ↔
      (r.opened.accessToken.truthy = true → (r.client.tokenCookie r.received).isSome = true) := by
  constructor
  · exact fun h => h.stays stays
  · intro h
    refine ⟨fun request tokens identity herrand hreached => ?_, fun due hfails => ?_,
      fun due _ tokens hrefreshed => ?_, fun _ => h⟩
    · exact absurd (.signIn herrand hreached) stays
    · exact absurd (.fails due hfails) stays
    · exact absurd (.brings due hrefreshed) stays

/-- The session's token was in the cookie, and is there until the cookie runs out. -/
theorem keeps_opened_iff {before : ℚ} (copied : r.client.Keeps before
      r.client.session.accessToken r.client.session.tokenExpiresAt) :
    r.client.Keeps r.received r.opened.accessToken r.opened.tokenExpiresAt ↔
      (r.opened.accessToken.truthy = true → (r.client.tokenCookie r.received).isSome = true) := by
  constructor
  · intro h htruthy
    obtain ⟨lasts, hcookie, -⟩ := h htruthy
    rw [hcookie]
    rfl
  · intro h htruthy
    exact (copied.opened r.served).still (h htruthy) htruthy

/-- A callback that gets as far as the session. -/
theorem meets_iff_of_reached {request : Request} {tokens : CodeTokens} {identity : Identity}
    (herrand : r.errand = .callback request)
    (h : reached config (world.atTime r.served) request r.state = some (tokens, identity)) :
    r.Meets config world ↔
      Accepted world tokens ∨
        r.client.Keeps r.received tokens.accessToken (r.expiry tokens.expiresIn none) := by
  have hdue : ¬ r.RefreshDue := not_refreshDue (by rw [herrand]; rintro _ _ _ ⟨⟩)
  constructor
  · exact fun hmeets => hmeets.accepted request tokens identity herrand h
  · intro haccepted
    refine ⟨fun request' tokens' identity' herrand' hreached => ?_, fun due => absurd due hdue,
      fun due => absurd due hdue, fun stays => absurd (.signIn herrand h) stays⟩
    obtain rfl := Errand.callback.inj (herrand.symm.trans herrand')
    obtain ⟨rfl, -⟩ := Prod.mk.inj (Option.some.inj (h.symm.trans hreached))
    exact haccepted

/-- A refresh that is due is no callback. -/
theorem RefreshDue.errand_ne (due : r.RefreshDue) (request : Request) :
    r.errand ≠ .callback request := by
  obtain ⟨_, _, _, herrand, -⟩ := due
  rw [herrand]
  rintro ⟨⟩

theorem meets_iff_of_fails (due : r.RefreshDue) (fails : r.RefreshFails world) :
    r.Meets config world ↔ r.client.tokenCookie r.received = none := by
  constructor
  · exact fun hmeets => hmeets.failed due fails
  · intro hcookie
    refine ⟨fun request _ _ herrand => absurd herrand (due.errand_ne request), fun _ _ => hcookie,
      fun _ htoken tokens htokens => ?_, fun stays => absurd (.fails due fails) stays⟩
    rcases fails with hfalsy | ⟨message, hrefused⟩
    · rw [htoken] at hfalsy
      cases hfalsy
    · rw [htokens] at hrefused
      cases hrefused

theorem meets_iff_of_brings (due : r.RefreshDue) (hfails : ¬ r.RefreshFails world)
    {tokens : Tokens} (brings : r.refreshed world = .ok tokens) :
    r.Meets config world ↔ r.client.Keeps r.received tokens.accessToken
      (r.expiry tokens.expiresIn r.opened.tokenExpiresAt) := by
  have token := token_of_not_fails hfails
  constructor
  · exact fun hmeets => hmeets.brings due token tokens brings
  · intro hkeeps
    refine ⟨fun request _ _ herrand => absurd herrand (due.errand_ne request),
      fun _ h => absurd h hfails, fun _ _ tokens' htokens' => ?_,
      fun stays => absurd (.brings due brings) stays⟩
    obtain rfl := Except.ok.inj (brings.symm.trans htokens')
    exact hkeeps

/-- Where the copies agree before, they do afterwards exactly if the condition is met. -/
theorem inStep_iff_meets {before : ℚ} (demo : config.demoMode = false)
    (later : r.served ≤ r.received) (copied : r.client.Keeps before
      r.client.session.accessToken r.client.session.tokenExpiresAt) :
    r.InStep config world ↔ r.Meets config world := by
  by_cases hreplaces : r.Replaces config world
  · cases hreplaces with
    | logout herrand =>
      have hdue : ¬ r.RefreshDue := not_refreshDue (by rw [herrand]; rintro _ _ _ ⟨⟩)
      refine iff_of_true (inStep_of_logout herrand) ⟨fun request _ _ hcallback => ?_,
        fun due => absurd due hdue, fun due => absurd due hdue,
        fun stays => absurd (.logout herrand) stays⟩
      rw [herrand] at hcallback
      cases hcallback
    | signIn herrand hreached =>
      rw [inStep_iff_of_reached herrand later hreached, meets_iff_of_reached herrand hreached]
    | fails due fails => rw [inStep_iff_of_fails demo due fails, meets_iff_of_fails due fails]
    | brings due brings =>
      by_cases hfails : r.RefreshFails world
      · rw [inStep_iff_of_fails demo due hfails, meets_iff_of_fails due hfails]
      · rw [inStep_iff_of_brings demo due (token_of_not_fails hfails) brings,
          meets_iff_of_brings due hfails brings]
  · rw [inStep_iff_of_stays demo hreplaces, meets_iff_of_stays hreplaces, keeps_opened_iff copied]

end Steps

/-! ## Runs -/

/-- The two copies agree after every response of a run exactly if every roundtrip meets the
condition. -/
theorem inStep_iff_of_run (config : Config) (world : World) (trace : List Roundtrip)
    (client : Client) (demo : config.demoMode = false) (run : Run config world trace client) :
    (∀ r ∈ trace, r.InStep config world) ↔ ∀ r ∈ trace, r.Meets config world := by
  have hrun : ((∀ r ∈ trace, r.InStep config world) ↔ ∀ r ∈ trace, r.Meets config world) ∧
      ((∀ r ∈ trace, r.InStep config world) → ∃ now,
        client.Keeps now client.session.accessToken client.session.tokenExpiresAt) := by
    induction run with
    | fresh =>
      refine ⟨by simp, fun _ => ⟨0, fun htruthy => ?_⟩⟩
      cases htruthy
    | @next trace client run r carries later saves ih =>
      obtain ⟨hiff, hcopied⟩ := ih
      subst carries
      simp only [List.forall_mem_append, List.forall_mem_singleton]
      refine ⟨?_, fun h => ⟨r.received, h.2.copied⟩⟩
      rw [← hiff]
      constructor
      · intro h'
        obtain ⟨htrace, hstep⟩ := h'
        obtain ⟨now, hkeeps⟩ := hcopied htrace
        exact ⟨htrace, (inStep_iff_meets demo later hkeeps).mp hstep⟩
      · intro h'
        obtain ⟨htrace, hmeets⟩ := h'
        obtain ⟨now, hkeeps⟩ := hcopied htrace
        exact ⟨htrace, (inStep_iff_meets demo later hkeeps).mpr hmeets⟩
  exact hrun.1

/-- Cognito signs everybody in for an hour, and refreshes with another access token. -/
def refreshingWorld : World := { exchangeWorld adminClaims (.int 3600) with
  state := fun _ => "st"
  token := fun _ _ => .http 200 (.json (.obj [("access_token", .str "at2")])) }

def sentAway : Roundtrip := ⟨⟨.cleared, 0, none⟩, .loginRedirect, emptyState, 0, 0, true⟩

def cameBack : Roundtrip :=
  ⟨sentAway.after sampleConfig refreshingWorld, .callback callbackRequest, emptyState, 0, 0, true⟩

/-- The browser after the sign-in. -/
def signedIn : Client := cameBack.after sampleConfig refreshingWorld

def dashboardAt (client : Client) (now : ℚ) : Roundtrip :=
  ⟨client, .guarded id dashboardRequest .userDashboard, emptyState, now, now, true⟩

theorem signedIn_run : Run sampleConfig refreshingWorld [sentAway, cameBack] signedIn :=
  (Run.fresh.next sentAway rfl le_rfl nofun).next cameBack rfl le_rfl nofun

theorem dashboard_run {trace : List Roundtrip} {client : Client}
    (run : Run sampleConfig refreshingWorld trace client) (now : ℚ) :
    Run sampleConfig refreshingWorld (trace ++ [dashboardAt client now])
      ((dashboardAt client now).after sampleConfig refreshingWorld) :=
  run.next _ rfl le_rfl nofun

/-- The browser has what it had after the sign-in, in a session signed at a time. -/
structure StillSignedIn (client : Client) (signed : Nat) : Prop where
  session : signedIn.session.SameKeys client.session
  signed : client.signed = signed
  cookie : client.cookie = signedIn.cookie

theorem signedIn_expires : signedIn.session.tokenExpiresAt = some 3600 := by
  show some ((0 : ℚ) + (3600 : Int)) = some 3600
  norm_num

theorem signedIn_cookie : signedIn.cookie = some (.str "at", some 3600) := by
  show some (Json.str "at", some ((0 : ℚ) + (max 1 3600 : Int))) = some (.str "at", some 3600)
  norm_num

section Looks

variable {client : Client} {signed now : Nat}

theorem StillSignedIn.opened (h : StillSignedIn client signed) (hsigned : signed ≤ now)
    (soon : now ≤ signed + 1800) : (dashboardAt client now).opened = client.session := by
  refine if_pos ?_
  show 0 ≤ ⌊(now : ℚ)⌋ - ⌊client.signed⌋ ∧ ⌊(now : ℚ)⌋ - ⌊client.signed⌋ ≤ 1800
  rw [h.signed, Int.floor_natCast, Int.floor_natCast]
  omega

theorem StillSignedIn.due_iff (h : StillSignedIn client signed) (hsigned : signed ≤ now)
    (soon : now ≤ signed + 1800) : (dashboardAt client now).RefreshDue ↔ 3540 ≤ now := by
  have hexpires : (dashboardAt client now).opened.tokenExpiresAt = some 3600 := by
    rw [h.opened hsigned soon, h.session.keys]
    exact signedIn_expires
  have hidentity : (dashboardAt client now).opened.identity.isSome = true := by
    rw [h.opened hsigned soon]
    exact h.session.identity rfl
  constructor
  · intro h'
    obtain ⟨_, _, _, -, -, -, expiresAt, hsome, -, hdue⟩ := h'
    obtain rfl := Option.some.inj (hexpires.symm.trans hsome)
    by_contra hlt
    have hnow : (now : ℚ) < 3540 := by exact_mod_cast not_le.mp hlt
    refine hdue (lt_of_lt_of_le hnow ?_)
    norm_num [tokenRefreshSkewSeconds]
  · intro hnow
    refine ⟨_, _, _, rfl, rfl, hidentity, 3600, hexpires, by norm_num, not_lt.mpr ?_⟩
    have hnow : (3540 : ℚ) ≤ now := by exact_mod_cast hnow
    refine le_trans ?_ hnow
    norm_num [tokenRefreshSkewSeconds]

theorem StillSignedIn.look (h : StillSignedIn client signed) (hsigned : signed ≤ now)
    (soon : now ≤ signed + 1800) (early : now < 3540) :
    StillSignedIn ((dashboardAt client now).after sampleConfig refreshingWorld) now := by
  have hundue : ¬ (dashboardAt client now).RefreshDue := by
    rw [h.due_iff hsigned soon]
    omega
  have hkeys := @sameKeys_of_undue sampleConfig refreshingWorld (dashboardAt client now) _ _ _ rfl
    rfl hundue
  rw [h.opened hsigned soon] at hkeys
  exact ⟨h.session.trans hkeys, rfl, (after_guarded rfl).1.trans h.cookie⟩

/-- A refresh renews the token in the session alone. -/
theorem StillSignedIn.not_inStep (h : StillSignedIn client signed) (hsigned : signed ≤ now)
    (soon : now ≤ signed + 1800) (late : 3540 ≤ now) :
    ¬ (dashboardAt client now).InStep sampleConfig refreshingWorld := by
  intro hstep
  have hdue := (h.due_iff hsigned soon).mpr late
  have htoken : (dashboardAt client now).opened.refreshToken.truthy = true := by
    rw [h.opened hsigned soon, h.session.keys]
    rfl
  obtain ⟨lasts, hcookie, -⟩ := (inStep_iff_of_brings rfl hdue htoken rfl).mp hstep rfl
  have hkept := (Client.tokenCookie_set hcookie).symm.trans (h.cookie.trans signedIn_cookie)
  have hsame : "at2" = "at" := Json.str.inj (Prod.mk.inj (Option.some.inj hkept)).1
  exact absurd hsame (by decide)

end Looks

theorem stillSignedIn : StillSignedIn signedIn 0 := ⟨.refl _, by rw [Nat.cast_zero]; rfl, rfl⟩

/-- Twenty-five minutes after the sign-in the copies agree. -/
theorem soon_in_step : ∃ client,
    Run sampleConfig refreshingWorld [sentAway, cameBack, dashboardAt signedIn 1500] client ∧
      ∀ r ∈ [sentAway, cameBack, dashboardAt signedIn 1500],
        r.InStep sampleConfig refreshingWorld := by
  have run := dashboard_run signedIn_run 1500
  refine ⟨_, run, (inStep_iff_of_run sampleConfig refreshingWorld _ _ rfl run).mpr ?_⟩
  have hsent : sentAway.Meets sampleConfig refreshingWorld :=
    ⟨nofun, fun h => absurd h (not_refreshDue nofun), fun h => absurd h (not_refreshDue nofun),
      nofun⟩
  have hback : cameBack.Meets sampleConfig refreshingWorld :=
    (meets_iff_of_reached rfl rfl).mpr (.inl ⟨3600, rfl, fun _ => rfl⟩)
  have hsoon : ¬ (dashboardAt signedIn 1500).RefreshDue := by
    rw [show (1500 : ℚ) = (1500 : Nat) by norm_num,
      stillSignedIn.due_iff (by norm_num) (by norm_num)]
    norm_num
  have hlook : (dashboardAt signedIn 1500).Meets sampleConfig refreshingWorld := by
    refine ⟨nofun, fun h => absurd h hsoon, fun h => absurd h hsoon, fun _ _ => ?_⟩
    have hcookie : (dashboardAt signedIn 1500).client.tokenCookie 1500 =
        some (.str "at", some 3600) := by
      refine Option.filter_eq_some_iff.mpr ⟨signedIn_cookie, ?_⟩
      exact decide_eq_true (show (1500 : ℚ) < 3600 by norm_num)
    exact Option.isSome_iff_exists.mpr ⟨_, hcookie⟩
  simp only [List.cons_append, List.nil_append, List.forall_mem_cons, List.not_mem_nil,
    false_imp_iff, implies_true, and_true]
  exact ⟨hsent, hback, hlook⟩

/-- A user looks at the dashboard every twenty-five minutes, and again when the tokens are about to
expire. -/
theorem refresh_leaves_cookie : ¬ ∀ (config : Config) (world : World) (trace : List Roundtrip)
    (client : Client), config.demoMode = false → Run config world trace client →
      ∀ r ∈ trace, r.InStep config world := by
  intro h
  have hfirst := @StillSignedIn.look signedIn 0 1500 stillSignedIn (by norm_num) (by norm_num)
    (by norm_num)
  have hsecond := @StillSignedIn.look _ 1500 3000 hfirst (by norm_num) (by norm_num) (by norm_num)
  have run := dashboard_run (dashboard_run (dashboard_run signedIn_run (1500 : Nat)) (3000 : Nat))
    (3590 : Nat)
  exact hsecond.not_inStep (show 3000 ≤ 3590 by norm_num) (by norm_num) (by norm_num)
    (h _ _ _ _ rfl run _ (List.mem_append_right _ (List.mem_singleton_self _)))

end Roundtrip

end TenantSaas
