import TenantSaas.Routes.AuthPages
import TenantSaas.Services.Transactions
import TenantSaas.Web.SessionKeys

/-!
# The end of a sign-in

`callback` writes the session piece by piece before the last thing that can go wrong has gone
right.
-/

namespace TenantSaas

open AuthPages

/-- The redirect back to the sign-in page. -/
def AuthPages.Answer.isError (answer : Answer) : Bool :=
  match answer.location with
  | .page (.redirect .login) => true
  | _ => false

/-- The sessions differ in the messages and in what `login_redirect` stores at most. -/
def Session.SameLogin (s t : Session) : Prop :=
  t = { s with
    oauthState := t.oauthState
    oauthCodeVerifier := t.oauthCodeVerifier
    flashes := t.flashes }

/-- The session has an identity, an access token and an expiry. -/
structure Session.SignedIn (session : Session) : Prop where
  identity : session.identity.isSome = true
  accessToken : session.accessToken.truthy = true
  tokenExpiresAt : session.tokenExpiresAt.isSome = true

/-- A callback that turns back leaves the identity there was; one that does not leaves a whole
session. -/
def AllOrNothing (config : Config) (world : World) (request : Request) (s : AppState) : Prop :=
  ∃ answer t, world.run (callback config request) s = (.ok answer, t) ∧
    (answer.isError = true → t.session.identity = s.session.identity) ∧
    (answer.isError = false → t.session.SignedIn)

/-- The state once the callback has taken the state and the verifier out of the session. -/
def AppState.popped (s : AppState) : AppState :=
  { s with
    session := { s.session with oauthState := none, oauthCodeVerifier := none }
    tick := s.tick + 2 }

/-- The tokens and the identity a callback has when it comes to `_start_session`, if it does. -/
def reached (config : Config) (world : World) (request : Request) (s : AppState) :
    Option (CodeTokens × Identity) :=
  if truthy (request.args "error") then none
  else
    (verifiedCode request s.session).bind fun verified =>
      (world.run (authenticate config verified.1 verified.2) s.popped).1.toOption

/-- The lifetime can be added to the time, and `set_cookie` takes the token. -/
def Accepted (world : World) (tokens : CodeTokens) : Prop :=
  ∃ seconds, tokens.expiresIn.toSeconds = .ok seconds ∧
    (tokens.accessToken.truthy = true →
      world.cookieError tokens.accessToken (some (max 1 seconds)) = none)

section Runs

variable {config : Config} {world : World} {tokens : CodeTokens} {identity : Identity}
  {s t : AppState}

/-- The session a sign-in starts, up to its expiry. -/
def begun (tokens : CodeTokens) (identity : Identity) : Session :=
  { Session.cleared with
    identity := some identity
    accessToken := tokens.accessToken
    refreshToken := tokens.refreshToken }

/-- Up to the expiry nothing fails. -/
theorem run_startSession_eq : world.run (startSession identity
      (some ⟨tokens.accessToken, tokens.refreshToken, tokens.expiresIn⟩)) s =
    world.run (do
      let expiresIn ← Prog.ofExcept tokens.expiresIn.toSeconds
      let session ← perform .session
      perform (.setSession { session with
        tokenExpiresAt := some (world.time (s.tick + 3) + expiresIn) }))
      { s with session := begun tokens identity, tick := s.tick + 4 } := rfl

theorem run_startSession {seconds : Int} (h : tokens.expiresIn.toSeconds = .ok seconds) :
    world.run (startSession identity
      (some ⟨tokens.accessToken, tokens.refreshToken, tokens.expiresIn⟩)) s =
      (.ok (), { s with
        session := { begun tokens identity with
          tokenExpiresAt := some (world.time (s.tick + 3) + seconds) }
        tick := s.tick + 6 }) := by
  rw [run_startSession_eq, h]
  rfl

theorem run_startSession_error {e : PyError} (h : tokens.expiresIn.toSeconds = .error e) :
    world.run (startSession identity
      (some ⟨tokens.accessToken, tokens.refreshToken, tokens.expiresIn⟩)) s =
      (.error e, { s with session := begun tokens identity, tick := s.tick + 4 }) := by
  rw [run_startSession_eq, h]
  rfl

theorem cookieMaxAge_of_toInt {expiresIn : Json} {seconds : Int}
    (h : expiresIn.toInt = .ok seconds) : cookieMaxAge expiresIn = .ok (some (max 1 seconds)) := by
  cases expiresIn with
  | null => cases h
  | _ => simp only [cookieMaxAge, h]

theorem run_setCookie (location : Location) {seconds : Int}
    (h : tokens.expiresIn.toSeconds = .ok seconds) (htoken : tokens.accessToken.truthy = true) :
    world.run (setCognitoAccessTokenCookie location tokens.accessToken tokens.expiresIn) s =
      ((match world.cookieError tokens.accessToken (some (max 1 seconds)) with
        | some e => .error e
        | none => .ok ⟨location, .set tokens.accessToken (some (max 1 seconds))⟩),
        { s with tick := s.tick + 1 }) := by
  unfold setCognitoAccessTokenCookie
  rw [htoken, cookieMaxAge_of_toInt (Json.toSeconds_eq_ok.mp h).1]
  show world.run (perform (.setCookie _ _) >>= _) s = _
  cases hcookie : world.cookieError tokens.accessToken (some (max 1 seconds)) with
  | none =>
    have hrun : world.run (perform (.setCookie tokens.accessToken (some (max 1 seconds)))) s =
        (.ok (), { s with tick := s.tick + 1 }) := by
      rw [World.run_perform, World.exec_of_answer (World.failure_of_internal rfl)]
      simp only [World.answer, hcookie]
    rw [World.run_bind_ok hrun]
    rfl
  | some e =>
    have hrun : world.run (perform (.setCookie tokens.accessToken (some (max 1 seconds)))) s =
        (.error e, { s with tick := s.tick + 1 }) := by
      rw [World.run_perform, World.exec_of_answer (World.failure_of_internal rfl)]
      simp only [World.answer, hcookie]
    rw [World.run_bind_error hrun]

theorem buildIdentity_leaves (claims : Claims) :
    (buildIdentity config claims).Calls fun op => op.leavesSession = true := by
  refine Prog.Calls.bind (Prog.Calls.ofExcept _) fun identity => ?_
  refine Prog.Calls.bind ((getUserByUsername_calls _).mono ?_) fun _ => trivial
  intro op hop
  cases op <;> first | rfl | cases hop

theorem validateIdToken_leaves (idToken : Json) :
    (validateIdToken config idToken).Calls fun op => op.leavesSession = true := by
  cases idToken with
  | str token =>
    apply (validateJwt_calls config token).mono
    intro op hop
    cases op <;> first | rfl | cases hop
  | _ => trivial

/-- After the exchange of the code, nothing up to `_start_session` touches the session. -/
theorem authenticate_eq (config : Config) (code : String) (codeVerifier : Option String) :
    ∃ rest, authenticate config code codeVerifier = .call (.exchangeCode code codeVerifier) rest ∧
      ∀ reply, (rest reply).Calls fun op => op.leavesSession = true := by
  refine ⟨_, rfl, fun reply => ?_⟩
  refine Prog.Calls.bind (Prog.Calls.bind ?reply fun reply => ?tokens) fun tokens => ?claims
  case reply => cases reply <;> trivial
  case tokens =>
    cases reply with
    | unreachable => trivial
    | http status body =>
      show Prog.Calls _ (if _ then _ else _)
      split
      · refine Prog.Calls.bind (Prog.Calls.ofExcept _) fun body => ?_
        refine Prog.Calls.bind (Prog.Calls.ofExcept _) fun idToken => ?_
        refine Prog.Calls.bind (Prog.Calls.ofExcept _) fun accessToken => ?_
        refine Prog.Calls.bind (Prog.Calls.ofExcept _) fun refreshToken => ?_
        refine Prog.Calls.bind (Prog.Calls.ofExcept _) fun expiresIn => ?_
        exact Prog.Calls.bind (Prog.Calls.ofExcept _) fun tokenType => trivial
      · trivial
  case claims =>
    show Prog.Calls _ (if _ then _ else _)
    split
    · trivial
    · refine Prog.Calls.bind (validateIdToken_leaves _) fun claims => ?_
      exact Prog.Calls.bind (buildIdentity_leaves claims) fun identity => trivial

/-- Nothing up to `_start_session` touches the session. -/
theorem authenticate_keepsSession (code : String) (codeVerifier : Option String) :
    (authenticate config code codeVerifier).Calls fun op => op.changesSession = false := by
  obtain ⟨rest, hrest, hleaves⟩ := authenticate_eq config code codeVerifier
  rw [hrest]
  refine ⟨rfl, fun reply => (hleaves reply).mono fun op hop => ?_⟩
  simp only [AppOp.leavesSession, Bool.and_eq_true, Bool.not_eq_true'] at hop
  exact hop.1

theorem isError_postLoginRedirect (identity : Identity) (cookie : CookieChange) :
    Answer.isError ⟨.page (postLoginRedirect identity), cookie⟩ = false := by
  unfold postLoginRedirect
  split
  · rfl
  split <;> rfl

theorem run_establish_error {e : PyError} (h : tokens.expiresIn.toSeconds = .error e) :
    world.run (establish tokens identity) s =
      (.error e, { s with session := begun tokens identity, tick := s.tick + 4 }) :=
  World.run_bind_error (run_startSession_error h)

/-- With a lifetime the session is whole; the cookie may still be refused. -/
theorem run_establish_ok {seconds : Int} (h : tokens.expiresIn.toSeconds = .ok seconds) :
    ∃ t, world.run (establish tokens identity) s =
        ((if tokens.accessToken.truthy = true then
            match world.cookieError tokens.accessToken (some (max 1 seconds)) with
            | some e => .error e
            | none => .ok ⟨.page (postLoginRedirect identity),
                .set tokens.accessToken (some (max 1 seconds))⟩
          else .ok ⟨.page (postLoginRedirect identity), .keep⟩), t) ∧
      t.session = { begun tokens identity with
        tokenExpiresAt := some (world.time (s.tick + 3) + seconds) } := by
  unfold establish
  rw [World.run_bind_ok (run_startSession h)]
  by_cases htoken : tokens.accessToken.truthy = true
  · rw [run_setCookie _ h htoken, if_pos htoken]
    exact ⟨_, rfl, rfl⟩
  · unfold setCognitoAccessTokenCookie
    rw [if_neg htoken, if_pos (by simpa using htoken)]
    exact ⟨_, rfl, rfl⟩

/-- The rest of a sign-in leaves a session with the identity, whether it succeeds or not. -/
theorem run_establish (tokens : CodeTokens) (identity : Identity) (s : AppState) :
    ∃ r t, world.run (establish tokens identity) s = (r, t) ∧ t.session.identity = some identity ∧
      (Accepted world tokens → ∃ answer, r = .ok answer ∧ answer.isError = false ∧
        t.session.accessToken = tokens.accessToken ∧ t.session.tokenExpiresAt.isSome = true) ∧
      (¬ Accepted world tokens → ∃ e, r = .error e) := by
  cases hseconds : tokens.expiresIn.toSeconds with
  | error e =>
    refine ⟨_, _, run_establish_error hseconds, rfl, ?_, fun _ => ⟨e, rfl⟩⟩
    intro h'
    obtain ⟨seconds, hok, -⟩ := h'
    rw [hseconds] at hok
    cases hok
  | ok seconds =>
    obtain ⟨t, hrun, ht⟩ := @run_establish_ok world tokens identity s seconds hseconds
    refine ⟨_, t, hrun, by rw [ht]; rfl, ?_, fun hrefused => ?_⟩
    · intro h'
      obtain ⟨seconds', hseconds', hcookie⟩ := h'
      rw [hseconds] at hseconds'
      cases hseconds'
      by_cases htoken : tokens.accessToken.truthy = true
      · rw [if_pos htoken, hcookie htoken, ht]
        exact ⟨_, rfl, isError_postLoginRedirect identity _, rfl, rfl⟩
      · rw [if_neg htoken, ht]
        exact ⟨_, rfl, isError_postLoginRedirect identity _, rfl, rfl⟩
    · by_cases htoken : tokens.accessToken.truthy = true
      · rw [if_pos htoken]
        cases hcookie : world.cookieError tokens.accessToken (some (max 1 seconds)) with
        | none => exact absurd ⟨seconds, hseconds, fun _ => hcookie⟩ hrefused
        | some e => exact ⟨e, rfl⟩
      · exact absurd ⟨seconds, hseconds, fun h => absurd h htoken⟩ hrefused

/-- A handler turns back and changes the messages. -/
theorem run_signInFailed (e : PyError) (s : AppState) :
    ∃ t, world.run (signInFailed e) s = (.ok toLogin, t) ∧
      t.session = { s.session with flashes := t.session.flashes } := by
  cases e <;> exact ⟨_, rfl, rfl⟩

theorem run_callback_eq {request : Request} (herror : ¬ truthy (request.args "error") = true) :
    world.run (callback config request) s =
      world.run (match verifiedCode request s.session with
        | none => do
          flash "Your sign-in request could not be verified. Please try signing in again." "danger"
          pure toLogin
        | some (code, codeVerifier) =>
          tryCatch
            (do
              let (tokens, identity) ← authenticate config code codeVerifier
              establish tokens identity)
            signInFailed) s.popped := by
  unfold callback
  rw [if_neg herror]
  rfl

/-- A callback that does not come to `_start_session` turns back. -/
theorem run_callback_none {request : Request} (h : reached config world request s = none) :
    ∃ t, world.run (callback config request) s = (.ok toLogin, t) ∧
      s.session.SameLogin t.session := by
  unfold reached at h
  by_cases herror : truthy (request.args "error") = true
  · unfold callback
    rw [if_pos herror]
    exact ⟨_, rfl, rfl⟩
  rw [if_neg herror] at h
  rw [run_callback_eq herror]
  cases hverified : verifiedCode request s.session with
  | none => exact ⟨_, rfl, rfl⟩
  | some verified =>
    rw [hverified, Option.bind_some] at h
    have hsession := @run_keepsSession world _ _
      (@authenticate_keepsSession config verified.1 verified.2) s.popped
    rcases hrun : world.run (authenticate config verified.1 verified.2) s.popped with ⟨e | a, u⟩
    · rw [hrun] at hsession
      have hkept : u.session = s.popped.session := hsession
      obtain ⟨t, hfailed, hmessage⟩ := @run_signInFailed world e u
      refine ⟨t, ?_, ?_⟩
      · rw [← hfailed]
        exact World.run_tryCatch_error (World.run_bind_error hrun)
      · rw [Session.SameLogin, hmessage, hkept]
        rfl
    · rw [hrun] at h
      cases h

/-- A callback that does is `establish`, with the handler around it. -/
theorem run_callback_some {request : Request} {tokens : CodeTokens} {identity : Identity}
    (h : reached config world request s = some (tokens, identity)) :
    ∃ u, world.run (callback config request) s =
      world.run (tryCatch (establish tokens identity) signInFailed) u := by
  unfold reached at h
  by_cases herror : truthy (request.args "error") = true
  · rw [if_pos herror] at h
    cases h
  rw [if_neg herror] at h
  rw [run_callback_eq herror]
  cases hverified : verifiedCode request s.session with
  | none =>
    rw [hverified] at h
    cases h
  | some verified =>
    rw [hverified, Option.bind_some] at h
    rcases hrun : world.run (authenticate config verified.1 verified.2) s.popped with ⟨e | a, u⟩
    · rw [hrun] at h
      cases h
    · rw [hrun] at h
      cases h
      refine ⟨u, ?_⟩
      have hbody := World.run_bind_ok (f := fun result => establish result.1 result.2) hrun
      rcases hrest : world.run (establish tokens identity) u with ⟨e | answer, v⟩
      · rw [hrest] at hbody
        rw [World.run_tryCatch_error hrest]
        exact World.run_tryCatch_error hbody
      · rw [hrest] at hbody
        rw [World.run_tryCatch_ok hrest]
        exact World.run_tryCatch_ok hbody

/-- A callback that does not come to `_start_session` leaves the identity. -/
theorem allOrNothing_of_unreached (hreached : reached config world request s = none) :
    AllOrNothing config world request s := by
  obtain ⟨t, hrun, hlogin⟩ := run_callback_none hreached
  refine ⟨toLogin, t, hrun, fun _ => ?_, fun hok => by cases hok⟩
  rw [hlogin]

/-- A callback whose tokens are accepted signs in, with the token they bring. -/
theorem allOrNothing_iff_of_accepted {tokens : CodeTokens} {identity : Identity}
    (hreached : reached config world request s = some (tokens, identity))
    (haccept : Accepted world tokens) :
    AllOrNothing config world request s ↔ tokens.accessToken.truthy = true := by
  obtain ⟨u, hcallback⟩ := run_callback_some hreached
  obtain ⟨r, v, hestablish, hidentity, haccepted, -⟩ := @run_establish world tokens identity u
  obtain ⟨answer, rfl, hok, htoken, hexpiry⟩ := haccepted haccept
  have hrun := hcallback.trans (World.run_tryCatch_ok hestablish)
  constructor
  · intro h
    obtain ⟨answer', t, hrun', -, hsigned⟩ := h
    rw [hrun] at hrun'
    cases hrun'
    rw [← htoken]
    exact (hsigned hok).accessToken
  · intro htruthy
    refine ⟨answer, v, hrun, fun herror => ?_, fun _ => ⟨?_, ?_, hexpiry⟩⟩
    · rw [hok] at herror
      cases herror
    · rw [hidentity]
      rfl
    · rw [htoken]
      exact htruthy

/-- A callback whose tokens are refused has put the identity into the session. -/
theorem allOrNothing_iff_of_refused {tokens : CodeTokens} {identity : Identity}
    (hreached : reached config world request s = some (tokens, identity))
    (hrefuse : ¬ Accepted world tokens) :
    AllOrNothing config world request s ↔ s.session.identity = some identity := by
  obtain ⟨u, hcallback⟩ := run_callback_some hreached
  obtain ⟨r, v, hestablish, hidentity, -, hrefused⟩ := @run_establish world tokens identity u
  obtain ⟨e, rfl⟩ := hrefused hrefuse
  obtain ⟨t, hfailed, hmessage⟩ := @run_signInFailed world e v
  have hkept : t.session.identity = some identity := by rw [hmessage, hidentity]
  have hrun := hcallback.trans ((World.run_tryCatch_error hestablish).trans hfailed)
  constructor
  · intro h
    obtain ⟨answer', t', hrun', hturned, -⟩ := h
    rw [hrun] at hrun'
    cases hrun'
    exact (hturned rfl).symm.trans hkept
  · intro hsame
    exact ⟨toLogin, t, hrun, fun _ => hkept.trans hsame.symm, fun hok => by cases hok⟩

/-- A callback is all or nothing exactly if it comes to `_start_session` with a token and a
lifetime that are accepted, or not at all; or it is refused there and the session already had
the very identity. -/
theorem callback_allOrNothing_iff (config : Config) (world : World) (request : Request)
    (s : AppState) :
    AllOrNothing config world request s ↔
      ∀ tokens identity, reached config world request s = some (tokens, identity) →
        Accepted world tokens ∧ tokens.accessToken.truthy = true ∨
          ¬ Accepted world tokens ∧ s.session.identity = some identity := by
  cases hreached : reached config world request s with
  | none =>
    constructor
    · rintro - tokens identity ⟨⟩
    · exact fun _ => allOrNothing_of_unreached hreached
  | some result =>
    obtain ⟨tokens, identity⟩ := result
    by_cases haccept : Accepted world tokens
    · rw [allOrNothing_iff_of_accepted hreached haccept]
      constructor
      · rintro htruthy _ _ ⟨⟩
        exact .inl ⟨haccept, htruthy⟩
      · intro h
        rcases h tokens identity rfl with ⟨-, htruthy⟩ | ⟨hnot, -⟩
        · exact htruthy
        · exact absurd haccept hnot
    · rw [allOrNothing_iff_of_refused hreached haccept]
      constructor
      · rintro hsame _ _ ⟨⟩
        exact .inr ⟨haccept, hsame⟩
      · intro h
        rcases h tokens identity rfl with ⟨haccept', -⟩ | ⟨-, hsame⟩
        · exact absurd haccept' haccept
        · exact hsame

end Runs

/-! ## A lifetime that is no number -/

/-- A token endpoint that gives every code tokens of `member` with this lifetime. -/
def exchangeWorld (member : Claims) (expiresIn : Json) : World := { quietWorld with
  exchange := fun _ _ _ => .http 200 (.json (.obj
    [("id_token", .str "eyJ"), ("access_token", .str "at"), ("refresh_token", .str "rt"),
      ("expires_in", expiresIn)]))
  jwt := fun _ _ => .ok member }

/-- The claims of an administrator of TenantA. -/
def adminClaims : Claims where
  groups := [.str "TenantA_admin"]
  cognitoUsername := some "alice"
  username := none
  email := none
  sub := some "sub-1"
  tokenUse := some "id"
  exp := some 1000

/-- The browser comes back from the Hosted UI. -/
def callbackRequest : Request where
  method := "GET"
  path := "/auth/callback"
  headers _ := none
  cookies _ := none
  args name := if name = "state" then some "st" else if name = "code" then some "code" else none
  form _ := none

/-- The session of a browser that was sent to the Hosted UI. -/
def waitingState : AppState := { emptyState with
  session := { Session.cleared with oauthState := some "st", oauthCodeVerifier := some "v" } }

/-- The sign-in is reported as failed, and its identity is in the session. -/
theorem null_lifetime_signs_in : ¬ ∀ (config : Config) (world : World) (request : Request)
    (s : AppState), config.demoMode = false → AllOrNothing config world request s := by
  intro h
  obtain ⟨answer, t, hrun, hturned, -⟩ := h sampleConfig (exchangeWorld adminClaims .null)
    callbackRequest waitingState rfl
  cases hrun
  cases hturned rfl

end TenantSaas
