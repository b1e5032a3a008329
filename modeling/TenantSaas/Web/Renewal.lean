import TenantSaas.Web.SessionExpiry

/-!
# Renewing the tokens of a session

What `_refresh_session_tokens_if_needed` makes of every answer of the token endpoint, for a
session whose expiry has passed.
-/

namespace TenantSaas

/-- The endpoint could not be reached, or answered with another status than 200. -/
def TokenReply.Refuses : TokenReply → Prop
  | .unreachable => True
  | .http status _ => status ≠ 200

/-- A body with a token, and with a lifetime that `int` takes for a positive number, of a size
that can be added to a `float`. -/
def TokenReply.Brings : TokenReply → Prop
  | .unreachable => False
  | .http status body => status = 200 ∧ ∃ fields, ∃ seconds : Int, body = .json (.obj fields) ∧
      ((fields.lookup "access_token").getD .null).truthy = true ∧
      ((fields.lookup "expires_in").getD (.int 3600)).toSeconds = .ok seconds ∧ 0 < seconds

/-- How a refresh is meant to end: with a token that lasts longer and a session that is otherwise
as before, or with the session cleared. -/
inductive RenewsOrLogsOut (now : ℚ) (session : Session) : Except PyError Bool → Session → Prop
  | renewed {token : Json} {expiresAt : ℚ} (usable : token.truthy = true)
      (future : now < expiresAt) :
      RenewsOrLogsOut now session (.ok true)
        { session with accessToken := token, tokenExpiresAt := some expiresAt }
  | loggedOut : RenewsOrLogsOut now session (.ok false) .cleared

theorem RenewsOrLogsOut.of_true {now : ℚ} {session after : Session}
    (h : RenewsOrLogsOut now session (.ok true) after) :
    after.accessToken.truthy = true ∧ ∃ expiresAt, after.tokenExpiresAt = some expiresAt ∧
      now < expiresAt := by
  cases h with
  | renewed usable future => exact ⟨usable, _, rfl, future⟩

theorem not_renewsOrLogsOut_error {now : ℚ} {session after : Session} {e : PyError} :
    ¬ RenewsOrLogsOut now session (.error e) after := by
  rintro ⟨⟩

section Renewal

variable {world : World} {s t : AppState} {now : ℚ} {refreshToken : Json} {reply : TokenReply}

/-! ## The token endpoint -/

section Reply

variable (answered : world.fault s.tick (.tokenRequest refreshToken) = none)
  (hreply : world.token s.tick refreshToken = reply)

include answered hreply

theorem run_performRequest : world.run (perform (.tokenRequest refreshToken)) s =
    (.ok reply, { s with tick := s.tick + 1 }) := by
  have hfailure : world.failure s (.tokenRequest refreshToken) = none := answered
  rw [World.run_perform, World.exec_of_answer hfailure, ← hreply]
  rfl

theorem run_refreshTokens_refused (refuses : reply.Refuses) : ∃ message,
    world.run (refreshTokens refreshToken) s =
      (.error (.oauthExchangeError message), { s with tick := s.tick + 1 }) := by
  have hrequest := run_performRequest answered hreply
  cases reply with
  | unreachable =>
    have herror : world.run (tokenRequest refreshToken) s = (.error (.oauthExchangeError
        "Could not reach Cognito token endpoint"), { s with tick := s.tick + 1 }) :=
      World.run_bind_ok hrequest
    exact ⟨_, World.run_bind_error herror⟩
  | http status body =>
    have herror : world.run (tokenRequest refreshToken) s = (.error (.oauthExchangeError
        ("Cognito token endpoint returned HTTP " ++ toString status)),
          { s with tick := s.tick + 1 }) := by
      unfold tokenRequest
      rw [World.run_bind_ok hrequest]
      simp only [if_neg (show ¬ status = 200 from refuses)]
      rfl
    exact ⟨_, World.run_bind_error herror⟩

/-- A body that is no JSON object raises past the handler of `OAuthExchangeError`. -/
theorem run_refreshTokens_unreadable {body : Body} (hbody : reply = .http 200 body)
    (unreadable : ∀ fields, body ≠ .json (.obj fields)) : ∃ e,
    world.run (refreshTokens refreshToken) s = (.error e, { s with tick := s.tick + 1 }) ∧
      ∀ message, e ≠ .oauthExchangeError message := by
  subst hbody
  have hrequest := run_performRequest answered hreply
  have hloads : world.run (tokenRequest refreshToken) s =
      (body.loads, { s with tick := s.tick + 1 }) := by
    unfold tokenRequest
    rw [World.run_bind_ok hrequest, ← Prog.run_ofExcept world.exec body.loads]
    rfl
  cases body with
  | malformed => exact ⟨_, World.run_bind_error hloads, fun _ h => by cases h⟩
  | json value =>
    refine ⟨.attributeError, ?_, fun _ h => by cases h⟩
    cases value with
    | obj fields => exact absurd rfl (unreadable fields)
    | _ => exact World.run_bind_ok hloads

theorem run_refreshTokens_object {fields : List (String × Json)}
    (hbody : reply = .http 200 (.json (.obj fields))) : ∃ tokens,
    world.run (refreshTokens refreshToken) s = (.ok tokens, { s with tick := s.tick + 1 }) ∧
      tokens.accessToken = (fields.lookup "access_token").getD .null ∧
      tokens.expiresIn = (fields.lookup "expires_in").getD (.int 3600) := by
  subst hbody
  have hrequest := run_performRequest answered hreply
  have hjson : world.run (tokenRequest refreshToken) s =
      (.ok (.obj fields), { s with tick := s.tick + 1 }) := World.run_bind_ok hrequest
  exact ⟨_, World.run_bind_ok hjson, rfl, rfl⟩

end Reply

/-! ## What the session becomes -/

theorem run_refreshSessionTokens_refused {message : String}
    (h : world.run (refreshTokens refreshToken) s = (.error (.oauthExchangeError message), t)) :
    world.run (refreshSessionTokens refreshToken) s =
      (.ok false, { t with session := .cleared, tick := t.tick + 1 }) := by
  unfold refreshSessionTokens
  rw [World.run_tryCatch_error (World.run_bind_error h)]
  rfl

theorem run_refreshSessionTokens_raised {e : PyError}
    (h : world.run (refreshTokens refreshToken) s = (.error e, t))
    (he : ∀ message, e ≠ .oauthExchangeError message) :
    world.run (refreshSessionTokens refreshToken) s = (.error e, t) := by
  unfold refreshSessionTokens
  rw [World.run_tryCatch_error (World.run_bind_error h)]
  cases e with
  | oauthExchangeError message => exact absurd rfl (he message)
  | _ => rfl

/-- `int` has no part in the OAuth flow. -/
theorem toInt_ne_oauthExchangeError {v : Json} {message : String} :
    v.toInt ≠ .error (.oauthExchangeError message) := by
  intro h
  cases v with
  | float x => cases x <;> cases h
  | str s =>
    simp only [Json.toInt] at h
    split at h <;> cases h
  | _ => cases h

theorem toSeconds_ne_oauthExchangeError {v : Json} {message : String} :
    v.toSeconds ≠ .error (.oauthExchangeError message) := by
  intro h
  unfold Json.toSeconds at h
  cases hint : v.toInt with
  | error e =>
    rw [hint] at h
    obtain rfl := Except.error.inj h
    exact toInt_ne_oauthExchangeError hint
  | ok seconds =>
    rw [hint] at h
    change (if _ then _ else _) = _ at h
    split at h <;> cases h

theorem run_refreshSessionTokens_renewed {tokens : Tokens} {seconds : Int}
    (h : world.run (refreshTokens refreshToken) s = (.ok tokens, t))
    (hseconds : tokens.expiresIn.toSeconds = .ok seconds) :
    world.run (refreshSessionTokens refreshToken) s =
      (.ok true, { t with
        session := { t.session with
          accessToken := tokens.accessToken
          tokenExpiresAt := some (world.time (t.tick + 2) + seconds) }
        tick := t.tick + 5 }) := by
  apply World.run_tryCatch_ok
  rw [World.run_bind_ok h, hseconds]
  rfl

/-- The token is stored before its lifetime is read. -/
theorem run_refreshSessionTokens_unread {tokens : Tokens} {e : PyError}
    (h : world.run (refreshTokens refreshToken) s = (.ok tokens, t))
    (hseconds : tokens.expiresIn.toSeconds = .error e) :
    world.run (refreshSessionTokens refreshToken) s =
      (.error e, { t with
        session := { t.session with accessToken := tokens.accessToken }
        tick := t.tick + 3 }) := by
  rw [World.run] at h ⊢
  rw [refreshSessionTokens, Prog.tryCatch_def, Prog.run_handle, Prog.bind_def, Prog.run_bind, h]
  simp only [hseconds]
  cases e with
  | oauthExchangeError message => exact absurd hseconds toSeconds_ne_oauthExchangeError
  | _ => rfl

/-- An answer with status 200. -/
theorem refreshSessionTokens_ok_iff {body : Body}
    (answered : world.fault s.tick (.tokenRequest refreshToken) = none)
    (hreply : world.token s.tick refreshToken = .http 200 body) :
    RenewsOrLogsOut (world.time (s.tick + 3)) s.session
        (world.run (refreshSessionTokens refreshToken) s).1
        (world.run (refreshSessionTokens refreshToken) s).2.session ↔
      (TokenReply.http 200 body).Brings := by
  by_cases hobject : ∃ fields, body = .json (.obj fields)
  swap
  · obtain ⟨e, h, he⟩ := run_refreshTokens_unreadable answered hreply rfl
      (fun fields hfields => hobject ⟨fields, hfields⟩)
    rw [run_refreshSessionTokens_raised h he]
    constructor
    · intro hmeant
      exact absurd hmeant not_renewsOrLogsOut_error
    · intro h'
      obtain ⟨-, fields, seconds, hfields, -⟩ := h'
      exact absurd ⟨fields, hfields⟩ hobject
  obtain ⟨fields, rfl⟩ := hobject
  obtain ⟨tokens, htokens, haccess, hexpires⟩ := run_refreshTokens_object answered hreply rfl
  cases hseconds : tokens.expiresIn.toSeconds with
  | error e =>
    rw [run_refreshSessionTokens_unread htokens hseconds]
    constructor
    · intro hmeant
      exact absurd hmeant not_renewsOrLogsOut_error
    · intro h'
      obtain ⟨-, fields', seconds, ⟨⟩, -, hint, -⟩ := h'
      rw [← hexpires, hseconds] at hint
      cases hint
  | ok seconds =>
    rw [run_refreshSessionTokens_renewed htokens hseconds]
    constructor
    · intro hmeant
      obtain ⟨husable, expiresAt, hexpiresAt, hfuture⟩ := hmeant.of_true
      obtain rfl := Option.some.inj hexpiresAt
      refine ⟨rfl, fields, seconds, rfl, haccess ▸ husable, hexpires ▸ hseconds, ?_⟩
      exact_mod_cast (lt_add_iff_pos_right _).mp hfuture
    · intro h'
      obtain ⟨-, fields', seconds', ⟨⟩, husable, hint, hpositive⟩ := h'
      rw [← hexpires, hseconds] at hint
      obtain rfl := Except.ok.inj hint
      refine .renewed (haccess ▸ husable) ?_
      exact (lt_add_iff_pos_right _).mpr (by exact_mod_cast hpositive)

/-- Every answer of the token endpoint, for a session with a refresh token. -/
theorem refreshSessionTokens_iff
    (answered : world.fault s.tick (.tokenRequest refreshToken) = none)
    (hreply : world.token s.tick refreshToken = reply) :
    RenewsOrLogsOut (world.time (s.tick + 3)) s.session
        (world.run (refreshSessionTokens refreshToken) s).1
        (world.run (refreshSessionTokens refreshToken) s).2.session ↔
      reply.Refuses ∨ reply.Brings := by
  by_cases hrefuses : reply.Refuses
  · obtain ⟨message, h⟩ := run_refreshTokens_refused answered hreply hrefuses
    rw [run_refreshSessionTokens_refused h]
    exact ⟨fun _ => .inl hrefuses, fun _ => .loggedOut⟩
  · obtain ⟨body, rfl⟩ : ∃ body, reply = .http 200 body := by
      cases reply with
      | unreachable => exact absurd trivial hrefuses
      | http status body => exact ⟨body, by rw [not_not.mp hrefuses]⟩
    rw [refreshSessionTokens_ok_iff answered hreply, or_iff_right hrefuses]

/-- Past its expiry, a session is refreshed with its refresh token, or cleared without one. -/
theorem run_refresh_of_expired {expiresAt : ℚ} (expires : s.session.tokenExpiresAt = some expiresAt)
    (nonzero : expiresAt ≠ 0) (expired : expiresAt ≤ now) :
    (world.atTime now).run refreshSessionTokensIfNeeded s =
      if s.session.refreshToken.truthy = true then
        (world.atTime now).run (refreshSessionTokens s.session.refreshToken)
          { s with tick := s.tick + 2 }
      else (.ok false, { s with session := .cleared, tick := s.tick + 3 }) := by
  have hdue : ¬ now < expiresAt - tokenRefreshSkewSeconds := by
    rw [tokenRefreshSkewSeconds, not_lt]
    linarith
  have htime : (world.atTime now).time (s.tick + 1) = now := rfl
  rw [(run_refresh_of_some expires nonzero).1, refreshIfDue, World.run_time_bind]
  by_cases htoken : s.session.refreshToken.truthy = true
  · simp only [htime, if_neg hdue, htoken, Bool.not_true, Bool.false_eq_true, if_false, if_true]
  · simp only [htime, if_neg hdue, htoken, Bool.not_false, if_true, Bool.false_eq_true, if_false]
    rfl

end Renewal

/-- A session whose expiry has passed is renewed or logged out exactly when the expiry is not the
falsy `0`, and there is no refresh token, or the endpoint refuses it, or its answer brings a token
and a lifetime. -/
theorem renewsOrLogsOut_iff (world : World) (now expiresAt : ℚ) (s : AppState)
    (expires : s.session.tokenExpiresAt = some expiresAt) (expired : expiresAt ≤ now)
    (answered : world.fault (s.tick + 2) (.tokenRequest s.session.refreshToken) = none) :
    RenewsOrLogsOut now s.session
        ((world.atTime now).run refreshSessionTokensIfNeeded s).1
        ((world.atTime now).run refreshSessionTokensIfNeeded s).2.session ↔
      expiresAt ≠ 0 ∧ (s.session.refreshToken.truthy = false ∨
        (world.token (s.tick + 2) s.session.refreshToken).Refuses ∨
        (world.token (s.tick + 2) s.session.refreshToken).Brings) := by
  by_cases hzero : expiresAt = 0
  · subst hzero
    rw [(run_refresh_of_none (.inr expires)).1]
    constructor
    · intro hmeant
      -- the session is as it was, with its old expiry
      obtain ⟨-, later, hlater, hfuture⟩ := hmeant.of_true
      obtain rfl := Option.some.inj (expires.symm.trans hlater)
      exact absurd hfuture (not_lt.mpr expired)
    · intro h
      exact absurd rfl h.1
  rw [run_refresh_of_expired expires hzero expired]
  by_cases htoken : s.session.refreshToken.truthy = true
  · rw [if_pos htoken, htoken]
    simp only [ne_eq, hzero, not_false_eq_true, true_and, Bool.true_eq_false, false_or]
    exact @refreshSessionTokens_iff (world.atTime now) { s with tick := s.tick + 2 } _ _
      answered rfl
  · rw [if_neg htoken]
    exact ⟨fun _ => ⟨hzero, .inl (by simpa using htoken)⟩, fun _ => .loggedOut⟩

/-- The tokens of a sign-in expired at 100. -/
def expiredState : AppState := { emptyState with
  session := { Session.cleared with
    identity := some sampleAdmin
    accessToken := .str "old"
    refreshToken := .str "refresh"
    tokenExpiresAt := some 100 } }

theorem refused_logs_out : RenewsOrLogsOut 200 expiredState.session
    ((refusingWorld.atTime 200).run refreshSessionTokensIfNeeded expiredState).1
    ((refusingWorld.atTime 200).run refreshSessionTokensIfNeeded expiredState).2.session :=
  (renewsOrLogsOut_iff refusingWorld 200 100 expiredState rfl (by norm_num) rfl).mpr
    ⟨by norm_num, .inr (.inl (show (400 : Nat) ≠ 200 by decide))⟩

/-- A token endpoint that answers without a lifetime. -/
def lifelessWorld : World := { quietWorld with
  token := fun _ _ => .http 200
    (.json (.obj [("access_token", .str "new"), ("expires_in", .null)])) }

/-- `int(None)` raises, with the new token stored beside the old expiry. -/
theorem null_lifetime_raises : ¬ ∀ (world : World) (now expiresAt : ℚ) (s : AppState),
    s.session.tokenExpiresAt = some expiresAt → expiresAt ≤ now →
    (∀ tick op, world.fault tick op = none) →
    RenewsOrLogsOut now s.session ((world.atTime now).run refreshSessionTokensIfNeeded s).1
      ((world.atTime now).run refreshSessionTokensIfNeeded s).2.session := by
  intro h
  have hmeant := h lifelessWorld 200 100 expiredState rfl (by norm_num) fun _ _ => rfl
  have hraised : ((lifelessWorld.atTime 200).run refreshSessionTokensIfNeeded expiredState).1 =
      .error .typeError := by
    rw [@run_refresh_of_expired lifelessWorld expiredState 200 100 rfl (by norm_num) (by norm_num)]
    rfl
  rw [hraised] at hmeant
  exact not_renewsOrLogsOut_error hmeant

end TenantSaas
