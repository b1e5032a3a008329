import TenantSaas.Auth
import TenantSaas.Services.CognitoService
import TenantSaas.Web.Response

/-!
# Route guards

`decorators.py`: which identity a request acts under, and whether its view is entered.
-/

namespace TenantSaas

/-- `_TOKEN_REFRESH_SKEW_SECONDS` -/
def tokenRefreshSkewSeconds : ℚ := 60

/-- `hmac.compare_digest(a, b)` on strings. -/
def compareDigest (a b : String) : Except PyError Bool :=
  if PyStr.isAscii a && PyStr.isAscii b then .ok (a == b) else .error .typeError

/-- The loop over the forwarded groups: the first known one, if all known ones agree on the
tenant. -/
def resolveGroups (resolved : Option (String × GroupMapping)) :
    List String → Except PyError (Option (String × GroupMapping))
  | [] => .ok resolved
  | group :: groups =>
    match cognitoGroupMap.lookup group, resolved with
    | none, _ => resolveGroups resolved groups
    | some mapping, none => resolveGroups (some (group, mapping)) groups
    | some mapping, some first =>
      if first.2.tenant ≠ mapping.tenant then
        .error (.trustedHeaderAuthError ("Inconsistent tenant claims across groups: '" ++ first.1 ++
          "' vs '" ++ group ++ "'"))
      else resolveGroups resolved groups

/-- `groups_raw.strip("[]").replace('"', "").split(",")`, stripped, without the empty ones. -/
def forwardedGroups (groupsRaw : String) : List String :=
  ((PyStr.split (PyStr.replace (PyStr.stripOf ['[', ']'] groupsRaw) "\"" "") ',').map
    PyStr.strip).filter (· != "")

/-- `_resolve_trusted_header_identity` (`decorators.py:26-69`) -/
def resolveTrustedHeaderIdentity (config : Config) (request : Request) :
    Except PyError Identity := do
  let refused (message : String) : PyError := .trustedHeaderAuthError message
  let sharedSecretHeader := request.header config.apiGwSecretHeaderName
  if config.apiGwSharedSecret = "" then
    throw (refused "Missing/incorrect API Gateway shared-secret header")
  let same ← compareDigest sharedSecretHeader config.apiGwSharedSecret
  if !same then throw (refused "Missing/incorrect API Gateway shared-secret header")
  let sub := PyStr.strip (request.header config.apiGwSubHeaderName)
  let username := PyStr.strip (request.header config.apiGwUsernameHeaderName)
  let email := PyStr.strip (request.header config.apiGwEmailHeaderName)
  let groupsRaw := PyStr.strip (request.header config.apiGwGroupsHeaderName)
  if sub = "" || groupsRaw = "" then
    throw (refused "Missing required identity headers (sub/groups)")
  let groups := forwardedGroups groupsRaw
  if groups = [] then
    throw (refused "Groups header present but contained no usable group names")
  match ← resolveGroups none groups with
  | none => throw (refused "No recognized tenant/role group in forwarded claims")
  | some (group, mapping) => return {
      tenant := mapping.tenant
      role := mapping.role
      group := group
      username := some (if username = "" then sub else username)
      email := if email = "" then none else some email
      sub := some sub
      userId := some sub
      profileComplete := true
      firstLogin := none
      passwordResetDone := false }

/-- The token of `_resolve_bearer_jwt_identity`: the bearer token, else the cookie. -/
def presentedToken (request : Request) : Option String :=
  let authHeader := request.header "Authorization"
  if PyStr.startswith authHeader "Bearer " then some (PyStr.drop authHeader "Bearer ".length)
  else request.cookies "cognito_access_token"

/-- `_resolve_bearer_jwt_identity` (`decorators.py:72-93`) -/
def resolveBearerJwtIdentity (config : Config) (request : Request) : App (Option Identity) :=
  match presentedToken request with
  | none => pure none
  | some token =>
    if token = "" then pure none
    else
      tryCatch
        (do
          let claims ← validateJwt config token
          let identity ← Prog.ofExcept (resolveTenantAndRole claims)
          pure (some { identity with
            userId := pyOr identity.sub identity.username
            profileComplete := true }))
        (fun e =>
          match e with
          | .invalidTokenError _ => pure none
          | e => throw e)

/-- `_resolve_identity` (`decorators.py:96-117`) -/
def resolveIdentity (config : Config) (request : Request) : App (Option Identity) := do
  let session ← perform .session
  match session.identity with
  | some identity => pure (some identity)
  | none => do
    let bearerIdentity ← resolveBearerJwtIdentity config request
    match bearerIdentity with
    | some identity => pure (some identity)
    | none =>
      if !config.apiGatewayTrustedHeadersEnabled then pure none
      else
        match resolveTrustedHeaderIdentity config request with
        | .ok identity => pure (some identity)
        | .error (.trustedHeaderAuthError _) => pure none
        | .error e => throw e

/-- The part of `_refresh_session_tokens_if_needed` that asks Cognito. -/
def refreshSessionTokens (refreshToken : Json) : App Bool :=
  tryCatch
    (do
      let newTokens ← refreshTokens refreshToken
      let session ← perform .session
      perform (.setSession { session with accessToken := newTokens.accessToken })
      let now ← perform .time
      let expiresIn ← Prog.ofExcept newTokens.expiresIn.toSeconds
      let session ← perform .session
      perform (.setSession { session with tokenExpiresAt := some (now + expiresIn) })
      pure true)
    (fun e =>
      match e with
      | .oauthExchangeError _ => do
        perform (.setSession .cleared)
        pure false
      | e => throw e)

/-- The part after the check that there is an expiry. -/
def refreshIfDue (refreshToken : Json) (expiresAt : ℚ) : App Bool := do
  let now ← perform .time
  if now < expiresAt - tokenRefreshSkewSeconds then pure true
  else if !refreshToken.truthy then do
    perform (.setSession .cleared)
    pure false
  else refreshSessionTokens refreshToken

/-- `_refresh_session_tokens_if_needed` (`decorators.py:120-147`) -/
def refreshSessionTokensIfNeeded : App Bool := do
  let session ← perform .session
  match session.tokenExpiresAt with
  | none => pure true
  | some expiresAt =>
    if expiresAt = 0 then pure true else refreshIfDue session.refreshToken expiresAt

/-- `_is_json_route` (`decorators.py:150-153`) -/
def isJsonRoute (config : Config) (request : Request) : Bool :=
  (request.headers config.apiGwSecretHeaderName).isSome ||
    truthy (request.headers "Authorization") ||
    config.jsonApiRoutePrefixes.any fun p => PyStr.startswith request.path p

/-- `_unauthenticated_response` (`decorators.py:156-160`) -/
def unauthenticatedResponse (config : Config) (request : Request) : App Response :=
  if isJsonRoute config request then pure (.json 401 (.error "unauthenticated"))
  else do
    flash "Please sign in to continue." "warning"
    pure (.redirect .login)

/-- What a decorator decides: answer itself, or enter the view with `g.identity` set. -/
inductive Gate where
  | deny (response : Response)
  | enter (identity : Identity)

/-- The end of `login_required` for an identity of the session outside DEMO_MODE. -/
def enterRefreshed (identity : Identity) : App Gate := do
  let refreshed ← refreshSessionTokensIfNeeded
  if refreshed then pure (.enter identity)
  else do
    flash "Your session has expired. Please sign in again." "warning"
    pure (.deny (.redirect .login))

/-- `login_required` up to the call of the view (`decorators.py:163-179`). -/
def loginRequired (config : Config) (request : Request) : App Gate := do
  let identity ← resolveIdentity config request
  match identity with
  | none => .deny <$> unauthenticatedResponse config request
  | some identity => do
    let session ← perform .session
    if session.identity.isSome && !config.demoMode then enterRefreshed identity
    else pure (.enter identity)

/-- `admin_required` up to the call of the view (`decorators.py:182-202`). -/
def adminRequired (config : Config) (request : Request) : App Gate := do
  let identity ← resolveIdentity config request
  match identity with
  | none => .deny <$> unauthenticatedResponse config request
  | some identity =>
    if identity.role ≠ "admin" then
      if isJsonRoute config request then pure (.deny (.json 403 (.error "forbidden")))
      else do
        flash "You do not have permission to view that page." "danger"
        pure (.deny (.redirect .userDashboard))
    else pure (.enter identity)

/-- `profile_setup_required` (`decorators.py:205-215`) -/
def profileSetupRequired (identity : Identity) (view : App Response) : App Response := do
  let session ← perform .session
  if !(session.identity.getD identity).profileComplete then do
    flash "Please complete your profile before continuing." "info"
    pure (.redirect .userDetailsPage)
  else view

/-- A token that validates gives its bearer the user id of its subject. -/
theorem run_resolveBearerJwtIdentity {config : Config} {world : World} {request : Request}
    {token : String} {claims : Claims} {identity : Identity} {s t : AppState}
    (presented : presentedToken request = some token) (nonempty : token ≠ "")
    (valid : world.run (validateJwt config token) s = (.ok claims, t))
    (resolved : resolveTenantAndRole claims = .ok identity) :
    world.run (resolveBearerJwtIdentity config request) s =
      (.ok (some { identity with
        userId := pyOr identity.sub identity.username
        profileComplete := true }), t) := by
  unfold resolveBearerJwtIdentity
  rw [presented]
  simp only [nonempty, if_false]
  refine World.run_tryCatch_ok ?_
  rw [World.run_bind_ok valid, resolved]
  rfl

/-! ## What the guards ask for -/

/-- The calls that find out who is asking. -/
def AppOp.readsIdentity : AppOp → Bool
  | .session | .time | .decodeJwt _ => true
  | _ => false

/-- The calls of `admin_required`. -/
def AppOp.guardsAdmin : AppOp → Bool
  | .setSession _ => true
  | op => op.readsIdentity

theorem validateJwt_calls (config : Config) (token : String) :
    (validateJwt config token).Calls fun op => op.readsIdentity = true := by
  refine Prog.Calls.bind (perform_calls (by rfl)) fun claims => ?_
  split
  · trivial
  split
  · trivial
  refine Prog.Calls.bind (perform_calls (by rfl)) fun now => ?_
  split <;> trivial

theorem resolveBearerJwtIdentity_calls (config : Config) (request : Request) :
    (resolveBearerJwtIdentity config request).Calls fun op => op.readsIdentity = true := by
  unfold resolveBearerJwtIdentity
  split
  · trivial
  split
  · trivial
  apply Prog.Calls.handle
  · refine Prog.Calls.bind (validateJwt_calls config _) fun claims => ?_
    exact Prog.Calls.bind (Prog.Calls.ofExcept _) fun _ => trivial
  · intro e
    cases e <;> trivial

theorem resolveIdentity_calls (config : Config) (request : Request) :
    (resolveIdentity config request).Calls fun op => op.readsIdentity = true := by
  refine Prog.Calls.bind (perform_calls (by rfl)) fun session => ?_
  cases session.identity with
  | some identity => trivial
  | none =>
    refine Prog.Calls.bind (resolveBearerJwtIdentity_calls config request) fun bearerIdentity => ?_
    cases bearerIdentity with
    | some identity => trivial
    | none =>
      show Prog.Calls _ (if _ then _ else _)
      split
      · trivial
      split <;> trivial

theorem unauthenticatedResponse_calls {P : AppOp → Prop} (hread : P .session)
    (hwrite : ∀ s, P (.setSession s)) (config : Config) (request : Request) :
    (unauthenticatedResponse config request).Calls P := by
  unfold unauthenticatedResponse
  split
  · trivial
  · exact Prog.Calls.bind (flash_calls hread hwrite _ _) fun _ => trivial

theorem adminRequired_calls (config : Config) (request : Request) :
    (adminRequired config request).Calls fun op => op.guardsAdmin = true := by
  have hresolve := (resolveIdentity_calls config request).mono
    (show ∀ op : AppOp, op.readsIdentity = true → op.guardsAdmin = true by
      intro op hop
      cases op <;> first | rfl | exact hop)
  refine Prog.Calls.bind hresolve fun identity => ?_
  cases identity with
  | none =>
    exact Prog.Calls.bind
      (unauthenticatedResponse_calls (by rfl) (fun _ => by rfl) config request) fun _ => trivial
  | some identity =>
    show Prog.Calls _ (if _ then _ else _)
    split
    · split
      · trivial
      · exact Prog.Calls.bind (flash_calls (by rfl) (fun _ => by rfl) _ _) fun _ => trivial
    · trivial

end TenantSaas
