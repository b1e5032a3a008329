import TenantSaas.Auth
import TenantSaas.Services.CognitoService
import TenantSaas.Web.Response

/-!
# Signing in

`routes/auth_pages.py`: how validated claims become an identity, and an identity a session.
-/

namespace TenantSaas

namespace AuthPages

/-- `_profile_is_complete` (`auth_pages.py:68-71`) -/
def profileIsComplete (record : Option UserRow) : Bool :=
  match record with
  | none => false
  | some row => truthy row.phone && truthy row.department

/-- `_build_identity` (`auth_pages.py:74-93`) -/
def buildIdentity (config : Config) (claims : Claims) : App Identity := do
  let identity ← Prog.ofExcept (resolveTenantAndRole claims)
  let record ← getUserByUsername config identity.tenant identity.username
  pure { identity with
    userId := record.map UserRow.userId
    profileComplete := profileIsComplete record
    firstLogin := some ((record.map UserRow.firstLogin).getD true) }

/-- The tokens a login keeps in its session. -/
structure LoginTokens where
  accessToken : Json
  refreshToken : Json
  expiresIn : Json

/-- `_start_session` (`auth_pages.py:96-103`) -/
def startSession (identity : Identity) (tokens : Option LoginTokens) : App Unit := do
  perform (.setSession { Session.cleared with identity := some identity })
  match tokens with
  | none => pure ()
  | some tokens => do
    let session ← perform .session
    perform (.setSession { session with
      accessToken := tokens.accessToken
      refreshToken := tokens.refreshToken })
    let now ← perform .time
    let expiresIn ← Prog.ofExcept tokens.expiresIn.toSeconds
    let session ← perform .session
    perform (.setSession { session with tokenExpiresAt := some (now + expiresIn) })

/-- `_post_login_redirect` (`auth_pages.py:106-111`) -/
def postLoginRedirect (identity : Identity) : Response :=
  if !identity.profileComplete then .redirect .userDetailsPage
  else if identity.role = "admin" then .redirect .adminDashboard
  else .redirect .userDashboard

/-- A login with validated claims, as `login_demo_submit` and `callback` end. -/
def login (config : Config) (claims : Claims) (tokens : Option LoginTokens) : App Response := do
  let identity ← buildIdentity config claims
  startSession identity tokens
  pure (postLoginRedirect identity)

/-! ## The pages of the Hosted UI flow -/

/-- Where these pages send the browser. -/
inductive Location where
  | page (response : Response)
  | url (url : Url)

/-- What a response does to the cookie `cognito_access_token`. -/
inductive CookieChange where
  | keep
  | set (value : Json) (maxAge : Option Int)
  | clear

structure Answer where
  location : Location
  cookie : CookieChange

/-- `redirect(url_for("auth_pages.login"))` -/
def toLogin : Answer := ⟨.page (.redirect .login), .keep⟩

/-- The `max_age` of `_set_cognito_access_token_cookie`. -/
def cookieMaxAge (expiresIn : Json) : Except PyError (Option Int) :=
  match expiresIn with
  | .null => .ok none
  | expiresIn =>
    match expiresIn.toInt with
    | .ok seconds => .ok (some (max 1 seconds))
    | .error .typeError => .ok none
    | .error (.valueError _) => .ok none
    | .error e => .error e

/-- `_set_cognito_access_token_cookie` (`auth_pages.py:117-134`) -/
def setCognitoAccessTokenCookie (location : Location) (accessToken expiresIn : Json) :
    App Answer :=
  if !accessToken.truthy then pure ⟨location, .keep⟩
  else do
    let maxAge ← Prog.ofExcept (cookieMaxAge expiresIn)
    perform (.setCookie accessToken maxAge)
    pure ⟨location, .set accessToken maxAge⟩

/-- `_clear_cognito_access_token_cookie` (`auth_pages.py:136-138`) -/
def clearCognitoAccessTokenCookie (location : Location) : Answer := ⟨location, .clear⟩

def customScope : String :=
  "openid email profile aws.cognito.signin.user.admin saas-api/read saas-api/write"

/-- `login_redirect` (`auth_pages.py:155-188`) -/
def loginRedirect (config : Config) : App Answer :=
  if config.demoMode then do
    flash "DEMO_MODE is enabled -- use the tenant/role picker below to sign in." "info"
    pure toLogin
  else if config.cognitoDomain = "" || config.cognitoAppClientId = "" ||
      config.cognitoRedirectUri = "" then do
    flash "Sign-in is temporarily unavailable. Please contact your administrator." "danger"
    pure toLogin
  else do
    let (codeVerifier, codeChallenge) ← perform .generatePkcePair
    let state ← perform .generateState
    let session ← perform .session
    perform (.setSession { session with oauthState := some state })
    let session ← perform .session
    perform (.setSession { session with oauthCodeVerifier := some codeVerifier })
    pure ⟨.url (buildLoginUrl config state codeChallenge customScope), .keep⟩

/-- `validate_jwt` of what the token endpoint called an `id_token`; `jwt.decode` refuses what is
not a string. -/
def validateIdToken (config : Config) : Json → App Claims
  | .str token => validateJwt config token
  | _ => throw (.invalidTokenError "Invalid token type")

/-- The `try` block of `callback` up to `_start_session` (`auth_pages.py:254-259`). -/
def authenticate (config : Config) (code : String) (codeVerifier : Option String) :
    App (CodeTokens × Identity) := do
  let tokens ← exchangeCodeForTokens code codeVerifier
  if !tokens.idToken.truthy then
    throw (.oauthExchangeError "Token endpoint response did not include an id_token")
  let claims ← validateIdToken config tokens.idToken
  let identity ← buildIdentity config claims
  pure (tokens, identity)

/-- The rest of that block. -/
def establish (tokens : CodeTokens) (identity : Identity) : App Answer := do
  startSession identity (some ⟨tokens.accessToken, tokens.refreshToken, tokens.expiresIn⟩)
  setCognitoAccessTokenCookie (.page (postLoginRedirect identity)) tokens.accessToken
    tokens.expiresIn

/-- The `except` clauses of `callback`. -/
def signInFailed (e : PyError) : App Answer := do
  match e with
  | .oauthExchangeError _ | .invalidTokenError _ =>
    flash "We couldn't verify your credentials. Please try signing in again." "danger"
  | _ => flash "Something went wrong while signing you in. Please try again." "danger"
  pure toLogin

/-- The code and the verifier of a callback that carries the state of its session. -/
def verifiedCode (request : Request) (session : Session) : Option (String × Option String) :=
  match request.args "code", request.args "state", session.oauthState with
  | some code, some returnedState, some expectedState =>
    if code = "" || returnedState = "" || expectedState = "" || returnedState ≠ expectedState then
      none
    else some (code, session.oauthCodeVerifier)
  | _, _, _ => none

/-- `callback` (`auth_pages.py:226-284`) -/
def callback (config : Config) (request : Request) : App Answer :=
  if truthy (request.args "error") then do
    flash "Sign-in was cancelled or failed. Please try again." "warning"
    pure toLogin
  else do
    let session ← perform .session
    perform (.setSession { session with oauthState := none, oauthCodeVerifier := none })
    match verifiedCode request session with
    | none => do
      flash "Your sign-in request could not be verified. Please try signing in again." "danger"
      pure toLogin
    | some (code, codeVerifier) =>
      tryCatch
        (do
          let (tokens, identity) ← authenticate config code codeVerifier
          establish tokens identity)
        signInFailed

/-- `logout` (`auth_pages.py:287-297`) -/
def logout (config : Config) : App Answer := do
  perform (.setSession .cleared)
  if config.demoMode || config.cognitoDomain = "" then do
    flash "You have been signed out." "info"
    pure (clearCognitoAccessTokenCookie (.page (.redirect .login)))
  else pure (clearCognitoAccessTokenCookie (.url (buildLogoutUrl config)))

end AuthPages

end TenantSaas
