import TenantSaas.App.Op

/-!
# Accounts of the user pool

`services/cognito_service.py`: the admin calls on a username, and the token endpoint.
-/

namespace TenantSaas

/-- `_token_request` (`cognito_service.py:70-91`) for the grant of a refresh token. -/
def tokenRequest (refreshToken : Json) : App Json := do
  let reply ← perform (.tokenRequest refreshToken)
  match reply with
  | .unreachable => throw (.oauthExchangeError "Could not reach Cognito token endpoint")
  | .http status body =>
    if status = 200 then Prog.ofExcept body.loads
    else throw (.oauthExchangeError ("Cognito token endpoint returned HTTP " ++ toString status))

/-- What `refresh_tokens` returns. -/
structure Tokens where
  idToken : Json
  accessToken : Json
  expiresIn : Json
  tokenType : Json

/-- `refresh_tokens` (`cognito_service.py:112-124`) -/
def refreshTokens (refreshToken : Json) : App Tokens := do
  let body ← tokenRequest refreshToken
  let idToken ← Prog.ofExcept (body.dictGet "id_token" .null)
  let accessToken ← Prog.ofExcept (body.dictGet "access_token" .null)
  let expiresIn ← Prog.ofExcept (body.dictGet "expires_in" (.int 3600))
  let tokenType ← Prog.ofExcept (body.dictGet "token_type" (.str "Bearer"))
  pure ⟨idToken, accessToken, expiresIn, tokenType⟩

/-- What `exchange_code_for_tokens` returns. -/
structure CodeTokens extends Tokens where
  refreshToken : Json

/-- `exchange_code_for_tokens` (`cognito_service.py:94-109`); `_token_request` reads the answer
as for a refresh token. -/
def exchangeCodeForTokens (code : String) (codeVerifier : Option String) : App CodeTokens := do
  let reply ← perform (.exchangeCode code codeVerifier)
  match reply with
  | .unreachable => throw (.oauthExchangeError "Could not reach Cognito token endpoint")
  | .http status body =>
    if status = 200 then do
      let body ← Prog.ofExcept body.loads
      let idToken ← Prog.ofExcept (body.dictGet "id_token" .null)
      let accessToken ← Prog.ofExcept (body.dictGet "access_token" .null)
      let refreshToken ← Prog.ofExcept (body.dictGet "refresh_token" .null)
      let expiresIn ← Prog.ofExcept (body.dictGet "expires_in" (.int 3600))
      let tokenType ← Prog.ofExcept (body.dictGet "token_type" (.str "Bearer"))
      pure ⟨⟨idToken, accessToken, expiresIn, tokenType⟩, refreshToken⟩
    else throw (.oauthExchangeError ("Cognito token endpoint returned HTTP " ++ toString status))

/-- Where a redirect leaves for: the query of a URL is kept as `urlencode` is given it. -/
structure Url where
  base : String
  params : List (String × String)

def defaultScopes : String :=
  "openid email profile aws.cognito.signin.user.admin saas-api/read saas-api/write"

/-- `build_login_url` (`cognito_service.py:44-61`) -/
def buildLoginUrl (config : Config) (state codeChallenge scope : String) : Url :=
  let configured := if config.cognitoScopes = "" then defaultScopes else config.cognitoScopes
  let scope := if scope = "" then configured else scope
  let scope :=
    if PyStr.contains scope "saas-api/read" then scope
    else PyStr.strip (scope ++ " saas-api/read")
  { base := "https://" ++ config.cognitoDomain ++ "/oauth2/authorize"
    params :=
      [("client_id", config.cognitoAppClientId), ("response_type", "code"), ("scope", scope),
        ("redirect_uri", config.cognitoRedirectUri), ("state", state),
        ("code_challenge_method", "S256"), ("code_challenge", codeChallenge)] }

/-- `build_logout_url` (`cognito_service.py:64-69`) -/
def buildLogoutUrl (config : Config) : Url where
  base := "https://" ++ config.cognitoDomain ++ "/logout"
  params :=
    [("client_id", config.cognitoAppClientId),
      ("logout_uri", if config.cognitoLogoutRedirectUri = "" then config.cognitoRedirectUri
        else config.cognitoLogoutRedirectUri)]

/-- What `create_cognito_user` returns. -/
structure CreatedUser where
  username : String
  tempPassword : String
  group : String
  sub : Option String

/-- `create_cognito_user` (`cognito_service.py:136-170`) -/
def createCognitoUser (config : Config) (username email tenant role : String) :
    App CreatedUser := do
  let groupName := tenant ++ "_" ++ role
  let tempPassword ← perform .tempPassword
  if config.demoMode then do
    let userSub ← perform .uuid4
    perform (.setDemoCognitoUser username
      (some ⟨userSub, email, groupName, "FORCE_CHANGE_PASSWORD", true⟩))
    pure ⟨username, tempPassword, groupName, some userSub⟩
  else do
    perform (.cognito (.adminCreateUser username [("email", email), ("email_verified", "true")]
      tempPassword))
    perform (.cognito (.adminAddUserToGroup username groupName))
    pure ⟨username, tempPassword, groupName, none⟩

/-- `delete_cognito_user` (`cognito_service.py:173-185`) -/
def deleteCognitoUser (config : Config) (username : String) : App Unit :=
  if config.demoMode then perform (.setDemoCognitoUser username none)
  else perform (.cognito (.adminDeleteUser username))

/-- The admin call of `set_user_enabled`. -/
def enableOp (username : String) (enabled : Bool) : CognitoOp :=
  if enabled then .adminEnableUser username else .adminDisableUser username

/-- `set_user_enabled` (`cognito_service.py:188-204`) -/
def cognitoSetEnabled (config : Config) (username : String) (enabled : Bool) : App Unit :=
  if config.demoMode then do
    let user ← perform (.demoCognitoUser username)
    match user with
    | none => pure ()
    | some user =>
      perform (.setDemoCognitoUser username (some { user with enabled := enabled }))
  else perform (.cognito (enableOp username enabled))

/-- `change_password` (`cognito_service.py:207-221`) -/
def changePassword (config : Config) (accessToken : Json) (previous proposed : String) :
    App Unit :=
  if config.demoMode then pure ()
  else perform (.changePassword accessToken previous proposed)

end TenantSaas
