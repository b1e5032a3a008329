import TenantSaas.App.Startup
import TenantSaas.SignIn.Binding

/-!
# The client secret of the token requests

`load_runtime_secrets` resolves the secret of the Cognito client into `app.config`;
`_token_request` authenticates with the one of `config`, which is read from the environment
alone.
-/

namespace TenantSaas

/-! ## Requests to the token endpoint -/

/-- What `requests.post` is called with. -/
structure TokenPost where
  url : String
  data : List (String × Json)
  auth : Option (String × String)

section TokenRequest

variable (config : Config)

/-- The call of `requests.post` in `_token_request` (`cognito_service.py:70-82`). -/
def postToken (payload : List (String × Json)) : TokenPost where
  url := "https://" ++ config.cognitoDomain ++ "/oauth2/token"
  data := payload
  auth :=
    if config.cognitoAppClientSecret = "" then none
    else some (config.cognitoAppClientId, config.cognitoAppClientSecret)

/-- The payload of `exchange_code_for_tokens`. -/
def exchangePayload (code : String) (codeVerifier : Option String) : List (String × Json) :=
  [("grant_type", .str "authorization_code"), ("client_id", .str config.cognitoAppClientId),
    ("code", .str code), ("redirect_uri", .str config.cognitoRedirectUri),
    ("code_verifier", Json.ofOption codeVerifier)]

/-- The payload of `refresh_tokens`. -/
def refreshPayload (refreshToken : Json) : List (String × Json) :=
  [("grant_type", .str "refresh_token"), ("client_id", .str config.cognitoAppClientId),
    ("refresh_token", refreshToken)]

/-- The request a call sends to the token endpoint. -/
def AppOp.tokenPost : AppOp → Option TokenPost
  | .exchangeCode code codeVerifier =>
    some (postToken config (exchangePayload config code codeVerifier))
  | .tokenRequest refreshToken => some (postToken config (refreshPayload config refreshToken))
  | _ => none

end TokenRequest

/-- The client authenticates with this secret, and not at all where it is empty. -/
def TokenPost.Authenticates (post : TokenPost) (config : Config) (resolved : Json) : Prop :=
  if resolved.truthy then
    ∃ secret, resolved = .str secret ∧ post.auth = some (config.cognitoAppClientId, secret)
  else post.auth = none

/-- The calls made while errands are served one after the other. -/
def laterCalls (config : Config) (world : World) : List Errand → AppState → Calls
  | [], _ => []
  | errand :: errands, s =>
    Prog.trace world.exec (errand.prog config) s ++
      laterCalls config world errands (world.run (errand.prog config) s).2

/-- Every later token request authenticates with the resolved secret. -/
def UsesResolved (config : Config) (resolved : Json) : Prop :=
  ∀ (world : World) (errands : List Errand) (s : AppState),
    ∀ call ∈ laterCalls config world errands s, ∀ post, call.1.tokenPost config = some post →
      post.Authenticates config resolved

/-- The bundle holds the secret of the environment variable, stripped; or it holds none, and there
is nothing to strip. -/
def ClientSecretAgrees (environ : Environ) (fields : List (String × Json)) : Prop :=
  if (heldClientSecret fields).truthy then
    heldClientSecret fields = .str (environ.setting "COGNITO_APP_CLIENT_SECRET" "")
  else
    environ.setting "COGNITO_APP_CLIENT_SECRET" "" = environ.get "COGNITO_APP_CLIENT_SECRET" ""

/-! ## One token request -/

section Request

variable {config : Config} {resolved : Json}

theorem postToken_auth (config : Config) (payload : List (String × Json)) (secret : String) :
    (postToken config payload).auth = some (config.cognitoAppClientId, secret) ↔
      config.cognitoAppClientSecret = secret ∧ secret ≠ "" := by
  unfold postToken
  by_cases hempty : config.cognitoAppClientSecret = ""
  · simp only [hempty, if_true]
    constructor
    · intro h
      cases h
    · intro h
      exact absurd h.1.symm h.2
  · simp only [hempty, if_false, Option.some.injEq, Prod.mk.injEq, true_and]
    constructor
    · intro h
      exact ⟨h, h ▸ hempty⟩
    · intro h
      exact h.1

theorem postToken_unauthenticated (config : Config) (payload : List (String × Json)) :
    (postToken config payload).auth = none ↔ config.cognitoAppClientSecret = "" := by
  unfold postToken
  by_cases hempty : config.cognitoAppClientSecret = ""
  · simp only [hempty, if_true]
  · simp only [hempty, if_false, reduceCtorEq]

/-- A request authenticates with a resolved value when `config` has the same. -/
theorem postToken_authenticates_iff (config : Config) (payload : List (String × Json))
    (resolved : Json) : (postToken config payload).Authenticates config resolved ↔
      if resolved.truthy then resolved = .str config.cognitoAppClientSecret
      else config.cognitoAppClientSecret = "" := by
  unfold TokenPost.Authenticates
  by_cases htruthy : resolved.truthy = true
  · simp only [htruthy, if_true, postToken_auth]
    constructor
    · rintro ⟨secret, rfl, rfl, -⟩
      rfl
    · rintro rfl
      refine ⟨_, rfl, rfl, ?_⟩
      simpa [Json.truthy] using htruthy
  · simp only [htruthy, if_false, postToken_unauthenticated, Bool.false_eq_true]

theorem AppOp.tokenPost_eq_some {op : AppOp} {post : TokenPost}
    (h : op.tokenPost config = some post) : ∃ payload, post = postToken config payload := by
  cases op with
  | exchangeCode code codeVerifier => exact ⟨_, (Option.some.inj h).symm⟩
  | tokenRequest refreshToken => exact ⟨_, (Option.some.inj h).symm⟩
  | _ => cases h

end Request

/-! ## The requests of a run -/

/-- A callback under the state of its session has its code exchanged. -/
theorem exchange_called (config : Config) :
    ⟨.exchangeCode "code" (some "v"), .ok .unreachable⟩ ∈
      laterCalls config quietWorld [.callback callbackRequest] waitingState := by
  rw [laterCalls, List.mem_append]
  left
  -- the session is read and written before
  exact List.mem_cons_of_mem _ (List.mem_cons_of_mem _ List.mem_cons_self)

theorem usesResolved_iff (config : Config) (resolved : Json) : UsesResolved config resolved ↔
    if resolved.truthy then resolved = .str config.cognitoAppClientSecret
    else config.cognitoAppClientSecret = "" := by
  constructor
  · intro h
    have hpost := h quietWorld _ _ _ (exchange_called config) _ rfl
    exact (postToken_authenticates_iff config _ resolved).mp hpost
  · intro h world errands s call hcall post hpost
    obtain ⟨payload, rfl⟩ := AppOp.tokenPost_eq_some hpost
    exact (postToken_authenticates_iff config payload resolved).mpr h

/-- With the stripped variable in `config`, the secret resolved from the bundle or else from the
variable is the one used. -/
theorem agrees_iff {environ : Environ} {fields : List (String × Json)} {resolved : Json}
    (h : resolved = (heldClientSecret fields).or
      (.str (environ.get "COGNITO_APP_CLIENT_SECRET" ""))) :
    (if resolved.truthy then resolved = .str (environ.setting "COGNITO_APP_CLIENT_SECRET" "")
      else environ.setting "COGNITO_APP_CLIENT_SECRET" "" = "") ↔
      ClientSecretAgrees environ fields := by
  unfold ClientSecretAgrees Environ.setting
  unfold Json.or at h
  generalize environ.get "COGNITO_APP_CLIENT_SECRET" "" = text at h ⊢
  by_cases hheld : (heldClientSecret fields).truthy = true
  · rw [if_pos hheld] at h
    rw [h, if_pos hheld, if_pos hheld]
  · rw [if_neg hheld] at h
    rw [h, if_neg hheld]
    by_cases hempty : text = ""
    · subst hempty
      rfl
    · have htruthy : (Json.str text).truthy = true := bne_iff_ne.mpr hempty
      rw [if_pos htruthy, Json.str.injEq]
      exact eq_comm

/-- A process uses the client secret it has resolved exactly when the secret in the bundle is the
one in the environment, or there is none in the bundle. -/
theorem resolved_used_iff (lower : String → String) (environ : Environ)
    (billingPlanMap : List (String × String))
    (getSecretValue : String → Except PyError SecretString) (clock : Clock) (generated : String)
    (app : RuntimeSecrets)
    (started : startApp lower environ billingPlanMap getSecretValue clock generated = .ok app) :
    let config := Config.ofEnviron lower environ billingPlanMap
    UsesResolved config app.cognitoAppClientSecret ↔
      ∃ fields, secretBundle config (getSecret config getSecretValue clock none []).1 =
        .ok (.obj fields) ∧ ClientSecretAgrees environ fields := by
  intro config
  obtain ⟨fields, hbundle, hresolved⟩ := loadRuntimeSecrets_eq_ok started
  have hused : UsesResolved config app.cognitoAppClientSecret ↔
      ClientSecretAgrees environ fields :=
    (usesResolved_iff config _).trans (agrees_iff hresolved)
  rw [hused]
  constructor
  · intro h
    exact ⟨fields, hbundle, h⟩
  · intro h'
    obtain ⟨fields', hbundle', h⟩ := h'
    cases hbundle.symm.trans hbundle'
    exact h

/-! ## A confidential client -/

/-- Secrets Manager holds the signing key and the secret of a confidential client. -/
def confidentialBundle (_secretName : String) : Except PyError SecretString :=
  .ok (.text (.json (.obj
    [("FLASK_SECRET_KEY", .str "key"), ("COGNITO_APP_CLIENT_SECRET", .str "s3cret")])))

/-- A task definition that names the client secret, or leaves it to Secrets Manager. -/
def taskEnviron (clientSecret : Option String) : Environ := fun name =>
  if name = "DEMO_MODE" then some "false"
  else if name = "COGNITO_APP_CLIENT_SECRET" then clientSecret
  else none

theorem start_confidential (clientSecret : Option String) :
    startApp id (taskEnviron clientSecret) [] confidentialBundle ⟨0, 0⟩ "" =
      .ok ⟨.str "key", .str "s3cret"⟩ := by
  have hregion : (Config.ofEnviron id (taskEnviron clientSecret) []).awsRegion = "us-east-1" := by
    rw [Config.ofEnviron]
    exact @Environ.settingOr_default (taskEnviron clientSecret) "AWS_REGION" "us-east-1" rfl
      (by decide)
  have hname : (Config.ofEnviron id (taskEnviron clientSecret) []).secretsManagerSecretName =
      "saas/secrets/rds/31" := by
    rw [Config.ofEnviron]
    exact @Environ.settingOr_default (taskEnviron clientSecret) "SECRETS_MANAGER_SECRET_NAME"
      "saas/secrets/rds/31" rfl (by decide)
  have hclient : getSecretsClient (Config.ofEnviron id (taskEnviron clientSecret) []) =
      .ok "us-east-1" := by
    rw [getSecretsClient, hregion]
    rfl
  rw [startApp, getSecret_first rfl (by rw [hname]; decide), readSecret, hclient]
  rfl

theorem named_secret_used : ∃ app,
    startApp id (taskEnviron (some "s3cret")) [] confidentialBundle ⟨0, 0⟩ "" = .ok app ∧
      UsesResolved (Config.ofEnviron id (taskEnviron (some "s3cret")) [])
        app.cognitoAppClientSecret :=
  ⟨_, start_confidential _, (resolved_used_iff id (taskEnviron (some "s3cret")) []
    confidentialBundle ⟨0, 0⟩ "" _ (start_confidential _)).mpr ⟨_, rfl, rfl⟩⟩

/-- The secret is in Secrets Manager alone, and no token request authenticates. -/
theorem bundled_secret_unused : ¬ ∀ (lower : String → String) (environ : Environ)
    (billingPlanMap : List (String × String))
    (getSecretValue : String → Except PyError SecretString) (clock : Clock) (generated : String)
    (app : RuntimeSecrets),
    startApp lower environ billingPlanMap getSecretValue clock generated = .ok app →
      UsesResolved (Config.ofEnviron lower environ billingPlanMap)
        app.cognitoAppClientSecret := by
  intro h
  have hused := h id (taskEnviron none) [] confidentialBundle ⟨0, 0⟩ "" _ (start_confidential none)
  rw [usesResolved_iff, if_pos (by rfl)] at hused
  exact absurd (Json.str.inj hused) (by decide)

end TenantSaas
