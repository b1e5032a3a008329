import TenantSaas.App.Request
import TenantSaas.Services.SecretService

/-!
# Starting a process

The class body of `config.py` reads the settings from `os.environ`; `app.py` then resolves the
secrets of the process into `app.config`.
-/

namespace PyStr

/-- `s.rstrip(chars)` -/
def rstripOf (chars : List Char) (s : String) : String :=
  String.ofList (s.toList.reverse.dropWhile chars.contains).reverse

end PyStr

namespace TenantSaas

/-! ## The environment -/

/-- `os.environ` -/
abbrev Environ := String → Option String

namespace Environ

variable (environ : Environ)

/-- `os.environ.get(name, default)` -/
def get (name default : String) : String := (environ name).getD default

/-- `os.environ.get(name, default).strip()` -/
def setting (name default : String) : String := PyStr.strip (environ.get name default)

/-- `os.environ.get(name, default).strip() or default` -/
def settingOr (name default : String) : String :=
  let value := environ.setting name default
  if value = "" then default else value

/-- `os.environ.get(name, default).lower() == "true"` -/
def flag (lower : String → String) (name default : String) : Bool :=
  lower (environ.get name default) == "true"

end Environ

/-- The default of a setting that is not there. -/
theorem Environ.settingOr_default {environ : Environ} {name default : String}
    (unset : environ name = none) (h : PyStr.strip default = default) :
    environ.settingOr name default = default := by
  have hvalue : environ.setting name default = default := by
    rw [Environ.setting, Environ.get, unset]
    exact h
  rw [Environ.settingOr, hvalue]
  exact ite_self default

/-- The settings of a process (`config.py:53-232`); the plan map is a default that a JSON text
overrides (`config.py:238-245`). -/
def Config.ofEnviron (lower : String → String) (environ : Environ)
    (billingPlanMap : List (String × String)) : Config where
  demoMode := environ.flag lower "DEMO_MODE" "true"
  usageMeteringEnabled := environ.flag lower "USAGE_METERING_ENABLED" "false"
  usageEventsQueueUrl := environ.setting "USAGE_EVENTS_QUEUE_URL" ""
  usageAggregateTable := environ.setting "USAGE_AGGREGATE_TABLE" "UsageMonthlyAggregate"
  billingPlanMap := billingPlanMap
  kmsKeyId := environ.get "KMS_KEY_ID" ""
  jsonApiRoutePrefixes :=
    ((PyStr.split (environ.get "JSON_API_ROUTE_PREFIXES" "/api/v1/billing/") ',').map
      PyStr.strip).filter (· != "")
  apiGatewayTrustedHeadersEnabled :=
    environ.flag lower "API_GATEWAY_TRUSTED_HEADERS_ENABLED" "false"
  apiGwSharedSecret := environ.setting "API_GW_SHARED_SECRET" ""
  apiGwSecretHeaderName := environ.setting "API_GW_SECRET_HEADER_NAME" "X-Api-Gateway-Secret"
  apiGwSubHeaderName := environ.setting "API_GW_SUB_HEADER_NAME" "X-Amzn-Cognito-Sub"
  apiGwUsernameHeaderName :=
    environ.setting "API_GW_USERNAME_HEADER_NAME" "X-Amzn-Cognito-Username"
  apiGwEmailHeaderName := environ.setting "API_GW_EMAIL_HEADER_NAME" "X-Amzn-Cognito-Email"
  apiGwGroupsHeaderName := environ.setting "API_GW_GROUPS_HEADER_NAME" "X-Amzn-Cognito-Groups"
  cognitoAppClientId := environ.get "COGNITO_APP_CLIENT_ID" ""
  cognitoDomain := PyStr.rstripOf ['/'] (environ.setting "COGNITO_DOMAIN" "")
  cognitoRedirectUri := environ.setting "COGNITO_REDIRECT_URI" ""
  cognitoLogoutRedirectUri := environ.setting "COGNITO_LOGOUT_REDIRECT_URI" ""
  cognitoScopes :=
    environ.setting "COGNITO_SCOPES" "openid email profile aws.cognito.signin.user.admin"
  cognitoAppClientSecret := environ.setting "COGNITO_APP_CLIENT_SECRET" ""
  awsRegion := environ.settingOr "AWS_REGION" "us-east-1"
  secretsManagerSecretName :=
    environ.settingOr "SECRETS_MANAGER_SECRET_NAME" "saas/secrets/rds/31"

/-! ## The secrets -/

/-- `a or b` -/
def Json.or (a b : Json) : Json := if a.truthy then a else b

/-- What `load_runtime_secrets` puts into `app.config`. -/
structure RuntimeSecrets where
  secretKey : Json
  cognitoAppClientSecret : Json

/-- The `try` of `load_runtime_secrets` (`app.py:89-98`): the bundle it goes on with. -/
def secretBundle (config : Config) (secret : Except PyError Json) : Except PyError Json :=
  match secret with
  | .ok bundle => .ok bundle
  | .error e => if config.demoMode then .ok (.obj []) else .error e

/-- `secret_bundle.get(name) or secret_bundle.get(older)` -/
def eitherSpelling (bundle : Json) (name older : String) : Except PyError Json := do
  let value ← bundle.dictGet name .null
  if value.truthy then pure value else bundle.dictGet older .null

/-- The signing key (`app.py:102-126`); `generated` is `secrets.token_urlsafe(48)`. -/
def flaskSecretKey (config : Config) (environ : Environ) (bundle : Json) (generated : String) :
    Except PyError Json := do
  let held ← eitherSpelling bundle "FLASK_SECRET_KEY" "flask_secret_key"
  let found := held.or (Json.ofOption (environ "FLASK_SECRET_KEY"))
  if found.truthy then pure found
  else if !config.demoMode then
    throw (.runtimeError ("FLASK_SECRET_KEY is required outside DEMO_MODE (must be identical " ++
      "across every ECS task so OAuth session state survives the Cognito redirect)."))
  else pure (.str generated)

/-- The client secret (`app.py:134-138`). -/
def resolvedClientSecret (environ : Environ) (bundle : Json) : Except PyError Json := do
  let held ← eitherSpelling bundle "COGNITO_APP_CLIENT_SECRET" "cognito_app_client_secret"
  pure (held.or (.str (environ.get "COGNITO_APP_CLIENT_SECRET" "")))

/-- `load_runtime_secrets` (`app.py:62-146`); `secret` is what `get_secret()` comes to. -/
def loadRuntimeSecrets (config : Config) (environ : Environ) (secret : Except PyError Json)
    (generated : String) : Except PyError RuntimeSecrets := do
  let bundle ← secretBundle config secret
  let secretKey ← flaskSecretKey config environ bundle generated
  let cognitoAppClientSecret ← resolvedClientSecret environ bundle
  pure ⟨secretKey, cognitoAppClientSecret⟩

/-- `create_app` up to the secrets: `config` from the environment, then the first `get_secret()`
of the process. -/
def startApp (lower : String → String) (environ : Environ)
    (billingPlanMap : List (String × String))
    (getSecretValue : String → Except PyError SecretString) (clock : Clock) (generated : String) :
    Except PyError RuntimeSecrets :=
  let config := Config.ofEnviron lower environ billingPlanMap
  loadRuntimeSecrets config environ (getSecret config getSecretValue clock none []).1 generated

/-! ## What is resolved -/

/-- The first call of `get_secret` outside DEMO_MODE reads Secrets Manager. -/
theorem getSecret_first {config : Config} {getSecretValue : String → Except PyError SecretString}
    {clock : Clock} (demo : config.demoMode = false)
    (hname : config.secretsManagerSecretName ≠ "") :
    (getSecret config getSecretValue clock none []).1 =
      readSecret config getSecretValue config.secretsManagerSecretName := by
  unfold getSecret fetchSecret
  simp only [Config.secretName, hname, demo, List.lookup_nil, if_false, Bool.false_eq_true]
  cases readSecret config getSecretValue config.secretsManagerSecretName with
  | ok value => rfl
  | error e => rfl

section Resolved

variable {environ : Environ} {fields : List (String × Json)}

@[simp] theorem eitherSpelling_obj (fields : List (String × Json)) (name older : String) :
    eitherSpelling (.obj fields) name older =
      .ok (((fields.lookup name).getD .null).or ((fields.lookup older).getD .null)) := by
  change (if ((fields.lookup name).getD .null).truthy then _ else _) = _
  unfold Json.or
  split <;> rfl

/-- Only a dict has `get`. -/
theorem eitherSpelling_eq_ok {bundle value : Json} {name older : String}
    (h : eitherSpelling bundle name older = .ok value) : ∃ fields, bundle = .obj fields := by
  cases bundle with
  | obj fields => exact ⟨fields, rfl⟩
  | _ => cases h

/-- What the bundle holds of the client secret. -/
def heldClientSecret (fields : List (String × Json)) : Json :=
  ((fields.lookup "COGNITO_APP_CLIENT_SECRET").getD .null).or
    ((fields.lookup "cognito_app_client_secret").getD .null)

/-- A process that starts has a dict of secrets, and its client secret from there or from the
environment. -/
theorem loadRuntimeSecrets_eq_ok {config : Config} {secret : Except PyError Json}
    {generated : String} {app : RuntimeSecrets}
    (h : loadRuntimeSecrets config environ secret generated = .ok app) :
    ∃ fields, secretBundle config secret = .ok (.obj fields) ∧ app.cognitoAppClientSecret =
      (heldClientSecret fields).or (.str (environ.get "COGNITO_APP_CLIENT_SECRET" "")) := by
  obtain ⟨bundle, hbundle, h⟩ := exceptBind_eq_ok.mp h
  obtain ⟨secretKey, -, h⟩ := exceptBind_eq_ok.mp h
  obtain ⟨clientSecret, hresolved, h⟩ := exceptBind_eq_ok.mp h
  cases h
  obtain ⟨held, hheld, hor⟩ := exceptBind_eq_ok.mp hresolved
  obtain ⟨fields, rfl⟩ := eitherSpelling_eq_ok hheld
  rw [eitherSpelling_obj] at hheld
  cases hheld
  cases hor
  exact ⟨fields, hbundle, rfl⟩

end Resolved

end TenantSaas
