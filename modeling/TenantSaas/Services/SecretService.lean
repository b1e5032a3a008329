import TenantSaas.Config
import TenantSaas.Misc.TtlCache
import TenantSaas.Python

/-!
# Secrets

`services/secret_service.py`: secrets are fetched from Secrets Manager and kept in the process for
five minutes.  The cache is passed from call to call.
-/

namespace TenantSaas

/-- `SecretString` in an answer of Secrets Manager. -/
inductive SecretString where
  /-- A binary secret has none. -/
  | absent
  | empty
  | text (body : Body)

/-- `json.loads(raw) if raw else {}` -/
def SecretString.decode : SecretString → Except PyError Json
  | absent => .ok (.obj [])
  | empty => .ok (.obj [])
  | text body => body.loads

abbrev CacheEntry := TtlCache.Entry Json ℚ

/-- `_cache` -/
abbrev SecretCache := List (String × CacheEntry)

def cacheTtlSeconds : ℚ := 300

/-- `_DEMO_SECRETS` (`secret_service.py:26-31`) -/
def demoSecrets : Json := .obj
  [("db_username", .str "demo_app_user"), ("db_password", .str "demo-password-not-real"),
    ("flask_secret_key", .str "demo-flask-secret-key-not-for-prod"),
    ("cognito_app_client_secret", .str "")]

/-- What a call reads of `time.time()`: once to check an entry, once to store one. -/
structure Clock where
  checked : ℚ
  stored : ℚ

/-- `_get_secrets_client` (`secret_service.py:34-63`): the region of the client. -/
def getSecretsClient (config : Config) : Except PyError String :=
  let region := PyStr.strip config.awsRegion
  if region = "" then
    .error (.valueError ("AWS_REGION is empty. Set the AWS_REGION environment variable " ++
      "on the ECS task definition (e.g. 'us-east-1')."))
  else .ok region

/-- `secret_name or config.SECRETS_MANAGER_SECRET_NAME` -/
def Config.secretName (config : Config) : Option String → String
  | some name => if name = "" then config.secretsManagerSecretName else name
  | none => config.secretsManagerSecretName

section GetSecret

variable (config : Config) (getSecretValue : String → Except PyError SecretString)

/-- What `get_secret` fetches and decodes (`secret_service.py:92-95`). -/
def readSecret (secretName : String) : Except PyError Json := do
  let _region ← getSecretsClient config
  let raw ← getSecretValue secretName
  raw.decode

/-- `get_secret` without a fresh entry (`secret_service.py:86-106`). -/
def fetchSecret (clock : Clock) (secretName : String) (cache : SecretCache) :
    Except PyError Json × SecretCache :=
  if config.demoMode then
    (.ok demoSecrets, dictSet secretName ⟨demoSecrets, clock.stored⟩ cache)
  else
    match readSecret config getSecretValue secretName with
    | .ok value => (.ok value, dictSet secretName ⟨value, clock.stored⟩ cache)
    | .error e => (.error e, cache)

/-- `get_secret` (`secret_service.py:66-106`) -/
def getSecret (clock : Clock) (secretName : Option String) (cache : SecretCache) :
    Except PyError Json × SecretCache :=
  let name := config.secretName secretName
  if name = "" then
    (.error (.valueError ("SECRETS_MANAGER_SECRET_NAME is empty. Set it on the ECS task " ++
      "definition (e.g. 'saas/secrets/rds/31').")), cache)
  else
    match cache.lookup name with
    | some entry =>
      if clock.checked - entry.fetchedAt < cacheTtlSeconds then (.ok entry.value, cache)
      else fetchSecret config getSecretValue clock name cache
    | none => fetchSecret config getSecretValue clock name cache

end GetSecret

end TenantSaas
