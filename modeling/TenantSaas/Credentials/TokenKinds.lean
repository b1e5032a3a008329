import TenantSaas.Credentials.Groups
import TenantSaas.Web.SessionExpiry

/-!
# ID tokens and access tokens

A user pool issues two kinds of tokens: an ID token names the app client in `aud`, an access
token names it in `client_id` and has no `aud`.  `validate_jwt` gives `jwt.decode` an audience,
and reads `token_use` afterwards.
-/

namespace TenantSaas

/-- A token that the pool signed: what the program reads of its payload, and the two claims that
name an app client.  An `aud` that is a string is a list of one. -/
structure PoolToken where
  text : String
  claims : Claims
  aud : Option (List String)
  clientId : Option String

namespace PoolToken

variable (token : PoolToken) (client : String)

/-- `aud` names the app client. -/
def names : Bool :=
  match token.aud with
  | some audience => audience.contains client
  | none => false

/-- An ID token of the app client, or an access token of it. -/
def Own : Prop :=
  token.claims.tokenUse = some "id" ∧ token.names client = true ∨
    token.claims.tokenUse = some "access" ∧ token.clientId = some client

/-- What Cognito puts into its tokens. -/
structure Issued : Prop where
  idToken : token.claims.tokenUse = some "id" → token.aud ≠ none
  accessToken : token.claims.tokenUse = some "access" →
    token.aud = none ∧ token.clientId ≠ none

/-- The token has not expired. -/
def Unexpired (now : ℚ) : Prop := ∃ exp, token.claims.exp = some exp ∧ now < exp

end PoolToken

/-- `jwt.decode` of a token of the pool that has not expired, and whose `iat` and `nbf` lie in the
past: its claims if `aud` names the audience, and an error if it does not or is missing. -/
def DecodesAudience (world : World) (audience : String) (token : PoolToken) : Prop :=
  ∀ n, token.Unexpired (world.time n) → world.jwt n token.text =
    if token.names audience then .ok token.claims
    else .error (.invalidTokenError "Audience doesn't match")

/-- The tokens of the app client are accepted, in a request too if they have a known group; all
others are refused. -/
structure AcceptsOwn (config : Config) (world : World) (token : PoolToken) (s : AppState) :
    Prop where
  own : token.Own config.cognitoAppClientId →
    (world.run (validateJwt config token.text) s).1 = .ok token.claims
  other : ¬ token.Own config.cognitoAppClientId → ∃ message,
    (world.run (validateJwt config token.text) s).1 = .error (.invalidTokenError message)
  presented : token.Own config.cognitoAppClientId → ∀ request,
    presentedToken request = some token.text → token.text ≠ "" →
    (∃ known, firstClaimedGroup token.claims.groups = .ok (some known)) →
    ∃ identity, (world.run (resolveBearerJwtIdentity config request) s).1 = .ok (some identity)

section Validate

variable {config : Config} {world : World} {token : PoolToken} {now : ℚ} {s : AppState}

/-- `validate_jwt` of an unexpired token looks at `aud`, and then at `token_use`. -/
theorem run_validateJwt (real : config.demoMode = false)
    (reached : world.fault s.tick (.decodeJwt token.text) = none)
    (decodes : DecodesAudience (world.atTime now) config.cognitoAppClientId token)
    (unexpired : token.Unexpired now) :
    ((world.atTime now).run (validateJwt config token.text) s).1 =
      if token.names config.cognitoAppClientId then
        if token.claims.tokenUse ≠ some "id" ∧ token.claims.tokenUse ≠ some "access" then
          .error (.invalidTokenError "Unexpected token_use claim")
        else .ok token.claims
      else .error (.invalidTokenError "Audience doesn't match") := by
  have hfailure : (world.atTime now).failure s (.decodeJwt token.text) = none := reached
  have hdecode : (world.atTime now).run (perform (.decodeJwt token.text)) s =
      ((world.atTime now).jwt s.tick token.text, { s with tick := s.tick + 1 }) := by
    rw [World.run_perform, World.exec_of_answer hfailure]
    rfl
  rw [decodes s.tick unexpired] at hdecode
  unfold validateJwt
  by_cases hnames : token.names config.cognitoAppClientId = true
  · rw [if_pos hnames] at hdecode ⊢
    rw [World.run_bind_ok hdecode, real, if_neg Bool.false_ne_true]
    by_cases huse : token.claims.tokenUse ≠ some "id" ∧ token.claims.tokenUse ≠ some "access"
    · rw [if_pos huse, if_pos huse]
      rfl
    · obtain ⟨exp, hexp, hlater⟩ := unexpired
      have hnow : ¬ token.claims.exp.getD 0 < now := by
        rw [hexp, Option.getD_some]
        exact not_lt.mpr hlater.le
      rw [if_neg huse, if_neg huse, World.run_time_bind]
      show ((world.atTime now).run (if token.claims.exp.getD 0 < now then _ else _) _).1 = _
      rw [if_neg hnow]
      rfl
  · rw [if_neg hnames] at hdecode ⊢
    rw [World.run_bind_error hdecode]

/-- A request with a valid token of a known group acts under an identity. -/
theorem exists_bearer {request : Request} {claims : Claims} {text : String}
    (presented : presentedToken request = some text) (nonempty : text ≠ "")
    (valid : (world.run (validateJwt config text) s).1 = .ok claims)
    (known : ∃ known, firstClaimedGroup claims.groups = .ok (some known)) : ∃ identity,
    (world.run (resolveBearerJwtIdentity config request) s).1 = .ok (some identity) := by
  obtain ⟨known, hfirst⟩ := known
  rcases hrun : world.run (validateJwt config text) s with ⟨r, t⟩
  rw [hrun] at valid
  obtain rfl : r = .ok claims := valid
  have hresolved : ∃ identity, resolveTenantAndRole claims = .ok identity := by
    unfold resolveTenantAndRole
    rw [hfirst]
    exact ⟨_, rfl⟩
  obtain ⟨identity, hidentity⟩ := hresolved
  rw [run_resolveBearerJwtIdentity presented nonempty hrun hidentity]
  exact ⟨_, rfl⟩

end Validate

/-- A token of the pool is accepted as meant exactly when it is no access token of the app
client. -/
theorem acceptsOwn_iff (config : Config) (world : World) (now : ℚ) (token : PoolToken)
    (s : AppState) (real : config.demoMode = false) (issued : token.Issued)
    (unexpired : token.Unexpired now)
    (decodes : DecodesAudience (world.atTime now) config.cognitoAppClientId token)
    (reached : world.fault s.tick (.decodeJwt token.text) = none) :
    AcceptsOwn config (world.atTime now) token s ↔
      ¬ (token.claims.tokenUse = some "access" ∧
        token.clientId = some config.cognitoAppClientId) := by
  have hrun := run_validateJwt real reached decodes unexpired
  constructor
  · rintro haccepts ⟨haccess, hclient⟩
    have hok := haccepts.own (.inr ⟨haccess, hclient⟩)
    have hnames : ¬ token.names config.cognitoAppClientId = true := by
      rw [PoolToken.names, (issued.accessToken haccess).1]
      exact Bool.false_ne_true
    rw [hrun, if_neg hnames] at hok
    cases hok
  · intro hnot
    have hown : token.Own config.cognitoAppClientId →
        ((world.atTime now).run (validateJwt config token.text) s).1 = .ok token.claims := by
      intro h'
      rcases h' with ⟨huse, hnames⟩ | haccess
      · rw [hrun, if_pos hnames, if_neg (by simp [huse])]
      · exact absurd haccess hnot
    refine ⟨hown, fun hother => ?_, fun h request hpresented hnonempty hknown => ?_⟩
    · rw [hrun]
      by_cases hnames : token.names config.cognitoAppClientId = true
      · rw [if_pos hnames]
        have huse : token.claims.tokenUse ≠ some "id" ∧ token.claims.tokenUse ≠ some "access" := by
          refine ⟨fun hid => hother (.inl ⟨hid, hnames⟩), fun haccess => ?_⟩
          rw [PoolToken.names, (issued.accessToken haccess).1] at hnames
          cases hnames
        rw [if_pos huse]
        exact ⟨_, rfl⟩
      · rw [if_neg hnames]
        exact ⟨_, rfl⟩
    · exact exists_bearer hpresented hnonempty (hown h) hknown

/-- The ID token of a sign-in. -/
def sampleIdToken : PoolToken where
  text := "id-token"
  claims := { memberClaims ["TenantA_user"] with tokenUse := some "id" }
  aud := some ["client"]
  clientId := none

/-- The access token that comes with it. -/
def sampleAccessToken : PoolToken where
  text := "access-token"
  claims := memberClaims ["TenantA_user"]
  aud := none
  clientId := some "client"

/-- A world that knows the two tokens. -/
def poolWorld : World := { quietWorld with
  jwt := fun _ text =>
    if text = "id-token" then .ok sampleIdToken.claims
    else .error (.invalidTokenError "Audience doesn't match") }

theorem sample_unexpired : sampleIdToken.Unexpired 0 ∧ sampleAccessToken.Unexpired 0 :=
  ⟨⟨1000, rfl, by norm_num⟩, 1000, rfl, by norm_num⟩

theorem id_token_accepted : AcceptsOwn sampleConfig (poolWorld.atTime 0) sampleIdToken emptyState :=
  (acceptsOwn_iff sampleConfig poolWorld 0 sampleIdToken emptyState rfl
    ⟨fun _ => by decide, fun h => absurd h (by decide)⟩ sample_unexpired.1 (fun _ _ => rfl)
    rfl).mpr fun h => absurd h.1 (by decide)

/-- The access token of the app client itself is refused. -/
theorem access_token_refused : ¬ ∀ (config : Config) (world : World) (now : ℚ)
    (token : PoolToken) (s : AppState), config.demoMode = false → token.Issued →
    token.Unexpired now → DecodesAudience (world.atTime now) config.cognitoAppClientId token →
    world.fault s.tick (.decodeJwt token.text) = none →
    AcceptsOwn config (world.atTime now) token s := by
  intro h
  have haccepts := h sampleConfig poolWorld 0 sampleAccessToken emptyState rfl
    ⟨fun huse => absurd huse (by decide), fun _ => by decide⟩ sample_unexpired.2
    (fun _ _ => rfl) rfl
  have hok := haccepts.own (.inr ⟨rfl, rfl⟩)
  cases hok

end TenantSaas
