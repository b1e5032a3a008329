import Mathlib.Data.List.DropRight
import TenantSaas.Misc.QueryText
import TenantSaas.SignIn.Callback

/-!
# A sign-in from end to end

`login_redirect` sends the browser to the Hosted UI with a URL, the Hosted UI sends it back with
another, and `callback` ends the sign-in.  All that passes between them passes as the text of a
URL.
-/

namespace TenantSaas

open AuthPages QueryText

/-! ## What the URL carries -/

def urlsafeChar (c : Char) : Char := if c = '+' then '-' else if c = '/' then '_' else c

/-- `base64.urlsafe_b64encode(bytes).rstrip(b"=").decode("ascii")` -/
def urlsafeB64 (bytes : List UInt8) : String :=
  String.ofList (((Base64.encode bytes).map urlsafeChar).rdropWhile (· == '='))

/-- `generate_pkce_pair` (`cognito_service.py:32-36`), for the bytes that are drawn. -/
def generatePkcePair (sha256 : List UInt8 → List UInt8) (bytes : List UInt8) : String × String :=
  let codeVerifier := urlsafeB64 bytes
  (codeVerifier, urlsafeB64 (sha256 (utf8Encode codeVerifier)))

/-- `generate_state` (`cognito_service.py:39-40`) -/
def generateState (bytes : List UInt8) : String := urlsafeB64 bytes

/-- The world draws 64 bytes for a verifier and 32 for a state. -/
structure World.Draws (world : World) (sha256 : List UInt8 → List UInt8) : Prop where
  pkcePair : ∀ n, ∃ bytes, bytes.length = 64 ∧ world.pkcePair n = generatePkcePair sha256 bytes
  state : ∀ n, ∃ bytes, bytes.length = 32 ∧ world.state n = generateState bytes

/-- A verifier as RFC 7636 asks for it. -/
structure IsVerifier (text : String) : Prop where
  length : 43 ≤ text.toList.length ∧ text.toList.length ≤ 128
  unreserved : ∀ c ∈ text.toList, isSafe c = true

section Base64Url

theorem urlsafeChar_digit {n : Nat} (h : n < 64) :
    isSafe (urlsafeChar (Base64.digit n)) = true := by
  have hall : ∀ n < 64, isSafe (urlsafeChar (Base64.digit n)) = true := by decide
  exact hall n h

/-- The digits of a text, and its padding. -/
theorem encode_eq_digits (bytes : List UInt8) : ∃ ds pads,
    Base64.encode bytes = ds ++ List.replicate pads '=' ∧ ds.length = (4 * bytes.length + 2) / 3 ∧
      ∀ c ∈ ds, ∃ n < 64, c = Base64.digit n := by
  fun_induction Base64.encode bytes with
  | case1 => exact ⟨[], 0, rfl, rfl, by simp⟩
  | case2 a =>
    have ha := a.toNat_lt
    refine ⟨[_, _], 2, rfl, by simp, ?_⟩
    simp only [List.forall_mem_cons, List.not_mem_nil, false_imp_iff, implies_true, and_true]
    exact ⟨⟨_, by omega, rfl⟩, ⟨_, by omega, rfl⟩⟩
  | case3 a b =>
    have ha := a.toNat_lt
    have hb := b.toNat_lt
    refine ⟨[_, _, _], 1, rfl, by simp, ?_⟩
    simp only [List.forall_mem_cons, List.not_mem_nil, false_imp_iff, implies_true, and_true]
    exact ⟨⟨_, by omega, rfl⟩, ⟨_, by omega, rfl⟩, ⟨_, by omega, rfl⟩⟩
  | case4 a b c rest ih =>
    have ha := a.toNat_lt
    have hb := b.toNat_lt
    have hc := c.toNat_lt
    obtain ⟨ds, pads, hencode, hlength, hdigits⟩ := ih
    refine ⟨_ :: _ :: _ :: _ :: ds, pads, by rw [hencode]; rfl, ?_, ?_⟩
    · simp only [List.length_cons]
      omega
    · simp only [List.forall_mem_cons]
      exact ⟨⟨_, by omega, rfl⟩, ⟨_, by omega, rfl⟩, ⟨_, by omega, rfl⟩, ⟨_, by omega, rfl⟩,
        hdigits⟩

theorem rdropWhile_padding {cs : List Char} (h : ∀ c ∈ cs, isSafe c = true) (pads : Nat) :
    (cs ++ List.replicate pads '=').rdropWhile (· == '=') = cs := by
  induction pads with
  | zero =>
    rw [List.replicate_zero, List.append_nil, List.rdropWhile_eq_self_iff]
    intro hne hlast
    have hsafe := h _ (List.getLast_mem hne)
    rw [beq_iff_eq.mp hlast] at hsafe
    cases hsafe
  | succ pads ih =>
    rw [List.replicate_succ', ← List.append_assoc, List.rdropWhile_concat_pos _ _ _ rfl, ih]

theorem urlsafeB64_spec (bytes : List UInt8) :
    (urlsafeB64 bytes).toList.length = (4 * bytes.length + 2) / 3 ∧
      ∀ c ∈ (urlsafeB64 bytes).toList, isSafe c = true := by
  obtain ⟨ds, pads, hencode, hlength, hdigits⟩ := encode_eq_digits bytes
  have hsafe : ∀ c ∈ ds.map urlsafeChar, isSafe c = true := by
    intro c hc
    obtain ⟨d, hd, rfl⟩ := List.mem_map.mp hc
    obtain ⟨n, hn, rfl⟩ := hdigits d hd
    exact urlsafeChar_digit hn
  have hdigitsOnly : (urlsafeB64 bytes).toList = ds.map urlsafeChar := by
    rw [urlsafeB64, String.toList_ofList, hencode, List.map_append, List.map_replicate]
    exact rdropWhile_padding hsafe pads
  rw [hdigitsOnly, List.length_map]
  exact ⟨hlength, hsafe⟩

theorem isVerifier_urlsafeB64 {bytes : List UInt8} (h : bytes.length = 64) :
    IsVerifier (urlsafeB64 bytes) := by
  obtain ⟨hlength, hsafe⟩ := urlsafeB64_spec bytes
  exact ⟨by omega, hsafe⟩

theorem generateState_ne {bytes : List UInt8} (h : bytes.length = 32) :
    generateState bytes ≠ "" := by
  intro hempty
  have hlength := (urlsafeB64_spec bytes).1
  rw [← generateState, hempty, h] at hlength
  cases hlength

end Base64Url

/-! ## The Hosted UI -/

def Url.text (url : Url) : String := writeUrl url.base url.params

/-- What the Hosted UI takes from the URL with which a browser comes. -/
structure AuthorizationRequest where
  clientId : String
  responseType : String
  scope : String
  redirectUri : String
  state : String
  codeChallengeMethod : String
  codeChallenge : String

namespace AuthorizationRequest

def read (text : String) : Option AuthorizationRequest := do
  let (_, params) ← readUrl text
  let clientId ← params.lookup "client_id"
  let responseType ← params.lookup "response_type"
  let scope ← params.lookup "scope"
  let redirectUri ← params.lookup "redirect_uri"
  let state ← params.lookup "state"
  let codeChallengeMethod ← params.lookup "code_challenge_method"
  let codeChallenge ← params.lookup "code_challenge"
  some ⟨clientId, responseType, scope, redirectUri, state, codeChallengeMethod, codeChallenge⟩

/-- Where the Hosted UI sends the browser with a code. -/
def back (asked : AuthorizationRequest) (code : String) : String :=
  writeUrl asked.redirectUri [("code", code), ("state", asked.state)]

end AuthorizationRequest

/-- The arguments of the request are those of the URL. -/
def Request.Follows (request : Request) (text : String) : Prop :=
  ∃ base params, readUrl text = some (base, params) ∧
    ∀ name, request.args name = params.lookup name

/-- The settings of a sign-in through the Hosted UI. -/
structure Config.UsesHostedUi (config : Config) : Prop where
  demoMode : config.demoMode = false
  cognitoDomain : config.cognitoDomain ≠ ""
  cognitoAppClientId : config.cognitoAppClientId ≠ ""
  cognitoRedirectUri : config.cognitoRedirectUri ≠ ""
  plainDomain : isBase config.cognitoDomain = true
  plainRedirect : isBase config.cognitoRedirectUri = true

section Flow

variable {config : Config} {world : World} {sha256 : List UInt8 → List UInt8}

theorem readUrl_buildLoginUrl (h : config.UsesHostedUi) (state codeChallenge scope : String) :
    readUrl (buildLoginUrl config state codeChallenge scope).text =
      some ("https://" ++ config.cognitoDomain ++ "/oauth2/authorize",
        (buildLoginUrl config state codeChallenge scope).params) := by
  have hbase : isBase ("https://" ++ config.cognitoDomain ++ "/oauth2/authorize") = true := by
    rw [isBase_append, isBase_append, h.plainDomain]
    rfl
  exact readUrl_writeUrl hbase _

/-- The Hosted UI reads what `login_redirect` has asked for. -/
theorem read_buildLoginUrl (h : config.UsesHostedUi) (state codeChallenge : String) :
    AuthorizationRequest.read (buildLoginUrl config state codeChallenge customScope).text =
      some ⟨config.cognitoAppClientId, "code", customScope, config.cognitoRedirectUri, state,
        "S256", codeChallenge⟩ := by
  have hscope : PyStr.contains customScope "saas-api/read" = true := by decide +kernel
  rw [AuthorizationRequest.read, readUrl_buildLoginUrl h]
  simp only [buildLoginUrl, if_neg (show customScope ≠ "" by decide), hscope, if_true]
  rfl

theorem run_loginRedirect_away (h : config.UsesHostedUi) (s : AppState) :
    world.run (loginRedirect config) s =
      (.ok ⟨.url (buildLoginUrl config (world.state (s.tick + 1)) (world.pkcePair s.tick).2
        customScope), .keep⟩,
      { s with
        session := { s.session with
          oauthState := some (world.state (s.tick + 1))
          oauthCodeVerifier := some (world.pkcePair s.tick).1 }
        tick := s.tick + 6 }) := by
  unfold loginRedirect
  rw [if_neg (by simp [h.demoMode]), if_neg]
  · rfl
  · simp [h.cognitoDomain, h.cognitoAppClientId, h.cognitoRedirectUri]

/-- A request that follows the Hosted UI back is verified by the session that sent it there. -/
theorem verifiedCode_of_follows {asked : AuthorizationRequest} {code : String} {request : Request}
    {session : Session} (h : isBase asked.redirectUri = true)
    (hcode : code ≠ "") (hstate : asked.state ≠ "") (hfollows : request.Follows (asked.back code))
    (hsession : session.oauthState = some asked.state) :
    truthy (request.args "error") = false ∧
      verifiedCode request session = some (code, session.oauthCodeVerifier) := by
  obtain ⟨base, params, hread, hargs⟩ := hfollows
  rw [AuthorizationRequest.back, readUrl_writeUrl h] at hread
  cases hread
  have herror : request.args "error" = none := hargs "error"
  have hargCode : request.args "code" = some code := hargs "code"
  have hargState : request.args "state" = some asked.state := hargs "state"
  refine ⟨by rw [herror]; rfl, ?_⟩
  unfold verifiedCode
  rw [hargCode, hargState, hsession]
  simp [hcode, hstate]

/-- A callback that is verified and whose tokens are accepted signs in. -/
theorem run_callback_of_verified {request : Request} {code : String} {codeVerifier : Option String}
    {tokens : CodeTokens} {identity : Identity} {u : AppState}
    (herror : truthy (request.args "error") = false)
    (hverified : verifiedCode request u.session = some (code, codeVerifier))
    (hauthenticate : (world.run (authenticate config code codeVerifier) u.popped).1 =
      .ok (tokens, identity)) (haccepted : Accepted world tokens) :
    ∃ answer v, world.run (callback config request) u = (.ok answer, v) ∧
      answer.isError = false ∧ v.session.identity = some identity ∧
      v.session.accessToken = tokens.accessToken ∧ v.session.tokenExpiresAt.isSome = true := by
  have hreached : reached config world request u = some (tokens, identity) := by
    rw [reached, if_neg (by simp [herror]), hverified, Option.bind_some, hauthenticate]
    rfl
  obtain ⟨w, hcallback⟩ := run_callback_some hreached
  obtain ⟨r, v, hestablish, hidentity, hdone, -⟩ := @run_establish world tokens identity w
  obtain ⟨answer, rfl, hok, htoken, hexpiry⟩ := hdone haccepted
  exact ⟨answer, v, hcallback.trans (World.run_tryCatch_ok hestablish), hok, hidentity, htoken,
    hexpiry⟩

/-- A sign-in ends as it is meant to: the Hosted UI reads from the URL of `login_redirect` a
request of this client with the challenge of the verifier that the session keeps; and if the
browser comes back with the code, while its session still has what `login_redirect` put there, then
the callback shows this verifier with the code, and signs in whom the accepted tokens are of. -/
theorem sign_in_completes (h : config.UsesHostedUi) (hdraws : world.Draws sha256) (s : AppState) :
    ∃ url t asked codeVerifier,
      world.run (loginRedirect config) s = (.ok ⟨.url url, .keep⟩, t) ∧
      AuthorizationRequest.read url.text = some asked ∧
      asked.clientId = config.cognitoAppClientId ∧
      asked.redirectUri = config.cognitoRedirectUri ∧
      IsVerifier codeVerifier ∧ t.session.oauthCodeVerifier = some codeVerifier ∧
      t.session.oauthState = some asked.state ∧ asked.codeChallengeMethod = "S256" ∧
      asked.codeChallenge = urlsafeB64 (sha256 (utf8Encode codeVerifier)) ∧
      ∀ code request u, code ≠ "" → request.Follows (asked.back code) →
        u.session.oauthState = t.session.oauthState →
        u.session.oauthCodeVerifier = t.session.oauthCodeVerifier →
        ∀ tokens identity,
          (world.run (authenticate config code (some codeVerifier)) u.popped).1 =
            .ok (tokens, identity) → Accepted world tokens →
          ∃ answer v, world.run (callback config request) u = (.ok answer, v) ∧
            answer.isError = false ∧ v.session.identity = some identity ∧
            v.session.accessToken = tokens.accessToken ∧
            v.session.tokenExpiresAt.isSome = true := by
  obtain ⟨verifierBytes, hverifierBytes, hpair⟩ := hdraws.pkcePair s.tick
  obtain ⟨stateBytes, hstateBytes, hstate⟩ := hdraws.state (s.tick + 1)
  refine ⟨_, _, _, (world.pkcePair s.tick).1, run_loginRedirect_away h s,
    read_buildLoginUrl h _ _, rfl, rfl, ?_, rfl, rfl, rfl, ?_, ?_⟩
  · rw [hpair]
    exact isVerifier_urlsafeB64 hverifierBytes
  · rw [hpair]
    rfl
  · intro code request u hcode hfollows huState huVerifier tokens identity hauthenticate haccepted
    have hne : world.state (s.tick + 1) ≠ "" := by
      rw [hstate]
      exact generateState_ne hstateBytes
    obtain ⟨herror, hverified⟩ := verifiedCode_of_follows h.plainRedirect hcode hne hfollows huState
    rw [huVerifier] at hverified
    exact run_callback_of_verified herror hverified hauthenticate haccepted

end Flow

/-! ## A sign-in -/

/-- A world that draws zeros, and whose token endpoint gives tokens of an administrator. -/
def zerosWorld : World :=
  { exchangeWorld adminClaims (.int 3600) with
    pkcePair := fun _ => generatePkcePair id (List.replicate 64 0)
    state := fun _ => generateState (List.replicate 32 0) }

theorem zerosWorld_draws : zerosWorld.Draws id where
  pkcePair _ := ⟨_, List.length_replicate, rfl⟩
  state _ := ⟨_, List.length_replicate, rfl⟩

theorem sampleConfig_usesHostedUi : Config.UsesHostedUi sampleConfig where
  demoMode := rfl
  cognitoDomain := by decide
  cognitoAppClientId := by decide
  cognitoRedirectUri := by decide
  plainDomain := rfl
  plainRedirect := rfl

/-- The request with which a browser follows a URL. -/
def followRequest (text : String) : Request :=
  { callbackRequest with args := fun name => ((readUrl text).map Prod.snd).bind (List.lookup name) }

theorem alice_signs_in : ∃ url t, ∃ asked : AuthorizationRequest, ∃ answer v,
    zerosWorld.run (loginRedirect sampleConfig) emptyState = (.ok ⟨.url url, .keep⟩, t) ∧
    AuthorizationRequest.read url.text = some asked ∧
    zerosWorld.run (callback sampleConfig (followRequest (asked.back "code"))) t = (.ok answer, v) ∧
    v.session.identity.map Identity.username = some (some "alice") := by
  obtain ⟨url, t, asked, codeVerifier, hrun, hread, -, hredirect, -, -, -, -, -, hrest⟩ :=
    sign_in_completes sampleConfig_usesHostedUi zerosWorld_draws emptyState
  have hback : readUrl (asked.back "code") =
      some (asked.redirectUri, [("code", "code"), ("state", asked.state)]) := by
    rw [AuthorizationRequest.back, hredirect]
    exact readUrl_writeUrl rfl _
  have hfollows : (followRequest (asked.back "code")).Follows (asked.back "code") :=
    ⟨_, _, hback, fun name => by simp only [followRequest, hback]; rfl⟩
  rw [run_loginRedirect_away sampleConfig_usesHostedUi] at hrun
  cases hrun
  obtain ⟨answer, v, hcallback, -, hidentity, -⟩ := hrest "code" _ _ (by decide) hfollows rfl rfl
    _ _ rfl ⟨3600, rfl, fun _ => rfl⟩
  refine ⟨_, _, asked, answer, v, run_loginRedirect_away sampleConfig_usesHostedUi _, hread,
    hcallback, ?_⟩
  rw [hidentity]
  rfl

end TenantSaas
