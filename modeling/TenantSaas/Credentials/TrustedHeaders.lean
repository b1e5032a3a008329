import TenantSaas.Credentials.Groups

/-!
# Who the headers of the gateway speak for

`_resolve_trusted_header_identity` meant as a decision: which requests are given an identity,
which one, and how all others are turned away.  The comparison of the secret comes first, and
`hmac.compare_digest` takes only ASCII strings.
-/

namespace TenantSaas

section TrustedHeaders

variable (config : Config) (request : Request)

/-- The group names of the groups header. -/
def groupNames : List String :=
  forwardedGroups (PyStr.strip (request.header config.apiGwGroupsHeaderName))

/-- A request the headers are meant to be trusted for. -/
structure Intended : Prop where
  configured : config.apiGwSharedSecret ≠ ""
  secret : request.header config.apiGwSecretHeaderName = config.apiGwSharedSecret
  sub : PyStr.strip (request.header config.apiGwSubHeaderName) ≠ ""
  recognized : ∃ group ∈ groupNames config request, (cognitoGroupMap.lookup group).isSome
  oneTenant : OneTenant (groupNames config request)

/-- The headers are answered as declared: an identity for the intended requests only, of the
first recognized group, and one kind of error for all others. -/
structure AsDeclared : Prop where
  accepts : (∃ identity, resolveTrustedHeaderIdentity config request = .ok identity) ↔
    Intended config request
  decides : ∀ identity, resolveTrustedHeaderIdentity config request = .ok identity →
    firstKnownGroup (groupNames config request) =
      some (identity.group, ⟨identity.tenant, identity.role⟩)
  refuses : ∀ e, resolveTrustedHeaderIdentity config request = .error e →
    ∃ message, e = .trustedHeaderAuthError message
  /-- `_resolve_identity`, once session and token give nobody, raises nothing. -/
  answers : ∀ (world : World) (s t : AppState), config.apiGatewayTrustedHeadersEnabled = true →
    s.session.identity = none →
    world.run (resolveBearerJwtIdentity config request) { s with tick := s.tick + 1 } =
      (.ok none, t) →
    ∃ found, world.run (resolveIdentity config request) s = (.ok found, t) ∧
      (found.isSome = true ↔ Intended config request)

/-- No secret is configured, or it and the secret header are ASCII. -/
def Comparable : Prop :=
  config.apiGwSharedSecret = "" ∨
    PyStr.isAscii (request.header config.apiGwSecretHeaderName) = true ∧
      PyStr.isAscii config.apiGwSharedSecret = true

end TrustedHeaders

variable {config : Config} {request : Request}

/-! ## The comparison -/

theorem compareDigest_eq_ok {a b : String} {same : Bool} :
    compareDigest a b = .ok same ↔
      PyStr.isAscii a = true ∧ PyStr.isAscii b = true ∧ same = (a == b) := by
  unfold compareDigest
  cases PyStr.isAscii a <;> cases PyStr.isAscii b <;> simp [eq_comm]

theorem compareDigest_eq_error {a b : String} {e : PyError} :
    compareDigest a b = .error e ↔
      ¬ (PyStr.isAscii a = true ∧ PyStr.isAscii b = true) ∧ e = .typeError := by
  unfold compareDigest
  cases PyStr.isAscii a <;> cases PyStr.isAscii b <;> simp [eq_comm]

theorem Comparable.compareDigest (h : Comparable config request)
    (hsecret : config.apiGwSharedSecret ≠ "") :
    compareDigest (request.header config.apiGwSecretHeaderName) config.apiGwSharedSecret =
      .ok (request.header config.apiGwSecretHeaderName == config.apiGwSharedSecret) := by
  obtain ⟨hheader, hascii⟩ := h.resolve_left hsecret
  exact compareDigest_eq_ok.mpr ⟨hheader, hascii, rfl⟩

/-! ## What the resolver raises and returns -/

/-- Past the comparison, every refusal is the declared one. -/
theorem resolveTrustedHeaderIdentity_error {e : PyError}
    (h : resolveTrustedHeaderIdentity config request = .error e) :
    (∃ message, e = .trustedHeaderAuthError message) ∨
      config.apiGwSharedSecret ≠ "" ∧
        compareDigest (request.header config.apiGwSecretHeaderName) config.apiGwSharedSecret =
          .error e := by
  rcases resolveTrustedHeaderIdentity_cases config request with
    ⟨e', hrun, hreason, -⟩ | ⟨group, mapping, -, -, hrun⟩
  · cases hrun.symm.trans h
    exact hreason
  · cases hrun.symm.trans h

theorem trustedHeaders_of_ok {identity : Identity}
    (h : resolveTrustedHeaderIdentity config request = .ok identity) :
    TrustedHeaders config request := by
  rcases resolveTrustedHeaderIdentity_cases config request with
    ⟨e, hrun, -⟩ | ⟨group, mapping, htrusted, -⟩
  · cases hrun.symm.trans h
  · exact htrusted

/-- The groups that make a list of names resolve. -/
theorem resolveGroups_eq_some {groups : List String} {known : String × GroupMapping} :
    resolveGroups none groups = .ok (some known) ↔
      OneTenant groups ∧ firstKnownGroup groups = some known := by
  by_cases hone : OneTenant groups
  · rw [resolveGroups_oneTenant hone]
    simp [hone]
  · obtain ⟨⟨e, hscan⟩, -⟩ := resolveGroups_twoTenants hone
    rw [hscan]
    simp [hone]

theorem TrustedHeaders.equal (h : TrustedHeaders config request) :
    request.header config.apiGwSecretHeaderName = config.apiGwSharedSecret := by
  obtain ⟨-, -, hsame⟩ := compareDigest_eq_ok.mp h.same
  exact eq_of_beq hsame.symm

theorem Intended.trusted (h : Intended config request) (hcompare : Comparable config request) :
    TrustedHeaders config request := by
  refine ⟨h.configured, ?_, h.sub⟩
  rw [hcompare.compareDigest h.configured, h.secret, beq_self_eq_true]

theorem Intended.firstKnown (h : Intended config request) :
    ∃ known, firstKnownGroup (groupNames config request) = some known := by
  apply Option.ne_none_iff_exists'.mp
  intro hnone
  obtain ⟨group, hmem, hknown⟩ := h.recognized
  rw [firstKnownGroup_eq_none.mp hnone group hmem] at hknown
  cases hknown

/-- An identity comes from trusted headers, and from the first recognized group. -/
theorem resolveTrustedHeaderIdentity_ok {identity : Identity}
    (h : resolveTrustedHeaderIdentity config request = .ok identity) :
    Intended config request ∧ firstKnownGroup (groupNames config request) =
      some (identity.group, ⟨identity.tenant, identity.role⟩) := by
  have htrusted := trustedHeaders_of_ok h
  obtain ⟨group, mapping, hgroups, rfl⟩ := (resolveTrustedHeaderIdentity_eq_ok htrusted).mp h
  obtain ⟨hone, hfirst⟩ := resolveGroups_eq_some.mp hgroups
  obtain ⟨hmem, hlookup⟩ := mem_of_firstKnownGroup hfirst
  refine ⟨⟨htrusted.secret, htrusted.equal, htrusted.sub, ⟨group, hmem, ?_⟩, hone⟩, hfirst⟩
  rw [hlookup]
  rfl

theorem exists_ok_iff (hcompare : Comparable config request) :
    (∃ identity, resolveTrustedHeaderIdentity config request = .ok identity) ↔
      Intended config request := by
  constructor
  · intro h
    obtain ⟨identity, hidentity⟩ := h
    exact (resolveTrustedHeaderIdentity_ok hidentity).1
  · intro hintended
    obtain ⟨⟨group, mapping⟩, hfirst⟩ := hintended.firstKnown
    have hgroups := resolveGroups_eq_some.mpr ⟨hintended.oneTenant, hfirst⟩
    exact ⟨_, (resolveTrustedHeaderIdentity_eq_ok (hintended.trusted hcompare)).mpr
      ⟨group, mapping, hgroups, rfl⟩⟩

theorem declaredError (hcompare : Comparable config request) {e : PyError}
    (h : resolveTrustedHeaderIdentity config request = .error e) :
    ∃ message, e = .trustedHeaderAuthError message := by
  rcases resolveTrustedHeaderIdentity_error h with hdeclared | ⟨hsecret, herror⟩
  · exact hdeclared
  · rw [hcompare.compareDigest hsecret] at herror
    cases herror

/-! ## What `_resolve_identity` makes of it -/

/-- Where session and token give nobody, the headers decide. -/
theorem run_resolveIdentity_headers {world : World} {s t : AppState}
    (enabled : config.apiGatewayTrustedHeadersEnabled = true) (nobody : s.session.identity = none)
    (noBearer : world.run (resolveBearerJwtIdentity config request) { s with tick := s.tick + 1 } =
      (.ok none, t)) :
    world.run (resolveIdentity config request) s =
      (match resolveTrustedHeaderIdentity config request with
        | .ok identity => .ok (some identity)
        | .error (.trustedHeaderAuthError _) => .ok none
        | .error e => .error e, t) := by
  unfold resolveIdentity
  rw [World.run_session_bind]
  simp only [nobody]
  rw [World.run_bind_ok noBearer]
  simp only [enabled, Bool.not_true, Bool.false_eq_true, if_false]
  cases resolveTrustedHeaderIdentity config request with
  | ok identity => rfl
  | error e => cases e <;> rfl

/-- The headers are answered as declared exactly when the comparison of the secret takes both
strings. -/
theorem asDeclared_iff_comparable (config : Config) (request : Request) :
    AsDeclared config request ↔ Comparable config request := by
  constructor
  · intro hdeclared
    by_contra hcompare
    obtain ⟨hsecret, hascii⟩ := not_or.mp hcompare
    have herror := compareDigest_eq_error.mpr ⟨hascii, rfl⟩
    have hraised : resolveTrustedHeaderIdentity config request = .error .typeError := by
      unfold resolveTrustedHeaderIdentity
      rw [if_neg hsecret, herror]
      rfl
    obtain ⟨message, hmessage⟩ := hdeclared.refuses _ hraised
    cases hmessage
  · intro hcompare
    refine ⟨exists_ok_iff hcompare, fun _ h => (resolveTrustedHeaderIdentity_ok h).2,
      fun _ h => declaredError hcompare h, ?_⟩
    intro world s t enabled nobody noBearer
    rw [run_resolveIdentity_headers enabled nobody noBearer, ← exists_ok_iff hcompare]
    cases hresolved : resolveTrustedHeaderIdentity config request with
    | ok identity => exact ⟨some identity, rfl, by simp⟩
    | error e =>
      obtain ⟨message, rfl⟩ := declaredError hcompare hresolved
      exact ⟨none, rfl, by simp⟩

/-- A request that guesses the secret with an accent in it. -/
def accentedRequest : Request where
  method := "GET"
  path := "/users/details"
  headers name := if name = "X-Api-Gateway-Secret" then some "sécret" else none
  cookies _ := none
  args _ := none
  form _ := none

/-- The request is not refused: the comparison raises `TypeError`. -/
theorem accent_escapes : ¬ ∀ config request, AsDeclared config request := by
  intro h
  obtain ⟨message, hmessage⟩ := (h gatewayConfig accentedRequest).refuses .typeError rfl
  cases hmessage

end TenantSaas
