import TenantSaas.Credentials.TrustedHeaders
import TenantSaas.Web.Serve
import TenantSaas.Web.SessionExpiry

/-!
# Pages and JSON

`_wants_json` decides whether a view renders a page or answers JSON, and `_is_json_route` whether
a guard that refuses a request redirects it or answers JSON.  The first looks for a browser, the
second for headers of API clients.
-/

namespace TenantSaas

/-! ## Who a request is from -/

section From

variable (config : Config) (world : World) (request : Request) (s : AppState)

/-- The identity of a token: its claims, and their tenant and role. -/
def tokenIdentity (token : String) : Except PyError Identity := do
  let claims ← (world.run (validateJwt config token) { s with tick := s.tick + 1 }).1
  resolveTenantAndRole claims

/-- The request has a token, and nothing is wrong with it. -/
def Bears (identity : Identity) : Prop :=
  ∃ token found, presentedToken request = some token ∧ token ≠ "" ∧
    tokenIdentity config world s token = .ok found ∧
    identity = { found with userId := pyOr found.sub found.username, profileComplete := true }

/-- It has none, or one that is refused. -/
def BearsNothing : Prop :=
  ∀ token, presentedToken request = some token → token ≠ "" →
    ∃ message, tokenIdentity config world s token = .error (.invalidTokenError message)

/-- The identity a request comes with: the session's, the token's, or the gateway's. -/
inductive From : Option Identity → Prop where
  | session {identity : Identity} (h : s.session.identity = some identity) : From (some identity)
  | bearer {identity : Identity} (nobody : s.session.identity = none)
      (h : Bears config world request s identity) : From (some identity)
  | gateway {identity : Identity} (nobody : s.session.identity = none)
      (nothing : BearsNothing config world request s)
      (enabled : config.apiGatewayTrustedHeadersEnabled = true)
      (h : resolveTrustedHeaderIdentity config request = .ok identity) : From (some identity)
  | nobody (nobody : s.session.identity = none) (nothing : BearsNothing config world request s)
      (h : config.apiGatewayTrustedHeadersEnabled = true → ∃ message,
        resolveTrustedHeaderIdentity config request = .error (.trustedHeaderAuthError message)) :
      From none

/-- There is nobody to let in, or somebody else than an administrator. -/
def Refused (route : Route) : Prop :=
  From config world request s none ∨ route.isAdmin = true ∧
    ∃ identity, From config world request s (some identity) ∧ identity.role ≠ "admin"

end From

/-! ## The two classifiers -/

/-- A page load of a browser: it does not ask for JSON, and has a session or asks for HTML. -/
def Request.PageLoad (request : Request) (session : Session) : Prop :=
  request.header "Accept" ≠ "application/json" ∧
    (session.identity.isSome || PyStr.contains (request.header "Accept") "text/html") = true

/-- The headers that `_is_json_route` looks for. -/
def Request.ApiHeaders (config : Config) (request : Request) : Prop :=
  (request.headers config.apiGwSecretHeaderName).isSome = true ∨
    truthy (request.headers "Authorization") = true

/-- A browser that is refused is redirected. -/
def PagesForBrowsers (config : Config) (world : World) (request : Request) (route : Route)
    (s : AppState) : Prop :=
  request.PageLoad s.session → ∀ response t,
    world.run (route.guard config request) s = (.ok (.deny response), t) →
      ∃ endpoint, response = .redirect endpoint

/-- How a guard refuses: with JSON, or by a redirect. -/
def refusal (config : Config) (request : Request) (status : Nat) (message : String)
    (endpoint : Endpoint) : Response :=
  if isJsonRoute config request then .json status (.error message) else .redirect endpoint

section Guard

variable {config : Config} {world : World} {request : Request} {route : Route} {s : AppState}

/-- With an `Authorization` header, `_wants_json` renders pages for page loads alone. -/
theorem pageLoad_iff (authorized : truthy (request.headers "Authorization") = true) :
    request.PageLoad s.session ↔ (world.run (Users.wantsJson request) s).1 = .ok false := by
  unfold Request.PageLoad Users.wantsJson
  by_cases haccept : request.header "Accept" = "application/json"
  · rw [if_pos haccept]
    constructor
    · intro h
      exact absurd haccept h.1
    · intro h
      cases h
  · rw [if_neg haccept, World.run_session_bind, authorized]
    generalize (s.session.identity.isSome ||
      PyStr.contains (request.header "Accept") "text/html") = isBrowser
    cases isBrowser with
    | true => exact ⟨fun _ => rfl, fun _ => ⟨haccept, rfl⟩⟩
    | false =>
      constructor
      · intro h
        cases h.2
      · intro h
        cases h

theorem isJsonRoute_iff (outside : (config.jsonApiRoutePrefixes.any fun p =>
    PyStr.startswith request.path p) = false) :
    isJsonRoute config request = true ↔ request.ApiHeaders config := by
  rw [isJsonRoute, outside, Bool.or_false, Bool.or_eq_true]
  rfl

/-! ## Resolving the identity -/

/-- What becomes of a token. -/
theorem run_bearer_token {token : String} (presented : presentedToken request = some token)
    (nonempty : token ≠ "") :
    (world.run (resolveBearerJwtIdentity config request) { s with tick := s.tick + 1 }).1 =
      match tokenIdentity config world s token with
      | .ok found => .ok (some { found with
          userId := pyOr found.sub found.username
          profileComplete := true })
      | .error (.invalidTokenError _) => .ok none
      | .error e => .error e := by
  rcases hrun : world.run (validateJwt config token) { s with tick := s.tick + 1 } with
    ⟨e | claims, t⟩
  · have htoken : tokenIdentity config world s token = .error e := by
      unfold tokenIdentity
      rw [hrun]
      rfl
    unfold resolveBearerJwtIdentity
    simp only [presented, nonempty, if_false]
    rw [World.run_tryCatch_error (World.run_bind_error hrun), htoken]
    cases e <;> rfl
  · have htoken : tokenIdentity config world s token = resolveTenantAndRole claims := by
      unfold tokenIdentity
      rw [hrun]
      rfl
    rw [htoken]
    cases hresolved : resolveTenantAndRole claims with
    | ok found => rw [run_resolveBearerJwtIdentity presented nonempty hrun hresolved]
    | error e =>
      unfold resolveBearerJwtIdentity
      simp only [presented, nonempty, if_false]
      rw [World.run_tryCatch_error ((World.run_bind_ok hrun).trans (by rw [hresolved]; rfl))]
      cases e <;> rfl

/-- Without a token, nobody. -/
theorem run_bearer_none (h : ∀ token, presentedToken request = some token → token = "") :
    (world.run (resolveBearerJwtIdentity config request) s).1 = .ok none := by
  unfold resolveBearerJwtIdentity
  cases hpresented : presentedToken request with
  | none => rfl
  | some token =>
    simp only [h token hpresented, if_true]
    rfl

theorem run_bearer_eq_some {identity : Identity} :
    (world.run (resolveBearerJwtIdentity config request) { s with tick := s.tick + 1 }).1 =
      .ok (some identity) ↔ Bears config world request s identity := by
  by_cases htoken : ∀ token, presentedToken request = some token → token = ""
  · rw [run_bearer_none htoken]
    constructor
    · intro h
      cases h
    · intro h'
      obtain ⟨token, found, hpresented, hnonempty, -⟩ := h'
      exact absurd (htoken token hpresented) hnonempty
  · push Not at htoken
    obtain ⟨token, hpresented, hnonempty⟩ := htoken
    rw [run_bearer_token hpresented hnonempty]
    constructor
    · intro h
      cases hidentity : tokenIdentity config world s token with
      | ok found =>
        rw [hidentity] at h
        cases h
        exact ⟨token, found, hpresented, hnonempty, hidentity, rfl⟩
      | error e =>
        rw [hidentity] at h
        cases e <;> cases h
    · intro h'
      obtain ⟨token', found, hpresented', -, hidentity, rfl⟩ := h'
      cases hpresented.symm.trans hpresented'
      rw [hidentity]

theorem run_bearer_eq_none :
    (world.run (resolveBearerJwtIdentity config request) { s with tick := s.tick + 1 }).1 =
      .ok none ↔ BearsNothing config world request s := by
  by_cases htoken : ∀ token, presentedToken request = some token → token = ""
  · rw [run_bearer_none htoken]
    exact ⟨fun _ token hpresented hnonempty => absurd (htoken token hpresented) hnonempty,
      fun _ => rfl⟩
  · push Not at htoken
    obtain ⟨token, hpresented, hnonempty⟩ := htoken
    rw [run_bearer_token hpresented hnonempty]
    constructor
    · intro h token' hpresented' _
      cases hpresented.symm.trans hpresented'
      cases hidentity : tokenIdentity config world s token with
      | ok found =>
        rw [hidentity] at h
        cases h
      | error e =>
        rw [hidentity] at h
        cases e with
        | invalidTokenError message => exact ⟨message, rfl⟩
        | _ => cases h
    · intro h
      obtain ⟨message, hidentity⟩ := h token hpresented hnonempty
      rw [hidentity]

/-- Where session and token give nobody. -/
theorem run_resolveIdentity_nobody {t : AppState} (nobody : s.session.identity = none)
    (nothing : world.run (resolveBearerJwtIdentity config request) { s with tick := s.tick + 1 } =
      (.ok none, t)) :
    (world.run (resolveIdentity config request) s).1 =
      if config.apiGatewayTrustedHeadersEnabled then
        match resolveTrustedHeaderIdentity config request with
        | .ok identity => .ok (some identity)
        | .error (.trustedHeaderAuthError _) => .ok none
        | .error e => .error e
      else .ok none := by
  cases henabled : config.apiGatewayTrustedHeadersEnabled with
  | true =>
    rw [if_pos rfl]
    exact congrArg Prod.fst (run_resolveIdentity_headers henabled nobody nothing)
  | false =>
    unfold resolveIdentity
    rw [World.run_session_bind]
    simp only [nobody]
    rw [World.run_bind_ok nothing]
    simp only [henabled, Bool.not_false, if_true, Bool.false_eq_true, if_false]
    rfl

/-- A token that gives somebody, or raises, decides. -/
theorem run_resolveIdentity_bearer {r : Except PyError (Option Identity)}
    (nobody : s.session.identity = none) (something : r ≠ .ok none)
    (bearer : (world.run (resolveBearerJwtIdentity config request)
      { s with tick := s.tick + 1 }).1 = r) :
    (world.run (resolveIdentity config request) s).1 = r := by
  subst bearer
  unfold resolveIdentity
  rw [World.run_session_bind]
  simp only [nobody]
  rcases hrun : world.run (resolveBearerJwtIdentity config request)
    { s with tick := s.tick + 1 } with ⟨e | bearer, t⟩
  · rw [World.run_bind_error hrun]
  · rw [World.run_bind_ok hrun]
    cases bearer with
    | some identity => rfl
    | none =>
      rw [hrun] at something
      exact absurd rfl something

theorem exists_run_nothing (nothing : BearsNothing config world request s) : ∃ t,
    world.run (resolveBearerJwtIdentity config request) { s with tick := s.tick + 1 } =
      (.ok none, t) := by
  have hbearer := run_bearer_eq_none.mpr nothing
  rcases hrun : world.run (resolveBearerJwtIdentity config request)
    { s with tick := s.tick + 1 } with ⟨r, t⟩
  rw [hrun] at hbearer
  cases hbearer
  exact ⟨t, rfl⟩

/-- The headers of the gateway give somebody, or are refused, or are not looked at. -/
theorem from_of_headers {t : AppState} {found : Option Identity}
    (nobody : s.session.identity = none)
    (nothing : world.run (resolveBearerJwtIdentity config request) { s with tick := s.tick + 1 } =
      (.ok none, t))
    (h : (world.run (resolveIdentity config request) s).1 = .ok found) :
    From config world request s found := by
  have hnothing := run_bearer_eq_none.mp (congrArg Prod.fst nothing)
  rw [run_resolveIdentity_nobody nobody nothing] at h
  cases henabled : config.apiGatewayTrustedHeadersEnabled with
  | false =>
    rw [henabled, if_neg Bool.false_ne_true] at h
    cases h
    refine .nobody nobody hnothing fun enabled => ?_
    rw [henabled] at enabled
    cases enabled
  | true =>
    rw [henabled, if_pos rfl] at h
    cases hheaders : resolveTrustedHeaderIdentity config request with
    | ok identity =>
      rw [hheaders] at h
      cases h
      exact .gateway nobody hnothing henabled hheaders
    | error e =>
      rw [hheaders] at h
      cases e with
      | trustedHeaderAuthError message =>
        cases h
        exact .nobody nobody hnothing fun _ => ⟨message, hheaders⟩
      | _ => cases h

theorem from_of_run {found : Option Identity}
    (h : (world.run (resolveIdentity config request) s).1 = .ok found) :
    From config world request s found := by
  cases hsession : s.session.identity with
  | some identity =>
    rw [run_resolveIdentity hsession] at h
    cases h
    exact .session hsession
  | none =>
    rcases hrun : world.run (resolveBearerJwtIdentity config request)
      { s with tick := s.tick + 1 } with ⟨e | _ | identity, t⟩
    · rw [run_resolveIdentity_bearer hsession (by rintro ⟨⟩) (congrArg Prod.fst hrun)] at h
      cases h
    · exact from_of_headers hsession hrun h
    · rw [run_resolveIdentity_bearer hsession (by rintro ⟨⟩) (congrArg Prod.fst hrun)] at h
      cases h
      exact .bearer hsession (run_bearer_eq_some.mp (congrArg Prod.fst hrun))

theorem run_of_from {found : Option Identity} (h : From config world request s found) :
    (world.run (resolveIdentity config request) s).1 = .ok found := by
  cases h with
  | session hsession => rw [run_resolveIdentity hsession]
  | bearer nobody hbears =>
    exact run_resolveIdentity_bearer nobody (by rintro ⟨⟩) (run_bearer_eq_some.mpr hbears)
  | gateway nobody hnothing enabled hheaders =>
    obtain ⟨t, hrun⟩ := exists_run_nothing hnothing
    rw [run_resolveIdentity_nobody nobody hrun, enabled, if_pos rfl, hheaders]
  | nobody nobody hnothing hrefused =>
    obtain ⟨t, hrun⟩ := exists_run_nothing hnothing
    rw [run_resolveIdentity_nobody nobody hrun]
    cases henabled : config.apiGatewayTrustedHeadersEnabled with
    | false => rfl
    | true =>
      obtain ⟨message, hheaders⟩ := hrefused henabled
      rw [if_pos rfl, hheaders]

/-! ## Refusals -/

/-- Nobody is let in. -/
theorem run_deny_unauthenticated (t : AppState) : ∃ u,
    world.run (Gate.deny <$> unauthenticatedResponse config request) t =
      (.ok (.deny (refusal config request 401 "unauthenticated" .login)), u) := by
  unfold unauthenticatedResponse refusal
  rw [map_eq_pure_bind]
  by_cases hjson : isJsonRoute config request = true
  · rw [if_pos hjson, if_pos hjson]
    exact ⟨t, rfl⟩
  · rw [if_neg hjson, if_neg hjson]
    exact ⟨_, World.run_bind_ok (World.run_bind_ok (run_flash _ _ t))⟩

theorem run_guard_nobody (route : Route) (h : From config world request s none) : ∃ u,
    world.run (route.guard config request) s =
      (.ok (.deny (refusal config request 401 "unauthenticated" .login)), u) := by
  have hresolve := run_of_from h
  rcases hrun : world.run (resolveIdentity config request) s with ⟨r, t⟩
  rw [hrun] at hresolve
  cases hresolve
  obtain ⟨u, hdeny⟩ := @run_deny_unauthenticated config world request t
  unfold Route.guard
  split
  · exact ⟨u, (World.run_bind_ok hrun).trans hdeny⟩
  · exact ⟨u, (World.run_bind_ok hrun).trans hdeny⟩

theorem run_guard_role (hadmin : route.isAdmin = true) {identity : Identity}
    (h : From config world request s (some identity)) (hrole : identity.role ≠ "admin") : ∃ u,
    world.run (route.guard config request) s =
      (.ok (.deny (refusal config request 403 "forbidden" .userDashboard)), u) := by
  have hresolve := run_of_from h
  rcases hrun : world.run (resolveIdentity config request) s with ⟨r, t⟩
  rw [hrun] at hresolve
  cases hresolve
  unfold Route.guard adminRequired refusal
  rw [if_pos hadmin, World.run_bind_ok hrun]
  simp only [hrole, ne_eq, not_false_eq_true, if_true]
  by_cases hjson : isJsonRoute config request = true
  · rw [if_pos hjson, if_pos hjson]
    exact ⟨t, rfl⟩
  · rw [if_neg hjson, if_neg hjson]
    exact ⟨_, World.run_bind_ok (run_flash _ _ t)⟩

/-- A refused request is denied one way or the other. -/
theorem Refused.denied (h : Refused config world request s route) :
    ∃ status message endpoint u, world.run (route.guard config request) s =
      (.ok (.deny (refusal config request status message endpoint)), u) := by
  rcases h with hnobody | ⟨hadmin, identity, hfrom, hrole⟩
  · obtain ⟨u, hdeny⟩ := run_guard_nobody route hnobody
    exact ⟨_, _, _, u, hdeny⟩
  · obtain ⟨u, hdeny⟩ := run_guard_role hadmin hfrom hrole
    exact ⟨_, _, _, u, hdeny⟩

/-- A request that is not refused is let in, or its tokens cannot be refreshed. -/
theorem guard_deny {response : Response} {u : AppState}
    (h : world.run (route.guard config request) s = (.ok (.deny response), u))
    (admitted : ¬ Refused config world request s route) : response = .redirect .login := by
  rcases hresolve : world.run (resolveIdentity config request) s with ⟨e | found, t⟩
  · unfold Route.guard at h
    split at h
    · rw [adminRequired, World.run_bind_error hresolve] at h
      cases h
    · rw [loginRequired, World.run_bind_error hresolve] at h
      cases h
  have hfrom := from_of_run (congrArg Prod.fst hresolve)
  cases found with
  | none => exact absurd (.inl hfrom) admitted
  | some identity =>
    unfold Route.guard at h
    by_cases hadmin : route.isAdmin = true
    · have hrole : identity.role = "admin" := by
        by_contra hrole
        exact admitted (.inr ⟨hadmin, identity, hfrom, hrole⟩)
      rw [if_pos hadmin, adminRequired, World.run_bind_ok hresolve] at h
      simp only [hrole, ne_eq, not_true_eq_false, if_false] at h
      cases h
    · rw [if_neg hadmin, loginRequired, World.run_bind_ok hresolve] at h
      simp only at h
      rw [World.run_session_bind] at h
      split at h
      · obtain ⟨refreshed, v, -, h⟩ := World.run_bind_eq_ok.mp h
        cases refreshed with
        | true => cases h
        | false =>
          cases h
          rfl
      · cases h

end Guard

/-- Outside the configured prefixes, page loads get pages exactly when those of them that have an
API header are not refused. -/
theorem pagesForBrowsers_iff (config : Config) (world : World) (request : Request) (route : Route)
    (s : AppState) (outside : (config.jsonApiRoutePrefixes.any fun p =>
      PyStr.startswith request.path p) = false) :
    PagesForBrowsers config world request route s ↔
      (request.PageLoad s.session → request.ApiHeaders config →
        ¬ Refused config world request s route) := by
  have hjson := isJsonRoute_iff outside
  constructor
  · intro h pageLoad api hrefused
    obtain ⟨status, message, endpoint, u, hdeny⟩ := hrefused.denied
    obtain ⟨endpoint', hredirect⟩ := h pageLoad _ _ hdeny
    rw [refusal, if_pos (hjson.mpr api)] at hredirect
    cases hredirect
  · intro h pageLoad response t hdeny
    by_cases hrefused : Refused config world request s route
    · obtain ⟨status, message, endpoint, u, hdeny'⟩ := hrefused.denied
      have hapi : ¬ isJsonRoute config request = true := fun hroute =>
        h pageLoad (hjson.mp hroute) hrefused
      rw [refusal, if_neg hapi, hdeny] at hdeny'
      cases hdeny'
      exact ⟨endpoint, rfl⟩
    · exact ⟨.login, guard_deny hdeny hrefused⟩

/-- A browser without a session loads the dashboard, with what stands in its `Authorization`
header. -/
def dashboardLoad (authorization : Option String) : Request where
  method := "GET"
  path := "/api/v1/users/dashboard"
  headers name :=
    if name = "Accept" then some "text/html,application/xhtml+xml"
    else if name = "Authorization" then authorization
    else none
  cookies _ := none
  args _ := none
  form _ := none

theorem dashboardLoad_pageLoad (authorization : Option String) :
    (dashboardLoad authorization).PageLoad .cleared := by
  have haccept : (dashboardLoad authorization).header "Accept" =
      "text/html,application/xhtml+xml" := rfl
  unfold Request.PageLoad
  rw [haccept]
  decide

theorem plain_load_redirected : ∃ request, request.PageLoad .cleared ∧
    PagesForBrowsers sampleConfig quietWorld request .userDashboard emptyState :=
  ⟨dashboardLoad none, dashboardLoad_pageLoad none,
    (pagesForBrowsers_iff sampleConfig quietWorld (dashboardLoad none) .userDashboard emptyState
      (by decide)).mpr fun _ api => by rcases api with ⟨⟨⟩⟩ | ⟨⟨⟩⟩⟩

/-- The token that a proxy has put into the request is refused, and the browser gets JSON. -/
theorem authorized_load_gets_json : ¬ ∀ (config : Config) (world : World) (request : Request)
    (route : Route) (s : AppState),
    (config.jsonApiRoutePrefixes.any fun p => PyStr.startswith request.path p) = false →
      PagesForBrowsers config world request route s := by
  intro h
  have hpages := h sampleConfig quietWorld (dashboardLoad (some "Bearer expired")) .userDashboard
    emptyState (by decide)
  obtain ⟨endpoint, hredirect⟩ := hpages (dashboardLoad_pageLoad _) _ _ rfl
  cases hredirect

end TenantSaas
