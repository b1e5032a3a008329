import TenantSaas.Credentials.TrustedHeaders
import TenantSaas.SignIn.Provenance

/-!
# Following redirects

The guards, the profile gate and the sign-in page send a browser from one to the other.  They
never send it in a circle.
-/

namespace TenantSaas

/-- The URLs of the endpoints. -/
def Endpoint.path : Endpoint → String
  | .login => "/login"
  | .userDashboard => "/api/v1/users/dashboard"
  | .userDetailsPage => "/users/details"
  | .passwordResetPage => "/users/password-reset"
  | .adminDashboard => "/api/v1/admin/dashboard"
  | .manageUsersPage => "/manage-users"

/-- The request with which a browser follows a redirect. -/
def Request.toEndpoint (browser : Request) (endpoint : Endpoint) : Request :=
  { browser with
    method := "GET"
    path := endpoint.path
    args := fun _ => none
    form := fun _ => none }

def Endpoint.page (lower : String → String) (browser : Request) (endpoint : Endpoint) :
    PageRequest :=
  let request := browser.toEndpoint endpoint
  match endpoint with
  | .login => .loginPage
  | .userDashboard => .guarded lower request .userDashboard
  | .userDetailsPage => .guarded lower request .userDetailsPage
  | .passwordResetPage => .guarded lower request .passwordResetPage
  | .adminDashboard => .guarded lower request .adminDashboard
  | .manageUsersPage => .guarded lower request .manageUsersPage

/-- The endpoint a response sends the browser to. -/
def Response.next : Response → Option Endpoint
  | .redirect endpoint => some endpoint
  | _ => none

/-- The endpoint a reply sends the browser to; a redirect out of the application is none. -/
def Reply.next : Reply → Option Endpoint
  | .response answered => answered.next
  | .loginPage (.redirect endpoint) => some endpoint
  | .answer ⟨.page answered, _⟩ => answered.next
  | _ => none

/-- One page: a reply, or where it leads. -/
def visitPage (config : Config) (page : PageRequest) : App (Reply ⊕ Endpoint) := do
  let reply ← servePage config page
  match reply.next with
  | some endpoint => pure (.inr endpoint)
  | none => pure (.inl reply)

/-- A browser that asks for a page and follows redirects, `n` at most. -/
def navigate (config : Config) (lower : String → String) (browser : Request) (n : Nat)
    (page : PageRequest) : App (Option Reply) := do
  let result ← visitPage config page
  match result with
  | .inl reply => pure (some reply)
  | .inr endpoint =>
    Prog.iterate (fun endpoint => visitPage config (endpoint.page lower browser)) n endpoint

/-- A browser authenticates with cookies only. -/
structure Request.IsBrowser (config : Config) (browser : Request) : Prop where
  noBearer : browser.headers "Authorization" = none
  noGateway : browser.headers config.apiGwSecretHeaderName = none

/-- What a token says of groups is written in it; all else may be answered in any way. -/
def tokenEnv (said : String → List Json) : Prog.Env AppOp.Res PyError Session := fun s op r t =>
  sessionEnv s op r t ∧
    match op with
    | .decodeJwt token => ∀ claims, r = .ok claims → claims.groups = said token
    | _ => True

/-- The role the groups stand for. -/
def roleOfGroups (groups : List Json) : Option String :=
  (firstClaimedGroup groups).toOption.join.map fun known => known.2.role

/-- The role that the cookie of a browser stands for. -/
def cookieRole (said : String → List Json) (browser : Request) : Option String :=
  (browser.cookies "cognito_access_token").bind fun token => roleOfGroups (said token)

/-- How many redirects there are at most from an endpoint, for a session with the identity, and
a cookie that stands for the role. -/
def Endpoint.rank (cookie : Option String) : Option Identity → Endpoint → Nat
  | some _, .login => 3
  | none, .login => 0
  | some _, .userDashboard => 2
  | none, .userDashboard => if cookie = some "admin" then 2 else 1
  | _, .userDetailsPage => 1
  | _, .passwordResetPage => 1
  | some identity, .adminDashboard => if identity.role = "admin" then 1 else 3
  | some identity, .manageUsersPage => if identity.role = "admin" then 1 else 3
  | none, .adminDashboard => if cookie = some "admin" then 1 else 2
  | none, .manageUsersPage => if cookie = some "admin" then 1 else 2

theorem Endpoint.rank_le (cookie : Option String) (identity : Option Identity)
    (endpoint : Endpoint) : endpoint.rank cookie identity ≤ 3 := by
  cases identity <;> cases endpoint <;> simp only [Endpoint.rank] <;>
    first | omega | (split <;> omega)

section Rules

variable {α β : Type} {said : String → List Json} {s : Session}

/-- However its calls are answered, the program ends in `Q`. -/
abbrev Leads (said : String → List Json) (Q : Except PyError α → Session → Prop) (p : App α)
    (s : Session) : Prop :=
  p.Always (tokenEnv said) (fun _ _ => True) Q s

theorem leads_mono {Q Q' : Except PyError α → Session → Prop} (hQ : ∀ r t, Q r t → Q' r t)
    {p : App α} (h : Leads said Q p s) : Leads said Q' p s :=
  h.mono (fun _ _ hop => hop) hQ

theorem leads_of_session {E : Session → AppOp → Prop} {Q : Except PyError α → Session → Prop}
    {p : App α} (h : p.Always sessionEnv E Q s) : Leads said Q p s :=
  (Prog.Always.simulate id (fun _ _ _ _ hstep => hstep.1) h).mono (fun _ _ _ => trivial)
    fun _ _ hr => hr

theorem leads_of_calls {p : App α} (hp : p.Calls fun op => op.changesSession = false) :
    Leads said (fun _ t => t = s) p s := by
  refine Prog.Keeps.of_calls (I := fun t => t = s) ?_ hp s rfl
  intro op t hop ht
  exact ⟨trivial, fun r u hstep => (sessionEnv_keeps hop hstep.1).trans ht⟩

theorem leads_any (p : App α) : Leads said (fun _ _ => True) p s :=
  Prog.Keeps.of_calls (C := fun _ => True) (fun _ _ _ _ => ⟨trivial, fun _ _ _ => trivial⟩)
    (Prog.calls_true p) s trivial

theorem leads_bind {Q : Except PyError β → Session → Prop} {p : App α} {f : α → App β}
    (hp : Leads said (fun r t => (∀ a, r = .ok a → Leads said Q (f a) t) ∧
      ∀ e, r = .error e → Q (.error e) t) p s) : Leads said Q (p.bind f) s := by
  refine Prog.Always.bind (leads_mono (fun r t h => ?_) hp)
  cases r with
  | ok a => exact h.1 a rfl
  | error e => exact h.2 e rfl

theorem leads_read {Q : Except PyError α → Session → Prop} {f : Session → App α}
    (h : Leads said Q (f s) s) : Leads said Q ((perform .session).bind f) s := by
  refine ⟨trivial, fun r t hrt => ?_⟩
  obtain ⟨⟨rfl, rfl⟩, -⟩ := hrt
  exact h

theorem leads_write {Q : Except PyError α → Session → Prop} {new : Session} {f : Unit → App α}
    (h : Leads said Q (f ()) new) : Leads said Q ((perform (.setSession new)).bind f) s := by
  refine ⟨trivial, fun r t hrt => ?_⟩
  obtain ⟨⟨rfl, rfl⟩, -⟩ := hrt
  exact h

theorem leads_flash {Q : Except PyError α → Session → Prop} {message category : String}
    {f : Unit → App α} (h : ∀ t, t.identity = s.identity → Leads said Q (f ()) t) :
    Leads said Q ((flash message category).bind f) s := by
  rw [flash, Prog.bind_def, Prog.bind_assoc]
  exact leads_read (leads_write (h _ rfl))

/-- A response of which each redirect goes where `D` says. -/
def Response.Turns (D : Endpoint → Session → Prop) (response : Response) (t : Session) : Prop :=
  ∀ endpoint, response.next = some endpoint → D endpoint t

theorem serverError_turns (D : Endpoint → Session → Prop) (t : Session) :
    serverError.Turns D t := by
  rintro endpoint ⟨⟩

/-- A page that is rendered leads nowhere. -/
theorem render_turns (D : Endpoint → Session → Prop) (page : Page) :
    Leads said (fun r t => ∀ response, r = .ok response → response.Turns D t) (render page) s := by
  refine leads_read (leads_write ?_)
  rintro response ⟨⟩ endpoint ⟨⟩

theorem meterUsage_returned (config : Config) (request : Request) (identity : Option Identity)
    (response : Response) :
    Leads said (fun r _ => r = .ok ()) (meterUsage config request identity response) s := by
  unfold meterUsage recordApiUsage
  split
  · exact rfl
  cases identity with
  | none => exact rfl
  | some identity =>
    dsimp only
    split
    · exact rfl
    · refine Prog.Always.handle (leads_mono (fun r t _ => ?_) (leads_any _))
      cases r <;> rfl

theorem meterUsage_keeps (config : Config) (request : Request) (identity : Option Identity)
    (response : Response) :
    Leads said (fun _ t => t = s) (meterUsage config request identity response) s := by
  refine leads_of_calls ?_
  cases identity with
  | none =>
    unfold meterUsage recordApiUsage
    split <;> trivial
  | some identity =>
    exact recordApiUsage_calls config identity _ _ _ _ rfl rfl fun _ _ => ⟨rfl, rfl⟩

/-- Metering raises nothing and leaves the session, so that the response is answered as it was. -/
theorem metered_turns {D : Endpoint → Session → Prop} {response : Response} (config : Config)
    (request : Request) (identity : Option Identity) (h : response.Turns D s) :
    Leads said (fun r t => ∃ answered, r = .ok answered ∧ answered.Turns D t) (do
      meterUsage config request identity response
      pure response) s := by
  have hreturned : Leads said (fun r _ => r = .ok ())
      (meterUsage config request identity response) s := meterUsage_returned _ _ _ _
  have hboth := hreturned.and (meterUsage_keeps config request identity response)
  refine Prog.Always.bind (hboth.mono (fun _ _ _ => trivial) fun r t hr => ?_)
  obtain ⟨rfl, rfl⟩ := hr
  exact ⟨response, rfl, h⟩

/-- What a guarded request is answered. -/
theorem serve_turns {D : Endpoint → Session → Prop} {config : Config} {lower : String → String}
    {request : Request} {route : Route}
    (hguard : Leads said (fun r t =>
      (∀ response, r = .ok (.deny response) → response.Turns D t) ∧
      ∀ identity, r = .ok (.enter identity) → Leads said
        (fun r' u => ∀ response, r' = .ok response → response.Turns D u)
        (route.view config lower request identity) t) (route.guard config request) s) :
    Leads said (fun r t => ∃ response, r = .ok response ∧ response.Turns D t)
      (serve config lower request route) s := by
  refine Prog.Always.bind (Prog.Always.handle (leads_mono (fun r t hr => ?_) hguard))
  obtain ⟨hdeny, henter⟩ := hr
  cases r with
  | error e => exact metered_turns config request none (serverError_turns D t)
  | ok gate =>
    cases gate with
    | deny response => exact metered_turns config request none (hdeny response rfl)
    | enter identity =>
      refine Prog.Always.bind (Prog.Always.handle (leads_mono (fun r u hr => ?_)
        (henter identity rfl)))
      cases r with
      | error e => exact metered_turns config request (some identity) (serverError_turns D u)
      | ok response => exact metered_turns config request (some identity) (hr response rfl)

end Rules

section Guards

variable {said : String → List Json} {s : Session} {config : Config} {request : Request}

/-- The identity of a request: that of the session, else the one the cookie stands for. -/
def Session.Finds (cookie : Option String) (s : Session) (identity : Identity) : Prop :=
  s.identity = some identity ∨
    s.identity = none ∧ cookie = some identity.role ∧ identity.profileComplete = true

/-- The headers of the gateway are not those of a browser. -/
theorem resolveTrustedHeaderIdentity_refuses (hbrowser : request.IsBrowser config)
    (identity : Identity) : resolveTrustedHeaderIdentity config request ≠ .ok identity := by
  intro h
  have htrusted := trustedHeaders_of_ok h
  have hheader : request.header config.apiGwSecretHeaderName = "" := by
    rw [Request.header, hbrowser.noGateway]
    rfl
  exact htrusted.secret (htrusted.equal.symm.trans hheader)

theorem roleOfGroups_of_resolve {claims : Claims} {identity : Identity}
    (h : resolveTenantAndRole claims = .ok identity) :
    roleOfGroups claims.groups = some identity.role := by
  unfold resolveTenantAndRole at h
  unfold roleOfGroups
  split at h
  · next group mapping hknown =>
    cases h
    rw [hknown]
    rfl
  · cases h
  · cases h

theorem presentedToken_eq (hbrowser : request.IsBrowser config) :
    presentedToken request = request.cookies "cognito_access_token" := by
  have hheader : request.header "Authorization" = "" := by
    rw [Request.header, hbrowser.noBearer]
    rfl
  rw [presentedToken, hheader]
  rfl

theorem validateJwt_said (token : String) :
    Leads said (fun r _ => ∀ claims, r = .ok claims → claims.groups = said token)
      (validateJwt config token) s := by
  refine ⟨trivial, fun r t hstep => ?_⟩
  obtain ⟨-, hsaid⟩ := hstep
  cases r with
  | error e => rintro claims ⟨⟩
  | ok claims =>
    have hgroups : ∀ result : Except PyError Claims, result = .ok claims →
        ∀ claims', result = .ok claims' → claims'.groups = said token := by
      rintro _ rfl _ ⟨⟩
      exact hsaid claims rfl
    show Leads said _ (if _ then _ else if _ then _ else _) t
    split
    · exact hgroups _ rfl
    split
    · rintro claims' ⟨⟩
    refine leads_bind (leads_mono (fun r u _ => ⟨fun now _ => ?_, fun e _ => ?_⟩) (leads_any _))
    · show Leads said _ (if _ then _ else _) u
      split
      · rintro claims' ⟨⟩
      · exact hgroups _ rfl
    · rintro claims' ⟨⟩

theorem resolveBearerJwtIdentity_finds (hbrowser : request.IsBrowser config) :
    Leads said (fun r _ => ∀ identity, r = .ok (some identity) →
      cookieRole said request = some identity.role ∧ identity.profileComplete = true)
      (resolveBearerJwtIdentity config request) s := by
  unfold resolveBearerJwtIdentity cookieRole
  rw [presentedToken_eq hbrowser]
  cases request.cookies "cognito_access_token" with
  | none => rintro identity ⟨⟩
  | some token =>
    dsimp only
    split
    · rintro identity ⟨⟩
    refine Prog.Always.handle (leads_bind (leads_mono (fun r t hsaid => ⟨?_, ?_⟩)
      (validateJwt_said token)))
    · intro claims hr
      have hgroups := hsaid claims hr
      refine Prog.Always.ofExcept_bind (fun e _ => ?_) fun identity hidentity => ?_
      · cases e <;> rintro identity ⟨⟩
      · rintro _ ⟨⟩
        refine ⟨?_, rfl⟩
        have hrole := roleOfGroups_of_resolve hidentity
        rw [hgroups] at hrole
        exact hrole
    · intro e _
      cases e <;> rintro identity ⟨⟩

/-- The identity of the session comes first. -/
theorem resolveIdentity_finds (hbrowser : request.IsBrowser config) :
    Leads said (fun r t => t = s ∧ (r = .ok none → s.identity = none) ∧
      ∀ identity, r = .ok (some identity) → s.Finds (cookieRole said request) identity)
      (resolveIdentity config request) s := by
  have hleaves : Leads said (fun _ t => t = s) (resolveIdentity config request) s := by
    refine leads_of_calls ((resolveIdentity_calls config request).mono fun op hop => ?_)
    cases op <;> first | rfl | cases hop
  have hfinds : Leads said (fun r _ => (r = .ok none → s.identity = none) ∧
      ∀ identity, r = .ok (some identity) → s.Finds (cookieRole said request) identity)
      (resolveIdentity config request) s := by
    refine leads_read ?_
    cases hidentity : s.identity with
    | some current =>
      refine ⟨by rintro ⟨⟩, ?_⟩
      rintro _ ⟨⟩
      exact .inl hidentity
    | none =>
      refine leads_bind (leads_mono (fun r t hbearer => ⟨fun found hr => ?_, fun e _ => ?_⟩)
        (resolveBearerJwtIdentity_finds hbrowser))
      · cases found with
        | some identity =>
          refine ⟨fun _ => rfl, ?_⟩
          rintro _ ⟨⟩
          exact .inr ⟨hidentity, hbearer identity hr⟩
        | none =>
          show Leads said _ (if _ then _ else _) t
          split
          · exact ⟨fun _ => rfl, by rintro _ ⟨⟩⟩
          · cases hheaders : resolveTrustedHeaderIdentity config request with
            | ok identity =>
              exact absurd hheaders (resolveTrustedHeaderIdentity_refuses hbrowser identity)
            | error e => cases e <;> exact ⟨fun _ => rfl, by rintro _ ⟨⟩⟩
      · exact ⟨fun _ => rfl, by rintro _ ⟨⟩⟩
  exact (hleaves.and hfinds).mono (fun _ _ _ => trivial) fun r t h => ⟨h.1, h.2⟩

theorem unauthenticatedResponse_turns :
    Leads said (fun r t => (∀ response, r = .ok (Gate.deny response) →
        response.Turns (fun endpoint u => endpoint = .login ∧ u.identity = s.identity) t) ∧
      ∀ identity, r ≠ .ok (.enter identity))
      (Gate.deny <$> unauthenticatedResponse config request) s := by
  rw [map_eq_pure_bind, Prog.bind_def]
  unfold unauthenticatedResponse
  split
  · exact ⟨by rintro response ⟨⟩ endpoint ⟨⟩, by rintro identity ⟨⟩⟩
  · rw [Prog.bind_def, Prog.bind_assoc]
    refine leads_flash fun t ht => ⟨?_, by rintro identity ⟨⟩⟩
    rintro response ⟨⟩ endpoint ⟨⟩
    exact ⟨rfl, ht⟩

theorem leads_bind_any {α β : Type} {Q : Except PyError β → Session → Prop} {p : App α}
    {f : α → App β} (hf : ∀ a t, Leads said Q (f a) t) (herror : ∀ e t, Q (.error e) t) :
    Leads said Q (p.bind f) s :=
  leads_bind (leads_mono (fun _ t _ => ⟨fun a _ => hf a t, fun e _ => herror e t⟩) (leads_any p))

/-- Tokens that are not renewed are gone, with the session. -/
theorem refreshSessionTokens_fails (refreshToken : Json) :
    Leads said (fun r t => r = .ok false → t.identity = none) (refreshSessionTokens refreshToken)
      s := by
  have hrenews : ∀ t, Leads said (fun r _ => r ≠ .ok false) (do
      let newTokens ← refreshTokens refreshToken
      let session ← perform .session
      perform (.setSession { session with accessToken := newTokens.accessToken })
      let now ← perform .time
      let expiresIn ← Prog.ofExcept newTokens.expiresIn.toSeconds
      let session ← perform .session
      perform (.setSession { session with tokenExpiresAt := some (now + expiresIn) })
      pure true) t := by
    intro t
    refine leads_bind_any (fun newTokens t => ?_) (by rintro e t ⟨⟩)
    refine leads_bind_any (fun session t => ?_) (by rintro e t ⟨⟩)
    refine leads_bind_any (fun _ t => ?_) (by rintro e t ⟨⟩)
    refine leads_bind_any (fun now t => ?_) (by rintro e t ⟨⟩)
    refine leads_bind_any (fun expiresIn t => ?_) (by rintro e t ⟨⟩)
    refine leads_bind_any (fun session t => ?_) (by rintro e t ⟨⟩)
    refine leads_bind_any (fun _ t => ?_) (by rintro e t ⟨⟩)
    rintro ⟨⟩
  refine Prog.Always.handle (leads_mono (fun r t hr => ?_) (hrenews s))
  cases r with
  | ok renewed => exact fun h => absurd h hr
  | error e =>
    cases e <;> first
      | (rintro ⟨⟩)
      | exact leads_write fun _ => rfl

theorem refreshSessionTokensIfNeeded_fails :
    Leads said (fun r t => r = .ok false → t.identity = none) refreshSessionTokensIfNeeded s := by
  refine leads_read ?_
  cases s.tokenExpiresAt with
  | none => rintro ⟨⟩
  | some expiresAt =>
    show Leads said _ (if _ then _ else _) s
    split
    · rintro ⟨⟩
    refine leads_bind_any (fun now t => ?_) (by rintro e t ⟨⟩)
    show Leads said _ (if _ then _ else _) t
    split
    · rintro ⟨⟩
    split
    · exact leads_write fun _ => rfl
    · exact refreshSessionTokens_fails _

/-- A session whose tokens are not renewed is cleared. -/
theorem refreshSessionTokensIfNeeded_leads :
    Leads said (fun r t => (r = .ok true → t.identity = s.identity) ∧
      (r = .ok false → t.identity = none)) refreshSessionTokensIfNeeded s :=
  ((leads_of_session refreshSessionTokensIfNeeded_asks).and
    refreshSessionTokensIfNeeded_fails).mono (fun _ _ _ => trivial) fun _ _ h => h

/-- `login_required` sends a browser to the sign-in page, without an identity; one it lets in
keeps its identity. -/
theorem loginRequired_turns (hbrowser : request.IsBrowser config) :
    Leads said (fun r t =>
      (∀ response, r = .ok (.deny response) →
        response.Turns (fun endpoint u => endpoint = .login ∧ u.identity = none) t) ∧
      ∀ identity, r = .ok (.enter identity) →
        t.identity = s.identity ∧ s.Finds (cookieRole said request) identity)
      (loginRequired config request) s := by
  refine leads_bind (leads_mono (fun r t hr => ⟨fun found hfound => ?_, fun e _ => ?_⟩)
    (resolveIdentity_finds hbrowser))
  · obtain ⟨rfl, hnobody, hfinds⟩ := hr
    cases found with
    | none =>
      refine leads_mono (fun r u hdeny => ⟨fun response hresponse endpoint hnext => ?_, ?_⟩)
        unauthenticatedResponse_turns
      · obtain ⟨hlogin, hkept⟩ := hdeny.1 response hresponse endpoint hnext
        exact ⟨hlogin, hkept.trans (hnobody hfound)⟩
      · exact fun identity hidentity => absurd hidentity (hdeny.2 identity)
    | some identity =>
      refine leads_read ?_
      split
      · refine leads_bind
          (leads_mono (fun r u hrefreshed => ⟨fun refreshed hr => ?_, fun e _ => ?_⟩)
            refreshSessionTokensIfNeeded_leads)
        · cases refreshed with
          | true =>
            refine ⟨by rintro response ⟨⟩, ?_⟩
            rintro _ ⟨⟩
            exact ⟨hrefreshed.1 hr, hfinds identity hfound⟩
          | false =>
            refine leads_flash fun v hv => ⟨?_, by rintro identity ⟨⟩⟩
            rintro response ⟨⟩ endpoint ⟨⟩
            exact ⟨rfl, hv.trans (hrefreshed.2 hr)⟩
        · exact ⟨by rintro response ⟨⟩, by rintro identity ⟨⟩⟩
      · refine ⟨by rintro response ⟨⟩, ?_⟩
        rintro _ ⟨⟩
        exact ⟨rfl, hfinds identity hfound⟩
  · exact ⟨by rintro response ⟨⟩, by rintro identity ⟨⟩⟩

/-- `admin_required` sends a browser to the sign-in page, without an identity, or one that is no
administrator to the dashboard. -/
theorem adminRequired_turns (hbrowser : request.IsBrowser config) :
    Leads said (fun r t => ∀ response, r = .ok (.deny response) →
      response.Turns (fun endpoint u => endpoint = .login ∧ u.identity = none ∨
        endpoint = .userDashboard ∧ u.identity = s.identity ∧
          ∃ identity, s.Finds (cookieRole said request) identity ∧ identity.role ≠ "admin") t)
      (adminRequired config request) s := by
  refine leads_bind (leads_mono (fun r t hr => ⟨fun found hfound => ?_, fun e _ => ?_⟩)
    (resolveIdentity_finds hbrowser))
  · obtain ⟨rfl, hnobody, hfinds⟩ := hr
    cases found with
    | none =>
      refine leads_mono (fun r u hdeny response hresponse endpoint hnext => ?_)
        unauthenticatedResponse_turns
      obtain ⟨hlogin, hkept⟩ := hdeny.1 response hresponse endpoint hnext
      exact .inl ⟨hlogin, hkept.trans (hnobody hfound)⟩
    | some identity =>
      show Leads said _ (if _ then _ else _) t
      split
      · next hrole =>
        split
        · rintro response ⟨⟩ endpoint ⟨⟩
        · refine leads_flash fun u hu => ?_
          rintro response ⟨⟩ endpoint ⟨⟩
          exact .inr ⟨rfl, hu, identity, hfinds identity hfound, hrole⟩
      · rintro response ⟨⟩
  · rintro response ⟨⟩

end Guards

section Views

variable {said : String → List Json} {s : Session} {config : Config} {request : Request}
  {lower : String → String} {identity : Identity} {D : Endpoint → Session → Prop}

/-- A view that ends in a page leads nowhere, whatever comes before. -/
theorem listing_turns : Leads said (fun r t => ∀ response, r = .ok response → response.Turns D t)
    (Admin.dashboard config lower request identity) s := by
  refine leads_bind_any (fun data t => ?_) (by rintro e t response ⟨⟩)
  exact leads_bind_any (fun session t => render_turns D _) (by rintro e t response ⟨⟩)

theorem manageUsersPage_turns :
    Leads said (fun r t => ∀ response, r = .ok response → response.Turns D t)
      (Admin.manageUsersPage config lower request identity) s := by
  refine leads_bind_any (fun data t => ?_) (by rintro e t response ⟨⟩)
  exact leads_bind_any (fun session t => render_turns D _) (by rintro e t response ⟨⟩)

theorem userDetailsPage_turns :
    Leads said (fun r t => ∀ response, r = .ok response → response.Turns D t)
      (Users.userDetailsPage config identity) s := by
  refine leads_bind_any (fun current t => ?_) (by rintro e t response ⟨⟩)
  refine leads_bind_any (fun userId t => ?_) (by rintro e t response ⟨⟩)
  refine leads_bind_any (fun record t => ?_) (by rintro e t response ⟨⟩)
  exact leads_bind_any (fun record t => render_turns D _) (by rintro e t response ⟨⟩)

theorem passwordResetPage_turns :
    Leads said (fun r t => ∀ response, r = .ok response → response.Turns D t)
      (Users.passwordResetPage identity) s :=
  leads_bind_any (fun current t => render_turns D _) (by rintro e t response ⟨⟩)

/-- The dashboard sends a user without a profile to its form, and an administrator to the other
dashboard. -/
theorem dashboard_turns :
    Leads said (fun r t => ∀ response, r = .ok response → response.Turns (fun endpoint u =>
      u.identity = s.identity ∧
        (endpoint = .userDetailsPage ∧ (s.identity.getD identity).profileComplete = false ∨
          endpoint = .adminDashboard ∧ identity.role = "admin")) t)
      (Users.dashboard config request identity) s := by
  refine leads_read ?_
  split
  · next hprofile =>
    refine leads_flash fun t ht => ?_
    rintro response ⟨⟩ endpoint ⟨⟩
    exact ⟨ht, .inl ⟨rfl, by simpa using hprofile⟩⟩
  split
  · next hrole =>
    rintro response ⟨⟩ endpoint ⟨⟩
    exact ⟨rfl, .inr ⟨rfl, hrole⟩⟩
  refine leads_bind_any (fun current t => ?_) (by rintro e t response ⟨⟩)
  refine leads_bind_any (fun userId t => ?_) (by rintro e t response ⟨⟩)
  refine leads_bind_any (fun record t => ?_) (by rintro e t response ⟨⟩)
  refine leads_bind_any (fun json t => ?_) (by rintro e t response ⟨⟩)
  split
  · rintro response ⟨⟩ endpoint ⟨⟩
  · exact render_turns _ _

end Views

section Descent

variable {said : String → List Json} {s : Session} {config : Config} {browser : Request}
  {lower : String → String}

/-- A redirect to an endpoint of a lower rank. -/
def Lower (cookie : Option String) (n : Nat) (endpoint : Endpoint) (t : Session) : Prop :=
  endpoint.rank cookie t.identity < n

theorem visitPage_of_serves {D : Endpoint → Session → Prop} {page : PageRequest}
    (h : Leads said (fun r t => ∃ reply, r = .ok reply ∧
      ∀ endpoint, reply.next = some endpoint → D endpoint t) (servePage config page) s) :
    Leads said (fun r t => ∃ result, r = .ok result ∧ ∀ next, result = .inr next → D next t)
      (visitPage config page) s := by
  refine leads_bind (leads_mono (fun r t hr => ⟨fun reply hreply => ?_, fun e he => ?_⟩) h)
  · obtain ⟨_, rfl, hturns⟩ := hr
    cases hreply
    cases hnext : reply.next with
    | none => exact ⟨_, rfl, by rintro next ⟨⟩⟩
    | some endpoint =>
      refine ⟨_, rfl, ?_⟩
      rintro _ ⟨⟩
      exact hturns endpoint hnext
  · obtain ⟨_, rfl, -⟩ := hr
    cases he

theorem serves_guarded {D : Endpoint → Session → Prop} {request : Request} {route : Route}
    (h : Leads said (fun r t => ∃ response, r = .ok response ∧ response.Turns D t)
      (serve config lower request route) s) :
    Leads said (fun r t => ∃ reply, r = .ok reply ∧
      ∀ endpoint, reply.next = some endpoint → D endpoint t)
      (servePage config (.guarded lower request route)) s := by
  rw [servePage, map_eq_pure_bind, Prog.bind_def]
  refine leads_bind (leads_mono (fun r t hr => ⟨fun response hresponse => ?_, fun e he => ?_⟩) h)
  · obtain ⟨_, rfl, hturns⟩ := hr
    cases hresponse
    exact ⟨_, rfl, hturns⟩
  · obtain ⟨_, rfl, -⟩ := hr
    cases he

/-- A page without a guard, or the error page. -/
theorem replied_leads {α : Type} {Q : Reply → Session → Prop} {reply : α → Reply} {view : App α}
    (hview : Leads said (fun r t => ∀ a, r = .ok a → Q (reply a) t) view s)
    (herror : ∀ t, Q (.response serverError) t) :
    Leads said (fun r t => ∃ answered, r = .ok answered ∧ Q answered t) (replied reply view) s := by
  refine Prog.Always.handle (leads_bind (leads_mono (fun r t hr => ⟨fun a ha => ?_, fun e _ => ?_⟩)
    hview))
  · exact ⟨_, rfl, hr a ha⟩
  · exact ⟨_, rfl, herror t⟩

theorem serve_answers (lower : String → String) (request : Request) (route : Route) :
    Leads said (fun r t => ∃ response, r = .ok response ∧ response.Turns (fun _ _ => True) t)
      (serve config lower request route) s := by
  refine serve_turns (leads_mono (fun r t _ => ⟨?_, fun identity _ => ?_⟩) (leads_any _))
  · exact fun _ _ _ _ => trivial
  · exact leads_mono (fun _ _ _ _ _ _ _ => trivial) (leads_any _)

/-- Whatever is asked for is answered. -/
theorem servePage_answers (page : PageRequest) :
    Leads said (fun r _ => ∃ reply, r = .ok reply) (servePage config page) s := by
  have hreplied : ∀ {α : Type} (reply : α → Reply) (view : App α),
      Leads said (fun r _ => ∃ answered, r = .ok answered ∧ True) (replied reply view) s :=
    fun reply view => replied_leads (leads_mono (fun _ _ _ _ _ => trivial) (leads_any view))
      fun _ => trivial
  have hanswers : Leads said (fun r _ => ∃ reply, r = .ok reply ∧ True) (servePage config page)
      s := by
    cases page with
    | health => exact ⟨_, rfl, trivial⟩
    | index => exact hreplied _ _
    | loginPage => exact hreplied _ _
    | loginRedirect => exact hreplied _ _
    | loginDemoSubmit request => exact hreplied _ _
    | callback request => exact hreplied _ _
    | logout => exact hreplied _ _
    | guarded lower request route =>
      refine leads_mono (fun r t hr => ?_) (serves_guarded (serve_answers lower request route))
      obtain ⟨reply, hreply, -⟩ := hr
      exact ⟨reply, hreply, trivial⟩
  refine leads_mono (fun r t hr => ?_) hanswers
  obtain ⟨reply, hreply, -⟩ := hr
  exact ⟨reply, hreply⟩

theorem serves_loginPage (cookie : Option String) :
    Leads said (fun r t => ∃ reply, r = .ok reply ∧ ∀ endpoint, reply.next = some endpoint →
      Lower cookie (Endpoint.login.rank cookie s.identity) endpoint t)
      (servePage config .loginPage) s := by
  refine replied_leads (leads_read ?_) (by rintro t endpoint ⟨⟩)
  split
  · next hsome =>
    obtain ⟨identity, hidentity⟩ := Option.isSome_iff_exists.mp hsome
    rintro _ ⟨⟩ endpoint ⟨⟩
    rw [Lower, hidentity]
    exact Nat.lt_succ_self 2
  · refine leads_read (leads_write ?_)
    rintro _ ⟨⟩ endpoint ⟨⟩

/-- The sign-in page, without an identity, comes after every other page. -/
theorem lower_login (cookie : Option String) {endpoint : Endpoint} (h : endpoint ≠ .login)
    {identity : Option Identity} {t : Session} (ht : t.identity = none) :
    Lower cookie (endpoint.rank cookie identity) .login t := by
  rw [Lower, ht]
  cases identity <;> cases endpoint <;> simp only [Endpoint.rank] <;> first
    | exact absurd rfl h
    | omega
    | (split <;> omega)

theorem serves_userDashboard (hbrowser : browser.IsBrowser config) :
    Leads said (fun r t => ∃ response, r = .ok response ∧ response.Turns
      (Lower (cookieRole said browser)
        (Endpoint.userDashboard.rank (cookieRole said browser) s.identity)) t)
      (serve config lower browser .userDashboard) s := by
  refine serve_turns (leads_mono (fun r t hr => ⟨?_, ?_⟩) (loginRequired_turns hbrowser))
  · intro response hresponse endpoint hnext
    obtain ⟨rfl, ht⟩ := hr.1 response hresponse endpoint hnext
    exact lower_login _ (by decide) ht
  · intro identity hidentity
    obtain ⟨hkept, hfinds⟩ := hr.2 identity hidentity
    refine leads_mono (fun r' u hdashboard response hresponse endpoint hnext => ?_)
      dashboard_turns
    obtain ⟨hu, hgoes⟩ := hdashboard response hresponse endpoint hnext
    rw [Lower, hu, hkept]
    rw [hkept] at hgoes
    rcases hfinds with hown | ⟨hnone, hcookie, hcomplete⟩
    · rw [hown]
      rcases hgoes with ⟨rfl, -⟩ | ⟨rfl, hadmin⟩
      · exact Nat.lt_succ_self 1
      · simp only [Endpoint.rank, hadmin, if_true]
        decide
    · rw [hnone] at hgoes ⊢
      rcases hgoes with ⟨-, hincomplete⟩ | ⟨rfl, hadmin⟩
      · exact absurd (hcomplete.symm.trans hincomplete) (by decide)
      · rw [hadmin] at hcookie
        simp only [Endpoint.rank, hcookie, if_true]
        decide

/-- A page for everybody that shows itself. -/
theorem serves_shown (hbrowser : browser.IsBrowser config) {endpoint : Endpoint} {route : Route}
    (hlogin : endpoint ≠ .login) (hroute : route.isAdmin = false)
    (hview : ∀ (D : Endpoint → Session → Prop) identity t,
      Leads said (fun r u => ∀ response, r = .ok response → response.Turns D u)
        (route.view config lower browser identity) t) :
    Leads said (fun r t => ∃ response, r = .ok response ∧ response.Turns
      (Lower (cookieRole said browser) (endpoint.rank (cookieRole said browser) s.identity)) t)
      (serve config lower browser route) s := by
  refine serve_turns ?_
  rw [Route.guard, hroute]
  refine leads_mono (fun r t hr => ⟨?_, fun identity _ => hview _ identity t⟩)
    (loginRequired_turns hbrowser)
  intro response hresponse next hnext
  obtain ⟨rfl, ht⟩ := hr.1 response hresponse next hnext
  exact lower_login _ hlogin ht

/-- A page for administrators that shows itself. -/
theorem serves_admin (hbrowser : browser.IsBrowser config) {endpoint : Endpoint} {route : Route}
    (hendpoint : endpoint = .adminDashboard ∨ endpoint = .manageUsersPage)
    (hroute : route.isAdmin = true)
    (hview : ∀ (D : Endpoint → Session → Prop) identity t,
      Leads said (fun r u => ∀ response, r = .ok response → response.Turns D u)
        (route.view config lower browser identity) t) :
    Leads said (fun r t => ∃ response, r = .ok response ∧ response.Turns
      (Lower (cookieRole said browser) (endpoint.rank (cookieRole said browser) s.identity)) t)
      (serve config lower browser route) s := by
  refine serve_turns ?_
  rw [Route.guard, hroute]
  refine leads_mono (fun r t hr => ⟨?_, fun identity _ => hview _ identity t⟩)
    (adminRequired_turns hbrowser)
  intro response hresponse next hnext
  rcases hr response hresponse next hnext with ⟨rfl, ht⟩ | ⟨rfl, ht, identity, hfinds, hrole⟩
  · exact lower_login _ (by rcases hendpoint with rfl | rfl <;> decide) ht
  · rw [Lower, ht]
    rcases hfinds with hown | ⟨hnone, hcookie, -⟩
    · rw [hown]
      rcases hendpoint with rfl | rfl <;> simp [Endpoint.rank, hrole]
    · rw [hnone]
      rcases hendpoint with rfl | rfl <;> simp [Endpoint.rank, hcookie, hrole]

/-- Each redirect leads to an endpoint of a lower rank. -/
theorem visitPage_descends (hbrowser : browser.IsBrowser config) (endpoint : Endpoint) :
    Leads said (fun r t => ∃ result, r = .ok result ∧ ∀ next, result = .inr next →
      Lower (cookieRole said browser) (endpoint.rank (cookieRole said browser) s.identity) next t)
      (visitPage config (endpoint.page lower browser)) s := by
  have hrequest : (browser.toEndpoint endpoint).IsBrowser config :=
    ⟨hbrowser.noBearer, hbrowser.noGateway⟩
  refine visitPage_of_serves ?_
  cases endpoint with
  | login => exact serves_loginPage _
  | userDashboard => exact serves_guarded (serves_userDashboard hrequest)
  | userDetailsPage =>
    exact serves_guarded (serves_shown hrequest (by decide) rfl fun _ _ _ => userDetailsPage_turns)
  | passwordResetPage =>
    exact serves_guarded
      (serves_shown hrequest (by decide) rfl fun _ _ _ => passwordResetPage_turns)
  | adminDashboard =>
    exact serves_guarded (serves_admin hrequest (.inl rfl) rfl fun _ _ _ => listing_turns)
  | manageUsersPage =>
    exact serves_guarded (serves_admin hrequest (.inr rfl) rfl fun _ _ _ => manageUsersPage_turns)

end Descent

/-- A browser is never sent in a circle: whatever page it asks for first, with whatever session,
and whatever the services answer, its fourth redirect at the latest is the last. -/
theorem navigate_ends (config : Config) (lower : String → String) (browser : Request)
    (hbrowser : browser.IsBrowser config) (said : String → List Json) (page : PageRequest)
    (s : Session) :
    (navigate config lower browser 4 page).Always (tokenEnv said) (fun _ _ => True)
      (fun r _ => ∃ reply, r = .ok (some reply)) s := by
  have hfirst : Leads said (fun r _ => ∃ result, r = .ok result ∧ ∀ next : Endpoint,
      result = .inr next → True) (visitPage config page) s := by
    refine visitPage_of_serves (D := fun _ _ => True) (leads_mono (fun r t hr => ?_)
      (servePage_answers page))
    obtain ⟨reply, hreply⟩ := hr
    exact ⟨reply, hreply, fun _ _ => trivial⟩
  refine leads_bind (leads_mono (fun r t hr => ⟨fun result hresult => ?_, fun e he => ?_⟩) hfirst)
  · cases result with
    | inl reply => exact ⟨reply, rfl⟩
    | inr endpoint =>
      refine Prog.Always.iterate (fun u endpoint => visitPage_descends hbrowser endpoint) 4 t
        endpoint ?_
      have hrank := endpoint.rank_le (cookieRole said browser) t.identity
      omega
  · obtain ⟨_, rfl, -⟩ := hr
    cases he

/-! ## A user at a page for administrators -/

/-- A world whose tokens say what is written in them answers no otherwise. -/
theorem exec_tokenEnv {said : String → List Json} {world : World}
    (hsaid : ∀ n token claims, world.jwt n token = .ok claims → claims.groups = said token)
    (s : AppState) (op : AppOp) :
    tokenEnv said s.session op (world.exec s op).1 (world.exec s op).2.session := by
  refine ⟨exec_sessionEnv world s op, ?_⟩
  cases op with
  | decodeJwt token =>
    intro claims hclaims
    unfold World.exec at hclaims
    split at hclaims
    · cases hclaims
    · exact hsaid s.tick token claims hclaims
  | _ => trivial

def bobsBrowser : Request where
  method := "GET"
  path := "/manage-users"
  headers name := if name = "Accept" then some "text/html" else none
  cookies _ := none
  args _ := none
  form _ := none

/-- A user, with a session in which the tokens are about to be renewed. -/
def bobsState : AppState := { emptyState with
  session := { Session.cleared with
    identity := some { sampleAdmin with role := "user", username := some "bob" }
    tokenExpiresAt := some 1 } }

/-- Bob is sent to his dashboard, from there to the sign-in page, and has it. -/
theorem bob_is_shown_a_page : ∃ reply t,
    quietWorld.run (navigate sampleConfig id bobsBrowser 4
      (.guarded id bobsBrowser .manageUsersPage)) bobsState = (.ok (some reply), t) := by
  have hends := navigate_ends sampleConfig id bobsBrowser ⟨rfl, rfl⟩ (fun _ => [])
    (.guarded id bobsBrowser .manageUsersPage) bobsState.session
  have hexec : (navigate sampleConfig id bobsBrowser 4
      (.guarded id bobsBrowser .manageUsersPage)).Always
      (fun s op r t => quietWorld.exec s op = (r, t)) (fun _ _ => True)
      (fun r _ => ∃ reply, r = .ok (some reply)) bobsState := by
    refine hends.simulate AppState.session fun t op r t' hstep => ?_
    have henv : tokenEnv (fun _ => []) t.session op (quietWorld.exec t op).1
        (quietWorld.exec t op).2.session := exec_tokenEnv (by rintro n token claims ⟨⟩) t op
    rwa [hstep] at henv
  obtain ⟨reply, hreply⟩ := hexec.run fun _ _ => rfl
  exact ⟨reply, _, Prod.ext hreply rfl⟩

end TenantSaas
