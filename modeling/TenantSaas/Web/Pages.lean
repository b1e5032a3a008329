import TenantSaas.Web.Connections

/-!
# Every page of the application

The pages without a guard beside the guarded routes: the start page, the two forms of the sign-in,
the flow with Cognito, and the health check.
-/

namespace TenantSaas

namespace AuthPages

/-- `index` (`auth_pages.py:141-145`) -/
def index : App Response := do
  let session ← perform .session
  if session.identity.isSome then pure (.redirect .userDashboard) else pure (.redirect .login)

/-- What `GET /login` answers: a redirect, or `login.html`, which shows the messages. -/
inductive LoginPage where
  | redirect (endpoint : Endpoint)
  | form (demoMode : Bool) (flashes : List (String × String))

/-- `login` (`auth_pages.py:148-152`) -/
def loginPage (config : Config) : App LoginPage := do
  let session ← perform .session
  if session.identity.isSome then pure (.redirect .userDashboard)
  else do
    let session ← perform .session
    perform (.setSession { session with flashes := [] })
    pure (.form config.demoMode session.flashes)

/-- The claims that the form of DEMO_MODE stands for. -/
def demoClaims (request : Request) (demoGroup : String) : Claims where
  groups := [.str demoGroup]
  cognitoUsername := some ((request.form "username").getD "demo.user")
  username := none
  email := some ((request.form "email").getD "demo.user@example.com")
  sub := some "demo-sub"
  tokenUse := none
  exp := none

/-- `login_demo_submit` (`auth_pages.py:191-223`) -/
def loginDemoSubmit (config : Config) (request : Request) : App Response :=
  if !config.demoMode then do
    flash "Please sign in with Cognito." "warning"
    pure (.redirect .login)
  else
    let demoGroup := PyStr.strip (request.field "demo_group")
    if demoGroup = "" then do
      flash "Please choose a group to simulate." "danger"
      pure (.redirect .login)
    else
      tryCatch (login config (demoClaims request demoGroup) none)
        (fun e =>
          match e with
          | .invalidTokenError _ => do
            flash "We couldn't verify your credentials. Please try signing in again." "danger"
            pure (.redirect .login)
          | e => throw e)

end AuthPages

/-- What a browser or a client asks for. -/
inductive PageRequest where
  | health
  | index
  | loginPage
  | loginRedirect
  | loginDemoSubmit (request : Request)
  | callback (request : Request)
  | logout
  | guarded (lower : String → String) (request : Request) (route : Route)

/-- What it is answered. -/
inductive Reply where
  /-- `{"status": "healthy"}` -/
  | healthy
  | response (response : Response)
  | loginPage (page : AuthPages.LoginPage)
  | answer (answer : AuthPages.Answer)

/-- An exception that leaves a view becomes the error page. -/
def replied {α : Type} (reply : α → Reply) (view : App α) : App Reply :=
  tryCatch (do let a ← view; pure (reply a)) fun _ => pure (.response serverError)

/-- The pages without a guard set no `g.identity`, so that nothing is metered for them. -/
def servePage (config : Config) : PageRequest → App Reply
  | .health => pure .healthy
  | .index => replied .response AuthPages.index
  | .loginPage => replied .loginPage (AuthPages.loginPage config)
  | .loginRedirect => replied .answer (AuthPages.loginRedirect config)
  | .loginDemoSubmit request => replied .response (AuthPages.loginDemoSubmit config request)
  | .callback request => replied .answer (AuthPages.callback config request)
  | .logout => replied .answer (AuthPages.logout config)
  | .guarded lower request route => .response <$> serve config lower request route

/-! ## Their connections -/

section Connections

variable {α β : Type}

/-- The program makes each call where it is permitted, and ends without a connection. -/
abbrev StaysClosed (p : App α) : Prop :=
  Prog.Keeps connectionEnv (fun s op => s.2.permits op = true) (fun s => s.2 = .closed) p

theorem staysClosed_of_calls {p : App α} (hp : p.Calls fun op => op.isSql = false) :
    StaysClosed p := by
  refine Prog.Keeps.of_calls ?_ hp
  rintro op ⟨s, phase⟩ hsql rfl
  exact ⟨permits_closed hsql, fun r t hstep => hstep.2.trans (after_closed hsql _ _)⟩

theorem staysClosed_flash (message category : String) : StaysClosed (flash message category) :=
  staysClosed_of_calls (flash_calls (by rfl) (fun _ => by rfl) message category)

/-- One connection for one query. -/
theorem staysClosed_select (table : TenantTable) (query : RowQuery) {f : List UserRow → α} :
    StaysClosed (withConnection do
      let rows ← perform (.select table query)
      pure (f rows)) := by
  refine always_withConnection (O := fun s => s.2 = .clean) (D := fun s => s.2 = .clean) ?_ ?_ ?_
  · rintro ⟨s, phase⟩ rfl
    exact ⟨rfl, fun t hstep => hstep.2, fun e t hstep => hstep.2⟩
  · rintro ⟨s, phase⟩ rfl
    refine Prog.Always.bind ⟨rfl, fun r t hstep => ?_⟩
    cases r <;> exact hstep.2
  · rintro ⟨s, phase⟩ rfl
    exact ⟨rfl, fun r t hstep => hstep.2⟩

theorem staysClosed_getUserByUsername (config : Config) (tenant : String)
    (username : Option String) : StaysClosed (getUserByUsername config tenant username) := by
  refine Prog.Keeps.bind (staysClosed_of_calls (Prog.Calls.ofExcept _)) fun table => ?_
  split
  · refine staysClosed_of_calls (Prog.Calls.bind ?_ fun _ => trivial)
    exact Prog.Calls.bind (perform_calls rfl) fun _ => trivial
  cases username with
  | none => exact Prog.Keeps.ret _
  | some username =>
    show StaysClosed (if _ then _ else _)
    split
    · exact Prog.Keeps.ret _
    · exact staysClosed_select table _

theorem staysClosed_buildIdentity (config : Config) (claims : Claims) :
    StaysClosed (AuthPages.buildIdentity config claims) := by
  refine Prog.Keeps.bind (staysClosed_of_calls (Prog.Calls.ofExcept _)) fun identity => ?_
  exact Prog.Keeps.bind (staysClosed_getUserByUsername config _ _) fun _ => Prog.Keeps.ret _

theorem startSession_calls {P : AppOp → Prop} (hread : P .session) (hwrite : ∀ s, P (.setSession s))
    (htime : P .time) (identity : Identity) (tokens : Option AuthPages.LoginTokens) :
    (AuthPages.startSession identity tokens).Calls P := by
  refine Prog.Calls.bind (perform_calls (hwrite _)) fun _ => ?_
  cases tokens with
  | none => trivial
  | some tokens =>
    refine Prog.Calls.bind (perform_calls hread) fun _ => ?_
    refine Prog.Calls.bind (perform_calls (hwrite _)) fun _ => ?_
    refine Prog.Calls.bind (perform_calls htime) fun _ => ?_
    refine Prog.Calls.bind (Prog.Calls.ofExcept _) fun _ => ?_
    exact Prog.Calls.bind (perform_calls hread) fun _ => perform_calls (hwrite _)

theorem exchangeCodeForTokens_calls {P : AppOp → Prop} (code : String)
    (codeVerifier : Option String) (hexchange : P (.exchangeCode code codeVerifier)) :
    (exchangeCodeForTokens code codeVerifier).Calls P := by
  refine Prog.Calls.bind (perform_calls hexchange) fun reply => ?_
  cases reply with
  | unreachable => trivial
  | http status body =>
    show Prog.Calls _ (if _ then _ else _)
    split
    · refine Prog.Calls.bind (Prog.Calls.ofExcept _) fun body => ?_
      refine Prog.Calls.bind (Prog.Calls.ofExcept _) fun idToken => ?_
      refine Prog.Calls.bind (Prog.Calls.ofExcept _) fun accessToken => ?_
      refine Prog.Calls.bind (Prog.Calls.ofExcept _) fun refreshToken => ?_
      refine Prog.Calls.bind (Prog.Calls.ofExcept _) fun expiresIn => ?_
      exact Prog.Calls.bind (Prog.Calls.ofExcept _) fun tokenType => trivial
    · trivial

theorem staysClosed_authenticate (config : Config) (code : String)
    (codeVerifier : Option String) :
    StaysClosed (AuthPages.authenticate config code codeVerifier) := by
  refine Prog.Keeps.bind (staysClosed_of_calls
    (exchangeCodeForTokens_calls _ _ (by rfl))) fun tokens => ?_
  show StaysClosed (if _ then _ else _)
  split
  · exact Prog.Keeps.raise _
  refine Prog.Keeps.bind ?_ fun claims => ?_
  · generalize tokens.idToken = idToken
    cases idToken with
    | str token =>
      refine staysClosed_of_calls ((validateJwt_calls config token).mono fun op hop => ?_)
      cases op <;> first | rfl | cases hop
    | _ => exact Prog.Keeps.raise _
  · exact Prog.Keeps.bind (staysClosed_buildIdentity config claims) fun _ => Prog.Keeps.ret _

theorem staysClosed_establish (tokens : CodeTokens) (identity : Identity) :
    StaysClosed (AuthPages.establish tokens identity) := by
  refine staysClosed_of_calls (Prog.Calls.bind ?_ fun _ => ?_)
  · exact startSession_calls (by rfl) (fun _ => by rfl) (by rfl) _ _
  unfold AuthPages.setCognitoAccessTokenCookie
  split
  · trivial
  · refine Prog.Calls.bind (Prog.Calls.ofExcept _) fun _ => ?_
    exact Prog.Calls.bind (perform_calls (by rfl)) fun _ => trivial

theorem staysClosed_callback (config : Config) (request : Request) :
    StaysClosed (AuthPages.callback config request) := by
  unfold AuthPages.callback
  split
  · exact Prog.Keeps.bind (staysClosed_flash _ _) fun _ => Prog.Keeps.ret _
  refine Prog.Keeps.bind (staysClosed_of_calls (perform_calls (by rfl))) fun session => ?_
  refine Prog.Keeps.bind (staysClosed_of_calls (perform_calls (by rfl))) fun _ => ?_
  cases AuthPages.verifiedCode request session with
  | none => exact Prog.Keeps.bind (staysClosed_flash _ _) fun _ => Prog.Keeps.ret _
  | some verified =>
    obtain ⟨code, codeVerifier⟩ := verified
    refine Prog.Keeps.handle ?_ fun e => ?_
    · refine Prog.Keeps.bind (staysClosed_authenticate config code codeVerifier) fun result => ?_
      exact staysClosed_establish result.1 result.2
    · cases e <;> exact Prog.Keeps.bind (staysClosed_flash _ _) fun _ => Prog.Keeps.ret _

theorem staysClosed_loginRedirect (config : Config) :
    StaysClosed (AuthPages.loginRedirect config) := by
  have hflash : ∀ message category, (do
      flash message category
      pure AuthPages.toLogin : App AuthPages.Answer).Calls fun op => op.isSql = false :=
    fun message category => Prog.Calls.bind
      (flash_calls (by rfl) (fun _ => by rfl) message category) fun _ => trivial
  refine staysClosed_of_calls ?_
  unfold AuthPages.loginRedirect
  split
  · exact hflash _ _
  split
  · exact hflash _ _
  refine Prog.Calls.bind (perform_calls (by rfl)) fun pair => ?_
  refine Prog.Calls.bind (perform_calls (by rfl)) fun state => ?_
  refine Prog.Calls.bind (perform_calls (by rfl)) fun session => ?_
  refine Prog.Calls.bind (perform_calls (by rfl)) fun _ => ?_
  refine Prog.Calls.bind (perform_calls (by rfl)) fun session => ?_
  exact Prog.Calls.bind (perform_calls (by rfl)) fun _ => trivial

theorem staysClosed_login (config : Config) (claims : Claims)
    (tokens : Option AuthPages.LoginTokens) :
    StaysClosed (AuthPages.login config claims tokens) := by
  refine Prog.Keeps.bind (staysClosed_buildIdentity config claims) fun identity => ?_
  refine Prog.Keeps.bind (staysClosed_of_calls ?_) fun _ => Prog.Keeps.ret _
  exact startSession_calls (by rfl) (fun _ => by rfl) (by rfl) _ _

theorem staysClosed_loginDemoSubmit (config : Config) (request : Request) :
    StaysClosed (AuthPages.loginDemoSubmit config request) := by
  have hflash : ∀ message category, StaysClosed (do
      flash message category
      pure (.redirect .login) : App Response) :=
    fun message category => Prog.Keeps.bind (staysClosed_flash _ _) fun _ => Prog.Keeps.ret _
  unfold AuthPages.loginDemoSubmit
  split
  · exact hflash _ _
  dsimp only
  split
  · exact hflash _ _
  refine Prog.Keeps.handle (staysClosed_login config _ none) fun e => ?_
  cases e <;> first | exact hflash _ _ | exact Prog.Keeps.raise _

theorem staysClosed_logout (config : Config) : StaysClosed (AuthPages.logout config) := by
  refine Prog.Keeps.bind (staysClosed_of_calls (perform_calls (by rfl))) fun _ => ?_
  split
  · exact Prog.Keeps.bind (staysClosed_flash _ _) fun _ => Prog.Keeps.ret _
  · exact Prog.Keeps.ret _

theorem staysClosed_replied {reply : α → Reply} {view : App α} (h : StaysClosed view) :
    StaysClosed (replied reply view) :=
  Prog.Keeps.handle (Prog.Keeps.bind h fun _ => Prog.Keeps.ret _) fun _ => Prog.Keeps.ret _

end Connections

/-- Whatever is answered, no page of the application asks another service, or for its session,
while it has a connection to the tenant tables; it has one connection at a time, tries to commit or
roll back what it has locked or changed on it before it closes it, and has closed it in the end. -/
theorem servePage_connections (config : Config) (page : PageRequest) (s : Session) :
    (servePage config page).Always connectionEnv (fun t op => t.2.permits op = true)
      (fun _ t => t.2 = .closed) (s, .closed) := by
  have hpage : StaysClosed (servePage config page) ∨ ∃ lower request route,
      page = .guarded lower request route := by
    cases page with
    | health => exact .inl (Prog.Keeps.ret _)
    | index =>
      left
      refine staysClosed_replied (staysClosed_of_calls ?_)
      refine Prog.Calls.bind (perform_calls (by rfl)) fun session => ?_
      split <;> trivial
    | loginPage =>
      left
      refine staysClosed_replied (staysClosed_of_calls ?_)
      refine Prog.Calls.bind (perform_calls (by rfl)) fun session => ?_
      split
      · trivial
      · refine Prog.Calls.bind (perform_calls (by rfl)) fun session => ?_
        exact Prog.Calls.bind (perform_calls (by rfl)) fun _ => trivial
    | loginRedirect => exact .inl (staysClosed_replied (staysClosed_loginRedirect config))
    | loginDemoSubmit request =>
      exact .inl (staysClosed_replied (staysClosed_loginDemoSubmit config request))
    | callback request => exact .inl (staysClosed_replied (staysClosed_callback config request))
    | logout => exact .inl (staysClosed_replied (staysClosed_logout config))
    | guarded lower request route => exact .inr ⟨lower, request, route, rfl⟩
  rcases hpage with hclosed | ⟨lower, request, route, rfl⟩
  · exact hclosed _ rfl
  · rw [servePage, map_eq_pure_bind, Prog.bind_def]
    refine Prog.Always.bind ((serve_connections config lower request route s).mono
      (fun _ _ h => h) fun r t ht => ?_)
    cases r <;> exact ht

end TenantSaas
