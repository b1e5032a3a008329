import TenantSaas.Web.Pages

/-!
# Where the identity of a session comes from

A browser uses any pages of the application, with requests served at the same time.  Each identity
that a session cookie of it ever holds goes back to a sign-in of that browser.
-/

namespace TenantSaas

open CookieJar

/-- The identity reads off the claims: its tenant and role are those of one of the groups. -/
structure Identity.Reads (claims : Claims) (identity : Identity) : Prop where
  group : Json.str identity.group ∈ claims.groups
  mapped : cognitoGroupMap.lookup identity.group = some ⟨identity.tenant, identity.role⟩
  username : identity.username = pyOr claims.cognitoUsername claims.username
  email : identity.email = claims.email
  sub : identity.sub = claims.sub

theorem Identity.Reads.alike {claims : Claims} {a b : Identity} (h : a.Reads claims)
    (halike : a.Alike b) : b.Reads claims := by
  rw [halike]
  exact ⟨h.group, h.mapped, h.username, h.email, h.sub⟩

theorem reads_of_resolve {claims : Claims} {identity : Identity}
    (h : resolveTenantAndRole claims = .ok identity) : identity.Reads claims := by
  unfold resolveTenantAndRole at h
  split at h
  · rename_i group mapping hgroup
    obtain ⟨hmem, hlookup⟩ := mem_of_firstClaimedGroup hgroup
    cases h
    exact ⟨hmem, hlookup, rfl, rfl, rfl⟩
  · cases h
  · cases h

/-- A page has got claims that it may sign in with.  A callback has exchanged its code for an
`id_token`, which `jwt.decode` has accepted, and which is of the right use and has not expired.
In DEMO_MODE the form is enough. -/
inductive Vouched (config : Config) : PageRequest → Calls → Claims → Prop where
  | callback {request : Request} {calls : Calls} {claims : Claims} (code : String)
      (verifier : Option String) (body : Body) (answer : Json) (token : String)
      (sent : request.args "code" = some code)
      (exchanged : ⟨.exchangeCode code verifier, .ok (.http 200 body)⟩ ∈ calls)
      (loads : body.loads = .ok answer)
      (idToken : answer.dictGet "id_token" .null = .ok (.str token))
      (decoded : ⟨.decodeJwt token, .ok claims⟩ ∈ calls)
      (valid : config.demoMode = false →
        (claims.tokenUse = some "id" ∨ claims.tokenUse = some "access") ∧
          ∃ now, ⟨.time, .ok now⟩ ∈ calls ∧ now ≤ claims.exp.getD 0) :
      Vouched config (.callback request) calls claims
  | demo (request : Request) (calls : Calls) (demoGroup : String)
      (demoMode : config.demoMode = true) :
      Vouched config (.loginDemoSubmit request) calls (AuthPages.demoClaims request demoGroup)

theorem Vouched.mono {config : Config} {page : PageRequest} {calls calls' : Calls}
    {claims : Claims} (h : Vouched config page calls claims) (hcalls : calls ⊆ calls') :
    Vouched config page calls' claims := by
  cases h with
  | callback code verifier body answer token sent exchanged loads idToken decoded valid =>
    refine .callback code verifier body answer token sent (hcalls exchanged) loads idToken
      (hcalls decoded) fun demo => ?_
    obtain ⟨huse, now, hnow, hexp⟩ := valid demo
    exact ⟨huse, now, hcalls hnow, hexp⟩
  | demo request calls demoGroup demoMode => exact .demo request _ demoGroup demoMode

/-- A session of the same person, or of nobody. -/
def Session.Comes (s t : Session) : Prop :=
  ∀ identity, t.identity = some identity → ∃ old, s.identity = some old ∧ old.Alike identity

theorem comes_of_same {s t : Session} (h : t.identity = s.identity) : s.Comes t :=
  fun identity hidentity => ⟨identity, h ▸ hidentity, .refl identity⟩

theorem comes_of_none {s t : Session} (h : t.identity = none) : s.Comes t := by
  intro identity hidentity
  rw [h] at hidentity
  cases hidentity

theorem Session.Comes.trans {s t u : Session} (h : s.Comes t) (h' : t.Comes u) : s.Comes u := by
  intro identity hidentity
  obtain ⟨old, hold, halike⟩ := h' identity hidentity
  obtain ⟨older, holder, halike'⟩ := h old hold
  exact ⟨older, holder, halike'.trans halike⟩

/-- A session of someone whom a request has signed in. -/
def SignsIn (config : Config) (page : PageRequest) (calls : Calls) (s : Session) : Prop :=
  ∃ identity claims, s.identity = some identity ∧ Vouched config page calls claims ∧
    identity.Reads claims

/-- Where sessions come from. -/
def sessionOrigins (config : Config) : Origins PageRequest AppOp.Res PyError Session where
  Comes := Session.Comes
  Made := SignsIn config
  refl _ := comes_of_same rfl
  trans _ _ _ := Session.Comes.trans
  grows := by
    rintro page calls call _ ⟨identity, claims, hidentity, hvouched, hreads⟩
    exact ⟨identity, claims, hidentity, hvouched.mono (List.subset_append_left _ _), hreads⟩

/-! ## Pages that sign nobody in -/

section Moves

theorem comes_guard : GuardMoves Session.Comes where
  refl _ := comes_of_same rfl
  trans _ _ _ := Session.Comes.trans
  messages _ _ := comes_of_same rfl
  tokens _ _ _ := comes_of_same rfl
  cleared _ := comes_of_none rfl

theorem unauthenticatedResponse_comes (config : Config) (request : Request) :
    MovesSession Session.Comes (unauthenticatedResponse config request) := by
  unfold unauthenticatedResponse
  split
  · exact comes_guard.ret _
  · exact comes_guard.bind (flash_moves comes_guard _ _) fun _ => comes_guard.ret _

theorem adminRequired_comes (config : Config) (request : Request) :
    MovesSession Session.Comes (adminRequired config request) := by
  refine comes_guard.bind (comes_guard.of_calls (resolveIdentity_leaves config request))
    fun identity => ?_
  cases identity with
  | none =>
    exact comes_guard.bind (unauthenticatedResponse_comes config request) fun _ =>
      comes_guard.ret _
  | some identity =>
    show MovesSession _ (if _ then _ else _)
    split
    · split
      · exact comes_guard.ret _
      · exact comes_guard.bind (flash_moves comes_guard _ _) fun _ => comes_guard.ret _
    · exact comes_guard.ret _

theorem guard_comes (config : Config) (request : Request) (route : Route) :
    MovesSession Session.Comes (route.guard config request) := by
  unfold Route.guard
  split
  · exact adminRequired_comes config request
  · exact loginRequired_moves comes_guard config request

/-- A guarded request leaves its session with the person it found there. -/
theorem serve_comes (config : Config) (lower : String → String) (request : Request) (route : Route)
    (s : Session) :
    (serve config lower request route).Always sessionEnv (fun _ _ => True)
      (fun _ t => s.Comes t) s := by
  have hguard := (guard_comes config request route s).and (guard_asks config request route)
  refine Prog.Always.bind (Prog.Always.handle (hguard.mono (fun _ _ _ => trivial)
    fun r t ht => ?_))
  obtain ⟨hcomes, hentered⟩ := ht
  have hdenied : ∀ response, (do
      meterUsage config request none response
      pure response : App Response).Always sessionEnv (fun _ _ => True) (fun _ u => s.Comes u)
      t := by
    intro response
    unfold meterUsage recordApiUsage
    split <;> exact hcomes
  cases r with
  | error e => exact hdenied _
  | ok gate =>
    cases gate with
    | deny response => exact hdenied response
    | enter identity =>
      obtain ⟨hsession, hadmin⟩ := hentered identity rfl
      refine (serveAs_serves (serves_authority config identity _) lower request route hadmin t
        hsession.speaksFor).mono (fun _ _ _ => trivial) fun _ u hu current hcurrent => ?_
      have hsome := hu.isSome
      rw [hcurrent] at hsome
      obtain ⟨old, hold⟩ := Option.isSome_iff_exists.mp hsome.symm
      exact ⟨old, hold, hsession.own old hold ▸ hu.alike current hcurrent⟩

end Moves

/-! ## Pages that sign someone in -/

section SignIn

variable {config : Config} {page : PageRequest} {s : Session}

/-- The state of a page once it has signed in, or has not. -/
abbrev Settles (config : Config) (page : PageRequest) (carried : Session) {α : Type} (p : App α)
    (s : Session × Calls) : Prop :=
  p.Always (recorded sessionEnv) (fun _ _ => True)
    (fun _ t => (sessionOrigins config).Leaves page carried t) s

/-- What a page leaves comes from what it carried also after more calls. -/
theorem Leaves.comes {carried : Session} {s t : Session × Calls}
    (h : (sessionOrigins config).Leaves page carried s) (hcomes : s.1.Comes t.1)
    (hcalls : s.2 ⊆ t.2) : (sessionOrigins config).Leaves page carried t := by
  rcases h with h | ⟨u, ⟨identity, claims, hidentity, hvouched, hreads⟩, h⟩
  · exact .inl (Session.Comes.trans h hcomes)
  · exact .inr ⟨u, ⟨identity, claims, hidentity, hvouched.mono hcalls, hreads⟩,
      Session.Comes.trans h hcomes⟩

theorem settles_of_comes {α : Type} {carried : Session} {p : App α} {s : Session × Calls}
    (h : (sessionOrigins config).Leaves page carried s)
    (hp : p.Always sessionEnv (fun _ _ => True) (fun _ t => s.1.Comes t) s.1) :
    Settles config page carried p s :=
  (always_recorded hp).mono (fun _ _ _ => trivial) fun _ _ ht => Leaves.comes h ht.1 ht.2

theorem settles_of_moves {α : Type} {carried : Session} {p : App α} {s : Session × Calls}
    (h : (sessionOrigins config).Leaves page carried s) (hp : MovesSession Session.Comes p) :
    Settles config page carried p s :=
  settles_of_comes h ((hp s.1).mono (fun _ _ _ => trivial) fun _ _ ht => ht)

/-- A page starts with what it carried. -/
theorem leaves_start (config : Config) (page : PageRequest) (carried : Session) :
    (sessionOrigins config).Leaves page carried (carried, []) := .inl (comes_of_same rfl)

theorem flash_comes {α : Type} (message category : String) (a : α) :
    MovesSession Session.Comes ((flash message category).bind fun _ => .ret a) :=
  comes_guard.bind (flash_moves comes_guard _ _) fun _ => comes_guard.ret _

/-- Calls that leave the session. -/
theorem always_leaves {α : Type} {p : App α} (hp : p.Calls fun op => op.changesSession = false) :
    p.Always sessionEnv (fun _ _ => True) (fun _ t => t = s) s := by
  refine Prog.Keeps.of_calls (I := fun t => t = s) (fun op t hop ht => ?_) hp s rfl
  exact ⟨trivial, fun r u hstep => (sessionEnv_keeps hop hstep).trans ht⟩

/-- The identity of a login reads off its claims. -/
theorem buildIdentity_reads (config : Config) (claims : Claims) :
    (AuthPages.buildIdentity config claims).Always sessionEnv (fun _ _ => True)
      (fun r t => t = s ∧ ∀ identity, r = .ok identity → identity.Reads claims) s := by
  refine Prog.Always.ofExcept_bind (fun e _ => ⟨rfl, by rintro _ ⟨⟩⟩) fun base hbase => ?_
  have hrow : (getUserByUsername config base.tenant base.username).Calls
      fun op => op.changesSession = false := by
    refine (getUserByUsername_calls base.username).mono fun op hop => ?_
    cases op <;> first | rfl | cases hop
  refine Prog.Always.bind ((always_leaves hrow).mono (fun _ _ h => h) fun r t ht => ?_)
  cases r with
  | error e => exact ⟨ht, by rintro _ ⟨⟩⟩
  | ok record =>
    refine ⟨ht, ?_⟩
    rintro _ ⟨⟩
    have hreads := reads_of_resolve hbase
    exact ⟨hreads.group, hreads.mapped, hreads.username, hreads.email, hreads.sub⟩

/-- A started session is that of the identity, also where the rest of it fails. -/
theorem startSession_starts (identity : Identity) (tokens : Option AuthPages.LoginTokens) :
    (AuthPages.startSession identity tokens).Always sessionEnv (fun _ _ => True)
      (fun _ t => t.identity = some identity) s := by
  refine ⟨trivial, fun r t hrt => ?_⟩
  obtain ⟨rfl, rfl⟩ := hrt
  have hrest : ∀ tokens : AuthPages.LoginTokens, AsksFor (some identity) (do
      let session ← perform .session
      perform (.setSession { session with
        accessToken := tokens.accessToken
        refreshToken := tokens.refreshToken })
      let now ← perform .time
      let expiresIn ← Prog.ofExcept tokens.expiresIn.toSeconds
      let session ← perform .session
      perform (.setSession { session with tokenExpiresAt := some (now + expiresIn) })) := by
    intro tokens
    refine asksFor_update (fun _ => rfl) ?_
    refine Prog.Keeps.bind (asksFor_of_calls (perform_calls ⟨rfl, rfl⟩)) fun now => ?_
    refine Prog.Keeps.bind (asksFor_of_calls (Prog.Calls.ofExcept _)) fun expiresIn => ?_
    refine fun t ht => asks_read ?_
    rw [← Prog.bind_ret (perform (.setSession _))]
    exact asks_write ht
  cases tokens with
  | none => rfl
  | some tokens =>
    exact (hrest tokens _ rfl).mono (fun _ _ _ => trivial) fun _ _ ht => ht

theorem establish_starts (tokens : CodeTokens) (identity : Identity) :
    (AuthPages.establish tokens identity).Always sessionEnv (fun _ _ => True)
      (fun _ t => t.identity = some identity) s := by
  refine Prog.Always.bind ((startSession_starts identity _).mono (fun _ _ h => h)
    fun r t ht => ?_)
  cases r with
  | error e => exact ht
  | ok _ =>
    have hcookie : (AuthPages.setCognitoAccessTokenCookie (.page (AuthPages.postLoginRedirect
        identity)) tokens.accessToken tokens.expiresIn).Calls
        fun op => op.changesSession = false := by
      unfold AuthPages.setCognitoAccessTokenCookie
      split
      · trivial
      · refine Prog.Calls.bind (Prog.Calls.ofExcept _) fun _ => ?_
        exact Prog.Calls.bind (perform_calls rfl) fun _ => trivial
    exact (always_leaves hcookie).mono (fun _ _ h => h) fun _ u hu => hu ▸ ht

/-- The tokens of an exchange are those that the token endpoint answered. -/
theorem exchangeCodeForTokens_recorded (code : String) (verifier : Option String)
    {s : Session × Calls} :
    (exchangeCodeForTokens code verifier).Always (recorded sessionEnv) (fun _ _ => True)
      (fun r t => t.1 = s.1 ∧ ∀ tokens, r = .ok tokens → ∃ body answer,
        ⟨.exchangeCode code verifier, .ok (.http 200 body)⟩ ∈ t.2 ∧ body.loads = .ok answer ∧
          answer.dictGet "id_token" .null = .ok tokens.idToken) s := by
  refine ⟨trivial, fun r t hrt => ?_⟩
  obtain ⟨hsession, hcalls⟩ := hrt
  have hsame : t.1 = s.1 := hsession
  cases r with
  | error e => exact ⟨hsame, by rintro _ ⟨⟩⟩
  | ok reply =>
    cases reply with
    | unreachable => exact ⟨hsame, by rintro _ ⟨⟩⟩
    | http status body =>
      show Prog.Always _ _ _ (if _ then _ else _) t
      split
      next hstatus =>
        subst hstatus
        have hcall : ⟨.exchangeCode code verifier, .ok (.http 200 body)⟩ ∈ t.2 := by
          rw [hcalls]
          exact List.mem_append_right _ List.mem_cons_self
        refine .ofExcept_bind (fun e _ => ⟨hsame, by rintro _ ⟨⟩⟩) fun answer hanswer => ?_
        refine .ofExcept_bind (fun e _ => ⟨hsame, by rintro _ ⟨⟩⟩) fun idToken hidToken => ?_
        refine .ofExcept_bind (fun e _ => ⟨hsame, by rintro _ ⟨⟩⟩) fun accessToken _ => ?_
        refine .ofExcept_bind (fun e _ => ⟨hsame, by rintro _ ⟨⟩⟩) fun refreshToken _ => ?_
        refine .ofExcept_bind (fun e _ => ⟨hsame, by rintro _ ⟨⟩⟩) fun expiresIn _ => ?_
        refine .ofExcept_bind (fun e _ => ⟨hsame, by rintro _ ⟨⟩⟩) fun tokenType _ => ?_
        refine ⟨hsame, ?_⟩
        rintro _ ⟨⟩
        exact ⟨body, answer, hcall, hanswer, hidToken⟩
      next => exact ⟨hsame, by rintro _ ⟨⟩⟩

/-- The claims that `validate_jwt` returns are those of the decoded token, of the right use and
not expired. -/
theorem validateJwt_recorded (config : Config) (token : String) {s : Session × Calls} :
    (validateJwt config token).Always (recorded sessionEnv) (fun _ _ => True)
      (fun r t => t.1 = s.1 ∧ s.2 ⊆ t.2 ∧ ∀ claims, r = .ok claims →
        ⟨.decodeJwt token, .ok claims⟩ ∈ t.2 ∧ (config.demoMode = false →
          (claims.tokenUse = some "id" ∨ claims.tokenUse = some "access") ∧
            ∃ now, ⟨.time, .ok now⟩ ∈ t.2 ∧ now ≤ claims.exp.getD 0)) s := by
  refine ⟨trivial, fun r t hrt => ?_⟩
  obtain ⟨hsession, hcalls⟩ := hrt
  have hsame : t.1 = s.1 := hsession
  have hgrown : s.2 ⊆ t.2 := hcalls ▸ List.subset_append_left _ _
  cases r with
  | error e => exact ⟨hsame, hgrown, by rintro _ ⟨⟩⟩
  | ok claims =>
    have hdecoded : ⟨.decodeJwt token, .ok claims⟩ ∈ t.2 := by
      rw [hcalls]
      exact List.mem_append_right _ List.mem_cons_self
    show Prog.Always _ _ _ (if _ then _ else _) t
    split
    next hdemo =>
      refine ⟨hsame, hgrown, ?_⟩
      rintro _ ⟨⟩
      exact ⟨hdecoded, fun demo => absurd hdemo (by rw [demo]; decide)⟩
    split
    · exact ⟨hsame, hgrown, by rintro _ ⟨⟩⟩
    next huse =>
      have huse : claims.tokenUse = some "id" ∨ claims.tokenUse = some "access" := by
        by_contra hneither
        exact huse (not_or.mp hneither)
      refine ⟨trivial, fun r u hru => ?_⟩
      obtain ⟨hsession', hcalls'⟩ := hru
      have hsame' : u.1 = s.1 := Eq.trans hsession' hsame
      have hgrown' : t.2 ⊆ u.2 := hcalls' ▸ List.subset_append_left _ _
      cases r with
      | error e => exact ⟨hsame', List.Subset.trans hgrown hgrown', by rintro _ ⟨⟩⟩
      | ok now =>
        have hnow : ⟨.time, .ok now⟩ ∈ u.2 := by
          rw [hcalls']
          exact List.mem_append_right _ List.mem_cons_self
        show Prog.Always _ _ _ (if _ then _ else _) u
        split
        · exact ⟨hsame', List.Subset.trans hgrown hgrown', by rintro _ ⟨⟩⟩
        next hexp =>
          refine ⟨hsame', List.Subset.trans hgrown hgrown', ?_⟩
          rintro _ ⟨⟩
          exact ⟨hgrown' hdecoded, fun _ => ⟨huse, now, hnow, not_lt.mp hexp⟩⟩

/-- Whom a callback signs in. -/
theorem authenticate_vouched (config : Config) {request : Request} {code : String}
    (sent : request.args "code" = some code) (verifier : Option String)
    {s : Session × Calls} :
    (AuthPages.authenticate config code verifier).Always (recorded sessionEnv) (fun _ _ => True)
      (fun r t => t.1 = s.1 ∧ ∀ result, r = .ok result →
        ∃ claims, Vouched config (.callback request) t.2 claims ∧ result.2.Reads claims) s := by
  refine .bind ((exchangeCodeForTokens_recorded code verifier).mono (fun _ _ h => h)
    fun r t ht => ?_)
  obtain ⟨hsame, hexchanged⟩ := ht
  cases r with
  | error e => exact ⟨hsame, by rintro _ ⟨⟩⟩
  | ok tokens =>
    obtain ⟨body, answer, hcall, hloads, hidToken⟩ := hexchanged tokens rfl
    show Prog.Always _ _ _ (if _ then _ else _) t
    split
    · exact ⟨hsame, by rintro _ ⟨⟩⟩
    cases htoken : tokens.idToken with
    | str token =>
      rw [htoken] at hidToken
      refine .bind ((validateJwt_recorded config token).mono (fun _ _ h => h) fun r u hu => ?_)
      obtain ⟨hsame', hgrown, hvalid⟩ := hu
      cases r with
      | error e => exact ⟨hsame'.trans hsame, by rintro _ ⟨⟩⟩
      | ok claims =>
        obtain ⟨hdecoded, hchecked⟩ := hvalid claims rfl
        have hvouched : Vouched config (.callback request) u.2 claims :=
          .callback code verifier body answer token sent (hgrown hcall) hloads hidToken hdecoded
            hchecked
        refine .bind ((always_recorded (buildIdentity_reads config claims)).mono
          (fun _ _ _ => trivial) fun r v hv => ?_)
        obtain ⟨⟨hsame'', hreads⟩, hgrown'⟩ := hv
        cases r with
        | error e => exact ⟨hsame''.trans (hsame'.trans hsame), by rintro _ ⟨⟩⟩
        | ok identity =>
          refine ⟨hsame''.trans (hsame'.trans hsame), ?_⟩
          rintro _ ⟨⟩
          exact ⟨claims, hvouched.mono hgrown', hreads identity rfl⟩
    | _ => exact ⟨hsame, by rintro _ ⟨⟩⟩

theorem signInFailed_comes (e : PyError) :
    MovesSession Session.Comes (AuthPages.signInFailed e) := by
  cases e <;> exact flash_comes _ _ _

theorem code_of_verified {request : Request} {session : Session} {code : String}
    {verifier : Option String}
    (h : AuthPages.verifiedCode request session = some (code, verifier)) :
    request.args "code" = some code := by
  unfold AuthPages.verifiedCode at h
  split at h
  · rename_i received state expected hcode hstate hexpected
    split at h
    · cases h
    · cases h
      exact hcode
  · cases h

theorem callback_settles (config : Config) (request : Request) (carried : Session) :
    Settles config (.callback request) carried (AuthPages.callback config request)
      (carried, []) := by
  have hstart := leaves_start config (.callback request) carried
  unfold AuthPages.callback
  split
  · exact settles_of_moves hstart (flash_comes _ _ _)
  refine ⟨trivial, fun r t hrt => ?_⟩
  obtain ⟨⟨rfl, hsession⟩, hcalls⟩ := hrt
  refine ⟨trivial, fun r u hru => ?_⟩
  obtain ⟨⟨rfl, hsession'⟩, hcalls'⟩ := hru
  simp only [Prog.bind_def, Prog.ret_bind]
  have hleaves : (sessionOrigins config).Leaves (.callback request) carried u :=
    .inl (comes_of_same (by rw [hsession']))
  cases hverified : AuthPages.verifiedCode request carried with
  | none => exact settles_of_moves hleaves (flash_comes _ _ _)
  | some verified =>
    obtain ⟨code, verifier⟩ := verified
    refine .handle (.bind ((authenticate_vouched config (code_of_verified hverified)
      verifier).mono (fun _ _ h => h) fun r v hv => ?_))
    obtain ⟨hsame, hresult⟩ := hv
    cases r with
    | error e =>
      refine settles_of_moves (.inl (comes_of_same ?_)) (signInFailed_comes e)
      rw [hsame, hsession']
    | ok result =>
      obtain ⟨claims, hvouched, hreads⟩ := hresult result rfl
      refine (always_recorded (establish_starts result.1 result.2)).mono (fun _ _ _ => trivial)
        fun r w hw => ?_
      have hsignedIn : (sessionOrigins config).Leaves (.callback request) carried w :=
        .inr ⟨w.1, ⟨result.2, claims, hw.1, hvouched.mono hw.2, hreads⟩, comes_of_same rfl⟩
      cases r with
      | ok answer => exact hsignedIn
      | error e => exact settles_of_moves hsignedIn (signInFailed_comes e)

theorem login_settles (config : Config) (request : Request) (demoGroup : String)
    (demo : config.demoMode = true) {carried : Session} {s : Session × Calls}
    (h : (sessionOrigins config).Leaves (.loginDemoSubmit request) carried s) :
    Settles config (.loginDemoSubmit request) carried
      (AuthPages.login config (AuthPages.demoClaims request demoGroup) none) s := by
  refine .bind ((always_recorded (buildIdentity_reads config _)).mono (fun _ _ _ => trivial)
    fun r t ht => ?_)
  obtain ⟨⟨hsame, hreads⟩, hgrown⟩ := ht
  cases r with
  | error e => exact Leaves.comes h (comes_of_same (by rw [hsame])) hgrown
  | ok identity =>
    refine .bind ((always_recorded (startSession_starts identity none)).mono (fun _ _ _ => trivial)
      fun r u hu => ?_)
    have hsignedIn : (sessionOrigins config).Leaves (.loginDemoSubmit request) carried u :=
      .inr ⟨u.1, ⟨identity, _, hu.1, .demo request _ demoGroup demo, hreads identity rfl⟩,
        comes_of_same rfl⟩
    cases r <;> exact hsignedIn

theorem loginDemoSubmit_settles (config : Config) (request : Request) (carried : Session) :
    Settles config (.loginDemoSubmit request) carried (AuthPages.loginDemoSubmit config request)
      (carried, []) := by
  have hstart := leaves_start config (.loginDemoSubmit request) carried
  unfold AuthPages.loginDemoSubmit
  split
  · exact settles_of_moves hstart (flash_comes _ _ _)
  next hdemo =>
    have hdemo : config.demoMode = true := by simpa using hdemo
    dsimp only
    split
    · exact settles_of_moves hstart (flash_comes _ _ _)
    have hlogin := login_settles config request (PyStr.strip (request.field "demo_group")) hdemo
      hstart
    generalize AuthPages.login config _ none = p at hlogin ⊢
    refine .handle (hlogin.mono (fun _ _ h => h) fun r t ht => ?_)
    cases r with
    | ok response => exact ht
    | error e => cases e <;> first | exact settles_of_moves ht (flash_comes _ _ _) | exact ht

/-- `login_redirect` keeps what it draws in the session of whoever asks. -/
theorem loginRedirect_comes (config : Config) :
    (AuthPages.loginRedirect config).Always sessionEnv (fun _ _ => True) (fun _ t => s.Comes t)
      s := by
  have hflash := fun message category =>
    (flash_comes message category AuthPages.toLogin s).mono (fun _ _ _ => trivial) fun _ _ h => h
  unfold AuthPages.loginRedirect
  split
  · exact hflash _ _
  split
  · exact hflash _ _
  refine ⟨trivial, fun pair t hpair => ?_⟩
  obtain rfl : t = s := hpair
  cases pair with
  | error e => exact comes_of_same rfl
  | ok pair =>
    refine ⟨trivial, fun state u hstate => ?_⟩
    obtain rfl : u = t := hstate
    cases state with
    | error e => exact comes_of_same rfl
    | ok state =>
      refine ⟨trivial, fun r v hrv => ?_⟩
      obtain ⟨rfl, rfl⟩ := hrv
      refine ⟨trivial, fun r w hrw => ?_⟩
      obtain ⟨rfl, rfl⟩ := hrw
      refine ⟨trivial, fun r x hrx => ?_⟩
      obtain ⟨rfl, rfl⟩ := hrx
      refine ⟨trivial, fun r y hry => ?_⟩
      obtain ⟨rfl, rfl⟩ := hry
      exact comes_of_same rfl

theorem logout_comes (config : Config) :
    MovesSession Session.Comes (AuthPages.logout config) := by
  refine comes_guard.clear ?_
  split
  · exact flash_comes _ _ _
  · exact comes_guard.ret _

theorem index_comes : MovesSession Session.Comes AuthPages.index := by
  refine comes_guard.bind (comes_guard.of_calls (perform_calls (by rfl))) fun session => ?_
  split <;> exact comes_guard.ret _

theorem loginPage_comes (config : Config) :
    MovesSession Session.Comes (AuthPages.loginPage config) := by
  refine comes_guard.bind (comes_guard.of_calls (perform_calls (by rfl))) fun session => ?_
  split
  · exact comes_guard.ret _
  · exact movesSession_read fun s =>
      always_write comes_guard.trans (comes_guard.messages s _) (comes_guard.ret _)

theorem replied_settles {α : Type} {reply : α → Reply} {view : App α} {carried : Session}
    {s : Session × Calls} (h : Settles config page carried view s) :
    Settles config page carried (replied reply view) s := by
  refine .handle (.bind (h.mono (fun _ _ h => h) fun r t ht => ?_))
  cases r <;> exact ht

/-- What a page leaves of the session comes from what it carried, or from a sign-in. -/
theorem servePage_settles (config : Config) (page : PageRequest) (carried : Session) :
    Settles config page carried (servePage config page) (carried, []) := by
  have hstart := leaves_start config page carried
  cases page with
  | health => exact hstart
  | index => exact replied_settles (settles_of_moves hstart index_comes)
  | loginPage => exact replied_settles (settles_of_moves hstart (loginPage_comes config))
  | loginRedirect => exact replied_settles (settles_of_comes hstart (loginRedirect_comes config))
  | loginDemoSubmit request =>
    exact replied_settles (loginDemoSubmit_settles config request carried)
  | callback request => exact replied_settles (callback_settles config request carried)
  | logout => exact replied_settles (settles_of_moves hstart (logout_comes config))
  | guarded lower request route =>
    rw [servePage, map_eq_pure_bind, Prog.bind_def]
    refine .bind ((settles_of_comes hstart (serve_comes config lower request route
      carried)).mono (fun _ _ h => h) fun r t ht => ?_)
    cases r <;> exact ht

end SignIn

/-- What a browser sets off with a page. -/
def PageRequest.prog (config : Config) (page : PageRequest) : App Unit := do
  let _ ← servePage config page

/-- Whatever pages one browser asks for, in whatever order they are served and answered, and
whatever the services and the clock answer: each identity in a session of the browser has the
tenant, the role, the name and the subject of claims that one of its requests has signed in with. -/
theorem identity_vouched {ι : Type} [DecidableEq ι] {config : Config}
    {jar : Jar AppOp.Res PyError Session PageRequest ι}
    (run : Run sessionEnv (PageRequest.prog config) .cleared jar)
    {session : Session} (held : jar.Holds session) {identity : Identity}
    (present : session.identity = some identity) :
    ∃ i visit claims, jar.visits i = some visit ∧
      Vouched config visit.request visit.calls claims ∧ identity.Reads claims := by
  have hrequests : ∀ page carried, Settles config page carried (page.prog config)
      (carried, []) := by
    intro page carried
    refine .bind ((servePage_settles config page carried).mono (fun _ _ h => h) fun r t ht => ?_)
    cases r <;> exact ht
  rcases Origins.traced hrequests run held with hcomes | ⟨i, visit, u, hvisit, hmade, hcomes⟩
  · obtain ⟨old, hold, -⟩ := hcomes identity present
    cases hold
  · obtain ⟨signedIn, claims, hidentity, hvouched, hreads⟩ := hmade
    obtain ⟨old, hold, halike⟩ := hcomes identity present
    rw [hidentity] at hold
    cases hold
    exact ⟨i, visit, claims, hvisit, hvouched, hreads.alike halike⟩

/-! ## An example -/

/-- The form of DEMO_MODE, filled in for a user of TenantA. -/
def demoForm : Request where
  method := "POST"
  path := "/login"
  headers _ := none
  cookies _ := none
  args _ := none
  form field := if field = "demo_group" then some "TenantA_user" else none

def demoConfig : Config := { sampleConfig with demoMode := true }

/-- Who is then signed in. -/
def demoUser : Identity where
  tenant := "TenantA"
  role := "user"
  group := "TenantA_user"
  username := some "demo.user"
  email := some "demo.user@example.com"
  sub := some "demo-sub"
  userId := none
  profileComplete := false
  firstLogin := some true
  passwordResetDone := false

/-- The browser once it has the response. -/
def demoJar : Jar AppOp.Res PyError Session PageRequest Unit where
  cookie := { Session.cleared with identity := some demoUser }
  visits _ := some
    { request := .loginDemoSubmit demoForm
      carried := .cleared
      state := { Session.cleared with identity := some demoUser }
      calls := [⟨.demoTable "TenantA", .ok none⟩,
        ⟨.setSession { Session.cleared with identity := some demoUser }, .ok ()⟩]
      rest := .ret () }

theorem demo_run : Run sessionEnv (PageRequest.prog demoConfig) .cleared demoJar := by
  have started : Run sessionEnv (PageRequest.prog demoConfig) .cleared
      (⟨.cleared, fun _ => none⟩ : Jar AppOp.Res PyError Session PageRequest Unit) := .start
  have sent := started.send () (.loginDemoSubmit demoForm) rfl
  have looked := sent.call () _ rfl (.demoTable "TenantA") _ rfl (.ok none) .cleared rfl
  have written := looked.call () _ rfl (.setSession { Session.cleared with
    identity := some demoUser }) _ rfl (.ok ()) _ ⟨rfl, rfl⟩
  exact written.receive () _ rfl (by rintro op next ⟨⟩)

theorem demoUser_vouched : ∃ i visit claims, demoJar.visits i = some visit ∧
    Vouched demoConfig visit.request visit.calls claims ∧ demoUser.Reads claims :=
  identity_vouched demo_run (.inl rfl) rfl

end TenantSaas
