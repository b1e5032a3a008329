import TenantSaas.Misc.SharedStore
import TenantSaas.SignIn.Provenance
import TenantSaas.Tenancy.Agreement

/-!
# Tenants side by side

Pages of any browsers are served at the same time, call by call, on one database.  Who works for
a tenant does not notice who works for another: neither in what he is shown nor in what he has to
wait for.
-/

namespace TenantSaas

open CookieJar

/-! ## What the pages share -/

/-- A part of the stores: one of the two tables, an entry of `_demo_db`, or a partition of the
usage aggregates. -/
inductive Place where
  | table (table : TenantTable)
  | demoTable (tenant : String)
  | partition (pk : String)
  deriving DecidableEq

/-- The part that belongs to a tenant. -/
def Place.IsOf (tenant : String) : Place → Prop
  | table t => tableForTenant tenant = .ok t
  | demoTable other => other = tenant
  | partition pk => pk = partitionKey tenant

/-- The part a call names. -/
def AppOp.place : AppOp → Option Place
  | select table _ | selectForUpdate table _ | countLike table _ | countRoles table
  | write table _ => some (.table table)
  | demoTable tenant | setDemoTable tenant _ => some (.demoTable tenant)
  | queryAggregates pk => some (.partition pk)
  | _ => none

/-- The part a call is about.  The end of a transaction is about the table of its statements. -/
def place (calls : Calls) : AppOp → Option Place
  | .commit | .rollback | .close => calls.reverse.findSome? fun call =>
    if call.1.isSql then call.1.place else none
  | op => op.place

/-- No two tenants have one table. -/
theorem tableForTenant_inj {tenant other : String} {t : TenantTable}
    (h : tableForTenant tenant = .ok t) (h' : tableForTenant other = .ok t) : tenant = other := by
  unfold tableForTenant at h h'
  grind

theorem Place.IsOf.unique {tenant other : String} {k : Place} (h : k.IsOf tenant)
    (h' : k.IsOf other) : tenant = other := by
  cases k with
  | table t => exact tableForTenant_inj h h'
  | demoTable name => exact h.symm.trans h'
  | partition pk => simpa [partitionKey] using h.symm.trans h'

/-- No part is asked, and no transaction ended. -/
def AppOp.elsewhere (op : AppOp) : Bool := !op.isSql && op.place.isNone

theorem place_elsewhere {op : AppOp} (h : op.elsewhere = true) (calls : Calls) :
    place calls op = none := by
  cases op <;> first | rfl | cases h

/-- The call asks no other tenant's part. -/
def AppOp.StaysWith (tenant : String) (op : AppOp) : Prop := ∀ k, op.place = some k → k.IsOf tenant

theorem staysWith_elsewhere {op : AppOp} (h : op.elsewhere = true) (tenant : String) :
    op.StaysWith tenant := by
  intro k hk
  rw [AppOp.elsewhere, hk] at h
  simp at h

/-- Nor does the end of a transaction that asked no other tenant's. -/
theorem place_isOf {tenant : String} {calls : Calls} {op : AppOp} {k : Place}
    (hcalls : ∀ call ∈ calls, call.1.StaysWith tenant) (hop : op.StaysWith tenant)
    (h : place calls op = some k) : k.IsOf tenant := by
  have hended : ∀ k, (calls.reverse.findSome? fun call =>
      if call.1.isSql then call.1.place else none) = some k → k.IsOf tenant := by
    intro k hk
    obtain ⟨call, hcall, hplace⟩ := List.exists_of_findSome?_eq_some hk
    split at hplace
    · exact hcalls call (List.mem_reverse.mp hcall) k hplace
    · cases hplace
  cases op <;> first | exact hended k h | exact hop k h

/-! ## For whom a page works -/

namespace AuthPages

/-- The tokens of the code, with the claims of the `id_token`. -/
def claimed (config : Config) (code : String) (codeVerifier : Option String) :
    App (CodeTokens × Claims) := do
  let tokens ← exchangeCodeForTokens code codeVerifier
  if !tokens.idToken.truthy then
    throw (.oauthExchangeError "Token endpoint response did not include an id_token")
  let claims ← validateIdToken config tokens.idToken
  pure (tokens, claims)

theorem authenticate_claimed (config : Config) (code : String) (codeVerifier : Option String) :
    authenticate config code codeVerifier = (do
      let (tokens, claims) ← claimed config code codeVerifier
      let identity ← buildIdentity config claims
      pure (tokens, identity)) := by
  unfold authenticate claimed
  simp only [Prog.bind_def, Prog.bind_assoc]
  congr 1
  funext tokens
  split <;> simp [Prog.bind_assoc]

end AuthPages

/-- The tenant that a request is let in for. -/
def Gate.tenant : Gate → Option String
  | enter identity => some identity.tenant
  | deny _ => none

/-- The tenant that the claims name. -/
def claimedTenant (claims : Claims) : Option String :=
  (resolveTenantAndRole claims).toOption.map Identity.tenant

/-- What a page does until it knows for whom it works, if for anyone. -/
def worksFor (config : Config) : PageRequest → App (Option String)
  | .guarded _ request route => do
    let gate ← route.guard config request
    pure gate.tenant
  | .callback request =>
    if truthy (request.args "error") then pure none
    else do
      let session ← perform .session
      perform (.setSession { session with oauthState := none, oauthCodeVerifier := none })
      match AuthPages.verifiedCode request session with
      | none => pure none
      | some (code, codeVerifier) => do
        let (_, claims) ← AuthPages.claimed config code codeVerifier
        pure (claimedTenant claims)
  | .loginDemoSubmit request =>
    pure (claimedTenant (AuthPages.demoClaims request (PyStr.strip (request.field "demo_group"))))
  | _ => pure none

/-- A page has been let in, or has signed in, for a tenant. -/
def ActsFor (config : Config) (page : PageRequest) (calls : Calls) (tenant : String) : Prop :=
  ∃ asked, asked <+: calls ∧ (worksFor config page).Ends asked (.ok (some tenant))

section ActsFor

variable {config : Config} {page : PageRequest} {calls calls' : Calls} {tenant other : String}

theorem ActsFor.mono (h : ActsFor config page calls tenant) (hcalls : calls <+: calls') :
    ActsFor config page calls' tenant := by
  obtain ⟨asked, hasked, hends⟩ := h
  exact ⟨asked, hasked.trans hcalls, hends⟩

/-- A page works for one tenant. -/
theorem ActsFor.unique (h : ActsFor config page calls tenant)
    (h' : ActsFor config page calls other) : tenant = other := by
  obtain ⟨asked, hasked, hends⟩ := h
  obtain ⟨asked', hasked', hends'⟩ := h'
  simpa using hends.unique hends' hasked hasked'

end ActsFor

/-! ## What a page asks for -/

section Confined

variable {α : Type} {config : Config} {page : PageRequest} {tenant : String}

/-- A page asks for parts of a tenant it works for. -/
def AsksOwn (config : Config) (page : PageRequest) (calls : Calls) (op : AppOp) : Prop :=
  ∀ k, place calls op = some k → ∃ tenant, ActsFor config page calls tenant ∧ k.IsOf tenant

/-- The page is finding out for whom it works. -/
def Asking (calls : Calls) : Prop := ∀ call ∈ calls, call.1.elsewhere = true

/-- It works for a tenant. -/
structure Working (config : Config) (page : PageRequest) (tenant : String) (calls : Calls) :
    Prop where
  acts : ActsFor config page calls tenant
  stays : ∀ call ∈ calls, call.1.StaysWith tenant

/-- However the calls are answered, the program asks only for what the page may ask for. -/
abbrev Confines (config : Config) (page : PageRequest) (p : App α) (calls : Calls) : Prop :=
  p.Always Prog.logged (AsksOwn config page) (fun _ _ => True) calls

theorem asksOwn_elsewhere {op : AppOp} (h : op.elsewhere = true) (calls : Calls) :
    AsksOwn config page calls op := by
  intro k hk
  rw [place_elsewhere h] at hk
  cases hk

theorem confines_elsewhere {p : App α} (hp : p.Calls fun op => op.elsewhere = true)
    (calls : Calls) : Confines config page p calls :=
  (Prog.Keeps.of_calls (I := fun _ => True)
    (fun _ _ hop _ => ⟨asksOwn_elsewhere hop _, fun _ _ _ => trivial⟩) hp calls trivial).mono
    (fun _ _ h => h) fun _ _ _ => trivial

/-- What a page does first: in the end its record says what came of it. -/
theorem confines_first {p : App α} (hp : p.Calls fun op => op.elsewhere = true)
    {calls : Calls} (hcalls : Asking calls) :
    p.Always Prog.logged (AsksOwn config page)
      (fun r t => Asking t ∧ ∃ asked, t = calls ++ asked ∧ p.Ends asked r) calls := by
  have hasking : p.Always Prog.logged (AsksOwn config page) (fun _ t => Asking t) calls := by
    refine Prog.Keeps.of_calls (I := Asking) (fun op t hop ht => ?_) hp calls hcalls
    refine ⟨asksOwn_elsewhere hop _, ?_⟩
    rintro answer _ rfl call hcall
    rcases List.mem_append.mp hcall with hcall | hcall
    · exact ht call hcall
    · obtain rfl := List.mem_singleton.mp hcall
      exact hop
  exact (hasking.and Prog.always_ends).mono (fun _ _ h => h.1) fun _ _ h => h

/-- Once it works for a tenant it stays with that tenant. -/
theorem confines_working {p : App α} (hp : p.Calls (AppOp.StaysWith tenant)) :
    Prog.Keeps Prog.logged (AsksOwn config page) (Working config page tenant) p := by
  refine Prog.Keeps.of_calls (fun op calls hop hcalls => ?_) hp
  refine ⟨fun k hk => ⟨tenant, hcalls.acts, place_isOf hcalls.stays hop hk⟩, ?_⟩
  rintro answer _ rfl
  refine ⟨hcalls.acts.mono (List.prefix_append _ _), fun call hcall => ?_⟩
  rcases List.mem_append.mp hcall with hcall | hcall
  · exact hcalls.stays call hcall
  · obtain rfl := List.mem_singleton.mp hcall
    exact hop

theorem confines_bind {β : Type} {p : App α} {f : α → App β} {calls : Calls}
    (hp : Confines config page p calls) (hf : ∀ a calls, Confines config page (f a) calls) :
    Confines config page (p.bind f) calls := by
  refine Prog.Always.bind (hp.mono (fun _ _ h => h) fun r t _ => ?_)
  cases r with
  | ok a => exact hf a t
  | error e => trivial

theorem confines_handle {p : App α} {handler : PyError → App α} {calls : Calls}
    (hp : Confines config page p calls)
    (hhandler : ∀ e calls, Confines config page (handler e) calls) :
    Confines config page (p.handle handler) calls := by
  refine Prog.Always.handle (hp.mono (fun _ _ h => h) fun r t _ => ?_)
  cases r with
  | ok a => trivial
  | error e => exact hhandler e t

theorem working_of_asking {calls : Calls} (hcalls : Asking calls)
    (hacts : ActsFor config page calls tenant) : Working config page tenant calls :=
  ⟨hacts, fun call hcall => staysWith_elsewhere (hcalls call hcall) tenant⟩

end Confined

/-! ## Guarded pages -/

section Guarded

variable {config : Config} {request : Request}

theorem elsewhere_of_guardsAdmin {op : AppOp} (h : op.guardsAdmin = true) :
    op.elsewhere = true := by
  cases op <;> first | rfl | cases h

theorem elsewhere_of_readsIdentity {op : AppOp} (h : op.readsIdentity = true) :
    op.elsewhere = true := by
  cases op <;> first | rfl | cases h

theorem refreshSessionTokens_elsewhere (refreshToken : Json) :
    (refreshSessionTokens refreshToken).Calls fun op => op.elsewhere = true := by
  refine Prog.Calls.handle ?_ fun e => ?_
  · refine Prog.Calls.bind (refreshTokens_calls refreshToken rfl) fun newTokens => ?_
    refine Prog.Calls.bind (perform_calls rfl) fun session => ?_
    refine Prog.Calls.bind (perform_calls rfl) fun _ => ?_
    refine Prog.Calls.bind (perform_calls rfl) fun now => ?_
    refine Prog.Calls.bind (Prog.Calls.ofExcept _) fun expiresIn => ?_
    refine Prog.Calls.bind (perform_calls rfl) fun session => ?_
    exact Prog.Calls.bind (perform_calls rfl) fun _ => trivial
  · cases e <;> first | trivial | exact Prog.Calls.bind (perform_calls rfl) fun _ => trivial

theorem refreshSessionTokensIfNeeded_elsewhere :
    refreshSessionTokensIfNeeded.Calls fun op => op.elsewhere = true := by
  refine Prog.Calls.bind (perform_calls rfl) fun session => ?_
  cases session.tokenExpiresAt with
  | none => trivial
  | some expiresAt =>
    show Prog.Calls _ (if _ then _ else _)
    split
    · trivial
    refine Prog.Calls.bind (perform_calls rfl) fun now => ?_
    split
    · trivial
    split
    · exact Prog.Calls.bind (perform_calls rfl) fun _ => trivial
    · exact refreshSessionTokens_elsewhere _

theorem flash_elsewhere (message category : String) :
    (flash message category).Calls fun op => op.elsewhere = true :=
  flash_calls (by rfl) (fun _ => by rfl) message category

theorem flashThen_elsewhere {α : Type} (message category : String) (a : α) :
    (do
      flash message category
      pure a : App α).Calls fun op => op.elsewhere = true := by
  refine Prog.Calls.bind (flash_elsewhere message category) fun _ => ?_
  trivial

theorem loginRequired_elsewhere :
    (loginRequired config request).Calls fun op => op.elsewhere = true := by
  have hresolve := (resolveIdentity_calls config request).mono
    fun _ => elsewhere_of_readsIdentity
  refine Prog.Calls.bind hresolve fun identity => ?_
  cases identity with
  | none =>
    refine Prog.Calls.bind ?_ fun _ => trivial
    exact unauthenticatedResponse_calls (by rfl) (fun _ => by rfl) config request
  | some identity =>
    refine Prog.Calls.bind (perform_calls rfl) fun session => ?_
    split
    · refine Prog.Calls.bind refreshSessionTokensIfNeeded_elsewhere fun refreshed => ?_
      split
      · trivial
      · exact flashThen_elsewhere _ _ _
    · trivial

theorem guard_elsewhere (route : Route) :
    (route.guard config request).Calls fun op => op.elsewhere = true := by
  unfold Route.guard
  split
  · exact (adminRequired_calls config request).mono fun _ => elsewhere_of_guardsAdmin
  · exact loginRequired_elsewhere

theorem staysWith_off {tenant : String} {op : AppOp} (h : op.Off tenant) : op.StaysWith tenant := by
  intro k hk
  cases op <;> first | exact h.elim | (cases hk <;> exact h)

theorem staysWith_inside {tenant : String} {op : AppOp} (h : op.Inside tenant) :
    op.StaysWith tenant := by
  intro k hk
  cases op <;> first | exact h.elim | (cases hk <;> exact h)

theorem staysWith_closed (tenant : String) :
    Closed tenant fun p => p.Calls (AppOp.StaysWith tenant) where
  ret _ := trivial
  raise _ := trivial
  bind hp hf := Prog.Calls.bind hp hf
  handle hp hh := Prog.Calls.handle hp hh
  perform hop := perform_calls (staysWith_off hop.off)
  connection hbody :=
    Prog.Calls.bind (perform_calls (by rintro k ⟨⟩)) fun _ =>
      Prog.Calls.finally' (hbody.mono fun _ => staysWith_inside) (perform_calls (by rintro k ⟨⟩))
  session {_ f} h := by
    refine Prog.Calls.bind (perform_calls (by rintro k ⟨⟩)) fun s => ?_
    have hs := h s
    generalize f s = p at hs ⊢
    cases hs with
    | leaves hp => exact hp
    | writes new next keys hnext =>
      exact Prog.Calls.bind (perform_calls (by rintro k ⟨⟩)) hnext

theorem serveAs_staysWith (lower : String → String) (route : Route) (identity : Identity) :
    (serveAs config lower request route identity).Calls (AppOp.StaysWith identity.tenant) := by
  have hmeters : ∀ op : AppOp, op.elsewhere = true → op.StaysWith identity.tenant :=
    fun op hop => staysWith_elsewhere hop _
  refine Prog.Calls.bind (Prog.Calls.handle ?_ fun _ => trivial) fun response => ?_
  · exact view_closed (staysWith_closed identity.tenant) lower route
  · refine Prog.Calls.bind (recordApiUsage_calls config identity _ _ _ _ (hmeters _ rfl)
      (hmeters _ rfl) fun _ _ => ⟨hmeters _ rfl, hmeters _ rfl⟩) fun _ => trivial

theorem confines_guarded (lower : String → String) (route : Route) :
    Confines config (.guarded lower request route) (serve config lower request route) [] := by
  have hdenied : ∀ (response : Response) (calls : Calls),
      Confines config (.guarded lower request route) (do
        meterUsage config request none response
        pure response) calls := by
    intro response calls
    unfold meterUsage recordApiUsage
    split <;> trivial
  refine Prog.Always.bind (Prog.Always.handle ((confines_first (guard_elsewhere route)
    (by rintro call ⟨⟩)).mono (fun _ _ h => h) fun r calls hr => ?_))
  obtain ⟨hasking, asked, hcalls, hends⟩ := hr
  obtain rfl : calls = asked := hcalls
  cases r with
  | error e => exact hdenied _ _
  | ok gate =>
    cases gate with
    | deny response => exact hdenied _ _
    | enter identity =>
      have hacts : ActsFor config (.guarded lower request route) calls identity.tenant := by
        have hknown := hends.bind_ok (f := fun gate => .ret gate.tenant) (.ret _)
        exact ⟨calls ++ [], by simp, hknown⟩
      exact (confines_working (serveAs_staysWith lower route identity) _
        (working_of_asking hasking hacts)).mono (fun _ _ h => h) fun _ _ _ => trivial

end Guarded

/-! ## Pages that sign in -/

section SignIn

variable {config : Config} {page : PageRequest} {request : Request} {claims : Claims}
  {calls : Calls}

theorem claimedTenant_resolved {identity : Identity}
    (h : resolveTenantAndRole claims = .ok identity) :
    claimedTenant claims = some identity.tenant := by
  rw [claimedTenant, h]
  rfl

/-- The row of the user is looked up in the table of the tenant that the claims name. -/
theorem confines_buildIdentity (hasking : Asking calls)
    (hacts : ∀ tenant, claimedTenant claims = some tenant → ActsFor config page calls tenant) :
    Confines config page (AuthPages.buildIdentity config claims) calls := by
  refine Prog.Always.ofExcept_bind (fun _ _ => trivial) fun identity hidentity => ?_
  have hrow : (getUserByUsername config identity.tenant identity.username).Calls
      (AppOp.StaysWith identity.tenant) := by
    refine (getUserByUsername_calls identity.username).mono fun op hop k hk => ?_
    cases op <;> first | exact hop.elim | (cases hk <;> exact hop)
  have hworking := working_of_asking hasking (hacts _ (claimedTenant_resolved hidentity))
  refine confines_bind ?_ fun _ _ => trivial
  exact (confines_working hrow _ hworking).mono (fun _ _ h => h) fun _ _ _ => trivial

theorem startSession_elsewhere (identity : Identity) (tokens : Option AuthPages.LoginTokens) :
    (AuthPages.startSession identity tokens).Calls fun op => op.elsewhere = true :=
  startSession_calls (by rfl) (fun _ => by rfl) (by rfl) identity tokens

theorem establish_elsewhere (tokens : CodeTokens) (identity : Identity) :
    (AuthPages.establish tokens identity).Calls fun op => op.elsewhere = true := by
  refine Prog.Calls.bind (startSession_elsewhere _ _) fun _ => ?_
  unfold AuthPages.setCognitoAccessTokenCookie
  split
  · trivial
  · refine Prog.Calls.bind (Prog.Calls.ofExcept _) fun _ => ?_
    exact Prog.Calls.bind (perform_calls rfl) fun _ => trivial

theorem claimed_elsewhere (code : String) (codeVerifier : Option String) :
    (AuthPages.claimed config code codeVerifier).Calls fun op => op.elsewhere = true := by
  refine Prog.Calls.bind (exchangeCodeForTokens_calls _ _ (by rfl)) fun tokens => ?_
  show Prog.Calls _ (if _ then _ else _)
  split
  · trivial
  refine Prog.Calls.bind ?_ fun claims => trivial
  generalize tokens.idToken = idToken
  cases idToken with
  | str token => exact (validateJwt_calls config token).mono fun _ => elsewhere_of_readsIdentity
  | _ => trivial

theorem signInFailed_elsewhere (e : PyError) :
    (AuthPages.signInFailed e).Calls fun op => op.elsewhere = true := by
  cases e <;> exact flashThen_elsewhere _ _ _

/-- What a callback has done once it has the claims. -/
theorem actsFor_callback {session : Session} {code : String} {codeVerifier : Option String}
    {tokens : CodeTokens} {tenant : String} (noError : ¬ truthy (request.args "error") = true)
    (verified : AuthPages.verifiedCode request session = some (code, codeVerifier))
    (hends : (AuthPages.claimed config code codeVerifier).Ends calls (.ok (tokens, claims)))
    (hclaims : claimedTenant claims = some tenant) :
    ActsFor config (.callback request)
      ([⟨.session, .ok session⟩,
        ⟨.setSession { session with oauthState := none, oauthCodeVerifier := none }, .ok ()⟩] ++
          calls) tenant := by
  have hknown : (worksFor config (.callback request)).Ends ([⟨.session, .ok session⟩] ++
      ([⟨.setSession { session with oauthState := none, oauthCodeVerifier := none }, .ok ()⟩] ++
        (calls ++ []))) (.ok (some tenant)) := by
    have hread : (perform .session).Ends [⟨.session, .ok session⟩] (.ok session) :=
      Prog.Ends.perform _ _
    have hwrite : ∀ new, (perform (.setSession new)).Ends [⟨.setSession new, .ok ()⟩] (.ok ()) :=
      fun new => Prog.Ends.perform _ _
    rw [worksFor, if_neg noError]
    refine hread.bind_ok ((hwrite _).bind_ok ?_)
    simp only [verified]
    refine hends.bind_ok ?_
    rw [← hclaims]
    exact .ret _
  exact ⟨_, by simp, hknown⟩

theorem confines_callback (config : Config) (request : Request) :
    Confines config (.callback request) (AuthPages.callback config request) [] := by
  unfold AuthPages.callback
  split
  · exact confines_elsewhere (flashThen_elsewhere _ _ _) _
  next noError =>
    refine ⟨asksOwn_elsewhere rfl _, ?_⟩
    rintro answer _ rfl
    cases answer with
    | error e => trivial
    | ok session =>
      refine ⟨asksOwn_elsewhere rfl _, ?_⟩
      rintro answer _ rfl
      cases answer with
      | error e => trivial
      | ok _ =>
        cases hverified : AuthPages.verifiedCode request session with
        | none => exact confines_elsewhere (flashThen_elsewhere _ _ _) _
        | some verified =>
          obtain ⟨code, codeVerifier⟩ := verified
          refine confines_handle (confines_bind ?_ fun result calls => ?_) fun e calls => ?_
          · rw [AuthPages.authenticate_claimed]
            have hasking : Asking [⟨.session, .ok session⟩, ⟨.setSession { session with
                oauthState := none, oauthCodeVerifier := none }, .ok ()⟩] := by
              rintro call hcall
              simp only [List.mem_cons, List.not_mem_nil, or_false] at hcall
              rcases hcall with rfl | rfl <;> rfl
            refine Prog.Always.bind ((confines_first (claimed_elsewhere code codeVerifier)
              hasking).mono (fun _ _ h => h) fun r calls hr => ?_)
            obtain ⟨hasked, asked, hcalls, hends⟩ := hr
            cases r with
            | error e => trivial
            | ok result =>
              refine confines_bind (confines_buildIdentity hasked fun tenant htenant => ?_)
                fun _ _ => trivial
              rw [hcalls]
              exact actsFor_callback noError hverified hends htenant
          · exact confines_elsewhere (establish_elsewhere _ _) calls
          · exact confines_elsewhere (signInFailed_elsewhere e) calls

theorem confines_login {demoGroup : String}
    (hgroup : demoGroup = PyStr.strip (request.field "demo_group")) :
    Confines config (.loginDemoSubmit request)
      (AuthPages.login config (AuthPages.demoClaims request demoGroup) none) [] := by
  refine confines_bind ?_ fun identity calls => ?_
  · refine confines_buildIdentity (by rintro call ⟨⟩) fun tenant htenant => ?_
    refine ⟨[], List.prefix_refl _, ?_⟩
    rw [hgroup] at htenant
    rw [worksFor, htenant]
    exact .ret _
  · exact confines_bind (confines_elsewhere (startSession_elsewhere _ _) calls) fun _ _ => trivial

theorem confines_loginDemoSubmit (config : Config) (request : Request) :
    Confines config (.loginDemoSubmit request) (AuthPages.loginDemoSubmit config request) [] := by
  unfold AuthPages.loginDemoSubmit
  split
  · exact confines_elsewhere (flashThen_elsewhere _ _ _) _
  dsimp only
  generalize hgroup : PyStr.strip (request.field "demo_group") = demoGroup
  split
  · exact confines_elsewhere (flashThen_elsewhere _ _ _) _
  refine confines_handle (confines_login hgroup.symm) fun e calls => ?_
  cases e with
  | invalidTokenError message => exact confines_elsewhere (flashThen_elsewhere _ _ _) _
  | _ => trivial

end SignIn

/-! ## All pages -/

theorem confines_replied {config : Config} {page : PageRequest} {α : Type} {reply : α → Reply}
    {view : App α} (h : Confines config page view []) :
    Confines config page (replied reply view) [] :=
  confines_handle (confines_bind h fun _ _ => trivial) fun _ _ => trivial

theorem servePage_confines (config : Config) (page : PageRequest) :
    Confines config page (servePage config page) [] := by
  cases page with
  | health => trivial
  | index =>
    refine confines_replied (confines_elsewhere (Prog.Calls.bind (perform_calls rfl)
      fun session => ?_) [])
    split <;> trivial
  | loginPage =>
    refine confines_replied (confines_elsewhere (Prog.Calls.bind (perform_calls rfl)
      fun session => ?_) [])
    split
    · trivial
    · refine Prog.Calls.bind (perform_calls rfl) fun _ => ?_
      exact Prog.Calls.bind (perform_calls rfl) fun _ => trivial
  | loginRedirect =>
    refine confines_replied (confines_elsewhere ?_ [])
    unfold AuthPages.loginRedirect
    split
    · exact flashThen_elsewhere _ _ _
    split
    · exact flashThen_elsewhere _ _ _
    refine Prog.Calls.bind (perform_calls rfl) fun pair => ?_
    refine Prog.Calls.bind (perform_calls rfl) fun state => ?_
    refine Prog.Calls.bind (perform_calls rfl) fun session => ?_
    refine Prog.Calls.bind (perform_calls rfl) fun _ => ?_
    refine Prog.Calls.bind (perform_calls rfl) fun session => ?_
    exact Prog.Calls.bind (perform_calls rfl) fun _ => trivial
  | loginDemoSubmit request => exact confines_replied (confines_loginDemoSubmit config request)
  | callback request => exact confines_replied (confines_callback config request)
  | logout =>
    refine confines_replied (confines_elsewhere (Prog.Calls.bind (perform_calls rfl)
      fun _ => ?_) [])
    split
    · exact Prog.Calls.bind (flash_elsewhere _ _) fun _ => trivial
    · trivial
  | guarded lower request route =>
    exact confines_bind (confines_guarded lower route) fun _ _ => trivial

/-! ## Pages served at the same time -/

section Runs

open SharedStore

variable {ι τ : Type} {config : Config} {pages : ι → PageRequest}

/-- The database and the other stores, whose parts answer in ways of their own: with their locks,
their failures and whatever the requests have not committed yet. -/
def stores (answers : Place → ι → Prog.Env AppOp.Res PyError τ) :
    Store AppOp.Res PyError Place τ ι :=
  ⟨place, answers⟩

/-- The pages are asked for. -/
def arrived (config : Config) (pages : ι → PageRequest) (parts : Place → τ) :
    Threads AppOp.Res PyError Reply Place τ ι :=
  ⟨parts, fun _ => [], fun i => servePage config (pages i)⟩

variable {answers : Place → ι → Prog.Env AppOp.Res PyError τ} {parts : Place → τ}
  {final : Threads AppOp.Res PyError Reply Place τ ι}
  {trace : Steps.Trace (Threads AppOp.Res PyError Reply Place τ ι) (SharedCall AppOp.Res PyError ι)}

theorem arrived_obeys :
    Obeys (fun i => AsksOwn config (pages i)) (arrived config pages parts) :=
  fun i => servePage_confines config (pages i)

/-- What is done for a tenant is about the parts of the tenant. -/
theorem isOf_of_acts {i : ι} {calls : Calls} {op : AppOp} {k : Place} {tenant : String}
    (hasks : AsksOwn config (pages i) calls op) (hk : place calls op = some k)
    (hcalls : calls <+: final.calls i) (hacts : ActsFor config (pages i) (final.calls i) tenant) :
    k.IsOf tenant := by
  obtain ⟨other, hother, hof⟩ := hasks k hk
  rwa [hacts.unique (hother.mono hcalls)]

/-- Other tenants' pages have nothing to do with them. -/
theorem acts_of_isOf {i : ι} {calls : Calls} {op : AppOp} {k : Place} {tenant : String}
    (hasks : AsksOwn config (pages i) calls op) (hk : place calls op = some k)
    (hcalls : calls <+: final.calls i) (hof : k.IsOf tenant) :
    ActsFor config (pages i) (final.calls i) tenant := by
  obtain ⟨other, hother, hof'⟩ := hasks k hk
  rw [hof.unique hof']
  exact hother.mono hcalls

variable [DecidableEq ι]

open Classical in
/-- Tenants do not notice each other.  Leave out of a run all pages but those that are let in, or
sign in, for one tenant: the others can be served as they were, each call with the answer it had,
and leave what belongs to the tenant as they left it; and what each can do next, and so what it has
to wait for, is the same. -/
theorem others_erased (run : Steps.Run (Step (stores answers)) (arrived config pages parts) trace
    final) (tenant : String) :
    ∃ trace' final',
      Steps.Run (Step (stores answers)) (arrived config pages parts) trace' final' ∧
      trace'.map Prod.snd = (trace.map Prod.snd).filter (fun call =>
        ActsFor config (pages call.caller) (final.calls call.caller) tenant) ∧
      (∀ k : Place, k.IsOf tenant → final.parts k = final'.parts k) ∧
      ∀ i, ActsFor config (pages i) (final.calls i) tenant → final.rest i = final'.rest i ∧
        ∀ call, call.caller = i →
          ((∃ next, Step (stores answers) final call next) ↔
            ∃ next, Step (stores answers) final' call next) := by
  obtain ⟨hasked, hobeys⟩ := arrived_obeys.run run
  let kept i := ActsFor config (pages i) (final.calls i) tenant
  have hkept : ∀ x ∈ trace, kept x.2.caller →
      ∀ k, place (x.1.calls x.2.caller) x.2.op = some k → k.IsOf tenant := fun x hx hkept k hk =>
    isOf_of_acts (hasked x hx) hk (calls_so_far run hx _) hkept
  have hothers : ∀ x ∈ trace, ¬ kept x.2.caller →
      ∀ k, place (x.1.calls x.2.caller) x.2.op = some k → ¬ k.IsOf tenant :=
    fun x hx hother k hk hof =>
      hother (acts_of_isOf (hasked x hx) hk (calls_so_far run hx _) hof)
  obtain ⟨trace', final', run', hcalls, halike⟩ := erase run hkept hothers
  have hobeys' := (arrived_obeys.run run').2
  refine ⟨trace', final', run', hcalls, halike.parts, fun i hi => ⟨halike.rest i hi, ?_⟩⟩
  have hsame : final.calls i = final'.calls i := halike.calls i hi
  rintro call rfl
  constructor
  · rintro ⟨next, hstep⟩
    obtain ⟨next', hstep', -⟩ := halike.step hstep hi fun k hk =>
      isOf_of_acts (hobeys.step hstep).1 hk (List.prefix_refl _) hi
    exact ⟨next', hstep'⟩
  · rintro ⟨next', hstep'⟩
    obtain ⟨next, hstep, -⟩ := halike.symm.step hstep' hi fun k hk =>
      isOf_of_acts (hobeys'.step hstep').1 hk (hsame ▸ List.prefix_refl _) hi
    exact ⟨next, hstep⟩

end Runs

/-! ## Two sign-ins -/

section Example

open SharedStore

/-- The form of DEMO_MODE, filled in for a user of TenantB. -/
def otherDemoForm : Request :=
  { demoForm with form := fun field => if field = "demo_group" then some "TenantB_user" else none }

/-- Two people sign in at the same time. -/
def signIns : Bool → PageRequest
  | true => .loginDemoSubmit demoForm
  | false => .loginDemoSubmit otherDemoForm

/-- `_demo_db` as a dictionary. -/
def demoAnswers (_ : Place) (_ : Bool) : Prog.Env AppOp.Res PyError (Option DemoTable)
  | rows, .demoTable _, answer, rows' => answer = .ok rows ∧ rows' = rows
  | _, .setDemoTable _ new, answer, rows' => answer = .ok () ∧ rows' = some new
  | _, _, _, _ => False

/-- The calls that look up their rows, that for TenantB first. -/
def lookups : List (SharedCall AppOp.Res PyError Bool) :=
  [⟨false, .demoTable "TenantB", .ok none⟩, ⟨true, .demoTable "TenantA", .ok none⟩]

theorem signIns_run : ∃ trace final, Steps.Run (Step (stores demoAnswers))
    (arrived demoConfig signIns fun _ => none) trace final ∧ trace.map Prod.snd = lookups := by
  have hfirst : PartAnswers (stores demoAnswers) (fun _ => none)
      ⟨false, .demoTable "TenantB", .ok none⟩ (some (.demoTable "TenantB")) _ :=
    .part _ none ⟨rfl, rfl⟩
  have hsecond : PartAnswers (stores demoAnswers)
      (Function.update (fun _ => none) (.demoTable "TenantB") none)
      ⟨true, .demoTable "TenantA", .ok none⟩ (some (.demoTable "TenantA")) _ :=
    .part _ none ⟨rfl, by rfl⟩
  exact ⟨_, _, (Steps.Run.nil.snoc (.call _ false _ _ rfl _ _ hfirst)).snoc
    (.call _ true _ _ rfl _ _ hsecond), rfl⟩

/-- The user of TenantA signs in as if alone. -/
theorem signIns_erased : ∃ trace final, Steps.Run (Step (stores demoAnswers))
    (arrived demoConfig signIns fun _ => none) trace final ∧
      trace.map Prod.snd = [⟨true, .demoTable "TenantA", .ok none⟩] := by
  classical
  obtain ⟨trace, final, run, htrace⟩ := signIns_run
  have hacts : ActsFor demoConfig (signIns true) (final.calls true) "TenantA" :=
    ⟨[], List.nil_prefix, .ret _⟩
  have hother : ¬ ActsFor demoConfig (signIns false) (final.calls false) "TenantA" := by
    intro h
    have hB : ActsFor demoConfig (signIns false) (final.calls false) "TenantB" :=
      ⟨[], List.nil_prefix, .ret _⟩
    exact absurd (h.unique hB) (by decide)
  obtain ⟨trace', final', run', hcalls, -⟩ := others_erased run "TenantA"
  refine ⟨trace', final', run', ?_⟩
  rw [hcalls, htrace, lookups, List.filter_cons_of_neg (by simpa using hother),
    List.filter_cons_of_pos (by simpa using hacts), List.filter_nil]

end Example

end TenantSaas
