import TenantSaas.Accounts.OwnAccount
import TenantSaas.Routes.AuthPages

/-!
# A row of one's own

The users of a tenant sign in and save their profiles while admins create users.  Signing in
looks the user's row up by name; without one the username itself is the user id.
-/

namespace TenantSaas

open Directory

/-- The rows of a tenant in use: who has signed in with which user id, and the user id of every
row that was created for a username. -/
structure Roster where
  app : AppState
  opened : List (String × Option String)
  created : List (String × String)

/-- What put a row, and what it found. -/
inductive RowEvent where
  | created (sent : Submission) (before : Roster)
  | saved (sent : Submission) (username userId : String) (before : Roster)

section Definitions

variable (config : Config) (world : World) (lower : String → String) (tenant : String)
  (users : Set String)

/-- A save's row is new. -/
def isNew (userId : String) (s : AppState) : Bool := (storedRow config world tenant userId s).isNone

/-- The events, the last one first, and what they lead to; `users` are the Cognito usernames of
the tenant. -/
inductive RosterUse : List RowEvent → Roster → Prop
  | start (s : AppState) (empty : keyedRows config tenant s = []) : RosterUse [] ⟨s, [], []⟩
  | create {trace : List RowEvent} {r : Roster} {response : Response} {t : AppState}
      (run : RosterUse trace r) (sent : Submission) (inTenant : sent.identity.tenant = tenant)
      (user : (Admin.NewUser.read sent.request).username ∈ users)
      (served : world.run (serveAs config lower sent.request .createUser sent.identity)
        (r.app.receiving sent) = (.ok response, t))
      (done : response.created = true) :
      RosterUse (.created sent r :: trace) ⟨t, r.opened,
        ((Admin.NewUser.read sent.request).username,
          (newUserDraw world sent.request r.app.tick).1) :: r.created⟩
  | createFailed {trace : List RowEvent} {r : Roster} {response : Response} {t : AppState}
      (run : RosterUse trace r) (sent : Submission)
      (served : world.run (serveAs config lower sent.request .createUser sent.identity)
        (r.app.receiving sent) = (.ok response, t))
      (undone : response.created = false) : RosterUse trace ⟨t, r.opened, r.created⟩
  | signIn {trace : List RowEvent} {r : Roster} {claims : Claims} {identity : Identity}
      {username : String} {t : AppState} (run : RosterUse trace r)
      (login : world.run (AuthPages.buildIdentity config claims) r.app = (.ok identity, t))
      (inTenant : identity.tenant = tenant) (named : identity.username = some username)
      (user : username ∈ users) (nonempty : username ≠ "")
      (account : config.demoMode = false → enabledFlag config username r.app ≠ none) :
      RosterUse trace ⟨t, (username, identity.userId) :: r.opened, r.created⟩
  | save {trace : List RowEvent} {r : Roster} {username userId : String} {response : Response}
      {t : AppState} (run : RosterUse trace r) (sent : Submission)
      (session : sent.session.identity = some sent.identity)
      (inTenant : sent.identity.tenant = tenant) (named : sent.identity.username = some username)
      (signedIn : (username, sent.identity.userId) ∈ r.opened)
      (resolved : Users.resolveUserId sent.identity = .ok userId)
      (served : world.run (serveAs config lower sent.request .userDetailsUpdate sent.identity)
        (r.app.receiving sent) = (.ok response, t))
      (done : response.saved = true) :
      RosterUse (.saved sent username userId r :: trace) ⟨t, r.opened,
        if isNew config world tenant userId r.app then (username, userId) :: r.created
        else r.created⟩
  | saveFailed {trace : List RowEvent} {r : Roster} {response : Response} {t : AppState}
      (run : RosterUse trace r) (sent : Submission)
      (served : world.run (serveAs config lower sent.request .userDetailsUpdate sent.identity)
        (r.app.receiving sent) = (.ok response, t))
      (undone : response.saved = false) : RosterUse trace ⟨t, r.opened, r.created⟩

/-- A user's requests, at a new sign-in or from an open session, resolve to a user id. -/
def Resolves (username userId : String) (r : Roster) : Prop :=
  username ∈ users ∧ username ≠ "" ∧ ∃ identity : Identity, identity.username = some username ∧
    Users.resolveUserId identity = .ok userId ∧
      ((username, identity.userId) ∈ r.opened ∨
        identity.tenant = tenant ∧ ∃ claims t,
          world.run (AuthPages.buildIdentity config claims) r.app = (.ok identity, t))

/-- A user resolves to the row created for the username, and no two to one row. -/
structure OwnRows (r : Roster) : Prop where
  own : ∀ username key, (username, key) ∈ r.created → ∀ userId,
    Resolves config world tenant users username userId r →
      keyText config world userId = keyText config world key ∧
        storedRow config world tenant userId r.app ≠ none
  apart : ∀ username userId username' userId',
    Resolves config world tenant users username userId r →
    Resolves config world tenant users username' userId' r → username ≠ username' →
      storedRow config world tenant userId r.app ≠ none →
        keyText config world userId ≠ keyText config world userId'

/-- A create's user id is no other user's name unless that user has a row by name; in DEMO_MODE
the username has no row but the one under the user id, and who has signed in without a row gets
their own name.  A save's name is the user's own, or nobody's if the row has the user's name as
its key. -/
def RowEvent.KeepsApart : RowEvent → Prop
  | .created sent r =>
    let username := (Admin.NewUser.read sent.request).username
    let userId := (newUserDraw world sent.request r.app.tick).1
    (∀ v ∈ users, keyText config world userId = keyText config world v →
      v = username ∨ namedRow config world tenant v r.app ≠ none) ∧
    (config.demoMode = true →
      (∀ entry ∈ keyedRows config tenant r.app,
        Owns (keyText config world) UserRow.username users username entry ↔ entry.1 = userId) ∧
      ((∃ given, (username, given) ∈ r.opened) →
        userId = username ∨ ∃ entry ∈ keyedRows config tenant r.app, entry.1 = userId))
  | .saved sent username userId _ =>
    let name := (Users.ProfileForm.read sent.request).name
    keyText config world name = keyText config world username ∨
      keyText config world userId = keyText config world username ∧
        ∀ v ∈ users, keyText config world name ≠ keyText config world v

/-- What the events keep that keep the users apart. -/
structure Homes (r : Roster) : Prop where
  rowsKeyed : RowsKeyed config world tenant r.app
  nonempty : ∀ entry ∈ keyedRows config tenant r.app, entry.1 ≠ ""
  orderly : Orderly (keyText config world) UserRow.username users (keyedRows config tenant r.app)
  sent : ∀ username given, (username, given) ∈ r.opened → username ∈ users ∧
    ∀ userId, pyOr given (some username) = some userId →
      SentTo (keyText config world) UserRow.username users username userId
        (keyedRows config tenant r.app)
  flags : config.demoMode = false →
    (∀ username given, (username, given) ∈ r.opened → enabledFlag config username r.app ≠ none) ∧
      ∀ username ∈ users, ∀ entry ∈ keyedRows config tenant r.app,
        Owns (keyText config world) UserRow.username users username entry →
          enabledFlag config username r.app ≠ none
  created : ∀ username key, (username, key) ∈ r.created → username ∈ users ∧
    ∃ entry ∈ keyedRows config tenant r.app, entry.1 = key ∧
      Owns (keyText config world) UserRow.username users username entry

end Definitions

/-! ## Signing in -/

section SignIn

variable {config : Config} {world : World} {tenant username userId : String} {users : Set String}
  {s t : AppState} {claims : Claims} {identity : Identity}

/-- An identity that signs in has the user id of the row of its name; the stores are as before. -/
theorem run_buildIdentity
    (login : world.run (AuthPages.buildIdentity config claims) s = (.ok identity, t))
    (named : identity.username = some username) (nonempty : username ≠ "") :
    identity.userId = (namedRow config world identity.tenant username s).map UserRow.userId ∧
      accounts t = accounts s ∧
        ∀ tenant, keyedRows config tenant t = keyedRows config tenant s := by
  unfold AuthPages.buildIdentity at login
  obtain ⟨claimed, u, hclaimed, hrest⟩ := World.run_bind_eq_ok.mp login
  obtain ⟨record, v, hread, hret⟩ := World.run_bind_eq_ok.mp hrest
  cases hclaims : resolveTenantAndRole claims with
  | error e =>
    rw [hclaims] at hclaimed
    cases hclaimed
  | ok i =>
    rw [hclaims] at hclaimed
    cases hclaimed
    cases hret
    rw [show claimed.username = some username from named] at hread
    have haccounts := Prog.run_frame world.exec (fun _ s hop => exec_accounts hop s)
      (onTenant_keeps (@getUserByUsername_calls config claimed.tenant (some username))) s
    rw [show Prog.run world.exec _ s = _ from hread] at haccounts
    refine ⟨?_, haccounts, fun tenant => ?_⟩
    · rw [getUserByUsername_eq nonempty hread]
    · have hrows := @run_keyedRows config world tenant _ _
        (@getUserByUsername_keepsRows config claimed.tenant (some username)) s
      rw [hread] at hrows
      exact hrows

/-- Signing in resolves to the directory's answer. -/
theorem resolve_of_login (keyed : RowsKeyed config world tenant s)
    (hkeys : ∀ entry ∈ keyedRows config tenant s, entry.1 ≠ "")
    (h : pyOr ((namedRow config world tenant username s).map UserRow.userId) (some username) =
      some userId) :
    userId = resolve (keyText config world) UserRow.username username
      (keyedRows config tenant s) := by
  have hfind : (fun entry : String × UserRow => sameText config world entry.2.username username) =
      fun entry =>
        decide (keyText config world entry.2.username = keyText config world username) := by
    funext entry
    rw [Bool.eq_iff_iff, sameText_iff, decide_eq_true_iff]
  unfold resolve
  unfold namedRow at h
  rw [hfind] at h
  cases hfound : (keyedRows config tenant s).find? fun entry =>
    decide (keyText config world entry.2.username = keyText config world username) with
  | none =>
    rw [hfound] at h
    exact (Option.some.inj h).symm
  | some entry =>
    have hmem := List.mem_of_find?_eq_some hfound
    rw [hfound] at h
    simp only [Option.map_some, keyed.userId entry hmem] at h
    unfold pyOr at h
    rw [if_pos (by simpa using hkeys entry hmem)] at h
    exact (Option.some.inj h).symm

end SignIn

/-! ## What the events keep -/

section Kept

variable {config : Config} {world : World} {lower : String → String} {tenant : String}
  {users : Set String} {r : Roster} {s t : AppState} {trace : List RowEvent}

theorem NewAccount.keeps_flag {username key : String} (h : NewAccount config username s t)
    (hkey : enabledFlag config key s ≠ none) : enabledFlag config key t ≠ none := by
  by_cases hsame : key = username
  · rw [hsame, h.enabled]
    exact Option.some_ne_none true
  · rw [h.others key hsame]
    exact hkey

/-- A create never takes an account away outside DEMO_MODE. -/
theorem serveCreate_keeps_flag (demo : config.demoMode = false) {request : Request}
    {identity : Identity} {username : String} (h : enabledFlag config username s ≠ none) :
    enabledFlag config username
      (world.run (serveAs config lower request .createUser identity) s).2 ≠ none := by
  rw [enabledFlag_congr (serveAs_accounts config lower request .createUser identity s)]
  change enabledFlag config username
    (world.run (Admin.createUser config request identity) s).2 ≠ none
  obtain ⟨tick, hcreate⟩ := @createUser_accounts world config request identity s
  rw [enabledFlag_congr hcreate]
  split
  · rw [enabledFlag_real demo] at h ⊢
    obtain ⟨user, huser⟩ : ∃ user, s.pool.lookup username = some user :=
      Option.ne_none_iff_exists'.mp fun hnone => h (by rw [hnone]; rfl)
    rw [@lookup_create_real world config identity.tenant { s with tick := tick } demo _ _ _ _ _
      huser]
    exact Option.some_ne_none _
  · exact h

/-- The browser that sends a request changes nothing of what it finds. -/
theorem CreatedRow.received {userId username : String} {sent : Submission}
    (h : CreatedRow config world tenant userId username (s.receiving sent) t) :
    CreatedRow config world tenant userId username s t :=
  ⟨⟨h.account.new, h.account.enabled, h.account.others⟩, h.put, h.others⟩

theorem SavedRow.received {userId name : String} {sent : Submission}
    (h : SavedRow config world tenant userId name (s.receiving sent) t) :
    SavedRow config world tenant userId name s t :=
  ⟨h.put, h.others⟩

/-- A new row is under the user id. -/
theorem SavedRow.exists_new {userId name : String}
    (h : SavedRow config world tenant userId name s t)
    (keyed : Keyed (keyText config world) (keyedRows config tenant s))
    (hnew : isNew config world tenant userId s = true) :
    ∃ entry ∈ keyedRows config tenant t, entry.1 = userId := by
  obtain ⟨base, change, -, -, -, hput⟩ := h.put keyed
  obtain ⟨entry, hentry, hsame⟩ := hput.exists_key
  have hmissing : storedRow config world tenant userId s = none := by
    simpa [isNew] using hnew
  rcases h.mem keyed hentry with ⟨-, hother⟩ | ⟨-, ⟨old, hold, hkey, -⟩ | ⟨-, hkey, -⟩⟩
  · exact absurd hsame hother
  · exact absurd hmissing (storedRow_ne_none.mpr ⟨old, hold, hkey⟩)
  · exact ⟨entry, hentry, hkey⟩

/-- Who signs in is sent to the own row. -/
theorem Homes.sentTo_login (h : Homes config world tenant users r) {username userId : String}
    {claims : Claims} {identity : Identity} (huser : username ∈ users)
    (login : world.run (AuthPages.buildIdentity config claims) r.app = (.ok identity, t))
    (inTenant : identity.tenant = tenant) (named : identity.username = some username)
    (nonempty : username ≠ "") (hid : pyOr identity.userId (some username) = some userId) :
    SentTo (keyText config world) UserRow.username users username userId
      (keyedRows config tenant r.app) := by
  subst inTenant
  rw [(run_buildIdentity login named nonempty).1] at hid
  rw [resolve_of_login h.rowsKeyed h.nonempty hid]
  exact h.orderly.resolve_sentTo huser

theorem Homes.sentTo (h : Homes config world tenant users r) {username userId : String}
    (hresolves : Resolves config world tenant users username userId r) :
    SentTo (keyText config world) UserRow.username users username userId
      (keyedRows config tenant r.app) := by
  obtain ⟨huser, nonempty, identity, named, resolved, source⟩ := hresolves
  have hid := (resolveUserId_eq_ok.mp resolved).1
  rw [named] at hid
  rcases source with hopened | ⟨inTenant, claims, t, login⟩
  · exact (h.sent username identity.userId hopened).2 userId hid
  · exact h.sentTo_login huser login inTenant named nonempty hid

/-- Homes make rows of one's own. -/
theorem Homes.ownRows (h : Homes config world tenant users r)
    (apart : ∀ u ∈ users, ∀ v ∈ users, keyText config world u = keyText config world v → u = v) :
    OwnRows config world tenant users r := by
  refine ⟨fun username key hcreated userId hresolves => ?_,
    fun username userId username' userId' hresolves hresolves' hne hrow hsame => ?_⟩
  · obtain ⟨-, entry, hentry, rfl, howns⟩ := h.created username key hcreated
    have hkey := (h.sentTo hresolves).owner entry hentry howns
    exact ⟨hkey, storedRow_ne_none.mpr ⟨entry, hentry, hkey.symm⟩⟩
  · obtain ⟨entry, hentry, hkey⟩ := storedRow_ne_none.mp hrow
    exact hne (apart _ hresolves.1 _ hresolves'.1 (h.orderly.alike_of_sentTo hresolves.1
      hresolves'.1 (h.sentTo hresolves) (h.sentTo hresolves') hsame hentry hkey))

/-- Events that leave the rows, and no account without a flag, leave the homes. -/
theorem Homes.congr (h : Homes config world tenant users r)
    (hrows : keyedRows config tenant t = keyedRows config tenant r.app)
    (hflag : config.demoMode = false → ∀ username, enabledFlag config username r.app ≠ none →
      enabledFlag config username t ≠ none) :
    Homes config world tenant users ⟨t, r.opened, r.created⟩ where
  rowsKeyed := by
    refine ⟨?_, ?_⟩
    · rw [hrows]
      exact h.rowsKeyed.keyed
    · rw [hrows]
      exact h.rowsKeyed.userId
  nonempty := by
    rw [hrows]
    exact h.nonempty
  orderly := by
    rw [hrows]
    exact h.orderly
  sent := by
    rw [hrows]
    exact h.sent
  flags demo := by
    rw [hrows]
    obtain ⟨hopened, howned⟩ := h.flags demo
    exact ⟨fun username given hmem => hflag demo _ (hopened username given hmem),
      fun username huser entry hentry howns =>
        hflag demo _ (howned username huser entry hentry howns)⟩
  created := by
    rw [hrows]
    exact h.created

/-- What a user puts leaves the homes. -/
theorem Homes.put (h : Homes config world tenant users r)
    (apart : ∀ u ∈ users, ∀ v ∈ users, keyText config world u = keyText config world v → u = v)
    {username key : String} {new : UserRow} {change : UserRow → UserRow}
    {created : List (String × String)} (huser : username ∈ users) (hkey : key ≠ "")
    (hputs : Puts (keyText config world) UserRow.username users username key new change
      (keyedRows config tenant r.app))
    (hput : Put (keyText config world) key new change (keyedRows config tenant r.app)
      (keyedRows config tenant t))
    (keyed : RowsKeyed config world tenant t)
    (hsent : ∀ given, (username, given) ∈ r.opened →
      ∀ dest, pyOr given (some username) = some dest →
      keyText config world dest = keyText config world key)
    (hflag : config.demoMode = false → enabledFlag config username t ≠ none ∧
      ∀ v, enabledFlag config v r.app ≠ none → enabledFlag config v t ≠ none)
    (hcreated : ∀ name rowKey, (name, rowKey) ∈ created → (name, rowKey) ∈ r.created ∨
      name = username ∧ ∃ entry ∈ keyedRows config tenant t,
        entry.1 = rowKey ∧ keyText config world rowKey = keyText config world key) :
    Homes config world tenant users ⟨t, r.opened, created⟩ where
  rowsKeyed := keyed
  nonempty := by
    intro entry hentry
    rcases hput.mem hentry with ⟨hold, -⟩ | ⟨old, hold, -, rfl⟩ | ⟨-, rfl⟩
    · exact h.nonempty entry hold
    · exact h.nonempty old hold
    · exact hkey
  orderly := h.orderly.put hputs hput huser
  sent := by
    intro v given hopened
    obtain ⟨hv, hdest⟩ := h.sent v given hopened
    refine ⟨hv, fun dest hgiven => (hdest dest hgiven).put hputs hput huser hv fun halike => ?_⟩
    obtain rfl := apart v hv username huser halike
    exact hsent given hopened dest hgiven
  flags := by
    intro demo
    obtain ⟨hopened, howned⟩ := h.flags demo
    obtain ⟨hself, hkept⟩ := hflag demo
    refine ⟨fun v given hmem => hkept v (hopened v given hmem), fun v hv entry hentry howns => ?_⟩
    by_cases hsame : keyText config world entry.1 = keyText config world key
    · have halike := howns.alike (hputs.owns hput hentry hsame) hv huser
      rw [apart v hv username huser halike]
      exact hself
    · rcases hput.mem hentry with ⟨hold, -⟩ | ⟨old, -, hold, rfl⟩ | ⟨-, rfl⟩
      · exact hkept v (howned v hv entry hold howns)
      · exact absurd hold hsame
      · exact absurd rfl hsame
  created := by
    intro name rowKey hmem
    rcases hcreated name rowKey hmem with hold | ⟨rfl, entry, hentry, hrow, hsame⟩
    · obtain ⟨hname, entry, hentry, hrow, howns⟩ := h.created name rowKey hold
      obtain ⟨entry', hentry', hkey', howns'⟩ := hputs.keeps hput hname huser hentry howns
      exact ⟨hname, entry', hentry', hkey'.trans hrow, howns'⟩
    · exact ⟨huser, entry, hentry, hrow, hputs.owns hput hentry (by rw [hrow]; exact hsame)⟩

/-- A create that keeps apart leaves the homes. -/
theorem Homes.create (h : Homes config world tenant users r)
    (apart : ∀ u ∈ users, ∀ v ∈ users, keyText config world u = keyText config world v → u = v)
    {sent : Submission} (inTenant : sent.identity.tenant = tenant)
    (huser : (Admin.NewUser.read sent.request).username ∈ users)
    (made : CreatedRow config world sent.identity.tenant
      (newUserDraw world sent.request r.app.tick).1 (Admin.NewUser.read sent.request).username
      r.app t)
    (keeps : (RowEvent.created sent r).KeepsApart config world tenant users) :
    Homes config world tenant users ⟨t, r.opened, ((Admin.NewUser.read sent.request).username,
      (newUserDraw world sent.request r.app.tick).1) :: r.created⟩ := by
  subst inTenant
  obtain ⟨hreserved, hdemo⟩ := keeps
  have hne := newUserDraw_ne world sent.request r.app.tick
  generalize (newUserDraw world sent.request r.app.tick).1 = userId at made hreserved hdemo hne ⊢
  generalize (Admin.NewUser.read sent.request).username = username at huser made hreserved hdemo ⊢
  obtain ⟨row, -, hname, -, hput, hfresh⟩ := made.put h.rowsKeyed.keyed
  -- the username owns the row under the user id, which is there in DEMO_MODE alone
  have hhome : ∀ entry ∈ keyedRows config sent.identity.tenant r.app,
      Owns (keyText config world) UserRow.username users username entry ↔
        keyText config world entry.1 = keyText config world userId := by
    intro entry hentry
    cases demo : config.demoMode with
    | false =>
      refine ⟨fun howns => ?_, fun hsame => absurd hsame (hfresh demo entry hentry).1⟩
      exact absurd (made.account.new demo) ((h.flags demo).2 username huser entry hentry howns)
    | true =>
      rw [(hdemo demo).1 entry hentry, keyText_demo demo, keyText_demo demo]
  have hputs : Puts (keyText config world) UserRow.username users username userId row
      (fun _ => row) (keyedRows config sent.identity.tenant r.app) := by
    refine ⟨hhome, fun _ _ _ => .inl (by rw [hname]), fun _ => .inl (by rw [hname]),
      fun _ v hv hsame => ?_⟩
    rcases hreserved v hv hsame with rfl | hrow
    · exact .inl rfl
    · obtain ⟨entry, hentry, hv⟩ := namedRow_ne_none.mp hrow
      exact .inr ⟨entry, hentry, .inl hv⟩
  refine h.put apart huser hne hputs hput (made.rowsKeyed _ h.rowsKeyed)
    (fun given hopened dest hgiven => ?_) (fun demo => ⟨?_, fun v hv => ?_⟩)
    fun name rowKey hmem => ?_
  · cases demo : config.demoMode with
    | false =>
      exact absurd (made.account.new demo) ((h.flags demo).1 username given hopened)
    | true =>
      have hdest := (h.sent username given hopened).2 dest hgiven
      by_cases hrow : ∃ entry ∈ keyedRows config sent.identity.tenant r.app, entry.1 = userId
      · obtain ⟨entry, hentry, hkey⟩ := hrow
        rw [hdest.owner entry hentry ((hhome entry hentry).mpr (by rw [hkey])), hkey]
      · obtain rfl := ((hdemo demo).2 ⟨given, hopened⟩).resolve_right hrow
        exact hdest.stranger fun entry hentry howns =>
          hrow ⟨entry, hentry, ((hdemo demo).1 entry hentry).mp howns⟩
  · rw [made.account.enabled]
    exact Option.some_ne_none true
  · exact made.account.keeps_flag hv
  · rcases List.mem_cons.mp hmem with hnew | hold
    · cases hnew
      obtain ⟨entry, hentry, hkey⟩ := made.exists_row h.rowsKeyed.keyed
      exact .inr ⟨rfl, entry, hentry, hkey, rfl⟩
    · exact .inl hold

/-- A save that keeps apart leaves the homes. -/
theorem Homes.save (h : Homes config world tenant users r)
    (apart : ∀ u ∈ users, ∀ v ∈ users, keyText config world u = keyText config world v → u = v)
    {sent : Submission} {username userId : String} {given : Option String}
    (opened : (username, given) ∈ r.opened) (resolved : pyOr given (some username) = some userId)
    (hne : userId ≠ "")
    (saved : SavedRow config world tenant userId (Users.ProfileForm.read sent.request).name r.app t)
    (haccounts : accounts t = accounts r.app)
    (keeps : (RowEvent.saved sent username userId r).KeepsApart config world tenant users) :
    Homes config world tenant users ⟨t, r.opened,
      if isNew config world tenant userId r.app then (username, userId) :: r.created
      else r.created⟩ := by
  obtain ⟨huser, hdest⟩ := h.sent username given opened
  have hsent := hdest userId resolved
  obtain ⟨base, change, huserId, -, hchange, hput⟩ := saved.put h.rowsKeyed.keyed
  have howns : ∀ (rowKey : String) (row : UserRow),
      keyText config world rowKey = keyText config world userId →
        Owns (keyText config world) UserRow.username users username (rowKey, change row) := by
    intro rowKey row hkey
    unfold Owns
    rw [(hchange row).1, hkey]
    exact keeps
  have hputs : Puts (keyText config world) UserRow.username users username userId (change base)
      change (keyedRows config tenant r.app) := by
    refine ⟨fun entry hentry => h.orderly.owns_of_sentTo huser hsent hentry,
      fun entry _ hsame => howns entry.1 entry.2 hsame, fun _ => howns userId base rfl,
      fun hfresh v hv hsame => .inl ?_⟩
    -- no row is under the user id, so it is the username
    refine hsame.symm.trans (hsent.stranger fun entry hentry hmine => ?_)
    exact hfresh entry hentry ((h.orderly.owns_of_sentTo huser hsent hentry).mp hmine)
  refine h.put apart huser hne hputs hput (saved.rowsKeyed tenant h.rowsKeyed)
    (fun given' hopened dest hgiven => ?_) (fun demo => ⟨?_, fun v hv => ?_⟩)
    fun name rowKey hmem => ?_
  · exact ((h.sent username given' hopened).2 dest hgiven).alike hsent
  · rw [enabledFlag_congr haccounts]
    exact (h.flags demo).1 username given opened
  · rw [enabledFlag_congr haccounts]
    exact hv
  · by_cases hnew : isNew config world tenant userId r.app = true
    · rw [if_pos hnew] at hmem
      rcases List.mem_cons.mp hmem with hself | hold
      · cases hself
        obtain ⟨entry, hentry, hkey⟩ := saved.exists_new h.rowsKeyed.keyed hnew
        exact .inr ⟨rfl, entry, hentry, hkey, rfl⟩
      · exact .inl hold
    · rw [if_neg hnew] at hmem
      exact .inl hmem

/-- A tenant without rows has its homes. -/
theorem homes_of_empty (empty : keyedRows config tenant s = []) :
    Homes config world tenant users ⟨s, [], []⟩ := by
  refine ⟨⟨?_, ?_⟩, ?_, ?_, fun _ _ hopened => (by cases hopened), fun _ => ⟨?_, ?_⟩,
    fun _ _ hcreated => (by cases hcreated)⟩
  · rw [empty]
    exact List.nodup_nil
  · rw [empty]
    exact List.forall_mem_nil _
  · rw [empty]
    exact List.forall_mem_nil _
  · rw [empty]
    exact orderly_nil
  · exact fun _ _ hopened => by cases hopened
  · rw [empty]
    exact fun _ _ => List.forall_mem_nil _

/-- Who signs in is sent home. -/
theorem Homes.signIn (h : Homes config world tenant users r) {claims : Claims}
    {identity : Identity} {username : String}
    (login : world.run (AuthPages.buildIdentity config claims) r.app = (.ok identity, t))
    (inTenant : identity.tenant = tenant) (named : identity.username = some username)
    (user : username ∈ users) (nonempty : username ≠ "")
    (account : config.demoMode = false → enabledFlag config username r.app ≠ none) :
    Homes config world tenant users ⟨t, (username, identity.userId) :: r.opened, r.created⟩ := by
  obtain ⟨-, haccounts, hrows⟩ := run_buildIdentity login named nonempty
  have hflag : ∀ v, enabledFlag config v r.app ≠ none → enabledFlag config v t ≠ none := by
    intro v hv
    rw [enabledFlag_congr haccounts]
    exact hv
  have hkept := h.congr (hrows tenant) fun _ => hflag
  refine ⟨hkept.rowsKeyed, hkept.nonempty, hkept.orderly, fun v given hopened => ?_,
    fun demo => ⟨fun v given hopened => ?_, (hkept.flags demo).2⟩, hkept.created⟩
  · rcases List.mem_cons.mp hopened with hnew | hold
    · cases hnew
      refine ⟨user, fun dest hgiven => ?_⟩
      show SentTo _ _ _ _ _ (keyedRows config tenant t)
      rw [hrows tenant]
      exact h.sentTo_login user login inTenant named nonempty hgiven
    · exact hkept.sent v given hold
  · rcases List.mem_cons.mp hopened with hnew | hold
    · cases hnew
      exact hflag username (account demo)
    · exact (hkept.flags demo).1 v given hold

/-- Every run that keeps the users apart keeps the homes. -/
theorem RosterUse.homes
    (apart : ∀ u ∈ users, ∀ v ∈ users, keyText config world u = keyText config world v → u = v)
    (run : RosterUse config world lower tenant users trace r)
    (keeps : ∀ event ∈ trace, event.KeepsApart config world tenant users) :
    Homes config world tenant users r := by
  induction run with
  | start s empty => exact homes_of_empty empty
  | create run sent inTenant user served done ih =>
    have h := ih fun event hevent => keeps event (List.mem_cons_of_mem _ hevent)
    rcases run_serveCreate served with ⟨-, made⟩ | ⟨hfailed, -⟩
    · exact h.create apart inTenant user made.received (keeps _ (List.mem_cons_self ..))
    · rw [done] at hfailed
      cases hfailed
  | @createFailed trace r response t run sent served undone ih =>
    rcases run_serveCreate served with ⟨hmade, -⟩ | ⟨-, hrows⟩
    · rw [undone] at hmade
      cases hmade
    · refine (ih keeps).congr (hrows tenant) fun demo username hflag => ?_
      have hkept := @serveCreate_keeps_flag config world lower (r.app.receiving sent) demo
        sent.request sent.identity username hflag
      rw [served] at hkept
      exact hkept
  | signIn run login inTenant named user nonempty account ih =>
    exact (ih keeps).signIn login inTenant named user nonempty account
  | @save trace r username userId response t run sent session inTenant named signedIn resolved
      served done ih =>
    have h := ih fun event hevent => keeps event (List.mem_cons_of_mem _ hevent)
    subst inTenant
    obtain ⟨haccounts, ⟨-, key, hkey, saved⟩ | ⟨hfailed, -⟩⟩ := run_serveSave served
    · rw [show (r.app.receiving sent).session.identity = some sent.identity from session,
        Option.getD_some, resolved] at hkey
      cases hkey
      obtain ⟨hid, hne⟩ := resolveUserId_eq_ok.mp resolved
      rw [named] at hid
      exact h.save apart signedIn hid hne saved.received haccounts
        (keeps _ (List.mem_cons_self ..))
    · rw [done] at hfailed
      cases hfailed
  | saveFailed run sent served undone ih =>
    obtain ⟨haccounts, ⟨hsaved, -⟩ | ⟨-, hrows⟩⟩ := run_serveSave served
    · rw [undone] at hsaved
      cases hsaved
    · refine (ih keeps).congr (hrows tenant) fun _ username hflag => ?_
      rw [enabledFlag_congr haccounts]
      exact hflag

end Kept

/-- Every user keeps the one row that was created for them, in every run that keeps the users
apart. -/
theorem own_rows_of_use (config : Config) (world : World) (lower : String → String)
    (tenant : String) (users : Set String) (trace : List RowEvent) (r : Roster)
    (run : RosterUse config world lower tenant users trace r)
    (apart : ∀ u ∈ users, ∀ v ∈ users, keyText config world u = keyText config world v → u = v)
    (keeps : ∀ event ∈ trace, event.KeepsApart config world tenant users) :
    OwnRows config world tenant users r :=
  (run.homes apart keeps).ownRows apart

/-! ## A name that is nobody's -/

/-- The claims of dora's tokens. -/
def doraClaims : Claims where
  groups := [.str "TenantA_user"]
  cognitoUsername := some "dora"
  username := none
  email := none
  sub := some "sub-5"
  tokenUse := some "id"
  exp := some 1000

/-- alice has created dora. -/
def doraMade : AppState :=
  (searchingWorld.run (serveAs sampleConfig id doraCreated.sent.request .createUser
    doraCreated.sent.identity) (emptyState.receiving doraCreated.sent)).2

/-- dora has signed in. -/
def doraOpened : AppState :=
  (searchingWorld.run (AuthPages.buildIdentity sampleConfig doraClaims) doraMade).2

/-- Who dora is in her session. -/
def doraIdentity : Identity where
  tenant := "TenantA"
  role := "user"
  group := "TenantA_user"
  username := some "dora"
  email := none
  sub := some "sub-5"
  userId := some "u-5"
  profileComplete := false
  firstLogin := some true
  passwordResetDone := false

theorem dora_signsIn : searchingWorld.run (AuthPages.buildIdentity sampleConfig doraClaims)
    doraMade = (.ok doraIdentity, doraOpened) := rfl

theorem dora_opened : RosterUse sampleConfig searchingWorld id "TenantA" {"dora"}
    [.created doraCreated.sent ⟨emptyState, [], []⟩]
    ⟨doraOpened, [("dora", some "u-5")], [("dora", "u-5")]⟩ := by
  have made : RosterUse sampleConfig searchingWorld id "TenantA" {"dora"} _
      ⟨doraMade, [], [("dora", "u-5")]⟩ :=
    RosterUse.create (.start emptyState rfl) doraCreated.sent rfl rfl rfl rfl
  exact made.signIn dora_signsIn rfl rfl rfl (by decide) fun _ => by decide

/-- dora signs in and has her row. -/
theorem dora_keeps_row : OwnRows sampleConfig searchingWorld "TenantA" {"dora"}
    ⟨doraOpened, [("dora", some "u-5")], [("dora", "u-5")]⟩ := by
  refine own_rows_of_use sampleConfig searchingWorld id "TenantA" {"dora"} _ _ dora_opened
    (fun u hu v hv _ => hu.trans hv.symm) fun event hevent => ?_
  obtain rfl := List.mem_singleton.mp hevent
  exact ⟨fun v hv _ => .inl hv, fun demo => by cases demo⟩

/-- dora saves her full name. -/
def doraNamed : Submission where
  identity := doraIdentity
  request := postForm "/api/v1/users/userdetails" [("name", "Dora D"), ("email", "d@a.example")]
  session := { Session.cleared with identity := some doraIdentity }

/-- A user who saves a full name resolves to no row at the next sign-in. -/
theorem full_name_loses_row : ¬ ∀ (config : Config) (world : World) (lower : String → String)
    (tenant : String) (users : Set String) (trace : List RowEvent) (r : Roster),
    RosterUse config world lower tenant users trace r →
    OwnRows config world tenant users r := by
  intro h
  have resolved : Users.resolveUserId doraNamed.identity = .ok "u-5" := rfl
  have run := dora_opened.save doraNamed rfl rfl rfl (List.mem_singleton_self _) resolved rfl rfl
  have hown := (h _ _ _ _ _ _ _ run).own "dora" "u-5" (List.mem_singleton_self _) "dora" ⟨rfl, by
    decide, { doraIdentity with userId := none }, rfl, rfl, .inr ⟨rfl, doraClaims, _, rfl⟩⟩
  exact absurd hown.1 (by decide)

end TenantSaas
