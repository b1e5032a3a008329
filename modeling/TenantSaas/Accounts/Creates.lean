import TenantSaas.Accounts.CognitoAccounts
import TenantSaas.Profile.RowPuts

/-!
# Creating a user

What `create_user` leaves in the two stores when it shows the new user, and that it leaves every
row when it does not.
-/

namespace TenantSaas

open Directory

/-- The page of a user who was created. -/
def Response.created : Response → Bool
  | page _ (.createUser _ _ _ _ _ _ _) _ => true
  | _ => false

/-- Whether the account of a username is enabled, if there is one. -/
def enabledFlag (config : Config) (username : String) (s : AppState) : Option Bool :=
  if config.demoMode then (s.demoPool.lookup username).map DemoCognitoUser.enabled
  else (s.pool.lookup username).map CognitoUser.enabled

section Flags

variable {config : Config} {world : World} {tenant username : String} {s t : AppState}

theorem enabledFlag_demo (demo : config.demoMode = true) :
    enabledFlag config username s =
      (s.demoPool.lookup username).map DemoCognitoUser.enabled := by
  unfold enabledFlag
  rw [if_pos demo]

theorem enabledFlag_real (demo : config.demoMode = false) :
    enabledFlag config username s = (s.pool.lookup username).map CognitoUser.enabled := by
  unfold enabledFlag
  rw [demo]
  rfl

theorem enabledFlag_congr (h : accounts t = accounts s) :
    enabledFlag config username t = enabledFlag config username s := by
  obtain ⟨hpool, hdemoPool⟩ := Prod.mk.inj h
  unfold enabledFlag
  rw [hpool, hdemoPool]

/-- A call on the pool that was answered. -/
theorem run_cognito_ok {op : CognitoOp} (h : world.run (perform (.cognito op)) s = (.ok (), t)) :
    ∃ pool, s.pool.apply op = .ok pool ∧ t = { s with pool := pool, tick := s.tick + 1 } := by
  rw [World.run_perform] at h
  obtain ⟨-, hanswer, rfl⟩ := World.answer_of_exec h
  simp only [World.answer] at hanswer ⊢
  cases happly : s.pool.apply op with
  | error e =>
    rw [happly] at hanswer
    cases hanswer
  | ok pool => exact ⟨pool, rfl, rfl⟩

theorem apply_create {pool pool' : UserPool} {attributes : List (String × String)}
    {password : String}
    (h : pool.apply (.adminCreateUser username attributes password) = .ok pool') :
    pool.lookup username = none ∧ pool' = pool ++ [(username, ⟨attributes, [], true⟩)] := by
  simp only [UserPool.apply] at h
  cases hlookup : pool.lookup username with
  | some user =>
    rw [hlookup] at h
    cases h
  | none =>
    rw [hlookup] at h
    cases h
    exact ⟨rfl, rfl⟩

theorem apply_addToGroup {pool pool' : UserPool} {group : String}
    (h : pool.apply (.adminAddUserToGroup username group) = .ok pool') :
    pool' = pool.modify username fun user =>
      { user with
        groups := if group ∈ user.groups then user.groups else user.groups ++ [group] } := by
  simp only [UserPool.apply, UserPool.apply.known] at h
  split at h
  · cases h
    rfl
  · cases h

theorem flag_created {pool : UserPool} {user : CognitoUser} {f : CognitoUser → CognitoUser}
    (hf : ∀ user, (f user).enabled = user.enabled) (hnone : pool.lookup username = none)
    (key : String) :
    ((UserPool.modify username f (pool ++ [(username, user)])).lookup key).map
        CognitoUser.enabled =
      if key = username then some user.enabled
      else (pool.lookup key).map CognitoUser.enabled := by
  rw [UserPool.lookup_modify, List.lookup_append, List.lookup_append, hnone, lookup_entry,
    lookup_entry]
  by_cases hkey : key = username
  · simp [hkey, hf]
  · simp [hkey]

/-- The accounts once one was created: it is enabled, the others are as before. -/
structure NewAccount (config : Config) (username : String) (s t : AppState) : Prop where
  new : config.demoMode = false → enabledFlag config username s = none
  enabled : enabledFlag config username t = some true
  others : ∀ key, key ≠ username → enabledFlag config key t = enabledFlag config key s

theorem createCognitoUser_ok {email role : String} {created : CreatedUser}
    (h : world.run (createCognitoUser config username email tenant role) s = (.ok created, t)) :
    NewAccount config username s t ∧ ∀ tenant', keyedRows config tenant' t =
      keyedRows config tenant' s := by
  cases demo : config.demoMode with
  | true =>
    obtain ⟨sub, tick, hrun⟩ := @run_createCognitoUser_demo world config demo username email tenant
      role s
    rw [h] at hrun
    subst hrun
    refine ⟨⟨fun real => ?_, ?_, fun key hkey => ?_⟩, fun tenant' => rfl⟩
    · rw [demo] at real
      cases real
    · rw [enabledFlag_demo demo]
      simp only [lookup_dictSet, if_true, Option.map_some]
    · rw [enabledFlag_demo demo, enabledFlag_demo demo]
      simp only [lookup_dictSet, if_neg hkey]
  | false =>
    unfold createCognitoUser at h
    obtain ⟨password, u, hpassword, hrest⟩ := World.run_bind_eq_ok.mp h
    cases hpassword
    rw [demo] at hrest
    obtain ⟨_, v, hcreate, hrest⟩ := World.run_bind_eq_ok.mp hrest
    obtain ⟨_, w, hgroup, hret⟩ := World.run_bind_eq_ok.mp hrest
    obtain ⟨pool, happly, rfl⟩ := run_cognito_ok hcreate
    obtain ⟨pool', happly', rfl⟩ := run_cognito_ok hgroup
    cases hret
    obtain ⟨hnone, rfl⟩ := apply_create happly
    obtain rfl := apply_addToGroup happly'
    have hflag := @flag_created username s.pool
      ⟨[("email", email), ("email_verified", "true")], [], true⟩
      (fun user => { user with
        groups :=
          if tenant ++ "_" ++ role ∈ user.groups then user.groups
          else user.groups ++ [tenant ++ "_" ++ role] })
      (fun _ => rfl) hnone
    refine ⟨⟨fun _ => ?_, ?_, fun key hkey => ?_⟩, fun tenant' => rfl⟩
    · rw [enabledFlag_real demo]
      exact congrArg (Option.map CognitoUser.enabled) hnone
    · rw [enabledFlag_real demo]
      exact (hflag username).trans (if_pos rfl)
    · rw [enabledFlag_real demo, enabledFlag_real demo]
      exact (hflag key).trans (if_neg hkey)

end Flags

section Create

variable {config : Config} {world : World} {request : Request} {identity : Identity}
  {s t : AppState}

/-- What a create has done that shows the new user. -/
structure CreatedRow (config : Config) (world : World) (tenant userId username : String)
    (s t : AppState) : Prop where
  account : NewAccount config username s t
  put : Keyed (keyText config world) (keyedRows config tenant s) → ∃ row : UserRow,
    row.userId = userId ∧ row.username = username ∧ row.enabled = true ∧
      Put (keyText config world) userId row (fun _ => row)
        (keyedRows config tenant s) (keyedRows config tenant t) ∧
      (config.demoMode = false → ∀ entry ∈ keyedRows config tenant s,
        keyText config world entry.1 ≠ keyText config world userId ∧
          keyText config world entry.2.username ≠ keyText config world username)
  others : ∀ tenant', tenant' ≠ tenant → keyedRows config tenant' t = keyedRows config tenant' s

/-- The entries after a create: the new row under its own key, and old ones with other keys. -/
theorem CreatedRow.mem {tenant userId username : String}
    (h : CreatedRow config world tenant userId username s t)
    (keyed : Keyed (keyText config world) (keyedRows config tenant s)) {entry : String × UserRow}
    (hentry : entry ∈ keyedRows config tenant t) :
    (entry ∈ keyedRows config tenant s ∧
        keyText config world entry.1 ≠ keyText config world userId) ∨
      entry.1 = userId ∧ entry.2.userId = userId ∧ entry.2.username = username ∧
        entry.2.enabled = true := by
  obtain ⟨row, huserId, husername, henabled, hput, hfresh⟩ := h.put keyed
  rcases hput.mem hentry with hold | ⟨old, hold, hsame, rfl⟩ | ⟨-, rfl⟩
  · exact .inl hold
  · refine .inr ⟨?_, huserId, husername, henabled⟩
    cases demo : config.demoMode with
    | true =>
      rw [keyText_demo demo, keyText_demo demo] at hsame
      exact hsame
    | false => exact absurd hsame (hfresh demo old hold).1
  · exact .inr ⟨rfl, huserId, husername, henabled⟩

theorem CreatedRow.exists_row {tenant userId username : String}
    (h : CreatedRow config world tenant userId username s t)
    (keyed : Keyed (keyText config world) (keyedRows config tenant s)) :
    ∃ entry ∈ keyedRows config tenant t, entry.1 = userId := by
  obtain ⟨row, -, -, -, hput, -⟩ := h.put keyed
  obtain ⟨entry, hentry, hsame⟩ := hput.exists_key
  rcases h.mem keyed hentry with ⟨-, hother⟩ | ⟨hkey, -⟩
  · exact absurd hsame hother
  · exact ⟨entry, hentry, hkey⟩

theorem CreatedRow.keeps_key {tenant tenant' userId username : String}
    (h : CreatedRow config world tenant userId username s t)
    (keyed : Keyed (keyText config world) (keyedRows config tenant s)) {entry : String × UserRow}
    (hentry : entry ∈ keyedRows config tenant' s) :
    ∃ entry' ∈ keyedRows config tenant' t, entry'.1 = entry.1 := by
  obtain ⟨row, -, -, -, hput, -⟩ := h.put keyed
  exact keepsKey_of_put h.others hput hentry

theorem CreatedRow.rowsKeyed {tenant userId username : String}
    (h : CreatedRow config world tenant userId username s t) (tenant' : String)
    (keyed : RowsKeyed config world tenant' s) : RowsKeyed config world tenant' t := by
  refine keyed.of_others h.others fun keyed => ?_
  obtain ⟨row, -, -, -, hput, -⟩ := h.put keyed.keyed
  refine ⟨hput.keyed keyed.keyed, fun entry hentry => ?_⟩
  rcases h.mem keyed.keyed hentry with ⟨hold, -⟩ | ⟨hkey, huserId, -⟩
  · exact keyed.userId entry hold
  · rw [hkey, huserId]

theorem createUserRecord_keepsAccounts {tenant userId username email role : String}
    {r : Except PyError Unit}
    (h : world.run (createUserRecord config tenant userId username email role) s = (r, t)) :
    accounts t = accounts s := by
  have hcalls : (createUserRecord config tenant userId username email role).Calls
      (AppOp.OnTenant tenant) := createUserRecord_calls userId username email role
  have hkept := Prog.run_frame world.exec (fun op s hop => @exec_accounts world op hop s)
    (onTenant_keeps hcalls) s
  rw [show Prog.run world.exec _ s = _ from h] at hkept
  exact hkept

theorem run_createCognitoUser_keyedRows {username email tenant role : String}
    {r : Except PyError CreatedUser}
    (h : world.run (createCognitoUser config username email tenant role) s = (r, t))
    (tenant' : String) : keyedRows config tenant' t = keyedRows config tenant' s := by
  have hcalls : (createCognitoUser config username email tenant role).Calls
      fun op => op.keepsRows = true := by
    unfold createCognitoUser
    refine Prog.Calls.bind (perform_calls (by rfl)) fun _ => ?_
    show Prog.Calls _ (if _ then _ else _)
    split
    · refine Prog.Calls.bind (perform_calls (by rfl)) fun _ => ?_
      exact Prog.Calls.bind (perform_calls (by rfl)) fun _ => trivial
    · refine Prog.Calls.bind (perform_calls (by rfl)) fun _ => ?_
      exact Prog.Calls.bind (perform_calls (by rfl)) fun _ => trivial
  have hkept := @run_keyedRows config world tenant' _ _ hcalls s
  rw [h] at hkept
  exact hkept

theorem createUserRecord_error {tenant userId username email role : String} {e : PyError}
    (h : world.run (createUserRecord config tenant userId username email role) s = (.error e, t))
    (tenant' : String) : keyedRows config tenant' t = keyedRows config tenant' s := by
  cases demo : config.demoMode with
  | true =>
    unfold createUserRecord at h
    rw [if_pos demo, World.run_bind_ok (run_demoRows tenant s)] at h
    cases h
  | false =>
    have hwrite : world.run (writeRecord tenant
        (.insert (UserRow.withDefaults userId username email role))) s = (.error e, t) := by
      unfold createUserRecord at h
      rw [demo] at h
      exact h
    unfold keyedRows
    rw [demo, writeRecord_error hwrite]
    rfl

/-- Both writes of a create make a new user, whatever the page does to session and clock. -/
theorem createdRow_of_run {tenant userId role email : String} {username : String}
    {created : CreatedUser} {u v : AppState} {session : Session} {tick : Nat}
    (haccount : world.run (createCognitoUser config username email tenant role) s =
      (.ok created, u))
    (hrecord : world.run (createUserRecord config tenant userId username email role) u =
      (.ok (), v)) :
    CreatedRow config world tenant userId username s
      { v with session := session, tick := tick } := by
  obtain ⟨hnew, hrows⟩ := createCognitoUser_ok haccount
  have hkept := createUserRecord_keepsAccounts hrecord
  refine ⟨?_, fun keyed => ?_, fun tenant' htenant => ?_⟩
  · exact ⟨hnew.new, (enabledFlag_congr hkept).trans hnew.enabled,
      fun key hkey => (enabledFlag_congr hkept).trans (hnew.others key hkey)⟩
  · have hput := createUserRecord_put (s := u) (by rw [hrows]; exact keyed) hrecord
    rw [hrows] at hput
    exact hput
  · have hothers := @createUserRecord_others config world tenant tenant' userId username email
      role htenant u
    rw [hrecord] at hothers
    exact hothers.trans (hrows tenant')

/-- The two writes of a create, and the page after them. -/
theorem run_createEffects {tenant userId : String} {user : Admin.NewUser}
    {done : CreatedUser → App Response} {failed : App Response} {r : Except PyError Response}
    (hdone : ∀ created u, ∃ response, response.created = true ∧ ∃ session tick,
      world.run (done created) u = (.ok response, { u with session := session, tick := tick }))
    (hfailed : ∀ u, ∃ response, response.created = false ∧ ∃ session tick,
      world.run failed u = (.ok response, { u with session := session, tick := tick }))
    (h : world.run (tryCatch (do
        let cognitoResult ← createCognitoUser config user.username user.email tenant user.role
        createUserRecord config tenant userId user.username user.email user.role
        done cognitoResult) fun _ => failed) s = (r, t)) :
    (∃ response, r = .ok response ∧ response.created = true ∧
      CreatedRow config world tenant userId user.username s t) ∨
    (∀ response, r = .ok response → response.created = false) ∧
      ∀ tenant, keyedRows config tenant t = keyedRows config tenant s := by
  rcases haccount : world.run (createCognitoUser config user.username user.email tenant user.role)
    s with ⟨e | created, u⟩
  · rw [World.run_tryCatch_error (World.run_bind_error haccount)] at h
    obtain ⟨response, hresponse, session, tick, hrun⟩ := hfailed u
    have hkept := run_createCognitoUser_keyedRows haccount
    rw [hrun] at h
    cases h
    refine .inr ⟨fun _ hr => ?_, hkept⟩
    cases hr
    exact hresponse
  have hrows := (createCognitoUser_ok haccount).2
  rcases hrecord : world.run (createUserRecord config tenant userId user.username user.email
    user.role) u with ⟨e | _, v⟩
  · rw [World.run_tryCatch_error ((World.run_bind_ok haccount).trans
      (World.run_bind_error hrecord))] at h
    obtain ⟨response, hresponse, session, tick, hrun⟩ := hfailed v
    rw [hrun] at h
    cases h
    refine .inr ⟨fun _ hr => ?_, fun tenant' => ?_⟩
    · cases hr
      exact hresponse
    · exact (createUserRecord_error hrecord tenant').trans (hrows tenant')
  · obtain ⟨response, hresponse, session, tick, hrun⟩ := hdone created v
    rw [World.run_tryCatch_ok ((World.run_bind_ok haccount).trans
      ((World.run_bind_ok hrecord).trans hrun))] at h
    cases h
    exact .inl ⟨response, rfl, hresponse, createdRow_of_run haccount hrecord⟩

/-- A create shows the new user, or every row is as before. -/
theorem run_createUser {r : Except PyError Response}
    (h : world.run (Admin.createUser config request identity) s = (r, t)) :
    (∃ response, r = .ok response ∧ response.created = true ∧
      CreatedRow config world identity.tenant (newUserDraw world request s.tick).1
        (Admin.NewUser.read request).username s t) ∨
    (∀ response, r = .ok response → response.created = false) ∧
      ∀ tenant, keyedRows config tenant t = keyedRows config tenant s := by
  unfold Admin.createUser at h
  rw [World.run_bind_ok (run_newUserId request s)] at h
  generalize (newUserDraw world request s.tick).1 = userId at h ⊢
  generalize (newUserDraw world request s.tick).2 = drawn at h
  generalize Admin.NewUser.read request = user at h ⊢
  by_cases herrors : user.errors = []
  swap
  · rw [if_pos herrors] at h
    obtain ⟨flashes, tick, hflashed⟩ := @run_flashErrors world user.errors
      { s with tick := drawn }
    rw [World.run_bind_ok hflashed] at h
    cases h
    exact .inr ⟨fun _ hr => (by cases hr; rfl), fun _ => rfl⟩
  · rw [if_neg (by simpa using herrors)] at h
    rcases run_createEffects (fun created u => ⟨_, rfl, _, _, rfl⟩) (fun u => ⟨_, rfl, _, _, rfl⟩) h
      with ⟨response, hr, hcreated, hrow⟩ | hkept
    · exact .inl ⟨response, hr, hcreated, ⟨hrow.account.new, hrow.account.enabled,
        hrow.account.others⟩, hrow.put, hrow.others⟩
    · exact .inr hkept

end Create

end TenantSaas
