import TenantSaas.Accounts.Actions
import TenantSaas.Services.Transactions

/-!
# Actions that fail halfway

An admin action writes the user pool and then the tenant's table, without a common
transaction.  This file finds when an action that reports failure has left both alone.
-/

namespace TenantSaas

/-- What the action flashes when something was raised. -/
def AccountAction.failed : AccountAction → String
  | create => Admin.createFailed
  | delete _ => Admin.removeFailed
  | toggle _ => Admin.updateFailed

/-- The message of failure is what the request added to the flashed messages. -/
def AccountAction.ReportsFailure (action : AccountAction) (s t : AppState) : Prop :=
  t.session.flashes = s.session.flashes ++ [("danger", action.failed)]

/-- The user stores are as they were. -/
structure StoresKept (s t : AppState) : Prop where
  pool : ∀ username, t.pool.lookup username = s.pool.lookup username
  demoPool : ∀ username, t.demoPool.lookup username = s.demoPool.lookup username
  tables : t.rds.committed = s.rds.committed
  demoDb : t.demoDb = s.demoDb

theorem StoresKept.refl (s : AppState) : StoresKept s s :=
  ⟨fun _ => rfl, fun _ => rfl, rfl, rfl⟩

/-- The call that creates a user, with the password drawn at a tick. -/
def creates (world : World) (user : Admin.NewUser) (tick : Nat) : CognitoOp :=
  .adminCreateUser user.username [("email", user.email), ("email_verified", "true")]
    (world.password tick)

/-- The statement of `delete_user_record`. -/
def deletes (userId : String) (hardDelete : Bool) : RowWrite :=
  if hardDelete then .delete userId else .updateEnabled userId false

/-- When no failure comes after a change: the first call on the pool is refused or changes
nothing, or nothing fails after it. -/
def AccountAction.Whole (config : Config) (world : World) (request : Request) (tenant : String)
    (s : AppState) : AccountAction → Prop
  | create =>
    let user := Admin.NewUser.read request
    let (userId, tick) := newUserDraw world request s.tick
    config.demoMode = true ∨ user.errors ≠ [] ∨
      world.fault (tick + 1) (.cognito (creates world user tick)) ≠ none ∨
      s.pool.lookup user.username ≠ none ∨
      world.fault (tick + 2)
        (.cognito (.adminAddUserToGroup user.username (tenant ++ "_" ++ user.role))) = none ∧
      ¬ RecordFails world tenant s.rds.committed
        (.insert (UserRow.withDefaults userId user.username user.email user.role)) (tick + 3)
  | delete userId =>
    let username := Admin.formUsername request userId
    config.demoMode = true ∨ world.fault s.tick (.cognito (.adminDeleteUser username)) ≠ none ∨
      s.pool.lookup username = none ∨
      ¬ RecordFails world tenant s.rds.committed
        (deletes userId (Admin.isTrue request "hard_delete")) (s.tick + 1)
  | toggle userId =>
    let username := Admin.formUsername request userId
    let enable := Admin.isTrue request "enable"
    config.demoMode = true ∨ world.fault s.tick (.cognito (enableOp username enable)) ≠ none ∨
      (∀ user, s.pool.lookup username = some user → user.enabled = enable) ∨
      ¬ RecordFails world tenant s.rds.committed (.updateEnabled userId enable) (s.tick + 1)

/-! ## The effects of an action, and what it reports -/

section Effects

variable {world : World} {s : AppState}

/-- The calls of a transaction. -/
def AppOp.onConnection : AppOp → Bool
  | connect | write _ _ | commit | rollback | close => true
  | _ => false

theorem exec_onConnection {op : AppOp} (h : op.onConnection = true) (s : AppState) :
    ∃ rds tick, (world.exec s op).2 = { s with rds := rds, tick := tick } := by
  cases hfailure : world.failure s op with
  | some e =>
    rw [World.exec_of_failure hfailure]
    exact ⟨s.rds, s.tick + 1, rfl⟩
  | none =>
    rw [World.exec_of_answer hfailure]
    cases op with
    | write table statement =>
      simp only [World.answer]
      split
      · exact ⟨_, s.tick + 1, rfl⟩
      · exact ⟨s.rds, s.tick + 1, rfl⟩
    | connect => exact ⟨_, _, rfl⟩
    | commit => exact ⟨_, _, rfl⟩
    | rollback => exact ⟨_, _, rfl⟩
    | close => exact ⟨_, _, rfl⟩
    | _ => cases h

theorem run_onConnection {α : Type} {p : App α} (hp : p.Calls fun op => op.onConnection = true)
    (s : AppState) : ∃ rds tick, (world.run p s).2 = { s with rds := rds, tick := tick } := by
  refine Prog.run_invariant world.exec
    (I := fun t => ∃ rds tick, t = { s with rds := rds, tick := tick }) ?_ hp ⟨s.rds, s.tick, rfl⟩
  rintro op t hop ⟨rds, tick, rfl⟩
  exact exec_onConnection hop _

theorem writeRecord_calls (tenant : String) (statement : RowWrite) :
    (writeRecord tenant statement).Calls fun op => op.onConnection = true := by
  refine Prog.Calls.ofExcept_bind fun table _ => ?_
  refine Prog.Calls.bind (perform_calls (by rfl)) fun _ => Prog.Calls.finally' ?_
    (perform_calls (by rfl))
  apply Prog.Calls.handle
  · refine Prog.Calls.bind ?_ fun _ => Prog.Calls.bind (perform_calls (by rfl)) fun _ => by trivial
    exact Prog.Calls.bind (perform_calls (by rfl)) fun _ => by trivial
  · exact fun _ => Prog.Calls.bind (perform_calls (by rfl)) fun _ => by trivial

/-- An action tries its effects `p`; what follows them reports success, and the handler
reports failure. -/
theorem reports_iff {α β : Type} {p : App α} {done : α → App β} {recover : App β}
    {message : String} (hp : (world.run p s).2.session = s.session)
    (hdone : ∀ a u, u.session = s.session → ∃ b v, world.run (done a) u = (.ok b, v) ∧
      v.session.flashes ≠ s.session.flashes ++ [("danger", message)])
    (hrecover : ∀ u, ∃ b, world.run recover u = (b, (world.run (flash message "danger") u).2)) :
    ((world.run (tryCatch (p >>= done) fun _ => recover) s).2.session.flashes =
        s.session.flashes ++ [("danger", message)] →
      StoresKept s (world.run (tryCatch (p >>= done) fun _ => recover) s).2) ↔
    ∀ e u, world.run p s = (.error e, u) → StoresKept s u := by
  rcases hrun : world.run p s with ⟨e | a, u⟩
  · obtain ⟨b, hb⟩ := hrecover u
    rw [World.run_tryCatch_error (World.run_bind_error hrun), hb, run_flash]
    rw [hrun] at hp
    constructor
    · rintro h e' u' ⟨⟩
      obtain ⟨hpool, hdemoPool, htables, hdemoDb⟩ := h (by rw [hp])
      exact ⟨hpool, hdemoPool, htables, hdemoDb⟩
    · intro h _
      obtain ⟨hpool, hdemoPool, htables, hdemoDb⟩ := h e u rfl
      exact ⟨hpool, hdemoPool, htables, hdemoDb⟩
  · rw [hrun] at hp
    obtain ⟨b, v, hv, hflashes⟩ := hdone a u hp
    rw [World.run_tryCatch_ok ((World.run_bind_ok hrun).trans hv)]
    constructor
    · rintro - e' u' ⟨⟩
    · intro _ hreports
      exact absurd hreports hflashes

/-- A call on the user pool, and then the statement. -/
def twoStores (op : CognitoOp) (tenant : String) (statement : RowWrite) : App Unit := do
  perform (.cognito op)
  writeRecord tenant statement

variable {op : CognitoOp} {tenant : String} {statement : RowWrite}

theorem exec_cognito_ok {pool : UserPool} (h : world.fault s.tick (.cognito op) = none)
    (happly : s.pool.apply op = .ok pool) :
    world.exec s (.cognito op) = (.ok (), { s with pool := pool, tick := s.tick + 1 }) := by
  rw [World.exec_of_answer (show world.failure s (.cognito op) = none from h)]
  simp only [World.answer, happly]

theorem exec_cognito_refused {e : PyError} (h : world.fault s.tick (.cognito op) = none)
    (happly : s.pool.apply op = .error e) :
    world.exec s (.cognito op) = (.error e, { s with tick := s.tick + 1 }) := by
  rw [World.exec_of_answer (show world.failure s (.cognito op) = none from h)]
  simp only [World.answer, happly]

theorem run_twoStores_ok {pool : UserPool} (h : world.fault s.tick (.cognito op) = none)
    (happly : s.pool.apply op = .ok pool)
    (hrecord : ¬ RecordFails world tenant s.rds.committed statement (s.tick + 1)) :
    ∃ u, world.run (twoStores op tenant statement) s = (.ok (), u) := by
  have hfirst : world.run (perform (.cognito op)) s = _ :=
    (World.run_perform _ s).trans (exec_cognito_ok h happly)
  unfold twoStores
  rw [World.run_bind_ok hfirst]
  exact run_writeRecord_of_not_fails hrecord

theorem run_twoStores_fails
    (h : world.fault s.tick (.cognito op) = none →
      RecordFails world tenant s.rds.committed statement (s.tick + 1)) :
    ∃ e u, world.run (twoStores op tenant statement) s = (.error e, u) := by
  unfold twoStores
  rcases hfirst : world.run (perform (.cognito op)) s with ⟨e | _, t⟩
  · exact ⟨e, t, World.run_bind_error hfirst⟩
  rw [World.run_bind_ok hfirst]
  rw [World.run_perform] at hfirst
  obtain ⟨hfault, -, -⟩ := World.answer_of_exec hfirst
  have hstate : t = _ := (congrArg Prod.snd hfirst).symm.trans (World.exec_cognito op s)
  have hrecord : RecordFails world tenant t.rds.committed statement t.tick := by
    rw [hstate]
    exact h hfault
  obtain ⟨e, u, hu, -⟩ := run_writeRecord_of_fails hrecord
  exact ⟨e, u, hu⟩

/-- Only the call on the pool can have taken effect when something was raised. -/
theorem run_twoStores_error {e : PyError} {u : AppState}
    (h : world.run (twoStores op tenant statement) s = (.error e, u)) :
    ∃ rds tick, rds.committed = s.rds.committed ∧ u = { s with
      pool := if world.fault s.tick (.cognito op) = none then s.pool.after op else s.pool
      rds := rds
      tick := tick } := by
  have hexec := @World.exec_cognito world op s
  unfold twoStores at h
  rcases hfirst : world.run (perform (.cognito op)) s with ⟨e' | _, t⟩
  · rw [World.run_bind_error hfirst] at h
    cases h
    rw [World.run_perform] at hfirst
    rw [hfirst] at hexec
    exact ⟨s.rds, s.tick + 1, rfl, hexec⟩
  · rw [World.run_bind_ok hfirst] at h
    rw [World.run_perform] at hfirst
    rw [hfirst] at hexec
    have hcommitted : u.rds.committed = t.rds.committed := by
      by_cases hrecord : RecordFails world tenant t.rds.committed statement t.tick
      · obtain ⟨e', u', hu, hkept⟩ := run_writeRecord_of_fails hrecord
        rw [hu] at h
        cases h
        exact hkept
      · obtain ⟨u', hu⟩ := run_writeRecord_of_not_fails hrecord
        rw [hu] at h
        cases h
    obtain ⟨rds, tick, hu⟩ := run_onConnection (writeRecord_calls tenant statement) t
    rw [h] at hu
    subst hexec hu
    exact ⟨rds, tick, hcommitted, rfl⟩

theorem storesKept_twoStores_iff :
    (∀ e u, world.run (twoStores op tenant statement) s = (.error e, u) → StoresKept s u) ↔
      world.fault s.tick (.cognito op) ≠ none ∨
        (∀ username, (s.pool.after op).lookup username = s.pool.lookup username) ∨
        ¬ RecordFails world tenant s.rds.committed statement (s.tick + 1) := by
  by_cases hfault : world.fault s.tick (.cognito op) = none
  · simp only [hfault, ne_eq, not_true_eq_false, false_or]
    constructor
    · intro h
      by_cases hrecord : RecordFails world tenant s.rds.committed statement (s.tick + 1)
      · obtain ⟨e, u, hu⟩ := run_twoStores_fails fun _ => hrecord
        have hkept := h e u hu
        obtain ⟨rds, tick, -, rfl⟩ := run_twoStores_error hu
        simp only [hfault, if_true] at hkept
        exact .inl hkept.pool
      · exact .inr hrecord
    · intro h e u hu
      obtain ⟨rds, tick, hcommitted, rfl⟩ := run_twoStores_error hu
      refine ⟨fun username => ?_, fun _ => rfl, hcommitted, rfl⟩
      simp only [hfault, if_true]
      rcases h with hsame | hrecord
      · exact hsame username
      cases happly : s.pool.apply op with
      | error e => simp only [UserPool.after, happly]
      | ok pool =>
        obtain ⟨u', hu'⟩ := run_twoStores_ok hfault happly hrecord
        rw [hu'] at hu
        cases hu
  · simp only [hfault, ne_eq, not_false_eq_true, true_or, iff_true]
    intro e u hu
    obtain ⟨rds, tick, hcommitted, rfl⟩ := run_twoStores_error hu
    simp only [hfault, if_false]
    exact ⟨fun _ => rfl, fun _ => rfl, hcommitted, rfl⟩

end Effects

/-! ## The session during the effects -/

section Session

variable {world : World} {config : Config} {tenant : String}

theorem deleteCognitoUser_keepsSession (username : String) :
    (deleteCognitoUser config username).Calls fun op => op.changesSession = false := by
  unfold deleteCognitoUser
  split <;> exact perform_calls (by rfl)

theorem cognitoSetEnabled_keepsSession (username : String) (enabled : Bool) :
    (cognitoSetEnabled config username enabled).Calls fun op => op.changesSession = false := by
  unfold cognitoSetEnabled
  split
  · refine Prog.Calls.bind (perform_calls (by rfl)) fun user => ?_
    cases user with
    | none => trivial
    | some user => exact perform_calls (by rfl)
  · exact perform_calls (by rfl)

theorem createCognitoUser_keepsSession (username email tenant role : String) :
    (createCognitoUser config username email tenant role).Calls
      fun op => op.changesSession = false := by
  unfold createCognitoUser
  refine Prog.Calls.bind (perform_calls (by rfl)) fun tempPassword => ?_
  show Prog.Calls _ (if _ then _ else _)
  split
  · refine Prog.Calls.bind (perform_calls (by rfl)) fun _ => ?_
    exact Prog.Calls.bind (perform_calls (by rfl)) fun _ => by trivial
  · refine Prog.Calls.bind (perform_calls (by rfl)) fun _ => ?_
    exact Prog.Calls.bind (perform_calls (by rfl)) fun _ => by trivial

end Session

/-! ## Each action -/

section Actions

variable {world : World} {config : Config} {request : Request} {identity : Identity}
  {s : AppState}

theorem flashes_ne {flashes : List (String × String)} {message message' : String} :
    flashes ++ [("success", message)] ≠ flashes ++ [("danger", message')] := by
  intro h
  have hlast := List.append_cancel_left h
  simp at hlast

/-- The effects of an action that redirects. -/
theorem redirect_iff {first second : App Unit} {done failed : String} {endpoint : Endpoint}
    (hfirst : first.Calls fun op => op.changesSession = false)
    (hsecond : second.Calls fun op => op.changesSession = false) :
    let t := (world.run (do
      tryCatch
        (do
          first
          second
          flash done "success")
        (fun _ => flash failed "danger")
      pure (.redirect endpoint) : App Response) s).2
    (t.session.flashes = s.session.flashes ++ [("danger", failed)] → StoresKept s t) ↔
      ∀ e u, world.run (first >>= fun _ => second) s = (.error e, u) → StoresKept s u := by
  intro t
  have ht : t = (world.run (tryCatch ((first >>= fun _ => second) >>= fun _ => flash done "success")
      fun _ => flash failed "danger") s).2 := by
    rw [bind_assoc]
    exact Prog.run_bind_frame world.exec (P := fun _ => False) (f := id) (fun _ _ h => h.elim)
      (fun _ => by trivial) s
  rw [ht]
  apply reports_iff
  · exact run_keepsSession (Prog.Calls.bind hfirst fun _ => hsecond) s
  · intro _ u hu
    refine ⟨(), _, run_flash done "success" u, ?_⟩
    show u.session.flashes ++ _ ≠ _
    rw [hu]
    exact flashes_ne
  · exact fun u => ⟨_, rfl⟩

/-- When at most one entry changes, that one decides. -/
theorem sameLookup_iff {α : Type} {before after : List (String × α)} {key : String}
    {value : Option α} (h : ∀ k, after.lookup k = if k = key then value else before.lookup k) :
    (∀ k, after.lookup k = before.lookup k) ↔ value = before.lookup key := by
  constructor
  · intro hsame
    have hkey := hsame key
    rw [h, if_pos rfl] at hkey
    exact hkey
  · intro hvalue k
    rw [h]
    by_cases hk : k = key
    · rw [if_pos hk, hk, hvalue]
    · rw [if_neg hk]

theorem run_changeDemoRow (tenant userId : String) (f : UserRow → UserRow) (s : AppState) :
    ∃ u, world.run (changeDemoRow tenant userId f) s = (.ok (), u) := by
  have hrows : world.run (demoRows tenant) s =
    (.ok ((s.demoDb.lookup tenant).getD []), { s with tick := s.tick + 1 }) := rfl
  unfold changeDemoRow
  rw [World.run_bind_ok hrows]
  cases List.lookup userId ((s.demoDb.lookup tenant).getD []) with
  | none => exact ⟨_, rfl⟩
  | some row => exact ⟨_, rfl⟩

theorem run_deleteUserRecord_demo (demo : config.demoMode = true) (tenant userId : String)
    (hardDelete : Bool) (s : AppState) :
    ∃ u, world.run (deleteUserRecord config tenant userId hardDelete) s = (.ok (), u) := by
  unfold deleteUserRecord
  rw [if_pos demo]
  cases hardDelete with
  | true =>
    have hrows : world.run (perform (.demoTable tenant)) s =
      (.ok (s.demoDb.lookup tenant), { s with tick := s.tick + 1 }) := rfl
    rw [if_pos rfl, World.run_bind_ok hrows]
    cases s.demoDb.lookup tenant with
    | none => exact ⟨_, rfl⟩
    | some rows => exact ⟨_, rfl⟩
  | false => exact run_changeDemoRow tenant userId _ s

theorem run_cognitoSetEnabled_ok (demo : config.demoMode = true) (username : String)
    (enabled : Bool) (s : AppState) :
    ∃ u, world.run (cognitoSetEnabled config username enabled) s = (.ok (), u) := by
  have huser : world.run (perform (.demoCognitoUser username)) s =
    (.ok (s.demoPool.lookup username), { s with tick := s.tick + 1 }) := rfl
  unfold cognitoSetEnabled
  rw [if_pos demo, World.run_bind_ok huser]
  cases s.demoPool.lookup username with
  | none => exact ⟨_, rfl⟩
  | some user => exact ⟨_, rfl⟩

/-- In DEMO_MODE nothing is raised. -/
theorem kept_of_ok {α : Type} {p : App α} {a : α} (h : ∃ u, world.run p s = (.ok a, u)) :
    ∀ e u, world.run p s = (.error e, u) → StoresKept s u := by
  obtain ⟨u', hu'⟩ := h
  intro e u hu
  rw [hu'] at hu
  cases hu

theorem delete_iff (userId : String) :
    let t := (world.run (Admin.deleteUser config request identity userId) s).2
    ((AccountAction.delete userId).ReportsFailure s t → StoresKept s t) ↔
      (AccountAction.delete userId).Whole config world request identity.tenant s := by
  refine (redirect_iff (deleteCognitoUser_keepsSession _)
    (onTenant_keepsSession (deleteUserRecord_calls _ _))).trans ?_
  simp only [AccountAction.Whole]
  generalize Admin.isTrue request "hard_delete" = hardDelete
  generalize Admin.formUsername request userId = username
  cases hdemo : config.demoMode with
  | true =>
    have hfirst : world.run (deleteCognitoUser config username) s = (.ok (),
        { s with demoPool := dictPop username s.demoPool, tick := s.tick + 1 }) := by
      unfold deleteCognitoUser
      rw [if_pos hdemo]
      rfl
    simp only [true_or, iff_true]
    apply kept_of_ok
    rw [World.run_bind_ok hfirst]
    exact run_deleteUserRecord_demo hdemo _ userId hardDelete _
  | false =>
    have hprogram : (deleteCognitoUser config username >>= fun _ =>
        deleteUserRecord config identity.tenant userId hardDelete) =
        twoStores (.adminDeleteUser username) identity.tenant (deletes userId hardDelete) := by
      unfold deleteCognitoUser deleteUserRecord
      rw [hdemo]
      rfl
    rw [hprogram, storesKept_twoStores_iff,
      sameLookup_iff fun k => UserPool.lookup_after_delete s.pool username k, @eq_comm _ none]
    simp only [Bool.false_eq_true, false_or]

theorem toggle_iff (userId : String) :
    let t := (world.run (Admin.toggleUser config request identity userId) s).2
    ((AccountAction.toggle userId).ReportsFailure s t → StoresKept s t) ↔
      (AccountAction.toggle userId).Whole config world request identity.tenant s := by
  refine (redirect_iff (cognitoSetEnabled_keepsSession _ _)
    (onTenant_keepsSession (setUserEnabled_calls _ _))).trans ?_
  simp only [AccountAction.Whole]
  generalize Admin.isTrue request "enable" = enable
  generalize Admin.formUsername request userId = username
  cases hdemo : config.demoMode with
  | true =>
    obtain ⟨t, hfirst⟩ := @run_cognitoSetEnabled_ok world config hdemo username enable s
    simp only [true_or, iff_true]
    apply kept_of_ok
    rw [World.run_bind_ok hfirst]
    unfold setUserEnabled
    rw [if_pos hdemo]
    exact run_changeDemoRow _ userId _ t
  | false =>
    have hprogram : (cognitoSetEnabled config username enable >>= fun _ =>
        setUserEnabled config identity.tenant userId enable) =
        twoStores (enableOp username enable) identity.tenant (.updateEnabled userId enable) := by
      unfold cognitoSetEnabled setUserEnabled
      rw [hdemo]
      rfl
    have hsame := sameLookup_iff fun k => UserPool.lookup_after_enable s.pool username k enable
    have hflag : Option.map (fun user => ({ user with enabled := enable } : CognitoUser))
        (s.pool.lookup username) = s.pool.lookup username ↔
          ∀ user, s.pool.lookup username = some user → user.enabled = enable := by
      cases s.pool.lookup username with
      | none => simp
      | some user =>
        cases user
        simp [eq_comm]
    rw [hprogram, storesKept_twoStores_iff, enableOp, hsame, hflag]
    simp

theorem run_bind_pure_eq_error {α β : Type} {p : App α} {b : β} {e : PyError} {t u : AppState} :
    world.run (p >>= fun _ => pure b) t = (.error e, u) ↔ world.run p t = (.error e, u) := by
  rcases hrun : world.run p t with ⟨e' | a, v⟩
  · rw [World.run_bind_error hrun]
    simp
  · rw [World.run_bind_ok hrun]
    show (Except.ok b, v) = _ ↔ _
    simp

theorem storesKept_tick {n : Nat} {u : AppState} :
    StoresKept { s with tick := n } u ↔ StoresKept s u :=
  ⟨fun h => ⟨h.pool, h.demoPool, h.tables, h.demoDb⟩,
    fun h => ⟨h.pool, h.demoPool, h.tables, h.demoDb⟩⟩

/-- What is tried for a new user. -/
def createEffects (config : Config) (tenant userId : String) (user : Admin.NewUser) :
    App CreatedUser := do
  let created ← createCognitoUser config user.username user.email tenant user.role
  createUserRecord config tenant userId user.username user.email user.role
  pure created

/-- Once the account is there, a failure leaves it there. -/
theorem createEffects_fresh {user : CognitoUser} {tenant username group : String}
    {record : RowWrite} {t : AppState} (hfresh : s.pool.lookup username = none)
    (hpool : t.pool.lookup username = some user) :
    (∀ e u, world.run (twoStores (.adminAddUserToGroup username group) tenant record) t =
        (.error e, u) → StoresKept s u) ↔
      world.fault t.tick (.cognito (.adminAddUserToGroup username group)) = none ∧
        ¬ RecordFails world tenant t.rds.committed record (t.tick + 1) := by
  have hknown : t.pool.apply (.adminAddUserToGroup username group) = .ok (t.pool.modify username
      fun user => { user with
        groups := if group ∈ user.groups then user.groups else user.groups ++ [group] }) := by
    simp only [UserPool.apply, UserPool.apply.known, hpool]
  constructor
  · intro h
    by_contra hfails
    obtain ⟨e, u, hu⟩ := run_twoStores_fails fun hfault => by_contra fun hrecord =>
      hfails ⟨hfault, hrecord⟩
    have hkept := (h e u hu).pool username
    obtain ⟨rds, tick, -, rfl⟩ := run_twoStores_error hu
    rw [hfresh] at hkept
    by_cases hfault : world.fault t.tick (.cognito (.adminAddUserToGroup username group)) = none
    · simp only [hfault, if_true, UserPool.after, hknown, UserPool.lookup_modify, hpool] at hkept
      cases hkept
    · simp only [hfault, if_false, hpool] at hkept
      cases hkept
  · rintro ⟨hfault, hrecord⟩ e u hu
    obtain ⟨u', hu'⟩ := run_twoStores_ok hfault hknown hrecord
    rw [hu'] at hu
    cases hu

/-- Where the first call raises, nothing has been created. -/
theorem kept_of_first_error {α : Type} {op : AppOp} {f : op.Res → App α} {e' : PyError}
    {s' : AppState} {n : Nat}
    (hfirst : world.run (perform op) s' = (.error e', { s with tick := n }))
    (e : PyError) (u : AppState) (h : world.run (perform op >>= f) s' = (.error e, u)) :
    StoresKept s u := by
  rw [World.run_bind_error hfirst] at h
  cases h
  exact storesKept_tick.mp (.refl _)

/-- Outside DEMO_MODE the account is created, and then two stores are written. -/
theorem run_createEffects_real (demo : config.demoMode = false) (tenant userId : String)
    (user : Admin.NewUser) :
    world.run (createEffects config tenant userId user) s =
      world.run (perform (.cognito (creates world user s.tick)) >>= fun _ =>
        twoStores (.adminAddUserToGroup user.username (tenant ++ "_" ++ user.role)) tenant
          (.insert (UserRow.withDefaults userId user.username user.email user.role)) >>= fun _ =>
        pure ⟨user.username, world.password s.tick, tenant ++ "_" ++ user.role, none⟩)
        { s with tick := s.tick + 1 } := by
  unfold createEffects createCognitoUser createUserRecord twoStores writeRecord
  rw [demo]
  simp only [Bool.false_eq_true, if_false, bind_assoc, pure_bind]
  rfl

/-- A username that is taken is refused. -/
theorem creates_taken {pool : UserPool} {user : Admin.NewUser} {account : CognitoUser}
    (h : pool.lookup user.username = some account) (n : Nat) :
    pool.apply (creates world user n) = .error (.clientError "UsernameExistsException") := by
  simp only [creates, UserPool.apply, h]

theorem creates_free {pool : UserPool} {user : Admin.NewUser}
    (h : pool.lookup user.username = none) (n : Nat) : ∃ account,
    pool.apply (creates world user n) = .ok (pool ++ [(user.username, account)]) := by
  simp only [creates, UserPool.apply, h]
  exact ⟨_, rfl⟩

theorem createEffects_iff (demo : config.demoMode = false) (tenant userId : String)
    (user : Admin.NewUser) :
    (∀ e u, world.run (createEffects config tenant userId user) s = (.error e, u) →
        StoresKept s u) ↔
      world.fault (s.tick + 1) (.cognito (creates world user s.tick)) ≠ none ∨
        s.pool.lookup user.username ≠ none ∨
        world.fault (s.tick + 2)
          (.cognito (.adminAddUserToGroup user.username (tenant ++ "_" ++ user.role))) = none ∧
        ¬ RecordFails world tenant s.rds.committed
          (.insert (UserRow.withDefaults userId user.username user.email user.role))
          (s.tick + 3) := by
  have htaken := fun account (h : s.pool.lookup user.username = some account) =>
    @creates_taken world s.pool user account h s.tick
  have hfree := fun (h : s.pool.lookup user.username = none) =>
    @creates_free world s.pool user h s.tick
  rw [run_createEffects_real demo]
  generalize creates world user s.tick = create at htaken hfree ⊢
  by_cases hfault : world.fault (s.tick + 1) (.cognito create) = none
  swap
  · obtain ⟨e', he'⟩ := Option.ne_none_iff_exists'.mp hfault
    have hfirst : world.run (perform (.cognito create)) { s with tick := s.tick + 1 } = _ :=
      (World.run_perform _ _).trans (World.exec_of_failure he')
    simp only [hfault, ne_eq, not_false_eq_true, true_or, iff_true]
    exact kept_of_first_error hfirst
  cases hlookup : s.pool.lookup user.username with
  | some account =>
    have hfirst : world.run (perform (.cognito create)) { s with tick := s.tick + 1 } = _ :=
      (World.run_perform _ _).trans (exec_cognito_refused hfault (htaken account hlookup))
    simp only [ne_eq, reduceCtorEq, not_false_eq_true, true_or, or_true, iff_true]
    exact kept_of_first_error hfirst
  | none =>
    obtain ⟨account, happly⟩ := hfree hlookup
    have hpool : List.lookup user.username (s.pool ++ [(user.username, account)]) =
        some account := by
      rw [List.lookup_append, hlookup]
      simp
    have hfirst : world.run (perform (.cognito create)) { s with tick := s.tick + 1 } = _ :=
      (World.run_perform _ _).trans (exec_cognito_ok hfault happly)
    simp only [hfault, ne_eq, not_true_eq_false, false_or]
    rw [World.run_bind_ok hfirst]
    simp only [run_bind_pure_eq_error]
    exact createEffects_fresh hlookup hpool

theorem run_createEffects_demo (demo : config.demoMode = true) (tenant userId : String)
    (user : Admin.NewUser) :
    ∃ created u, world.run (createEffects config tenant userId user) s = (.ok created, u) := by
  unfold createEffects createCognitoUser createUserRecord
  rw [demo]
  exact ⟨_, _, rfl⟩

/-- A form with errors creates nothing. -/
theorem createUser_kept_of_errors (herrors : (Admin.NewUser.read request).errors ≠ []) :
    StoresKept s (world.run (Admin.createUser config request identity) s).2 := by
  have hflash : (world.run (Admin.createUser config request identity) s).2 =
      (world.run (flashErrors (Admin.NewUser.read request).errors)
        { s with tick := (newUserDraw world request s.tick).2 }).2 := by
    unfold Admin.createUser
    rw [World.run_bind_ok (run_newUserId request s)]
    simp only [herrors, ne_eq, not_false_eq_true, if_true]
    exact Prog.run_bind_frame world.exec (P := fun _ => False) (f := id) (fun _ _ h => h.elim)
      (fun _ => by trivial) _
  obtain ⟨flashes, tick, hflashed⟩ := @run_flashErrors world (Admin.NewUser.read request).errors
    { s with tick := (newUserDraw world request s.tick).2 }
  rw [hflash, hflashed]
  exact ⟨fun _ => rfl, fun _ => rfl, rfl, rfl⟩

theorem create_iff :
    let t := (world.run (Admin.createUser config request identity) s).2
    (AccountAction.create.ReportsFailure s t → StoresKept s t) ↔
      AccountAction.create.Whole config world request identity.tenant s := by
  intro t
  rcases hdraw : newUserDraw world request s.tick with ⟨userId, tick⟩
  have hid : world.run (Admin.newUserId request) s = (.ok userId, { s with tick := tick }) := by
    rw [run_newUserId, hdraw]
  simp only [AccountAction.Whole, hdraw]
  by_cases herrors : (Admin.NewUser.read request).errors = []
  swap
  · simp only [herrors, ne_eq, not_false_eq_true, true_or, or_true, iff_true]
    exact fun _ => createUser_kept_of_errors herrors
  generalize hbody : Admin.NewUser.read request = user at herrors ⊢
  have ht : t = (world.run (tryCatch
      (createEffects config identity.tenant userId user >>= fun created => do
        let session ← perform .session
        render (.createUser user.username user.email user.role userId identity.tenant
          created.tempPassword session.identity))
      fun _ => do
        flash Admin.createFailed "danger"
        pure (.redirect .manageUsersPage)) { s with tick := tick }).2 := by
    unfold t Admin.createUser createEffects
    rw [World.run_bind_ok hid, hbody]
    simp only [herrors, ne_eq, not_true_eq_false, if_false, bind_assoc, pure_bind]
  have hkeeps : (createEffects config identity.tenant userId user).Calls
      fun op => op.changesSession = false :=
    Prog.Calls.bind (createCognitoUser_keepsSession _ _ _ _) fun _ =>
      Prog.Calls.bind (onTenant_keepsSession (createUserRecord_calls _ _ _ _)) fun _ => by trivial
  rw [ht]
  rw [← storesKept_tick (n := tick)]
  refine (reports_iff (run_keepsSession hkeeps _) ?_ ?_).trans ?_
  · intro created u hu
    refine ⟨_, _, rfl, ?_⟩
    show [] ≠ s.session.flashes ++ [_]
    simp
  · exact fun u => ⟨_, rfl⟩
  · cases hdemo : config.demoMode with
    | true =>
      obtain ⟨created, hrun⟩ := @run_createEffects_demo world config { s with tick := tick } hdemo
        identity.tenant userId user
      simp only [true_or, iff_true]
      exact kept_of_ok hrun
    | false =>
      rw [createEffects_iff hdemo]
      simp only [Bool.false_eq_true, false_or, herrors, ne_eq, not_true_eq_false]

/-- What the report and the user stores depend on. -/
def reported (s : AppState) :=
  (s.pool, s.demoPool, s.rds.committed, s.demoDb, s.session)

theorem exec_meters {op : AppOp} (h : op.meters = true) (s : AppState) :
    reported (world.exec s op).2 = reported s := by
  cases hfailure : world.failure s op with
  | some e =>
    rw [World.exec_of_failure hfailure]
    rfl
  | none =>
    rw [World.exec_of_answer hfailure]
    cases op <;> first | rfl | cases h

theorem allOrNothing_congr {action : AccountAction} {t u : AppState} (h : reported t = reported u) :
    (action.ReportsFailure s t → StoresKept s t) ↔
      (action.ReportsFailure s u → StoresKept s u) := by
  simp only [reported, Prod.mk.injEq] at h
  obtain ⟨hpool, hdemoPool, htables, hdemoDb, hsession⟩ := h
  unfold AccountAction.ReportsFailure
  rw [hsession]
  refine imp_congr_right fun _ => ⟨?_, ?_⟩
  · intro h'
    obtain ⟨hkept, hkeptDemo, hkeptTables, hkeptDb⟩ := h'
    exact ⟨hpool ▸ hkept, hdemoPool ▸ hkeptDemo, htables ▸ hkeptTables, hdemoDb ▸ hkeptDb⟩
  · intro h'
    obtain ⟨hkept, hkeptDemo, hkeptTables, hkeptDb⟩ := h'
    exact ⟨hpool ▸ hkept, hdemoPool ▸ hkeptDemo, htables ▸ hkeptTables, hdemoDb ▸ hkeptDb⟩

end Actions

/-- An admitted account action that reports failure has left the user pool and the tables as
they were exactly when no failure of it comes after a change. -/
theorem allOrNothing_iff_whole (config : Config) (world : World) (lower : String → String)
    (request : Request) (identity : Identity) (action : AccountAction) (s : AppState) :
    let t := (world.run (serveAs config lower request action.route identity) s).2
    (action.ReportsFailure s t → StoresKept s t) ↔
      action.Whole config world request identity.tenant s := by
  intro t
  have hmetered : reported t =
      reported (world.run (action.route.view config lower request identity) s).2 :=
    serveAs_frame world.exec (fun _ s hop => exec_meters hop s) config lower request _ identity s
  rw [allOrNothing_congr hmetered]
  cases action with
  | create => exact create_iff
  | delete userId => exact delete_iff userId
  | toggle userId => exact toggle_iff userId

/-! ## A user deleted in one store only -/

/-- The database cannot be reached. -/
def unreachableDatabase : World := { quietWorld with
  fault := fun _ op =>
    match op with
    | .connect => some (.mysqlError "OperationalError")
    | _ => none }

/-- Remove the user `u-2`, named alan. -/
def removeAlan : Request where
  method := "POST"
  path := "/api/v1/admin/users/u-2"
  headers _ := none
  cookies _ := none
  args _ := none
  form name := if name = "username" then some "alan" else none

/-- The account of alan is gone, although the removal is reported as failed. -/
theorem half_deleted : ¬ ∀ (config : Config) (world : World) (lower : String → String)
    (request : Request) (identity : Identity) (action : AccountAction) (s : AppState),
    let t := (world.run (serveAs config lower request action.route identity) s).2
    action.ReportsFailure s t → StoresKept s t := by
  intro h
  have hdelete := h sampleConfig unreachableDatabase id removeAlan sampleAdmin (.delete "u-2")
    { emptyState with pool := [("alan", ⟨[], ["TenantA_user"], true⟩)] }
  rw [allOrNothing_congr
    (serveAs_frame _ (fun _ s hop => exec_meters hop s) _ _ _ _ _ _)] at hdelete
  rcases (delete_iff "u-2").mp hdelete with hdemo | hfault | hlookup | hrecord
  · cases hdemo
  · exact hfault rfl
  · have hfound : List.lookup (Admin.formUsername removeAlan "u-2")
        [("alan", (⟨[], ["TenantA_user"], true⟩ : CognitoUser))] ≠ none := by decide
    exact hfound hlookup
  · apply hrecord
    intro table _
    left
    intro hconnect
    cases hconnect

end TenantSaas
