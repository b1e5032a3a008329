import TenantSaas.Accounts.Actions

/-!
# Accounts of other tenants

The user pool is keyed by username alone.  The admin routes take the username from the form;
this file finds when they leave the accounts of other tenants as they were.
-/

namespace TenantSaas

/-- Some group of the account belongs to another tenant. -/
def Foreign (tenant : String) (groups : List String) : Prop :=
  ∃ group ∈ groups, ∃ mapping, cognitoGroupMap.lookup group = some mapping ∧
    mapping.tenant ≠ tenant

/-- Every entry of a kind stands in `after` as it stood in `before`. -/
def KeepsEntries {α : Type} (kind : α → Prop) (before after : List (String × α)) : Prop :=
  ∀ key value, before.lookup key = some value → kind value → after.lookup key = some value

/-- Every account of another tenant is as it was. -/
structure KeepsForeign (tenant : String) (s t : AppState) : Prop where
  pool : KeepsEntries (fun user : CognitoUser => Foreign tenant user.groups) s.pool t.pool
  demoPool : KeepsEntries (fun user : DemoCognitoUser => Foreign tenant [user.group]) s.demoPool
    t.demoPool

/-- When an action leaves foreign accounts alone.  Deleting changes the account it names,
toggling does unless the flag is as asked; a failing call changes nothing.  Creating replaces
the account of a taken username in DEMO_MODE, and fails on one otherwise. -/
def AccountAction.Spares (config : Config) (world : World) (request : Request) (tenant : String)
    (s : AppState) : AccountAction → Prop
  | create =>
    config.demoMode = true → (Admin.NewUser.read request).errors = [] →
      ∀ user, s.demoPool.lookup (Admin.NewUser.read request).username = some user →
        ¬ Foreign tenant [user.group]
  | delete userId =>
    let username := Admin.formUsername request userId
    if config.demoMode then
      ∀ user, s.demoPool.lookup username = some user → ¬ Foreign tenant [user.group]
    else
      world.failure s (.cognito (.adminDeleteUser username)) = none →
        ∀ user, s.pool.lookup username = some user → ¬ Foreign tenant user.groups
  | toggle userId =>
    let username := Admin.formUsername request userId
    let enable := Admin.isTrue request "enable"
    if config.demoMode then
      ∀ user, s.demoPool.lookup username = some user → Foreign tenant [user.group] →
        user.enabled = enable
    else
      world.failure s (.cognito (enableOp username enable)) = none →
        ∀ user, s.pool.lookup username = some user → Foreign tenant user.groups →
          user.enabled = enable

/-! ## When the accounts of other tenants are kept -/

section Keeps

variable {α : Type} {kind : α → Prop} {before after : List (String × α)} {key : String}

theorem keepsEntries_refl : KeepsEntries kind before before := fun _ _ h _ => h

/-- When at most one entry changes, that one decides. -/
theorem keepsEntries_iff {value : Option α}
    (h : ∀ k, after.lookup k = if k = key then value else before.lookup k) :
    KeepsEntries kind before after ↔
      ∀ a, before.lookup key = some a → kind a → value = some a := by
  constructor
  · intro hkeeps a ha hkind
    have hafter := hkeeps key a ha hkind
    rw [h, if_pos rfl] at hafter
    exact hafter
  · intro hvalue k a ha hkind
    rw [h]
    by_cases hk : k = key
    · rw [if_pos hk]
      subst hk
      exact hvalue a ha hkind
    · rw [if_neg hk]
      exact ha

theorem keepsEntries_of_lookup (h : ∀ k a, before.lookup k = some a → after.lookup k = some a) :
    KeepsEntries kind before after :=
  fun k a ha _ => h k a ha

end Keeps

theorem keepsForeign_congr {tenant : String} {s t u : AppState} (h : accounts t = accounts u) :
    KeepsForeign tenant s t ↔ KeepsForeign tenant s u := by
  obtain ⟨hpool, hdemo⟩ := Prod.mk.inj h
  constructor
  · intro h'
    obtain ⟨hkeeps, hkeepsDemo⟩ := h'
    exact ⟨hpool ▸ hkeeps, hdemo ▸ hkeepsDemo⟩
  · intro h'
    obtain ⟨hkeeps, hkeepsDemo⟩ := h'
    exact ⟨hpool ▸ hkeeps, hdemo ▸ hkeepsDemo⟩

section Exact

variable {world : World} {config : Config} {request : Request} {tenant : String} {s : AppState}

/-- A call on the pool keeps the accounts when it fails or what it does keeps them. -/
theorem keepsForeign_cognito (op : CognitoOp) :
    KeepsForeign tenant s (world.exec s (.cognito op)).2 ↔
      (world.failure s (.cognito op) = none →
        KeepsEntries (fun user : CognitoUser => Foreign tenant user.groups) s.pool
          (s.pool.after op)) := by
  rw [World.exec_cognito]
  constructor
  · intro h hfailure
    have hpool := h.pool
    simp only [hfailure, if_true] at hpool
    exact hpool
  · intro h
    refine ⟨?_, keepsEntries_refl⟩
    by_cases hfailure : world.failure s (.cognito op) = none
    · simp only [hfailure, if_true]
      exact h hfailure
    · simp only [hfailure, if_false]
      exact keepsEntries_refl

theorem keepsForeign_demo {demoPool : List (String × DemoCognitoUser)} {tick : Nat} :
    KeepsForeign tenant s { s with demoPool := demoPool, tick := tick } ↔
      KeepsEntries (fun user : DemoCognitoUser => Foreign tenant [user.group]) s.demoPool
        demoPool :=
  ⟨fun h => h.demoPool, fun h => ⟨keepsEntries_refl, h⟩⟩

theorem keepsForeign_delete (userId : String) :
    KeepsForeign tenant s
        (world.run (deleteCognitoUser config (Admin.formUsername request userId)) s).2 ↔
      (AccountAction.delete userId).Spares config world request tenant s := by
  unfold deleteCognitoUser AccountAction.Spares
  cases hdemo : config.demoMode with
  | true =>
    simp only [if_true]
    show KeepsForeign tenant s
      { s with
        demoPool := dictPop (Admin.formUsername request userId) s.demoPool
        tick := s.tick + 1 } ↔ _
    rw [keepsForeign_demo, keepsEntries_iff fun k => lookup_dictPop _ k s.demoPool]
    simp
  | false =>
    simp only [Bool.false_eq_true, if_false]
    rw [World.run_perform, keepsForeign_cognito,
      keepsEntries_iff fun k => UserPool.lookup_after_delete s.pool _ k]
    simp

theorem run_demoCognitoUser (username : String) (s : AppState) :
    world.run (perform (.demoCognitoUser username)) s =
      (.ok (s.demoPool.lookup username), { s with tick := s.tick + 1 }) := rfl

/-- In DEMO_MODE the flag of a user that is there is set. -/
theorem run_cognitoSetEnabled_demo (demo : config.demoMode = true) (username : String)
    (enabled : Bool) : ∃ tick,
    (world.run (cognitoSetEnabled config username enabled) s).2 =
      { s with
        demoPool :=
          match s.demoPool.lookup username with
          | none => s.demoPool
          | some user => dictSet username { user with enabled := enabled } s.demoPool
        tick := tick } := by
  unfold cognitoSetEnabled
  rw [if_pos demo, World.run_bind_ok (run_demoCognitoUser username s)]
  cases s.demoPool.lookup username with
  | none => exact ⟨_, rfl⟩
  | some user => exact ⟨_, rfl⟩

/-- Setting a flag changes an account unless it has the flag. -/
theorem keepsForeign_toggle (userId : String) :
    KeepsForeign tenant s
        (world.run (cognitoSetEnabled config (Admin.formUsername request userId)
          (Admin.isTrue request "enable")) s).2 ↔
      (AccountAction.toggle userId).Spares config world request tenant s := by
  simp only [AccountAction.Spares]
  generalize Admin.formUsername request userId = username
  generalize Admin.isTrue request "enable" = enable
  cases hdemo : config.demoMode with
  | true =>
    simp only [if_true]
    obtain ⟨tick, hrun⟩ := @run_cognitoSetEnabled_demo world config s hdemo username enable
    rw [hrun, keepsForeign_demo]
    cases huser : s.demoPool.lookup username with
    | none => simp [keepsEntries_refl]
    | some user =>
      simp only
      rw [keepsEntries_iff fun k => lookup_dictSet username k _ s.demoPool, huser]
      refine forall_congr' fun a => forall_congr' fun ha => forall_congr' fun _ => ?_
      obtain rfl := Option.some.inj ha
      cases user
      simp [eq_comm]
  | false =>
    unfold cognitoSetEnabled
    simp only [hdemo, Bool.false_eq_true, if_false]
    rw [World.run_perform, keepsForeign_cognito, enableOp,
      keepsEntries_iff fun k => UserPool.lookup_after_enable s.pool username k enable]
    refine forall_congr' fun _ => forall_congr' fun user => forall_congr' fun huser => ?_
    refine forall_congr' fun _ => ?_
    rw [huser]
    cases user
    simp [eq_comm]

theorem role_of_errors {user : Admin.NewUser} (h : user.errors = []) :
    user.role = "admin" ∨ user.role = "user" := by
  have hrole := (List.append_eq_nil_iff.mp h).2
  by_cases hadmin : user.role = "admin"
  · exact .inl hadmin
  · by_cases huser : user.role = "user"
    · exact .inr huser
    · simp [hadmin, huser] at hrole

/-- In DEMO_MODE a new user takes the place of an old one with the username. -/
theorem run_createCognitoUser_demo (demo : config.demoMode = true)
    (username email tenant role : String) (s : AppState) : ∃ sub tick,
    (world.run (createCognitoUser config username email tenant role) s).2 =
      { s with
        demoPool := dictSet username
          ⟨sub, email, tenant ++ "_" ++ role, "FORCE_CHANGE_PASSWORD", true⟩ s.demoPool
        tick := tick } := by
  unfold createCognitoUser
  rw [demo]
  exact ⟨_, _, rfl⟩

theorem lookup_exec_cognito {op : CognitoOp} {key : String} {user : CognitoUser} {t : AppState}
    (h : t.pool.lookup key = some user) (hafter : (t.pool.after op).lookup key = some user) :
    (world.exec t (.cognito op)).2.pool.lookup key = some user := by
  rw [World.exec_cognito]
  show List.lookup key (if _ then _ else _) = _
  split
  · exact hafter
  · exact h

/-- Outside DEMO_MODE creating never changes an account that exists: the pool refuses a
username it has, and the group is added to the new account. -/
theorem lookup_create_real (demo : config.demoMode = false) (username email role : String)
    {key : String} {user : CognitoUser} (h : s.pool.lookup key = some user) :
    (world.run (createCognitoUser config username email tenant role) s).2.pool.lookup key =
      some user := by
  unfold createCognitoUser
  show (world.run (if config.demoMode = true then _ else _ : App CreatedUser)
    { s with tick := s.tick + 1 }).2.pool.lookup key = some user
  rw [if_neg (by simp [demo])]
  generalize hcreate : CognitoOp.adminCreateUser username _ _ = create
  have hcreated : (world.exec { s with tick := s.tick + 1 } (.cognito create)).2.pool.lookup key =
      some user := by
    refine lookup_exec_cognito (t := { s with tick := s.tick + 1 }) h ?_
    rw [← hcreate]
    exact UserPool.lookup_after_create h
  rcases hrun : world.run (perform (.cognito create)) { s with tick := s.tick + 1 } with ⟨e | _, t⟩
  · rw [World.run_bind_error hrun]
    rw [World.run_perform] at hrun
    rw [hrun] at hcreated
    exact hcreated
  rw [World.run_bind_ok hrun]
  rw [World.run_perform] at hrun
  rw [hrun] at hcreated
  -- the call succeeded, so there was no account of this username
  have hkey : key ≠ username := by
    intro heq
    subst heq
    obtain ⟨-, hanswer, -⟩ := World.answer_of_exec hrun
    simp only [World.answer, UserPool.apply, ← hcreate, h] at hanswer
    cases hanswer
  have hadded : (world.exec t
      (.cognito (.adminAddUserToGroup username (tenant ++ "_" ++ role)))).2.pool.lookup key =
        some user := by
    apply lookup_exec_cognito hcreated
    rw [UserPool.lookup_after_addToGroup _ _ _ hkey]
    exact hcreated
  rw [← World.run_perform] at hadded
  rcases hgroup : world.run
    (perform (.cognito (.adminAddUserToGroup username (tenant ++ "_" ++ role)))) t with ⟨e | _, u⟩
  · rw [World.run_bind_error hgroup]
    rw [hgroup] at hadded
    exact hadded
  · rw [World.run_bind_ok hgroup]
    rw [hgroup] at hadded
    exact hadded

theorem run_createCognitoUser_real (demo : config.demoMode = false) (username email role : String) :
    (world.run (createCognitoUser config username email tenant role) s).2.demoPool =
      s.demoPool := by
  have hcalls : (createCognitoUser config username email tenant role).Calls
      fun op => ∀ key user, op ≠ .setDemoCognitoUser key user := by
    unfold createCognitoUser
    rw [demo]
    refine Prog.Calls.bind (perform_calls (by rintro _ _ ⟨⟩)) fun _ => ?_
    refine Prog.Calls.bind (perform_calls (by rintro _ _ ⟨⟩)) fun _ => ?_
    exact Prog.Calls.bind (perform_calls (by rintro _ _ ⟨⟩)) fun _ => trivial
  refine Prog.run_invariant world.exec (I := fun t => t.demoPool = s.demoPool) ?_ hcalls rfl
  intro op t hop ht
  by_cases hchanges : op.changesAccounts = false
  · exact (Prod.mk.inj (exec_accounts hchanges t)).2.trans ht
  · cases op <;> first | exact absurd rfl hchanges | skip
    · rw [World.exec_cognito]
      exact ht
    · exact absurd rfl (hop _ _)

theorem keepsForeign_create_real (demo : config.demoMode = false) (username email role : String) :
    KeepsForeign tenant s
      (world.run (createCognitoUser config username email tenant role) s).2 := by
  constructor
  · exact keepsEntries_of_lookup fun _ _ h => lookup_create_real demo username email role h
  · rw [run_createCognitoUser_real demo]
    exact keepsEntries_refl

theorem keepsForeign_create {tick : Nat} (herrors : (Admin.NewUser.read request).errors = []) :
    KeepsForeign tenant s
        (world.run (createCognitoUser config (Admin.NewUser.read request).username
          (Admin.NewUser.read request).email tenant (Admin.NewUser.read request).role)
          { s with tick := tick }).2 ↔
      AccountAction.create.Spares config world request tenant s := by
  simp only [AccountAction.Spares, herrors, forall_const]
  cases hdemo : config.demoMode with
  | true =>
    obtain ⟨sub, tick', hrun⟩ := @run_createCognitoUser_demo world config hdemo
      (Admin.NewUser.read request).username (Admin.NewUser.read request).email tenant
      (Admin.NewUser.read request).role { s with tick := tick }
    rw [hrun]
    simp only [forall_const]
    rw [keepsForeign_demo, keepsEntries_iff fun k => lookup_dictSet _ k _ s.demoPool]
    refine forall_congr' fun user => forall_congr' fun _ => ?_
    constructor
    · intro hsame hforeign
      obtain ⟨group, hgroup, mapping, hlookup, hother⟩ := hforeign
      have huser := Option.some.inj (hsame ⟨group, hgroup, mapping, hlookup, hother⟩)
      rw [List.mem_singleton] at hgroup
      rw [hgroup, ← huser] at hlookup
      exact hother (tenant_of_groupName (role_of_errors herrors) hlookup)
    · intro hnot hforeign
      exact absurd hforeign hnot
  | false =>
    simp only [Bool.false_eq_true, false_implies, iff_true]
    have hkeeps := @keepsForeign_create_real world config tenant { s with tick := tick } hdemo
      (Admin.NewUser.read request).username (Admin.NewUser.read request).email
      (Admin.NewUser.read request).role
    exact ⟨hkeeps.pool, hkeeps.demoPool⟩

end Exact

/-- An admitted account action leaves the accounts of the other tenants as they were exactly
when it spares them. -/
theorem keepsForeign_iff_spares (config : Config) (world : World) (lower : String → String)
    (request : Request) (identity : Identity) (action : AccountAction) (s : AppState) :
    KeepsForeign identity.tenant s
        (world.run (serveAs config lower request action.route identity) s).2 ↔
      action.Spares config world request identity.tenant s := by
  rw [keepsForeign_congr (serveAs_accounts config lower request action.route identity s)]
  cases action with
  | create =>
    obtain ⟨tick, hsame⟩ := @createUser_accounts world config request identity s
    show KeepsForeign _ _ (world.run (Admin.createUser config request identity) s).2 ↔ _
    rw [keepsForeign_congr hsame]
    by_cases herrors : (Admin.NewUser.read request).errors = []
    · rw [if_pos herrors]
      exact keepsForeign_create herrors
    · rw [if_neg herrors]
      constructor
      · intro _ _ hnone
        exact absurd hnone herrors
      · intro _
        exact ⟨keepsEntries_refl, keepsEntries_refl⟩
  | delete userId =>
    exact (keepsForeign_congr (deleteUser_accounts userId)).trans (keepsForeign_delete userId)
  | toggle userId =>
    exact (keepsForeign_congr (toggleUser_accounts userId)).trans (keepsForeign_toggle userId)

/-! ## An account of TenantB deleted from TenantA -/

/-- A user of TenantB. -/
def bob : CognitoUser := ⟨[("email", "bob@b.example")], ["TenantB_user"], true⟩

theorem bob_foreign : Foreign "TenantA" bob.groups :=
  ⟨"TenantB_user", List.mem_singleton_self _, ⟨"TenantB", "user"⟩, by decide, by decide⟩

/-- Remove the user `u-9`, with the username of another tenant's user in the form. -/
def removeBob : Request where
  method := "POST"
  path := "/api/v1/admin/users/u-9"
  headers _ := none
  cookies _ := none
  args _ := none
  form name := if name = "username" then some "bob" else none

theorem foreign_account_deleted : ¬ ∀ (config : Config) (world : World) (lower : String → String)
    (request : Request) (identity : Identity) (action : AccountAction) (s : AppState),
    KeepsForeign identity.tenant s
      (world.run (serveAs config lower request action.route identity) s).2 := by
  intro h
  have hkeeps := h sampleConfig quietWorld id removeBob sampleAdmin (.delete "u-9")
    { emptyState with pool := [("bob", bob)] }
  rw [keepsForeign_congr (serveAs_accounts _ _ _ _ _ _)] at hkeeps
  have hspares := (keepsForeign_delete "u-9").mp
    ((keepsForeign_congr (deleteUser_accounts "u-9")).mp hkeeps)
  exact hspares rfl bob rfl bob_foreign

end TenantSaas
