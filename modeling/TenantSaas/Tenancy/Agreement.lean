import TenantSaas.Web.Views

/-!
# States that agree for a tenant

Two global states that differ at most in what belongs to other tenants, and which calls keep
them so.
-/

namespace TenantSaas

/-- The same usernames have accounts, so the admin calls answer alike. -/
def SameUsernames (pool pool' : UserPool) : Prop :=
  ∀ username, (pool.lookup username).isSome = (pool'.lookup username).isSome

/-- The items of the tenant's partition. -/
def partition (tenant : String) (s : AppState) : List AggregateItem :=
  s.aggregate.filter fun item => item.pk == partitionKey tenant

/-- The states agree on what a request of the tenant may depend on: the tenant's table and
partition, the session, the answers of Cognito, and the draws to come. -/
structure AgreeFor (tenant : String) (s t : AppState) : Prop where
  tick : s.tick = t.tick
  session : s.session = t.session
  table : ∀ table, tableForTenant tenant = .ok table →
    s.rds.committed table = t.rds.committed table
  demoDb : s.demoDb.lookup tenant = t.demoDb.lookup tenant
  partition : partition tenant s = partition tenant t
  pool : SameUsernames s.pool t.pool
  demoPool : ∀ username, s.demoPool.lookup username = t.demoPool.lookup username

/-- What belongs to other tenants is in `t` as it was in `s`, and so are the aggregates. -/
structure OthersKept (tenant : String) (s t : AppState) : Prop where
  table : ∀ table, tableForTenant tenant ≠ .ok table →
    t.rds.committed table = s.rds.committed table
  demoDb : ∀ other, other ≠ tenant → t.demoDb.lookup other = s.demoDb.lookup other
  aggregate : t.aggregate = s.aggregate

theorem OthersKept.refl (tenant : String) (s : AppState) : OthersKept tenant s s :=
  ⟨fun _ _ => rfl, fun _ _ => rfl, rfl⟩

/-- No usage event was emitted between `s` and `t`. -/
def Silent (s t : AppState) : Prop := t.queue = s.queue ∧ t.demoEvents = s.demoEvents

/-- The relation of two runs of a view, from `s₀` and `t₀`. -/
structure Isolated (tenant : String) (s₀ t₀ s t : AppState) : Prop where
  agree : AgreeFor tenant s t
  left : OthersKept tenant s₀ s
  right : OthersKept tenant t₀ t
  leftSilent : Silent s₀ s
  rightSilent : Silent t₀ t

/-- While a connection is open: what it works on agrees on the tenant's table, and shows the
other tables as they are committed. -/
structure IsolatedOpen (tenant : String) (s₀ t₀ s t : AppState) : Prop
    extends Isolated tenant s₀ t₀ s t where
  working : ∀ table, tableForTenant tenant = .ok table →
    s.rds.working table = t.rds.working table
  leftWorking : ∀ table, tableForTenant tenant ≠ .ok table →
    s.rds.working table = s₀.rds.committed table
  rightWorking : ∀ table, tableForTenant tenant ≠ .ok table →
    t.rds.working table = t₀.rds.committed table

/-! ## The accounts -/

section Accounts

variable {pool pool' : UserPool}

theorem sameUsernames_modify (h : SameUsernames pool pool') (username : String)
    (f : CognitoUser → CognitoUser) :
    SameUsernames (pool.modify username f) (pool'.modify username f) := by
  intro key
  rw [UserPool.lookup_modify, UserPool.lookup_modify]
  by_cases hkey : key = username
  · rw [if_pos hkey, if_pos hkey, Option.isSome_map, Option.isSome_map, h]
  · rw [if_neg hkey, if_neg hkey, h]

theorem sameUsernames_remove (h : SameUsernames pool pool') (username : String) :
    SameUsernames (pool.remove username) (pool'.remove username) := by
  intro key
  unfold UserPool.remove
  rw [lookup_dictPop, lookup_dictPop]
  by_cases hkey : key = username
  · rw [if_pos hkey, if_pos hkey]
  · rw [if_neg hkey, if_neg hkey, h]

theorem sameUsernames_append (h : SameUsernames pool pool') (account : String × CognitoUser) :
    SameUsernames (pool ++ [account]) (pool' ++ [account]) := by
  intro key
  rw [List.lookup_append, List.lookup_append, Option.isSome_or, Option.isSome_or, h]

/-- What two calls on the pools have in common. -/
def SameReply : Except PyError UserPool → Except PyError UserPool → Prop
  | .ok pool, .ok pool' => SameUsernames pool pool'
  | .error e, .error e' => e = e'
  | _, _ => False

theorem sameReply_known (h : SameUsernames pool pool') (username : String) {after after' : UserPool}
    (hafter : SameUsernames after after') :
    SameReply (UserPool.apply.known pool username after)
      (UserPool.apply.known pool' username after') := by
  have huser := h username
  unfold UserPool.apply.known
  cases hs : pool.lookup username with
  | none =>
    cases ht : pool'.lookup username with
    | none => rfl
    | some user =>
      rw [hs, ht] at huser
      cases huser
  | some user =>
    cases ht : pool'.lookup username with
    | none =>
      rw [hs, ht] at huser
      cases huser
    | some user' => exact hafter

theorem sameReply_apply (h : SameUsernames pool pool') (op : CognitoOp) :
    SameReply (pool.apply op) (pool'.apply op) := by
  cases op with
  | adminCreateUser username attributes password =>
    have huser := h username
    cases hs : pool.lookup username with
    | none =>
      cases ht : pool'.lookup username with
      | none =>
        simp only [UserPool.apply, hs, ht]
        exact sameUsernames_append h _
      | some user =>
        rw [hs, ht] at huser
        cases huser
    | some user =>
      cases ht : pool'.lookup username with
      | none =>
        rw [hs, ht] at huser
        cases huser
      | some user' =>
        simp only [UserPool.apply, hs, ht]
        rfl
  | adminAddUserToGroup username group =>
    exact sameReply_known h username (sameUsernames_modify h username _)
  | adminDeleteUser username => exact sameReply_known h username (sameUsernames_remove h username)
  | adminEnableUser username => exact sameReply_known h username (sameUsernames_modify h username _)
  | adminDisableUser username =>
    exact sameReply_known h username (sameUsernames_modify h username _)

end Accounts

/-! ## Calls away from the tables -/

section Steps

variable {world : World} {tenant : String} {s₀ t₀ s t : AppState}

theorem failure_of_tick (h : s.tick = t.tick) (op : AppOp) :
    world.failure s op = world.failure t op := by
  unfold World.failure
  rw [h]

/-- Runs at the same tick stay alike over a call that keeps them so where it does not fail. -/
theorem exec_alike {Alike : AppState → AppState → Prop} {op : AppOp}
    (ticked : ∀ {s t}, Alike s t → ∀ n, Alike { s with tick := n } { t with tick := n })
    (htick : s.tick = t.tick) (h : Alike s t)
    (hreply : (world.answer s op).1 = (world.answer t op).1)
    (hnext : Alike (world.answer s op).2 (world.answer t op).2) :
    (world.exec s op).1 = (world.exec t op).1 ∧
      Alike (world.exec s op).2 (world.exec t op).2 := by
  have hfailures := @failure_of_tick world _ _ htick op
  cases hfailure : world.failure s op with
  | some e =>
    rw [World.exec_of_failure hfailure, World.exec_of_failure (hfailures ▸ hfailure), ← htick]
    exact ⟨rfl, ticked h _⟩
  | none =>
    rw [World.exec_of_answer hfailure, World.exec_of_answer (hfailures ▸ hfailure), ← htick]
    exact ⟨hreply, ticked hnext _⟩

/-- What a view may change of other tenants' data, and the events. -/
def outside (s : AppState) :=
  (s.rds.committed, s.demoDb, s.aggregate, s.queue, s.demoEvents)

theorem OthersKept.congr {s' : AppState} (h : OthersKept tenant s₀ s)
    (hs : outside s' = outside s) :
    OthersKept tenant s₀ s' := by
  simp only [outside, Prod.mk.injEq] at hs
  obtain ⟨hcommitted, hdemoDb, haggregate, -, -⟩ := hs
  exact ⟨hcommitted ▸ h.table, hdemoDb ▸ h.demoDb, haggregate ▸ h.aggregate⟩

theorem Silent.congr {s' : AppState} (h : Silent s₀ s) (hs : outside s' = outside s) :
    Silent s₀ s' := by
  simp only [outside, Prod.mk.injEq] at hs
  obtain ⟨-, -, -, hqueue, hevents⟩ := hs
  exact ⟨hqueue.trans h.1, hevents.trans h.2⟩

theorem Isolated.update {s' t' : AppState} (h : Isolated tenant s₀ t₀ s t)
    (hs : outside s' = outside s) (ht : outside t' = outside t) (hagree : AgreeFor tenant s' t') :
    Isolated tenant s₀ t₀ s' t' :=
  ⟨hagree, h.left.congr hs, h.right.congr ht, h.leftSilent.congr hs, h.rightSilent.congr ht⟩

theorem Isolated.withTick (h : Isolated tenant s₀ t₀ s t) (n : Nat) :
    Isolated tenant s₀ t₀ { s with tick := n } { t with tick := n } :=
  h.update rfl rfl { h.agree with tick := rfl }

theorem isolated_exec {op : AppOp} (h : Isolated tenant s₀ t₀ s t)
    (hreply : (world.answer s op).1 = (world.answer t op).1)
    (hnext : Isolated tenant s₀ t₀ (world.answer s op).2 (world.answer t op).2) :
    (world.exec s op).1 = (world.exec t op).1 ∧
      Isolated tenant s₀ t₀ (world.exec s op).2 (world.exec t op).2 :=
  exec_alike Isolated.withTick h.agree.tick h hreply hnext

theorem OthersKept.setDemoTable (h : OthersKept tenant s₀ s) (rows : DemoTable) :
    OthersKept tenant s₀ { s with demoDb := dictSet tenant rows s.demoDb } := by
  refine ⟨h.table, fun other hother => ?_, h.aggregate⟩
  show List.lookup other (dictSet tenant rows s.demoDb) = _
  rw [lookup_dictSet, if_neg hother, h.demoDb other hother]

theorem isolated_setDemoTable (h : Isolated tenant s₀ t₀ s t) (rows : DemoTable) :
    Isolated tenant s₀ t₀ { s with demoDb := dictSet tenant rows s.demoDb }
      { t with demoDb := dictSet tenant rows t.demoDb } where
  agree := { h.agree with demoDb := by rw [lookup_dictSet, lookup_dictSet, if_pos rfl, if_pos rfl] }
  left := h.left.setDemoTable rows
  right := h.right.setDemoTable rows
  leftSilent := h.leftSilent
  rightSilent := h.rightSilent

theorem isolated_setDemoCognitoUser (h : Isolated tenant s₀ t₀ s t) (username : String)
    (user : Option DemoCognitoUser) :
    Isolated tenant s₀ t₀ (world.answer s (.setDemoCognitoUser username user)).2
      (world.answer t (.setDemoCognitoUser username user)).2 := by
  cases user with
  | some user =>
    refine h.update rfl rfl { h.agree with demoPool := fun key => ?_ }
    show List.lookup key (dictSet _ _ _) = List.lookup key (dictSet _ _ _)
    rw [lookup_dictSet, lookup_dictSet, h.agree.demoPool]
  | none =>
    refine h.update rfl rfl { h.agree with demoPool := fun key => ?_ }
    show List.lookup key (dictPop _ _) = List.lookup key (dictPop _ _)
    rw [lookup_dictPop, lookup_dictPop, h.agree.demoPool]

theorem isolated_cognito (h : Isolated tenant s₀ t₀ s t) (op : CognitoOp) :
    (world.answer s (.cognito op)).1 = (world.answer t (.cognito op)).1 ∧
      Isolated tenant s₀ t₀ (world.answer s (.cognito op)).2
        (world.answer t (.cognito op)).2 := by
  have hsame := sameReply_apply h.agree.pool op
  simp only [World.answer]
  cases hs : s.pool.apply op with
  | error e =>
    cases ht : t.pool.apply op with
    | error e' =>
      rw [hs, ht] at hsame
      exact ⟨congrArg Except.error hsame, h⟩
    | ok pool =>
      rw [hs, ht] at hsame
      cases hsame
  | ok pool =>
    cases ht : t.pool.apply op with
    | error e =>
      rw [hs, ht] at hsame
      cases hsame
    | ok pool' =>
      rw [hs, ht] at hsame
      exact ⟨rfl, h.update rfl rfl { h.agree with pool := hsame }⟩

/-- A call away from the tables answers alike and keeps the runs isolated. -/
theorem exec_off {op : AppOp} (hop : op.Off tenant) (h : Isolated tenant s₀ t₀ s t) :
    (world.exec s op).1 = (world.exec t op).1 ∧
      Isolated tenant s₀ t₀ (world.exec s op).2 (world.exec t op).2 := by
  have htick := h.agree.tick
  cases op with
  | demoTable other =>
    obtain rfl : other = tenant := hop
    exact isolated_exec h (congrArg Except.ok h.agree.demoDb) h
  | setDemoTable other rows =>
    obtain rfl : other = tenant := hop
    exact isolated_exec h rfl (isolated_setDemoTable h rows)
  | cognito op => exact isolated_exec h (isolated_cognito h op).1 (isolated_cognito h op).2
  | setDemoCognitoUser username user =>
    refine isolated_exec h ?_ (isolated_setDemoCognitoUser h username user)
    cases user <;> rfl
  | demoCognitoUser username =>
    exact isolated_exec h (congrArg Except.ok (h.agree.demoPool username)) h
  | queryAggregates pk =>
    obtain rfl : pk = partitionKey tenant := hop
    exact isolated_exec h (congrArg Except.ok h.agree.partition) h
  | kmsDecrypt blob =>
    refine isolated_exec h ?_ ?_ <;> simp only [World.answer] <;> split <;>
      first | rfl | exact h
  | session => exact isolated_exec h (congrArg Except.ok h.agree.session) h
  | setSession session =>
    exact isolated_exec h rfl (h.update rfl rfl { h.agree with session := rfl })
  | changePassword accessToken previous proposed => exact isolated_exec h rfl h
  | tokenRequest refreshToken =>
    exact isolated_exec h (by simp only [World.answer, htick]) h
  | exchangeCode code codeVerifier =>
    exact isolated_exec h (by simp only [World.answer, htick]) h
  | setCookie value maxAge => exact isolated_exec h rfl h
  | decodeJwt token => exact isolated_exec h (by simp only [World.answer, htick]) h
  | kmsEncrypt plaintext => exact isolated_exec h (by simp only [World.answer, htick]) h
  | uuid4 => exact isolated_exec h (by simp only [World.answer, htick]) h
  | tempPassword => exact isolated_exec h (by simp only [World.answer, htick]) h
  | generatePkcePair => exact isolated_exec h (by simp only [World.answer, htick]) h
  | generateState => exact isolated_exec h (by simp only [World.answer, htick]) h
  | utcnow => exact isolated_exec h (by simp only [World.answer, htick]) h
  | time => exact isolated_exec h (by simp only [World.answer, htick]) h
  | today => exact isolated_exec h (by simp only [World.answer, htick]) h
  | _ => cases hop

end Steps

/-! ## Calls on an open connection -/

section Open

variable {world : World} {tenant : String} {s₀ t₀ s t : AppState}

theorem IsolatedOpen.withTick (h : IsolatedOpen tenant s₀ t₀ s t) (n : Nat) :
    IsolatedOpen tenant s₀ t₀ { s with tick := n } { t with tick := n } :=
  { h.toIsolated.withTick n with
    working := h.working
    leftWorking := h.leftWorking
    rightWorking := h.rightWorking }

theorem isolatedOpen_exec {op : AppOp} (h : IsolatedOpen tenant s₀ t₀ s t)
    (hreply : (world.answer s op).1 = (world.answer t op).1)
    (hnext : IsolatedOpen tenant s₀ t₀ (world.answer s op).2 (world.answer t op).2) :
    (world.exec s op).1 = (world.exec t op).1 ∧
      IsolatedOpen tenant s₀ t₀ (world.exec s op).2 (world.exec t op).2 :=
  exec_alike IsolatedOpen.withTick h.agree.tick h hreply hnext

theorem isolatedOpen_write {table : TenantTable} (htable : tableForTenant tenant = .ok table)
    (h : IsolatedOpen tenant s₀ t₀ s t) (rows : Table) :
    IsolatedOpen tenant s₀ t₀
      { s with rds := { s.rds with working := Rds.setTable s.rds.working table rows } }
      { t with rds := { t.rds with working := Rds.setTable t.rds.working table rows } } where
  toIsolated := h.toIsolated.update rfl rfl { h.agree with table := h.agree.table }
  working other hother := by
    rw [htable] at hother
    obtain rfl := Except.ok.inj hother
    show Rds.setTable _ _ _ _ = Rds.setTable _ _ _ _
    rw [Rds.setTable_self, Rds.setTable_self]
  leftWorking other hother := by
    show Rds.setTable _ _ _ _ = _
    rw [Rds.setTable_other _ (by rintro rfl; exact hother htable), h.leftWorking other hother]
  rightWorking other hother := by
    show Rds.setTable _ _ _ _ = _
    rw [Rds.setTable_other _ (by rintro rfl; exact hother htable), h.rightWorking other hother]

theorem isolatedOpen_commit (h : IsolatedOpen tenant s₀ t₀ s t) :
    IsolatedOpen tenant s₀ t₀ { s with rds := s.rds.commit } { t with rds := t.rds.commit } where
  agree := { h.agree with table := h.working }
  left := ⟨h.leftWorking, h.left.demoDb, h.left.aggregate⟩
  right := ⟨h.rightWorking, h.right.demoDb, h.right.aggregate⟩
  leftSilent := h.leftSilent
  rightSilent := h.rightSilent
  working := h.working
  leftWorking := h.leftWorking
  rightWorking := h.rightWorking

/-- A connection that starts from what is committed. -/
theorem Isolated.opened (h : Isolated tenant s₀ t₀ s t) :
    IsolatedOpen tenant s₀ t₀ { s with rds := s.rds.discard } { t with rds := t.rds.discard } where
  toIsolated := h.update rfl rfl { h.agree with table := h.agree.table }
  working := h.agree.table
  leftWorking := h.left.table
  rightWorking := h.right.table

theorem exec_inside {op : AppOp} (hop : op.Inside tenant) (h : IsolatedOpen tenant s₀ t₀ s t) :
    (world.exec s op).1 = (world.exec t op).1 ∧
      IsolatedOpen tenant s₀ t₀ (world.exec s op).2 (world.exec t op).2 := by
  cases op with
  | select table query =>
    exact isolatedOpen_exec h (by simp only [World.answer, h.working table hop]) h
  | selectForUpdate table userId =>
    exact isolatedOpen_exec h (by simp only [World.answer, h.working table hop]) h
  | countLike table like =>
    exact isolatedOpen_exec h (by simp only [World.answer, h.working table hop]) h
  | countRoles table =>
    exact isolatedOpen_exec h (by simp only [World.answer, h.working table hop]) h
  | write table statement =>
    have hrows := h.working table hop
    cases happly : world.mysql.apply (s.rds.working table) statement with
    | error e =>
      refine isolatedOpen_exec h ?_ ?_ <;> simp only [World.answer, ← hrows, happly]
      exact h
    | ok result =>
      refine isolatedOpen_exec h ?_ ?_ <;> simp only [World.answer, ← hrows, happly]
      exact isolatedOpen_write hop h result.2
  | commit => exact isolatedOpen_exec h rfl (isolatedOpen_commit h)
  | rollback => exact isolatedOpen_exec h rfl h.toIsolated.opened
  | _ => cases hop

end Open

/-! ## Programs of a tenant -/

/-- Run from states that agree for the tenant, the program answers alike; it leaves agreeing
states, what belongs to others, and emits nothing. -/
def Within {α : Type} (tenant : String) (p : App α) : Prop :=
  ∀ (world : World) (s₀ t₀ : AppState), Prog.Alike world.exec (Isolated tenant s₀ t₀) p

namespace Within

variable {α β : Type} {tenant : String}

theorem pure (a : α) : Within tenant (Pure.pure a : App α) := fun _ _ _ => .ret a

theorem throw (e : PyError) : Within tenant (MonadExcept.throw e : App α) := fun _ _ _ => .raise e

theorem ofExcept (r : Except PyError α) : Within tenant (Prog.ofExcept r : App α) :=
  fun _ _ _ => .ofExcept r

theorem perform {op : AppOp} (h : op.Off tenant) : Within tenant (perform op) :=
  fun _ _ _ => .perform fun _ _ hst => exec_off h hst

theorem bind {p : App α} {f : α → App β} (hp : Within tenant p) (hf : ∀ a, Within tenant (f a)) :
    Within tenant (p >>= f) :=
  fun world s₀ t₀ => (hp world s₀ t₀).bind fun a => hf a world s₀ t₀

theorem ofExcept_bind {r : Except PyError α} {f : α → App β}
    (h : ∀ a, r = .ok a → Within tenant (f a)) : Within tenant (Prog.ofExcept r >>= f) := by
  cases r with
  | ok a => exact h a rfl
  | error e => exact throw e

theorem tryCatch {p : App α} {handler : PyError → App α} (hp : Within tenant p)
    (h : ∀ e, Within tenant (handler e)) : Within tenant (MonadExcept.tryCatch p handler) :=
  fun world s₀ t₀ => (hp world s₀ t₀).handle fun e => h e world s₀ t₀

theorem calls {p : App α} (hp : p.Calls (AppOp.Off tenant)) : Within tenant p := by
  intro world s₀ t₀
  refine Prog.Alike.of_calls ?_ hp
  intro op s t hop hst
  exact exec_off hop hst

/-- Statements on the tenant's table, on a connection of their own. -/
theorem connection {body : App α} (hbody : body.Calls (AppOp.Inside tenant)) :
    Within tenant (withConnection body) := by
  intro world s₀ t₀ s t h
  show (world.run _ s).1 = (world.run _ t).1 ∧
    Isolated tenant s₀ t₀ (world.run _ s).2 (world.run _ t).2
  have htick := h.agree.tick
  have hfailures := @failure_of_tick world _ _ htick .connect
  cases hconnect : world.failure s .connect with
  | some e =>
    rw [run_withConnection_of_failure hconnect,
      run_withConnection_of_failure (hfailures ▸ hconnect), ← htick]
    exact ⟨rfl, h.withTick _⟩
  | none =>
    have hopened : IsolatedOpen tenant s₀ t₀ s.connected t.connected := by
      have hnext := h.opened.withTick (s.tick + 1)
      unfold AppState.connected
      rw [← htick]
      exact hnext
    have halike : Prog.Alike world.exec (IsolatedOpen tenant s₀ t₀) body := by
      refine Prog.Alike.of_calls ?_ hbody
      intro op s t hop hst
      exact exec_inside hop hst
    obtain ⟨hreply, hbodies⟩ := halike _ _ hopened
    rw [run_withConnection hconnect, run_withConnection (hfailures ▸ hconnect)]
    refine ⟨hreply, ?_⟩
    unfold AppState.closed
    rw [← hbodies.agree.tick]
    exact hbodies.toIsolated.opened.toIsolated.withTick _

end Within

end TenantSaas
