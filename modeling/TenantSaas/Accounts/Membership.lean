import TenantSaas.Accounts.Creates
import TenantSaas.Tenancy.Integrity

/-!
# Who belongs to a tenant

The groups of an account say which tenant its user belongs to, and in which role.  An account gets
a group once, when an administrator of the tenant makes it, and keeps it as long as it is there.
-/

namespace TenantSaas

/-- The accounts of `after` have the groups of before, none, or one that may be conferred. -/
def Conferred (May : String → Prop) (before after : UserPool) : Prop :=
  ∀ username user, after.lookup username = some user →
    (∃ old, before.lookup username = some old ∧ user.groups = old.groups) ∨
      user.groups = [] ∨ ∃ group, May group ∧ user.groups = [group]

section Conferred

variable {May : String → Prop} {before between after pool pool' : UserPool} {username : String}

theorem Conferred.refl (pool : UserPool) : Conferred May pool pool :=
  fun _ user h => .inl ⟨user, h, rfl⟩

theorem Conferred.trans (h : Conferred May before between) (h' : Conferred May between after) :
    Conferred May before after := by
  intro username user huser
  rcases h' username user huser with ⟨old, hold, hgroups⟩ | hnew
  · rw [hgroups]
    exact h username old hold
  · exact .inr hnew

/-- One account changes. -/
theorem Conferred.of_one {f : Option CognitoUser → Option CognitoUser}
    (hlookup : ∀ key, pool'.lookup key =
      if key = username then f (pool.lookup username) else pool.lookup key)
    (hf : ∀ user, f (pool.lookup username) = some user →
      (∃ old, pool.lookup username = some old ∧ user.groups = old.groups) ∨
        user.groups = [] ∨ ∃ group, May group ∧ user.groups = [group]) :
    Conferred May pool pool' := by
  intro key user huser
  rw [hlookup] at huser
  by_cases hkey : key = username
  · rw [if_pos hkey] at huser
    rw [hkey]
    exact hf user huser
  · rw [if_neg hkey] at huser
    exact .inl ⟨user, huser, rfl⟩

theorem conferred_delete : Conferred May pool (pool.after (.adminDeleteUser username)) :=
  .of_one (f := fun _ => none) (UserPool.lookup_after_delete pool username) (by rintro user ⟨⟩)

theorem conferred_enable (enabled : Bool) : Conferred May pool
    (pool.after (if enabled then .adminEnableUser username else .adminDisableUser username)) := by
  refine .of_one (fun key => UserPool.lookup_after_enable pool username key enabled)
    fun user huser => ?_
  obtain ⟨old, hold, rfl⟩ := Option.map_eq_some_iff.mp huser
  exact .inl ⟨old, hold, rfl⟩

end Conferred

section Serving

variable {world : World} {identity : Identity} {signedIn : Bool} {May : String → Prop}
  {before : UserPool} {s t : AppState}

/-- The groups of the accounts were conferred since `before`, and the session speaks for the
identity. -/
structure Conferring (May : String → Prop) (before : UserPool) (identity : Identity)
    (signedIn : Bool) (s : AppState) : Prop where
  conferred : Conferred May before s.pool
  speaks : s.session.SpeaksFor identity signedIn

theorem execEnv_pool {op : AppOp} {r : Except PyError op.Res} (hop : op.changes .pool = false)
    (h : execEnv world s op r t) : t.pool = s.pool := @execEnv_part world s t op r .pool hop h

/-- A call on the pool fails, or does what it is for. -/
theorem execEnv_cognito {op : CognitoOp} {r : Except PyError Unit}
    (h : execEnv world s (.cognito op) r t) :
    t.pool = s.pool ∧ (∃ e, r = .error e) ∨
      r = .ok () ∧ s.pool.apply op = .ok t.pool ∧ t.pool = s.pool.after op := by
  cases hfailure : world.failure s (.cognito op) with
  | some e =>
    rw [execEnv, World.exec_of_failure hfailure] at h
    cases h
    exact .inl ⟨rfl, e, rfl⟩
  | none =>
    rw [execEnv, World.exec_of_answer hfailure] at h
    cases h
    simp only [World.answer, UserPool.after]
    cases happly : s.pool.apply op with
    | error e => exact .inl ⟨rfl, e, rfl⟩
    | ok pool => exact .inr ⟨rfl, rfl, rfl⟩

theorem Conferring.congr (h : Conferring May before identity signedIn s)
    (hpool : t.pool = s.pool) (hsession : t.session = s.session) :
    Conferring May before identity signedIn t :=
  ⟨hpool ▸ h.conferred, hsession ▸ h.speaks⟩

/-- A call on an account that exists. -/
theorem conferring_exec {op : AppOp} {r : Except PyError op.Res} (hop : op.makesAccount = false)
    (hkeeps : op.changesSession = false) (h : Conferring May before identity signedIn s)
    (hstep : execEnv world s op r t) : Conferring May before identity signedIn t := by
  have hsession := execEnv_session hkeeps hstep
  cases op with
  | cognito op =>
    rcases execEnv_cognito hstep with ⟨hpool, -⟩ | ⟨-, -, hpool⟩
    · exact h.congr hpool hsession
    refine ⟨h.conferred.trans ?_, hsession ▸ h.speaks⟩
    rw [hpool]
    cases op with
    | adminDeleteUser username => exact conferred_delete
    | adminEnableUser username => exact conferred_enable true
    | adminDisableUser username => exact conferred_enable false
    | adminCreateUser | adminAddUserToGroup => cases hop
  | _ => exact h.congr (execEnv_pool rfl hstep) hsession

/-- The program gives accounts no groups but those, and its session keeps speaking for the
identity. -/
abbrev KeepsConferring (world : World) (May : String → Prop) (before : UserPool)
    (identity : Identity) (signedIn : Bool) {α : Type} (p : App α) : Prop :=
  Prog.Keeps (execEnv world) (fun _ _ => True) (Conferring May before identity signedIn) p

theorem conferring_of_calls {α : Type} {p : App α}
    (hp : p.Calls fun op => op.makesAccount = false ∧ op.changesSession = false) :
    KeepsConferring world May before identity signedIn p := by
  refine Prog.Keeps.of_calls (fun op s hop hs => ⟨trivial, fun r t hstep => ?_⟩) hp
  exact conferring_exec hop.1 hop.2 hs hstep

/-- An account has no group when it is created. -/
theorem conferring_create {username password : String} {attributes : List (String × String)}
    (h : Conferring May before identity signedIn s)
    (hstep : execEnv world s (.cognito (.adminCreateUser username attributes password))
      (.ok ()) t) :
    Conferring May before identity signedIn t ∧
      ∃ user, t.pool.lookup username = some user ∧ user.groups = [] := by
  rcases execEnv_cognito hstep with ⟨-, e, ⟨⟩⟩ | ⟨-, happly, -⟩
  obtain ⟨hnone, hpool⟩ := apply_create happly
  have hlookup : ∀ key, t.pool.lookup key =
      if key = username then some ⟨attributes, [], true⟩ else s.pool.lookup key := by
    intro key
    rw [hpool, List.lookup_append, lookup_entry]
    by_cases hkey : key = username
    · rw [hkey, hnone, if_pos rfl, if_pos rfl, Option.none_or]
    · rw [if_neg hkey, if_neg hkey, List.lookup_nil, Option.or_none]
  refine ⟨⟨h.conferred.trans (.of_one (f := fun _ => some _) hlookup ?_), ?_⟩, ?_⟩
  · rintro user ⟨⟩
    exact .inr (.inl rfl)
  · exact execEnv_session rfl hstep ▸ h.speaks
  · exact ⟨_, (hlookup username).trans (if_pos rfl), rfl⟩

theorem conferring_addToGroup {username group : String} {r : Except PyError Unit}
    (hmay : May group) (h : Conferring May before identity signedIn s)
    (hfresh : ∃ user, s.pool.lookup username = some user ∧ user.groups = [])
    (hstep : execEnv world s (.cognito (.adminAddUserToGroup username group)) r t) :
    Conferring May before identity signedIn t := by
  have hsession := execEnv_session rfl hstep
  rcases execEnv_cognito hstep with ⟨hpool, -⟩ | ⟨-, happly, -⟩
  · exact h.congr hpool hsession
  have hlookup : ∀ key, t.pool.lookup key = if key = username then
      (s.pool.lookup username).map fun user => { user with
        groups := if group ∈ user.groups then user.groups else user.groups ++ [group] }
      else s.pool.lookup key := by
    intro key
    rw [apply_addToGroup happly]
    exact UserPool.lookup_modify username key _ s.pool
  refine ⟨h.conferred.trans (.of_one (f := Option.map _) hlookup fun user huser => ?_),
    hsession ▸ h.speaks⟩
  obtain ⟨old, hold, hgroups⟩ := hfresh
  rw [hold] at huser
  cases huser
  simp only [hgroups]
  exact .inr (.inr ⟨group, hmay, rfl⟩)

/-- An account is made with one group of the tenant, or left without. -/
theorem createCognitoUser_conferring {config : Config} {role : String}
    (hmay : May (identity.tenant ++ "_" ++ role)) (username email : String) :
    KeepsConferring world May before identity signedIn
      (createCognitoUser config username email identity.tenant role) := by
  refine Prog.Keeps.bind (conferring_of_calls (perform_calls ⟨rfl, rfl⟩)) fun tempPassword => ?_
  split
  · refine conferring_of_calls (Prog.Calls.bind (perform_calls ⟨rfl, rfl⟩) fun _ => ?_)
    exact Prog.Calls.bind (perform_calls ⟨rfl, rfl⟩) fun _ => trivial
  intro s hs
  refine Prog.Always.bind ?_
  refine ⟨trivial, fun r t hcreate => ?_⟩
  cases r with
  | error e =>
    rcases execEnv_cognito hcreate with ⟨hpool, -⟩ | ⟨⟨⟩, -⟩
    exact hs.congr hpool (execEnv_session rfl hcreate)
  | ok _ =>
    obtain ⟨ht, hfresh⟩ := conferring_create hs hcreate
    refine ⟨trivial, fun r u hadd => ?_⟩
    have hu := conferring_addToGroup hmay ht hfresh hadd
    cases r <;> exact hu

theorem serves_conferring (config : Config)
    (hmay : identity.role = "admin" → ∀ role, role = "admin" ∨ role = "user" →
      May (identity.tenant ++ "_" ++ role)) :
    Serves config identity signedIn (KeepsConferring world May before identity signedIn) where
  ret := Prog.Keeps.ret
  raise := Prog.Keeps.raise
  bind := Prog.Keeps.bind
  handle := Prog.Keeps.handle
  perform hop := conferring_of_calls (perform_calls ⟨hop.single, hop.keepsSession⟩)
  account admin {role} hrole username email :=
    createCognitoUser_conferring (hmay admin role hrole) username email
  reading {α body} hbody := by
    refine conferring_of_calls (Prog.Calls.bind (perform_calls ⟨rfl, rfl⟩) fun _ => ?_)
    refine Prog.Calls.finally' (hbody.mono fun op hop => ?_) (perform_calls ⟨rfl, rfl⟩)
    cases op <;> first | exact ⟨rfl, rfl⟩ | cases hop.1
  transaction {α body} hbody := by
    refine conferring_of_calls (Prog.Calls.bind (perform_calls ⟨rfl, rfl⟩) fun _ => ?_)
    refine Prog.Calls.finally' (Prog.Calls.handle (Prog.Calls.bind ?_ fun _ => ?_) fun e => ?_)
      (perform_calls ⟨rfl, rfl⟩)
    · refine hbody.mono fun op hop => ?_
      cases op <;> first | exact ⟨rfl, rfl⟩ | cases hop.1
    · exact Prog.Calls.bind (perform_calls ⟨rfl, rfl⟩) fun _ => trivial
    · exact Prog.Calls.bind (perform_calls ⟨rfl, rfl⟩) fun _ => trivial
  session h := by
    refine AfterReading.keeps ?_ ?_ h
    · intro s hs
      refine ⟨trivial, fun r t hstep => ?_⟩
      obtain ⟨rfl, hsame⟩ := exec_session hstep
      exact ⟨s.session, rfl, hs.speaks, hs.congr (execEnv_pool rfl hstep) hsame⟩
    · intro s new hs hnew
      refine ⟨trivial, fun r t hstep => ?_⟩
      obtain ⟨rfl, hsame⟩ := exec_session hstep
      refine ⟨rfl, ?_, hsame ▸ hnew⟩
      rw [execEnv_pool rfl hstep]
      exact hs.conferred

end Serving

/-- In every run of requests an account has the groups it had at the start, or none, or one: a
group of the tenant of an administrator who was let in. -/
theorem groups_conferred_by_admin {config : Config} {mysql : MySql} {s t : AppState}
    {trace : Steps.Trace AppState Served} {username : String} {user : CognitoUser}
    (run : Steps.Run (ServedBy config mysql) s trace t)
    (present : t.pool.lookup username = some user) :
    (∃ old, s.pool.lookup username = some old ∧ user.groups = old.groups) ∨ user.groups = [] ∨
      ∃ x ∈ trace, ∃ identity role, x.2.admitted config x.1 = some identity ∧
        identity.role = "admin" ∧ (role = "admin" ∨ role = "user") ∧
        user.groups = [identity.tenant ++ "_" ++ role] := by
  let May (group : String) : Prop := ∃ x ∈ trace, ∃ identity role,
    x.2.admitted config x.1 = some identity ∧ identity.role = "admin" ∧
      (role = "admin" ∨ role = "user") ∧ group = identity.tenant ++ "_" ++ role
  let R (s t : AppState) : Prop := Conferred May s.pool t.pool
  let P (s : AppState) (served : Served) : Prop := (s, served) ∈ trace
  have hconferred : Conferred May s.pool t.pool := by
    refine run.relates (R := R) (P := P) (fun s => .refl s.pool) (fun _ _ _ => Conferred.trans)
      (fun s served t hmem hserved => ?_) fun x hx => hx
    obtain ⟨-, rfl⟩ := hserved
    rcases served.finish_cases config s with
      ⟨-, huntouched⟩ | ⟨identity, t, hguard, huntouched, hspeaks, hadmin, hfinish⟩
    · show Conferred May s.pool (served.finish config s).pool
      rw [show (served.finish config s).pool = s.pool from huntouched .pool (by rintro ⟨⟩)]
      exact .refl _
    have hpool : t.pool = s.pool := huntouched .pool (by rintro ⟨⟩)
    have hserves : Serves config identity served.session.identity.isSome
        (KeepsConferring served.world May s.pool identity served.session.identity.isSome) :=
      serves_conferring config fun admin role hrole =>
        ⟨(s, served), hmem, identity, role, served.admitted_of_guard hguard, admin, hrole, rfl⟩
    have halways := serveAs_serves hserves served.lower served.request served.route hadmin t
      ⟨hpool ▸ .refl _, hspeaks⟩
    show Conferred May s.pool (served.finish config s).pool
    rw [hfinish]
    exact (Prog.Always.run (fun _ _ => rfl) halways : Conferring May _ identity _ _).conferred
  rcases hconferred username user present with hold | hnone | ⟨group, hgroup, hgroups⟩
  · exact .inl hold
  · exact .inr (.inl hnone)
  · obtain ⟨x, hx, identity, role, hadmitted, hadmin, hrole, rfl⟩ := hgroup
    exact .inr (.inr ⟨x, hx, identity, role, hadmitted, hadmin, hrole, hgroups⟩)

/-- The administrator of TenantA makes an account. -/
def makesErin : Served where
  world := quietWorld
  lower := id
  session := { Session.cleared with identity := some sampleAdmin }
  request :=
    { method := "POST"
      path := "/api/v1/admin/users/create"
      headers := fun _ => none
      cookies := fun _ => none
      args := fun _ => none
      form := fun field =>
        if field = "username" then some "erin"
        else if field = "email" then some "erin@a.example"
        else if field = "role" then some "user"
        else none }
  route := .createUser

theorem erin_conferred_by_admin :
    (∃ old, emptyState.pool.lookup "erin" = some old ∧ ["TenantA_user"] = old.groups) ∨
      ["TenantA_user"] = [] ∨
      ∃ x ∈ [(emptyState, makesErin)], ∃ identity role,
        x.2.admitted sampleConfig x.1 = some identity ∧ identity.role = "admin" ∧
          (role = "admin" ∨ role = "user") ∧
          ["TenantA_user"] = [identity.tenant ++ "_" ++ role] := by
  have present : (makesErin.finish sampleConfig emptyState).pool.lookup "erin" =
      some ⟨[("email", "erin@a.example"), ("email_verified", "true")], ["TenantA_user"], true⟩ :=
    rfl
  exact groups_conferred_by_admin (Steps.Run.nil.snoc ⟨rfl, rfl⟩) present

end TenantSaas
