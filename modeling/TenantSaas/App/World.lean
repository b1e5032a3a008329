import TenantSaas.App.Rds

/-!
# Running the application

The state the calls act on, and what each call does to it.  `World` fixes what the
environment chooses: which calls fail without taking effect, the clock, the random draws,
token validation, the token endpoint and KMS.
-/

namespace TenantSaas

open PyDateTime

/-- An account of the user pool. -/
structure CognitoUser where
  attributes : List (String × String)
  groups : List String
  enabled : Bool
  deriving DecidableEq

/-- The user pool, keyed by username. -/
abbrev UserPool := List (String × CognitoUser)

namespace UserPool

/-- Change the account of a username. -/
def modify (username : String) (f : CognitoUser → CognitoUser) (pool : UserPool) : UserPool :=
  pool.map fun account => if account.1 = username then (account.1, f account.2) else account

def remove (username : String) (pool : UserPool) : UserPool := dictPop username pool

theorem lookup_modify (username key : String) (f : CognitoUser → CognitoUser) (pool : UserPool) :
    (pool.modify username f).lookup key =
      if key = username then (pool.lookup username).map f else pool.lookup key := by
  unfold modify
  induction pool with
  | nil => simp
  | cons account pool ih =>
    rw [List.map_cons, lookup_entry, lookup_entry, lookup_entry, ih]
    by_cases haccount : account.1 = username
    · rw [if_pos haccount]
      by_cases h : key = username <;> simp [haccount, h]
    · rw [if_neg haccount]
      by_cases h : key = account.1
      · simp [h, haccount]
      · by_cases hkey : key = username <;> simp [h, hkey, Ne.symm haccount]

/-- The admin calls on a pool; each fails without effect when the account is in its way. -/
def apply (pool : UserPool) : CognitoOp → Except PyError UserPool
  | .adminCreateUser username attributes _ =>
    match pool.lookup username with
    | some _ => .error (.clientError "UsernameExistsException")
    | none => .ok (pool ++ [(username, ⟨attributes, [], true⟩)])
  | .adminAddUserToGroup username group => known username <|
    pool.modify username fun user =>
      { user with groups := if group ∈ user.groups then user.groups else user.groups ++ [group] }
  | .adminDeleteUser username => known username (pool.remove username)
  | .adminEnableUser username => known username <|
    pool.modify username fun user => { user with enabled := true }
  | .adminDisableUser username => known username <|
    pool.modify username fun user => { user with enabled := false }
where
  known (username : String) (pool' : UserPool) : Except PyError UserPool :=
    match pool.lookup username with
    | some _ => .ok pool'
    | none => .error (.clientError "UserNotFoundException")

/-- The pool after a call that reached it. -/
def after (pool : UserPool) (op : CognitoOp) : UserPool :=
  match pool.apply op with
  | .ok pool' => pool'
  | .error _ => pool

theorem lookup_known {pool pool' : UserPool} {username key : String} {op : CognitoOp}
    (hop : pool.apply op = apply.known pool username pool')
    (f : Option CognitoUser → Option CognitoUser) (hnone : f none = none)
    (h : pool'.lookup key = if key = username then f (pool.lookup username) else pool.lookup key) :
    (pool.after op).lookup key =
      if key = username then f (pool.lookup username) else pool.lookup key := by
  unfold after
  rw [hop]
  unfold apply.known
  cases huser : pool.lookup username with
  | some user =>
    rw [huser] at h
    exact h
  | none =>
    by_cases hkey : key = username <;> simp [hkey, huser, hnone]

theorem lookup_after_delete (pool : UserPool) (username key : String) :
    (pool.after (.adminDeleteUser username)).lookup key =
      if key = username then none else pool.lookup key :=
  lookup_known rfl (fun _ => none) rfl (lookup_dictPop username key pool)

theorem lookup_after_enable (pool : UserPool) (username key : String) (enabled : Bool) :
    (pool.after (if enabled then .adminEnableUser username else .adminDisableUser username)).lookup
        key =
      if key = username then
        (pool.lookup username).map fun user => { user with enabled := enabled }
      else pool.lookup key := by
  cases enabled with
  | true => exact lookup_known rfl (Option.map _) rfl (lookup_modify username key _ pool)
  | false => exact lookup_known rfl (Option.map _) rfl (lookup_modify username key _ pool)

theorem lookup_after_addToGroup (pool : UserPool) (username group : String) {key : String}
    (h : key ≠ username) :
    (pool.after (.adminAddUserToGroup username group)).lookup key = pool.lookup key := by
  have hlookup := @lookup_known pool _ username key (.adminAddUserToGroup username group) rfl
    (Option.map _) rfl (lookup_modify username key _ pool)
  rw [if_neg h] at hlookup
  exact hlookup

/-- Creating an account leaves the accounts there are. -/
theorem lookup_after_create {pool : UserPool} {username key password : String}
    {attributes : List (String × String)} {user : CognitoUser}
    (h : pool.lookup key = some user) :
    (pool.after (.adminCreateUser username attributes password)).lookup key = some user := by
  simp only [after, apply]
  cases pool.lookup username with
  | some _ => exact h
  | none =>
    show List.lookup key (pool ++ _) = _
    rw [List.lookup_append, h, Option.some_or]

end UserPool

/-- KMS under the configured key: ciphertexts are drawn, and decrypt to what was encrypted. -/
structure Kms where
  encrypt : Nat → List UInt8 → List UInt8
  decrypt : List UInt8 → Option (List UInt8)
  decrypt_encrypt : ∀ n plaintext, decrypt (encrypt n plaintext) = some plaintext

structure AppState where
  /-- How many calls were made. -/
  tick : Nat
  rds : Rds
  demoDb : List (String × DemoTable)
  pool : UserPool
  demoPool : List (String × DemoCognitoUser)
  aggregate : List AggregateItem
  /-- The messages sent to the usage queue, with their `tenant_id` attribute. -/
  queue : List (Body × String)
  demoEvents : List Json
  session : Session

structure World where
  /-- Whether the call made at a tick fails, without taking effect. -/
  fault : Nat → AppOp → Option PyError
  mysql : MySql
  kms : Kms
  token : Nat → Json → TokenReply
  exchange : Nat → String → Option String → TokenReply
  jwt : Nat → String → Except PyError Claims
  uuid : Nat → String
  password : Nat → String
  pkcePair : Nat → String × String
  state : Nat → String
  /-- What `set_cookie` raises for a value and a `max_age`, if anything. -/
  cookieError : Json → Option Int → Option PyError
  now : Nat → DateTime
  time : Nat → ℚ
  today : Nat → String
  uuid_ne : ∀ n, uuid n ≠ ""
  now_utc : ∀ n, (now n).utcoffset = some 0

/-- The calls that leave the process and can fail. -/
def AppOp.external : AppOp → Bool
  | demoTable _ | setDemoTable _ _ | demoCognitoUser _ | setDemoCognitoUser _ _ => false
  | recordDemoEvent _ | uuid4 | tempPassword | utcnow | time | today => false
  | generatePkcePair | generateState | setCookie _ _ => false
  -- `pymysql` swallows what goes wrong while closing
  | close | session | setSession _ => false
  | _ => true

namespace World

/-- What a call that does not fail does. -/
def answer (world : World) (s : AppState) : (op : AppOp) → Except PyError op.Res × AppState
  | .connect => (.ok (), { s with rds := s.rds.connect })
  | .select table query => (.ok (world.mysql.select (s.rds.working table) query), s)
  | .selectForUpdate table userId =>
    (.ok (((s.rds.working table).find? fun row => world.mysql.eq row.userId userId).map
      UserRow.userId), s)
  | .countLike table like =>
    (.ok ((s.rds.working table).countP (world.mysql.matchesLike like)), s)
  | .countRoles table => (.ok (MySql.countRoles (s.rds.working table)), s)
  | .write table statement =>
    match world.mysql.apply (s.rds.working table) statement with
    | .ok (count, rows) =>
      (.ok count, { s with rds := { s.rds with working := Rds.setTable s.rds.working table rows } })
    | .error e => (.error e, s)
  | .commit => (.ok (), { s with rds := s.rds.commit })
  | .rollback => (.ok (), { s with rds := s.rds.discard })
  | .close => (.ok (), { s with rds := s.rds.discard })
  | .demoTable tenant => (.ok (s.demoDb.lookup tenant), s)
  | .setDemoTable tenant rows => (.ok (), { s with demoDb := dictSet tenant rows s.demoDb })
  | .cognito op =>
    match s.pool.apply op with
    | .ok pool => (.ok (), { s with pool := pool })
    | .error e => (.error e, s)
  | .changePassword _ _ _ => (.ok (), s)
  | .tokenRequest refreshToken => (.ok (world.token s.tick refreshToken), s)
  | .exchangeCode code codeVerifier => (.ok (world.exchange s.tick code codeVerifier), s)
  | .decodeJwt token => (world.jwt s.tick token, s)
  | .demoCognitoUser username => (.ok (s.demoPool.lookup username), s)
  | .setDemoCognitoUser username (some user) =>
    (.ok (), { s with demoPool := dictSet username user s.demoPool })
  | .setDemoCognitoUser username none =>
    (.ok (), { s with demoPool := dictPop username s.demoPool })
  | .kmsEncrypt plaintext => (.ok (world.kms.encrypt s.tick plaintext), s)
  | .kmsDecrypt blob =>
    match world.kms.decrypt blob with
    | some plaintext => (.ok plaintext, s)
    | none => (.error (.clientError "InvalidCiphertextException"), s)
  | .queryAggregates pk => (.ok (s.aggregate.filter fun item => item.pk == pk), s)
  | .sendMessage body tenantAttribute =>
    (.ok (), { s with queue := s.queue ++ [(body, tenantAttribute)] })
  | .recordDemoEvent event => (.ok (), { s with demoEvents := s.demoEvents ++ [event] })
  | .uuid4 => (.ok (world.uuid s.tick), s)
  | .tempPassword => (.ok (world.password s.tick), s)
  | .generatePkcePair => (.ok (world.pkcePair s.tick), s)
  | .generateState => (.ok (world.state s.tick), s)
  | .utcnow => (.ok (world.now s.tick), s)
  | .time => (.ok (world.time s.tick), s)
  | .today => (.ok (world.today s.tick), s)
  | .session => (.ok s.session, s)
  | .setSession session => (.ok (), { s with session := session })
  | .setCookie value maxAge =>
    ((match world.cookieError value maxAge with
      | some e => .error e
      | none => .ok ()), s)

/-- The failure the environment chose for a call, if any. -/
def failure (world : World) (s : AppState) (op : AppOp) : Option PyError :=
  if op.external then world.fault s.tick op else none

def exec (world : World) (s : AppState) (op : AppOp) : Except PyError op.Res × AppState :=
  match world.failure s op with
  | some e => (.error e, { s with tick := s.tick + 1 })
  | none => ((world.answer s op).1, { (world.answer s op).2 with tick := s.tick + 1 })

/-- Run application code in a world. -/
abbrev run {α : Type} (world : World) (p : App α) (s : AppState) : Except PyError α × AppState :=
  Prog.run world.exec p s

section Run

variable {world : World} {s : AppState} {op : AppOp}

theorem failure_of_internal (h : op.external = false) : world.failure s op = none := by
  simp [failure, h]

theorem exec_of_failure {e : PyError} (h : world.failure s op = some e) :
    world.exec s op = (.error e, { s with tick := s.tick + 1 }) := by
  rw [exec, h]

theorem exec_of_answer (h : world.failure s op = none) :
    world.exec s op =
      ((world.answer s op).1, { (world.answer s op).2 with tick := s.tick + 1 }) := by
  rw [exec, h]

/-- A call that returns did not fail. -/
theorem answer_of_exec {a : op.Res} {t : AppState} (h : world.exec s op = (.ok a, t)) :
    world.failure s op = none ∧ (world.answer s op).1 = .ok a ∧
      t = { (world.answer s op).2 with tick := s.tick + 1 } := by
  cases hfailure : world.failure s op with
  | some e =>
    rw [exec_of_failure hfailure] at h
    cases h
  | none =>
    rw [exec_of_answer hfailure] at h
    obtain ⟨hok, hstate⟩ := Prod.mk.inj h
    exact ⟨rfl, hok, hstate.symm⟩

theorem exec_cognito (op : CognitoOp) (s : AppState) :
    (world.exec s (.cognito op)).2 =
      { s with
        pool := if world.failure s (.cognito op) = none then s.pool.after op else s.pool
        tick := s.tick + 1 } := by
  cases hfailure : world.failure s (.cognito op) with
  | some e => rw [exec_of_failure hfailure, if_neg (by simp)]
  | none =>
    rw [exec_of_answer hfailure, if_pos rfl]
    simp only [answer, UserPool.after]
    cases s.pool.apply op <;> rfl

theorem run_perform (op : AppOp) (s : AppState) : world.run (perform op) s = world.exec s op :=
  Prog.run_perform world.exec op s

theorem run_bind_eq_ok {α β : Type} {p : App α} {f : α → App β} {b : β} {s' : AppState} :
    world.run (p >>= f) s = (.ok b, s') ↔
      ∃ a t, world.run p s = (.ok a, t) ∧ world.run (f a) t = (.ok b, s') :=
  Prog.run_bind_eq_ok world.exec

theorem run_tryCatch_eq_ok {α : Type} {p : App α} {handler : PyError → App α} {a : α}
    {s' : AppState} :
    world.run (tryCatch p handler) s = (.ok a, s') ↔
      world.run p s = (.ok a, s') ∨
        ∃ e t, world.run p s = (.error e, t) ∧ world.run (handler e) t = (.ok a, s') :=
  Prog.run_handle_eq_ok world.exec

/-- Reading the session first. -/
theorem run_session_bind {α : Type} (f : Session → App α) (s : AppState) :
    world.run (perform .session >>= f) s = world.run (f s.session) { s with tick := s.tick + 1 } :=
  rfl

/-- The run of a sequence whose first part succeeds. -/
theorem run_bind_ok {α β : Type} {p : App α} {f : α → App β} {a : α} {s' : AppState}
    (h : world.run p s = (.ok a, s')) : world.run (p >>= f) s = world.run (f a) s' := by
  rw [run] at h ⊢
  rw [Prog.bind_def, Prog.run_bind, h]

theorem run_bind_error {α β : Type} {p : App α} {f : α → App β} {e : PyError} {s' : AppState}
    (h : world.run p s = (.error e, s')) : world.run (p >>= f) s = (.error e, s') := by
  rw [run] at h ⊢
  rw [Prog.bind_def, Prog.run_bind, h]

/-- A handler is not entered when nothing is raised. -/
theorem run_tryCatch_ok {α : Type} {p : App α} {handler : PyError → App α} {a : α}
    {s' : AppState} (h : world.run p s = (.ok a, s')) :
    world.run (tryCatch p handler) s = (.ok a, s') := by
  rw [run] at h ⊢
  rw [Prog.tryCatch_def, Prog.run_handle, h]

theorem run_tryCatch_error {α : Type} {p : App α} {handler : PyError → App α} {e : PyError}
    {s' : AppState} (h : world.run p s = (.error e, s')) :
    world.run (tryCatch p handler) s = world.run (handler e) s' := by
  rw [run] at h ⊢
  rw [Prog.tryCatch_def, Prog.run_handle, h]

theorem trace_session_bind {α : Type} (f : Session → App α) (s : AppState) :
    Prog.trace world.exec (perform .session >>= f) s =
      ⟨.session, .ok s.session⟩ :: Prog.trace world.exec (f s.session)
        { s with tick := s.tick + 1 } := rfl

theorem run_time_bind {α : Type} (f : ℚ → App α) (s : AppState) :
    world.run (perform .time >>= f) s = world.run (f (world.time s.tick))
      { s with tick := s.tick + 1 } := rfl

theorem trace_time_bind {α : Type} (f : ℚ → App α) (s : AppState) :
    Prog.trace world.exec (perform .time >>= f) s =
      ⟨.time, .ok (world.time s.tick)⟩ :: Prog.trace world.exec (f (world.time s.tick))
        { s with tick := s.tick + 1 } := rfl

end Run

end World

theorem run_flash {world : World} (message category : String) (s : AppState) :
    world.run (flash message category) s =
      (.ok (), { s with
        session := { s.session with flashes := s.session.flashes ++ [(category, message)] }
        tick := s.tick + 2 }) := rfl

/-! ## A quiet world -/

/-- A world in which nothing fails; its KMS marks a ciphertext by one byte. -/
def quietWorld : World where
  fault _ _ := none
  mysql := ⟨id, fun value pattern => value == pattern, fun a b => decide (a ≤ b)⟩
  kms :=
    { encrypt := fun _ plaintext => 0 :: plaintext
      decrypt := List.tail?
      decrypt_encrypt := fun _ _ => rfl }
  token _ _ := .unreachable
  exchange _ _ _ := .unreachable
  jwt _ _ := .error (.invalidTokenError "Not enough segments")
  uuid n := String.ofList (PyStr.pad 8 n)
  password _ := "Abcdefgh1234!?"
  pkcePair n := (String.ofList (PyStr.pad 86 n), "challenge")
  state n := String.ofList (PyStr.pad 43 n)
  cookieError _ _ := none
  now _ := sampleTime
  time _ := 0
  today _ := "2026-08-01"
  uuid_ne := by
    intro n h
    have hlength := congrArg (fun s => s.toList.length) h
    simp at hlength
  now_utc _ := rfl

def emptyState : AppState where
  tick := 0
  rds := ⟨fun _ => [], fun _ => []⟩
  demoDb := []
  pool := []
  demoPool := []
  aggregate := []
  queue := []
  demoEvents := []
  session := .cleared

end TenantSaas
