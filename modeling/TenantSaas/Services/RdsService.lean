import TenantSaas.App.Rds

/-!
# Access to the tenant tables

`services/rds_service.py`: every function takes the tenant, looks its table up in the
whitelist, and opens one connection.
-/

namespace TenantSaas

/-- `_table_for_tenant` (`rds_service.py:58-64`) -/
def tableForTenant (tenant : String) : Except PyError TenantTable :=
  if tenant = "TenantA" then .ok .tenantA
  else if tenant = "TenantB" then .ok .tenantB
  else .error (.valueError ("Unknown or disallowed tenant: '" ++ tenant ++ "'"))

/-- `conn = get_connection()`, then `try: body finally: conn.close()`. -/
def withConnection {α : Type} (body : App α) : App α := do
  perform .connect
  Prog.finally' body (perform .close)

/-- The functions that write: commit at the end, roll back and re-raise on any exception. -/
def transaction {α : Type} (body : App α) : App α :=
  withConnection <| tryCatch
    (do
      let a ← body
      perform .commit
      pure a)
    (fun e => do
      perform .rollback
      throw e)

/-- `_demo_db.get(tenant, {})` -/
def demoRows (tenant : String) : App DemoTable := do
  let rows ← perform (.demoTable tenant)
  pure (rows.getD [])

/-- `_demo_db.get(tenant, {}).get(user_id)`, changed in place when it is there. -/
def changeDemoRow (tenant userId : String) (f : UserRow → UserRow) : App Unit := do
  let rows ← demoRows tenant
  match rows.lookup userId with
  | none => pure ()
  | some row => perform (.setDemoTable tenant (dictSet userId (f row) rows))

/-- `get_user_by_id` (`rds_service.py:83-109`) -/
def getUserById (config : Config) (tenant userId : String) : App (Option UserRow) := do
  let table ← Prog.ofExcept (tableForTenant tenant)
  if config.demoMode then do
    let rows ← demoRows tenant
    pure (rows.lookup userId)
  else if userId = "" then pure none
  else withConnection do
    let rows ← perform (.select table (.byUserId userId))
    pure rows.head?

/-- `get_user_by_username` (`rds_service.py:112-142`) -/
def getUserByUsername (config : Config) (tenant : String) (username : Option String) :
    App (Option UserRow) := do
  let table ← Prog.ofExcept (tableForTenant tenant)
  if config.demoMode then do
    let rows ← demoRows tenant
    pure ((rows.map Prod.snd).find? fun row => some row.username == username)
  else
    match username with
    | none => pure none
    | some username =>
      if username = "" then pure none
      else withConnection do
        let rows ← perform (.select table (.byUsername username))
        pure rows.head?

/-- What `list_users` returns. -/
structure UserList where
  rows : List UserRow
  total : Nat
  page : Nat
  pageSize : Nat
  totalPages : Nat
  admins : Nat
  users : Nat
  active : Nat
  disabled : Nat

/-- `max(1, (total + page_size - 1) // page_size)` -/
def totalPages (total pageSize : Nat) : Nat := max 1 ((total + pageSize - 1) / pageSize)

/-- The sum of the counts a condition selects. -/
def sumCounts (agg : List RoleCount) (p : RoleCount → Bool) : Nat :=
  ((agg.filter p).map RoleCount.cnt).sum

/-- `list_users` (`rds_service.py:145-200`); `lower` is `str.lower`. -/
def listUsers (config : Config) (lower : String → String) (tenant search : String)
    (page pageSize : Nat) : App UserList :=
  if config.demoMode then do
    let entries ← demoRows tenant
    let all := entries.map Prod.snd
    let found (row : UserRow) : Bool :=
      PyStr.contains (lower row.username) (lower search) ||
        PyStr.contains (lower row.email) (lower search)
    let rows := if search = "" then all else all.filter found
    pure {
      rows := (rows.drop ((page - 1) * pageSize)).take pageSize
      total := rows.length
      page := page
      pageSize := pageSize
      totalPages := totalPages rows.length pageSize
      admins := all.countP fun row => row.role == "admin"
      users := all.countP fun row => row.role == "user"
      active := all.countP fun row => row.enabled
      disabled := all.countP fun row => !row.enabled }
  else do
    let table ← Prog.ofExcept (tableForTenant tenant)
    let likeTerm := "%" ++ search ++ "%"
    withConnection do
      let total ← perform (.countLike table likeTerm)
      let rows ← perform (.select table (.page likeTerm pageSize ((page - 1) * pageSize)))
      let agg ← perform (.countRoles table)
      pure {
        rows := rows
        total := total
        page := page
        pageSize := pageSize
        totalPages := totalPages total pageSize
        admins := sumCounts agg fun row => row.role == "admin"
        users := sumCounts agg fun row => row.role != "admin"
        active := sumCounts agg fun row => row.enabled
        disabled := sumCounts agg fun row => !row.enabled }

/-- `_EDITABLE_PROFILE_FIELDS` (`rds_service.py:35`) -/
def editableProfileFields : List String :=
  ["username", "email", "phone", "department", "profile_image"]

/-- `{k: v for k, v in fields.items() if k in _EDITABLE_PROFILE_FIELDS}` -/
def editable (fields : List (String × String)) : List (String × String) :=
  fields.filter fun field => editableProfileFields.contains field.1

/-- A record of `_demo_db` as `upsert_user_profile` and `create_user_record` build it. -/
def newDemoRow (userId username email role : String) : UserRow :=
  ⟨userId, username, email, role, some "", some "", none, true, some "-", true⟩

/-- `f"{statement} affected 0 rows for user_id={user_id!r} tenant={tenant!r}"` -/
def affectedNothing (statement userId tenant : String) : PyError :=
  .runtimeError
    (statement ++ " affected 0 rows for user_id='" ++ userId ++ "' tenant='" ++ tenant ++ "'")

/-- `upsert_user_profile` (`rds_service.py:203-293`) -/
def upsertUserProfile (config : Config) (tenant userId : String) (fields : List (String × String))
    (role : String) : App Unit := do
  let fields := editable fields
  if config.demoMode then do
    let rows ← demoRows tenant
    let record := (rows.lookup userId).getD
      (newDemoRow userId ((fields.lookup "username").getD userId)
        ((fields.lookup "email").getD "") role)
    perform (.setDemoTable tenant (dictSet userId (record.setAll fields) rows))
  else do
    let table ← Prog.ofExcept (tableForTenant tenant)
    transaction do
      let existing ← perform (.selectForUpdate table userId)
      match existing with
      | some _ =>
        if fields = [] then pure ()
        else do
          let rowcount ← perform (.write table (.updateProfile userId fields))
          if rowcount = 0 then throw (affectedNothing "UPDATE" userId tenant) else pure ()
      | none => do
        let row := (UserRow.withDefaults userId userId "" role).setAll fields
        let rowcount ← perform (.write table (.insert row))
        if rowcount = 0 then throw (affectedNothing "INSERT" userId tenant) else pure ()

/-- `create_user_record` (`rds_service.py:296-323`) -/
def createUserRecord (config : Config) (tenant userId username email role : String) : App Unit :=
  if config.demoMode then do
    let rows ← demoRows tenant
    perform (.setDemoTable tenant (dictSet userId (newDemoRow userId username email role) rows))
  else do
    let table ← Prog.ofExcept (tableForTenant tenant)
    transaction do
      let _ ← perform (.write table (.insert (UserRow.withDefaults userId username email role)))
      pure ()

/-- `delete_user_record` (`rds_service.py:326-356`) -/
def deleteUserRecord (config : Config) (tenant userId : String) (hardDelete : Bool) : App Unit :=
  if config.demoMode then
    if hardDelete then do
      let rows ← perform (.demoTable tenant)
      match rows with
      | none => pure ()
      | some rows => perform (.setDemoTable tenant (dictPop userId rows))
    else changeDemoRow tenant userId fun row => { row with enabled := false }
  else do
    let table ← Prog.ofExcept (tableForTenant tenant)
    transaction do
      let _ ← perform (.write table
        (if hardDelete then .delete userId else .updateEnabled userId false))
      pure ()

/-- `set_user_enabled` (`rds_service.py:358-377`) -/
def setUserEnabled (config : Config) (tenant userId : String) (enabled : Bool) : App Unit :=
  if config.demoMode then changeDemoRow tenant userId fun row => { row with enabled := enabled }
  else do
    let table ← Prog.ofExcept (tableForTenant tenant)
    transaction do
      let _ ← perform (.write table (.updateEnabled userId enabled))
      pure ()

/-- `mark_password_changed` (`rds_service.py:380-410`) -/
def markPasswordChanged (config : Config) (tenant userId : String) : App Unit := do
  let today ← perform .today
  if config.demoMode then
    changeDemoRow tenant userId fun row =>
      { row with passwordLastChanged := some today, firstLogin := false }
  else do
    let table ← Prog.ofExcept (tableForTenant tenant)
    transaction do
      let _ ← perform (.write table (.updatePasswordChanged userId today))
      pure ()

/-! ## The calls stay with the tenant -/

/-- A statement on the tenant's table, or a call that names no table. -/
def AppOp.OnTenant (tenant : String) : AppOp → Prop
  | connect | commit | rollback | close | today => True
  | select table _ | selectForUpdate table _ | countLike table _ | countRoles table
  | write table _ => tableForTenant tenant = .ok table
  | demoTable t | setDemoTable t _ => t = tenant
  | _ => False

section Calls

variable {α : Type} {config : Config} {tenant : String}

theorem withConnection_calls {body : App α} (h : body.Calls (AppOp.OnTenant tenant)) :
    (withConnection body).Calls (AppOp.OnTenant tenant) :=
  Prog.Calls.bind (perform_calls trivial) fun _ =>
    Prog.Calls.finally' h (perform_calls trivial)

theorem transaction_calls {body : App α} (h : body.Calls (AppOp.OnTenant tenant)) :
    (transaction body).Calls (AppOp.OnTenant tenant) := by
  apply withConnection_calls
  apply Prog.Calls.handle
  · exact Prog.Calls.bind h fun _ => Prog.Calls.bind (perform_calls trivial) fun _ => trivial
  · exact fun _ => Prog.Calls.bind (perform_calls trivial) fun _ => trivial

/-- One statement in a transaction on the tenant's table. -/
theorem write_calls {table : TenantTable} (h : tableForTenant tenant = .ok table)
    (statement : RowWrite) :
    (transaction do
      let _ ← perform (.write table statement)
      pure ()).Calls (AppOp.OnTenant tenant) :=
  transaction_calls (Prog.Calls.bind (perform_calls h) fun _ => trivial)

theorem demoRows_calls : (demoRows tenant).Calls (AppOp.OnTenant tenant) :=
  Prog.Calls.bind (perform_calls rfl) fun _ => trivial

theorem changeDemoRow_calls (userId : String) (f : UserRow → UserRow) :
    (changeDemoRow tenant userId f).Calls (AppOp.OnTenant tenant) := by
  refine Prog.Calls.bind demoRows_calls fun rows => ?_
  cases rows.lookup userId with
  | none => trivial
  | some row => exact perform_calls rfl

theorem getUserByUsername_calls (username : Option String) :
    (getUserByUsername config tenant username).Calls (AppOp.OnTenant tenant) := by
  refine Prog.Calls.ofExcept_bind fun table htable => ?_
  split
  · exact Prog.Calls.bind demoRows_calls fun _ => trivial
  cases username with
  | none => trivial
  | some username =>
    show Prog.Calls _ (if _ then _ else _)
    split
    · trivial
    · exact withConnection_calls (Prog.Calls.bind (perform_calls htable) fun _ => trivial)

theorem upsertUserProfile_calls (userId : String) (fields : List (String × String))
    (role : String) :
    (upsertUserProfile config tenant userId fields role).Calls (AppOp.OnTenant tenant) := by
  unfold upsertUserProfile
  split
  · exact Prog.Calls.bind demoRows_calls fun _ => perform_calls rfl
  · refine Prog.Calls.ofExcept_bind fun table htable => transaction_calls ?_
    refine Prog.Calls.bind (perform_calls htable) fun existing => ?_
    cases existing with
    | some _ =>
      show Prog.Calls _ (if _ then _ else _)
      split
      · trivial
      · refine Prog.Calls.bind (perform_calls htable) fun rowcount => ?_
        split <;> trivial
    | none =>
      refine Prog.Calls.bind (perform_calls htable) fun rowcount => ?_
      split <;> trivial

theorem createUserRecord_calls (userId username email role : String) :
    (createUserRecord config tenant userId username email role).Calls
      (AppOp.OnTenant tenant) := by
  unfold createUserRecord
  split
  · exact Prog.Calls.bind demoRows_calls fun _ => perform_calls rfl
  · exact Prog.Calls.ofExcept_bind fun table htable => write_calls htable _

theorem deleteUserRecord_calls (userId : String) (hardDelete : Bool) :
    (deleteUserRecord config tenant userId hardDelete).Calls (AppOp.OnTenant tenant) := by
  unfold deleteUserRecord
  split
  · split
    · refine Prog.Calls.bind (perform_calls rfl) fun rows => ?_
      cases rows with
      | none => trivial
      | some rows => exact perform_calls rfl
    · exact changeDemoRow_calls userId _
  · exact Prog.Calls.ofExcept_bind fun table htable => write_calls htable _

theorem setUserEnabled_calls (userId : String) (enabled : Bool) :
    (setUserEnabled config tenant userId enabled).Calls (AppOp.OnTenant tenant) := by
  unfold setUserEnabled
  split
  · exact changeDemoRow_calls userId _
  · exact Prog.Calls.ofExcept_bind fun table htable => write_calls htable _

theorem markPasswordChanged_calls (userId : String) :
    (markPasswordChanged config tenant userId).Calls (AppOp.OnTenant tenant) := by
  refine Prog.Calls.bind (perform_calls trivial) fun today => ?_
  split
  · exact changeDemoRow_calls userId _
  · exact Prog.Calls.ofExcept_bind fun table htable => write_calls htable _

end Calls

end TenantSaas
