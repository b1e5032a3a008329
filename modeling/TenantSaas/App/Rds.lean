import TenantSaas.App.Op

/-!
# The tenant tables

What MySQL does with the statements of `rds_service.py` on one table of the schema in
`database.py`.  The column collation is a parameter: `collate` sends equal values to equal
texts, `like` matches patterns, `le` is the order of `ORDER BY`.
-/

namespace TenantSaas

structure MySql where
  collate : String → String
  like : String → String → Bool
  le : String → String → Bool

abbrev Table := List UserRow

namespace UserRow

/-- The column defaults of the schema (`database.py:18-30`). -/
def withDefaults (userId username email role : String) : UserRow :=
  ⟨userId, username, email, role, some "", some "", some "", true, none, true⟩

/-- One assignment of a `SET` clause, and one item of `record.update(fields)`. -/
def set (row : UserRow) (column value : String) : UserRow :=
  if column = "username" then { row with username := value }
  else if column = "email" then { row with email := value }
  else if column = "phone" then { row with phone := some value }
  else if column = "department" then { row with department := some value }
  else if column = "profile_image" then { row with profileImage := some value }
  else row

def setAll (row : UserRow) : List (String × String) → UserRow
  | [] => row
  | field :: fields => (row.set field.1 field.2).setAll fields

/-- The `VARCHAR` bounds and the `ENUM` of the schema. -/
def fits (row : UserRow) : Bool :=
  decide (row.userId.length ≤ 64) && decide (row.username.length ≤ 128) &&
    decide (row.email.length ≤ 255) && (row.role == "admin" || row.role == "user") &&
    decide ((row.phone.getD "").length ≤ 64) && decide ((row.department.getD "").length ≤ 128) &&
    decide ((row.profileImage.getD "").length ≤ 255)

end UserRow

namespace MySql

variable (mysql : MySql)

/-- `a = b` under the column's collation. -/
def eq (a b : String) : Bool := mysql.collate a == mysql.collate b

def matchesLike (pattern : String) (row : UserRow) : Bool :=
  mysql.like row.username pattern || mysql.like row.email pattern

def select (rows : Table) : RowQuery → List UserRow
  | .byUserId userId => rows.filter fun row => mysql.eq row.userId userId
  | .byUsername username => rows.filter fun row => mysql.eq row.username username
  | .page like size offset =>
    (((rows.filter (mysql.matchesLike like)).mergeSort
      fun r r' => mysql.le r.username r'.username).drop offset).take size

def countRoles (rows : Table) : List RoleCount :=
  ((rows.map fun row => (row.role, row.enabled)).dedup).map fun key =>
    ⟨key.1, key.2, rows.countP fun row => (row.role, row.enabled) == key⟩

/-- Neither key of `row` occurs in the table. -/
def fresh (rows : Table) (row : UserRow) : Bool :=
  rows.all fun r => !mysql.eq r.userId row.userId && !mysql.eq r.username row.username

/-- Replace every row with the given key; the count is that of rows whose values change. -/
def updateWhere (rows : Table) (userId : String) (f : UserRow → UserRow) : Nat × Table :=
  (rows.countP fun row => mysql.eq row.userId userId && f row != row,
    rows.map fun row => if mysql.eq row.userId userId then f row else row)

/-- The key `username` is unique. -/
def uniqueUsernames : Table → Bool
  | [] => true
  | row :: rows =>
    (rows.all fun r => !mysql.eq r.username row.username) && uniqueUsernames rows

/-- A statement on one table: its row count and the table after it. -/
def apply (rows : Table) : RowWrite → Except PyError (Nat × Table)
  | .insert row =>
    if !row.fits then .error (.mysqlError "DataError")
    else if mysql.fresh rows row then .ok (1, rows ++ [row])
    else .error (.mysqlError "IntegrityError")
  | .updateProfile userId fields =>
    let result := mysql.updateWhere rows userId fun row => row.setAll fields
    if !result.2.all UserRow.fits then .error (.mysqlError "DataError")
    else if mysql.uniqueUsernames result.2 then .ok result
    else .error (.mysqlError "IntegrityError")
  | .updateEnabled userId enabled =>
    .ok (mysql.updateWhere rows userId fun row => { row with enabled := enabled })
  | .updatePasswordChanged userId today =>
    .ok (mysql.updateWhere rows userId fun row =>
      { row with passwordLastChanged := some today, firstLogin := false })
  | .delete userId =>
    .ok (rows.countP fun row => mysql.eq row.userId userId,
      rows.filter fun row => !mysql.eq row.userId userId)

end MySql

/-- The database as one connection sees it: what is committed, and the open transaction. -/
structure Rds where
  committed : TenantTable → Table
  working : TenantTable → Table

namespace Rds

def setTable (tables : TenantTable → Table) (table : TenantTable) (rows : Table) :
    TenantTable → Table :=
  fun t => if t = table then rows else tables t

/-- A new connection starts from what is committed. -/
def connect (rds : Rds) : Rds := { rds with working := rds.committed }
def commit (rds : Rds) : Rds := { rds with committed := rds.working }
/-- `rollback()` and `close()` drop the open transaction. -/
def discard (rds : Rds) : Rds := { rds with working := rds.committed }

@[simp] theorem setTable_self (tables : TenantTable → Table) (table : TenantTable) (rows : Table) :
    setTable tables table rows table = rows := if_pos rfl

theorem setTable_other (tables : TenantTable → Table) {table t : TenantTable} (h : t ≠ table)
    (rows : Table) : setTable tables table rows t = tables t := if_neg h

end Rds

end TenantSaas
