import TenantSaas.Metering.Tables

/-!
# The billing Lambda

`lambda-billing.py` as a program over its database connection, and the connection itself:
a transaction over the committed `tenant_usage` rows, closed for good by `close`.
-/

namespace TenantSaas

open PyDateTime

namespace LambdaBilling

/-- What a column of the statement is bound to. -/
inductive SqlValue where
  | json (value : Json)
  | datetime (value : DateTime)

/-- A row of `tenant_usage`, and the `values` of the statement. -/
structure UsageRecord where
  eventId : Json
  tenantId : Json
  userId : Json
  action : Json
  apiPath : Json
  httpMethod : Json
  statusCode : Json
  usageUnits : Json
  createdAt : SqlValue

/-- What the Lambda asks of its surroundings. -/
inductive Op where
  /-- `get_db_connection()`, with the secret it reads -/
  | connect
  /-- `cursor.execute(sql, values)` -/
  | execute (values : UsageRecord)
  | commit
  | closeCursor
  | close
  | rollback
  /-- `datetime.now(timezone.utc)` -/
  | utcnow

abbrev Op.Res : Op → Type
  | .utcnow => DateTime
  | _ => Unit

abbrev Code := Prog Op.Res PyError

abbrev perform (op : Op) : Code op.Res := Prog.perform op

/-! ## The program -/

/-- `values` (`lambda-billing.py:83-93`) -/
def usageValues (data : Json) : Code UsageRecord := do
  let eventId ← Prog.ofExcept (data.getItem "event_id")
  let tenantId ← Prog.ofExcept (data.dictGet "tenant_id" .null)
  let userId ← Prog.ofExcept (data.dictGet "user_id" .null)
  let action ← Prog.ofExcept (data.dictGet "action" .null)
  let apiPath ← Prog.ofExcept (data.dictGet "api_path" .null)
  let httpMethod ← Prog.ofExcept (data.dictGet "http_method" .null)
  let statusCode ← Prog.ofExcept (data.dictGet "status_code" .null)
  let usageUnits ← Prog.ofExcept (data.dictGet "usage_units" (.int 1))
  let createdAt ← Prog.ofExcept (data.dictGet "created_at" .null)
  let record : SqlValue → UsageRecord :=
    .mk eventId tenantId userId action apiPath httpMethod statusCode usageUnits
  if createdAt.truthy then pure (record (.json createdAt))
  else do
    let now ← perform .utcnow
    pure (record (.datetime now))

/-- The first block, between the connection and its `except` (`lambda-billing.py:63-101`). -/
def insertAndClose (data : Json) : Code UsageRecord := do
  let values ← usageValues data
  perform (.execute values)
  perform .commit
  perform .closeCursor
  perform .close
  pure values

/-- The `except` of the first block (`lambda-billing.py:103-111`). -/
def abandon (e : PyError) : Code UsageRecord := do
  perform .rollback
  perform .close
  throw e

/-- The second block (`lambda-billing.py:114-122`). -/
def insertAgain (values : UsageRecord) : Code Unit :=
  tryCatch
    (do
      perform (.execute values)
      perform .commit)
    (fun e => do
      perform .rollback
      throw e)

/-- `insert_usage_record` (`lambda-billing.py:55-122`) -/
def insertUsageRecord (data : Json) : Code Unit := do
  -- when this raises, `conn` is still `None` and the `except` only re-raises
  perform .connect
  let values ← tryCatch (insertAndClose data) abandon
  insertAgain values

/-- `required_fields` (`lambda-billing.py:136-145`) -/
def requiredFields : List String :=
  ["event_id", "tenant_id", "user_id", "action", "api_path", "http_method", "status_code",
    "usage_units"]

/-- `[field for field in required_fields if field not in data]` -/
def absentFields (data : Json) : List String → Except PyError (List String)
  | [] => .ok []
  | field :: fields => do
    let there ← data.contains field
    let rest ← absentFields data fields
    return if there then rest else field :: rest

/-- The check of `lambda_handler` before the insert (`lambda-billing.py:134-155`). -/
def readData (record : Record) : Except PyError Json := do
  let data ← record.body.loads
  let missing ← absentFields data requiredFields
  if missing = [] then return data
  else throw (.valueError ("Missing required fields: " ++ formatNames missing))

/-- One pass of the loop of `lambda_handler` (`lambda-billing.py:129-173`). -/
def handleRecord (record : Record) : Code (List String) :=
  tryCatch
    (do
      let data ← Prog.ofExcept (readData record)
      insertUsageRecord data
      pure [])
    (fun _ => pure [record.messageId])

/-- `lambda_handler` (`lambda-billing.py:125-177`): the `itemIdentifier`s of
`batchItemFailures`. -/
def lambdaHandler : List Record → Code (List String)
  | [] => pure []
  | record :: records => do
    let failed ← handleRecord record
    let rest ← lambdaHandler records
    pure (failed ++ rest)

/-! ## The database -/

/-- The committed table, and the rows as the open transaction of the one connection sees
them.  `tick` counts the statements sent. -/
structure State where
  table : List UsageRecord
  working : List UsageRecord
  isOpen : Bool
  tick : Nat

/-- How each statement ends, what the clock says, and the value of `event_id` the unique
key compares. -/
structure World where
  outcome : Nat → Outcome
  clock : Nat → DateTime
  eventKey : Json → String

/-- What `pymysql` raises on a statement over a closed connection. -/
def interfaceError : PyError := .mysqlError "InterfaceError"

/-- What `pymysql` raises when a connection is closed twice. -/
def alreadyClosed : PyError := .mysqlError "Error"

namespace World

variable (w : World)

/-- A row with the unique key of `id` is among `rows`. -/
def holds (rows : List UsageRecord) (id : Json) : Bool :=
  rows.any fun row => w.eventKey row.eventId == w.eventKey id

/-- `INSERT … ON DUPLICATE KEY UPDATE event_id = event_id` -/
def insert (rows : List UsageRecord) (values : UsageRecord) : List UsageRecord :=
  if w.holds rows values.eventId then rows else rows ++ [values]

/-- A statement that leads to `done` when it takes effect. -/
def attempt (s done : State) : Except PyError Unit × State :=
  match w.outcome s.tick with
  | .success => (.ok (), { done with tick := s.tick + 1 })
  | .before e => (.error e, { s with tick := s.tick + 1 })
  | .after e => (.error e, { done with tick := s.tick + 1 })

def onConnection (s done : State) : Except PyError Unit × State :=
  if s.isOpen then w.attempt s done else (.error interfaceError, s)

/-- `close` drops an open transaction and sends nothing that could fail. -/
def exec (s : State) : (op : Op) → Except PyError op.Res × State
  | .connect => w.attempt s { s with working := s.table, isOpen := true }
  | .execute values => w.onConnection s { s with working := w.insert s.working values }
  | .commit => w.onConnection s { s with table := s.working }
  | .rollback => w.onConnection s { s with working := s.table }
  | .closeCursor => (.ok (), s)
  | .close =>
    if s.isOpen then (.ok (), { s with working := s.table, isOpen := false })
    else (.error alreadyClosed, s)
  | .utcnow => (.ok (w.clock s.tick), s)

abbrev run {α : Type} (p : Code α) (s : State) : Except PyError α × State := p.run w.exec s

end World

end LambdaBilling

end TenantSaas
