import Mathlib.Algebra.BigOperators.Group.Multiset.Basic
import TenantSaas.Misc.Pool
import TenantSaas.Metering.Handler

/-!
# The usage ledger and the monthly aggregate

The two DynamoDB tables under the Lambda's two calls.  Each call is atomic; it may report
a failure before or after it took effect.  Invocations of the handler run concurrently as
the threads of a pool.
-/

namespace TenantSaas

/-- An item of the aggregate table. -/
structure AggregateItem where
  pk : String
  sk : String
  requestCount : Int
  usageUnits : Int
  tenantId : Json
  billingMonth : String

structure Tables where
  ledger : List LedgerItem
  aggregate : List AggregateItem

namespace Tables

def empty : Tables := ⟨[], []⟩

/-- A row with the key of `item` exists. -/
def holds (tables : Tables) (item : LedgerItem) : Bool :=
  tables.ledger.any fun row => row.pk == item.pk && row.sk == item.sk

end Tables

namespace AggregateItem

def hasKey (pk sk : String) (item : AggregateItem) : Bool := item.pk == pk && item.sk == sk

/-- `ADD` and `SET` on an existing item. -/
def add (item : AggregateItem) (update : AggregateUpdate) : AggregateItem :=
  { item with
    requestCount := item.requestCount + update.one
    usageUnits := item.usageUnits + update.units
    tenantId := update.tenantId
    billingMonth := update.billingMonth }

/-- `ADD` and `SET` on a missing item count from zero. -/
def create (update : AggregateUpdate) : AggregateItem :=
  ⟨update.pk, update.sk, update.one, update.units, update.tenantId, update.billingMonth⟩

end AggregateItem

/-- `update_item`: the item with the key is changed, or created. -/
def applyUpdate (update : AggregateUpdate) : List AggregateItem → List AggregateItem
  | [] => [.create update]
  | item :: items =>
    if item.hasKey update.pk update.sk then item.add update :: items
    else item :: applyUpdate update items

/-- What the two calls do when nothing fails; the put is conditional on a fresh key. -/
def applyOp (tables : Tables) : DynamoOp → Except PyError Unit × Tables
  | .putItem item =>
    if tables.holds item then (.error conditionalCheckFailed, tables)
    else (.ok (), { tables with ledger := tables.ledger ++ [item] })
  | .updateItem update =>
    (.ok (), { tables with aggregate := applyUpdate update tables.aggregate })

/-- How one call ends.  The reported error is arbitrary: a retry inside the client library
can report even a failed condition for a put that took effect. -/
inductive Outcome where
  | success
  /-- The call fails without taking effect. -/
  | before (error : PyError)
  /-- The call takes effect, and a failure is reported all the same. -/
  | after (error : PyError)

def execOp (outcome : Outcome) (tables : Tables) (op : DynamoOp) : Except PyError Unit × Tables :=
  match outcome with
  | .success => applyOp tables op
  | .before error => (.error error, tables)
  | .after error => (.error error, (applyOp tables op).2)

/-- Concurrent invocations of the handler, each with its batch. -/
abbrev Lambda := Pool Tables (List Record) (fun _ : DynamoOp => Unit) PyError (List String)

abbrev LambdaLabel :=
  @Pool.Label DynamoOp (List Record) Outcome (fun _ => Unit) PyError (List String)

abbrev LambdaTrace :=
  @Pool.Trace DynamoOp Tables (List Record) Outcome (fun _ => Unit) PyError (List String)

namespace Lambda

def init : Lambda := ⟨.empty, []⟩

/-- Runs of the handler from empty tables. -/
abbrev Run (repr : Json → String) : LambdaTrace → Lambda → Prop :=
  Pool.Run execOp (handler repr) init

end Lambda

/-! ## What the tables say of a tenant and a month -/

def partitionKey (tenant : String) : String := "TENANT#" ++ tenant

def monthKey (m : BillingMonth) : String := "MONTH#" ++ m.key

/-- The row lies in the tenant's partition and under the month's sort-key prefix. -/
def LedgerItem.filedUnder (tenant : String) (m : BillingMonth) (row : LedgerItem) : Bool :=
  row.pk == partitionKey tenant && PyStr.startswith row.sk ("USAGE#" ++ m.key ++ "#")

namespace Tables

def ledgerCount (tables : Tables) (tenant : String) (m : BillingMonth) : Int :=
  (tables.ledger.filter (LedgerItem.filedUnder tenant m)).length

def ledgerUnits (tables : Tables) (tenant : String) (m : BillingMonth) : Int :=
  ((tables.ledger.filter (LedgerItem.filedUnder tenant m)).map LedgerItem.usageUnits).sum

/-- The aggregate item with a key, read as zero when there is none. -/
def aggregateAt (tables : Tables) (pk sk : String) : Option AggregateItem :=
  tables.aggregate.find? (AggregateItem.hasKey pk sk)

def requestCount (tables : Tables) (tenant : String) (m : BillingMonth) : Int :=
  ((tables.aggregateAt (partitionKey tenant) (monthKey m)).map AggregateItem.requestCount).getD 0

def usageUnits (tables : Tables) (tenant : String) (m : BillingMonth) : Int :=
  ((tables.aggregateAt (partitionKey tenant) (monthKey m)).map AggregateItem.usageUnits).getD 0

/-- The aggregate says what the ledger says. -/
def Consistent (tables : Tables) (tenant : String) (m : BillingMonth) : Prop :=
  tables.requestCount tenant m = tables.ledgerCount tenant m ∧
    tables.usageUnits tenant m = tables.ledgerUnits tenant m

end Tables

end TenantSaas
