import TenantSaas.Services.Transactions
import TenantSaas.Web.Serve

/-!
# What the views are made of

The calls of the views and the ways they put them together.
-/

namespace TenantSaas

/-- A call that is no statement on a connection, names no other tenant, and emits no event. -/
def AppOp.Off (tenant : String) : AppOp → Prop
  | connect | select _ _ | selectForUpdate _ _ | countLike _ _ | countRoles _ | write _ _
  | commit | rollback | close => False
  | demoTable t | setDemoTable t _ => t = tenant
  | queryAggregates pk => pk = partitionKey tenant
  | sendMessage _ _ | recordDemoEvent _ => False
  | _ => True

/-- A statement on the tenant's table, or the end of a transaction. -/
def AppOp.Inside (tenant : String) : AppOp → Prop
  | select table _ | selectForUpdate table _ | countLike table _ | countRoles table
  | write table _ => tableForTenant tenant = .ok table
  | commit | rollback => True
  | _ => False

/-- The calls of an OAuth flow. -/
def AppOp.signsIn : AppOp → Bool
  | exchangeCode _ _ | generatePkcePair | generateState => true
  | _ => false

/-- A call of a view, outside its connections, that leaves the session. -/
structure AppOp.OfView (tenant : String) (op : AppOp) : Prop where
  off : op.Off tenant
  keepsSession : op.changesSession = false
  noSignIn : op.signsIn = false

/-- The sessions differ in the identity and the messages at most, and no identity is lost. -/
structure Session.SameKeys (s t : Session) : Prop where
  keys : t = { s with identity := t.identity, flashes := t.flashes }
  identity : s.identity.isSome = true → t.identity.isSome = true

theorem Session.SameKeys.refl (s : Session) : s.SameKeys s := ⟨rfl, id⟩

theorem Session.SameKeys.trans {s t u : Session} (hst : s.SameKeys t) (htu : t.SameKeys u) :
    s.SameKeys u := by
  refine ⟨?_, htu.identity ∘ hst.identity⟩
  rw [htu.keys, hst.keys]

/-- What a view does once it has read its session: nothing to it, or a write of one that it may
have then. -/
inductive AfterReading (C : {α : Type} → App α → Prop) (May : Session → Prop) {α : Type} :
    App α → Prop where
  | leaves {p : App α} (h : C p) : AfterReading C May p
  | writes (new : Session) (next : Unit → App α) (may : May new)
      (h : ∀ u, C (next u)) : AfterReading C May ((perform (.setSession new)).bind next)

theorem AfterReading.mono {C : {α : Type} → App α → Prop} {May May' : Session → Prop} {α : Type}
    {p : App α} (h : AfterReading C May p) (hmay : ∀ s, May s → May' s) :
    AfterReading C May' p := by
  cases h with
  | leaves h => exact .leaves h
  | writes new next may h => exact .writes new next (hmay new may) h

/-- A class of programs that has the pieces of the views and is closed under the ways they are
put together. -/
structure Closed (tenant : String) (C : {α : Type} → App α → Prop) : Prop where
  ret : ∀ {α : Type} (a : α), C (.ret a)
  raise : ∀ {α : Type} (e : PyError), C (.raise e : App α)
  bind : ∀ {α β : Type} {p : App α} {f : α → App β}, C p → (∀ a, C (f a)) → C (p.bind f)
  handle : ∀ {α : Type} {p : App α} {handler : PyError → App α}, C p →
    (∀ e, C (handler e)) → C (p.handle handler)
  perform : ∀ {op : AppOp}, op.OfView tenant → C (perform op)
  connection : ∀ {α : Type} {body : App α}, body.Calls (AppOp.Inside tenant) →
    C (withConnection body)
  session : ∀ {α : Type} {f : Session → App α}, (∀ s, AfterReading C s.SameKeys (f s)) →
    C ((TenantSaas.perform .session).bind f)

section Closed

variable {config : Config} {tenant : String} {C : {α : Type} → App α → Prop} (hC : Closed tenant C)

include hC

theorem transaction_closed {α : Type} {body : App α} (h : body.Calls (AppOp.Inside tenant)) :
    C (transaction body) := by
  apply hC.connection
  apply Prog.Calls.handle
  · exact Prog.Calls.bind h fun _ => Prog.Calls.bind (perform_calls trivial) fun _ => trivial
  · exact fun _ => Prog.Calls.bind (perform_calls trivial) fun _ => trivial

theorem flash_closed (message category : String) : C (flash message category) := by
  refine hC.session fun session => ?_
  rw [← Prog.bind_ret (perform (.setSession _))]
  exact .writes _ _ ⟨rfl, id⟩ fun u => hC.ret u

theorem createCognitoUser_closed (username email role : String) :
    C (createCognitoUser config username email tenant role) := by
  refine hC.bind (hC.perform (by exact ⟨trivial, rfl, rfl⟩)) fun tempPassword => ?_
  split
  · refine hC.bind (hC.perform (by exact ⟨trivial, rfl, rfl⟩)) fun _ => ?_
    exact hC.bind (hC.perform (by exact ⟨trivial, rfl, rfl⟩)) fun _ => hC.ret _
  · refine hC.bind (hC.perform (by exact ⟨trivial, rfl, rfl⟩)) fun _ => ?_
    exact hC.bind (hC.perform (by exact ⟨trivial, rfl, rfl⟩)) fun _ => hC.ret _

end Closed

end TenantSaas
