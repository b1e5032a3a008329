import TenantSaas.Web.Views

/-!
# What an identity may ask for

A guarded request is admitted under one identity.  Its tenant and its role, with the user id that
`_resolve_user_id` reads from it, bound the calls that are made to serve the request.  The user
pool is one for all tenants: there the role and the groups are bounded, not which account an
administrator names.
-/

namespace TenantSaas

/-- The same person: the fields a request may change in its own session are left out. -/
def Identity.Alike (a b : Identity) : Prop :=
  b = { a with
    profileComplete := b.profileComplete
    firstLogin := b.firstLogin
    passwordResetDone := b.passwordResetDone }

theorem Identity.Alike.refl (a : Identity) : a.Alike a := rfl

theorem Identity.Alike.tenant {a b : Identity} (h : a.Alike b) : b.tenant = a.tenant := by rw [h]

theorem Identity.Alike.role {a b : Identity} (h : a.Alike b) : b.role = a.role := by rw [h]

theorem Identity.Alike.trans {a b c : Identity} (h : a.Alike b) (h' : b.Alike c) : a.Alike c := by
  rw [Identity.Alike, h', h]

theorem Identity.Alike.resolveUserId {a b : Identity} (h : a.Alike b) :
    Users.resolveUserId b = Users.resolveUserId a := by
  rw [h]
  rfl

/-! ## Authority -/

/-- A user writes their own row, of their own role; an administrator makes rows, switches and
deletes them. -/
def RowWrite.AllowedFor (identity : Identity) : RowWrite → Prop
  | .insert row => identity.role = "admin" ∧ (row.role = "admin" ∨ row.role = "user") ∨
    Users.resolveUserId identity = .ok row.userId ∧ row.role = identity.role
  | .updateProfile userId fields => Users.resolveUserId identity = .ok userId ∧
    ∀ field ∈ fields, field.1 ∈ editableProfileFields
  | .updatePasswordChanged userId _ => Users.resolveUserId identity = .ok userId
  | .updateEnabled _ _ | .delete _ => identity.role = "admin"

/-- An account is only put into groups of the tenant; any account may be put there, created,
deleted, enabled and disabled. -/
def CognitoOp.AllowedIn (tenant : String) : CognitoOp → Prop
  | .adminAddUserToGroup _ group =>
    ∃ role, (role = "admin" ∨ role = "user") ∧ group = tenant ++ "_" ++ role
  | _ => True

/-- A user reads their own row, an administrator all of the tenant's. -/
def RowQuery.AllowedFor (identity : Identity) (query : RowQuery) : Prop :=
  identity.role = "admin" ∨ ∃ userId, Users.resolveUserId identity = .ok userId ∧
    query = .byUserId userId

/-- What may be asked of the world on behalf of an identity.  Rows, usage and messages are those
of its tenant; the pool, and the one of DEMO_MODE, is open to every administrator. -/
def AppOp.AllowedFor (identity : Identity) : AppOp → Prop
  | select table query => tableForTenant identity.tenant = .ok table ∧ query.AllowedFor identity
  | selectForUpdate table userId => tableForTenant identity.tenant = .ok table ∧
    Users.resolveUserId identity = .ok userId
  | countLike table _ | countRoles table =>
    tableForTenant identity.tenant = .ok table ∧ identity.role = "admin"
  | write table statement =>
    tableForTenant identity.tenant = .ok table ∧ statement.AllowedFor identity
  | demoTable tenant | setDemoTable tenant _ => tenant = identity.tenant
  | cognito op => identity.role = "admin" ∧ op.AllowedIn identity.tenant
  | demoCognitoUser _ | setDemoCognitoUser _ _ | tempPassword => identity.role = "admin"
  | queryAggregates pk => pk = partitionKey identity.tenant
  | sendMessage _ tenant => tenant = identity.tenant
  | tokenRequest _ | exchangeCode _ _ | decodeJwt _ | generatePkcePair | generateState
  | setCookie _ _ => False
  | _ => True

/-- The statements that read without a lock. -/
def AppOp.reads : AppOp → Bool
  | select _ _ | countLike _ _ | countRoles _ => true
  | _ => false

/-- The statements that lock or change rows. -/
def AppOp.locks : AppOp → Bool
  | selectForUpdate _ _ | write _ _ => true
  | _ => false

/-- The calls on a connection. -/
def AppOp.isSql : AppOp → Bool
  | connect | commit | rollback | close => true
  | op => op.reads || op.locks

/-- The calls that make an account: it is put into its group after it was created. -/
def AppOp.makesAccount : AppOp → Bool
  | cognito (.adminCreateUser _ _ _) | cognito (.adminAddUserToGroup _ _) => true
  | _ => false

/-- An allowed call that stands for itself: it is no part of a connection, of a change of the
session or of the making of an account. -/
structure AppOp.Granted (identity : Identity) (op : AppOp) : Prop where
  allowed : op.AllowedFor identity
  outside : op.isSql = false
  keepsSession : op.changesSession = false
  single : op.makesAccount = false

/-- The session of a request speaks for the identity it was admitted under, if for any. -/
structure Session.SpeaksFor (identity : Identity) (signedIn : Bool) (s : Session) : Prop where
  isSome : s.identity.isSome = signedIn
  alike : ∀ current, s.identity = some current → identity.Alike current

theorem Session.SpeaksFor.congr {identity : Identity} {signedIn : Bool} {s t : Session}
    (h : s.SpeaksFor identity signedIn) (ht : t.identity = s.identity) :
    t.SpeaksFor identity signedIn := by
  obtain ⟨hsome, halike⟩ := h
  rw [← ht] at hsome halike
  exact ⟨hsome, halike⟩

/-- A class of programs that has the pieces of the views entered with an identity, each within
its authority, and is closed under the ways they are put together. -/
structure Serves (config : Config) (identity : Identity) (signedIn : Bool)
    (C : {α : Type} → App α → Prop) : Prop where
  ret : ∀ {α : Type} (a : α), C (.ret a)
  raise : ∀ {α : Type} (e : PyError), C (.raise e : App α)
  bind : ∀ {α β : Type} {p : App α} {f : α → App β}, C p → (∀ a, C (f a)) → C (p.bind f)
  handle : ∀ {α : Type} {p : App α} {handler : PyError → App α}, C p →
    (∀ e, C (handler e)) → C (p.handle handler)
  perform : ∀ {op : AppOp}, op.Granted identity → C (perform op)
  account : identity.role = "admin" → ∀ {role : String}, role = "admin" ∨ role = "user" →
    ∀ username email, C (createCognitoUser config username email identity.tenant role)
  reading : ∀ {α : Type} {body : App α},
    body.Calls (fun op => op.reads = true ∧ op.AllowedFor identity) → C (withConnection body)
  transaction : ∀ {α : Type} {body : App α},
    body.Calls (fun op => (op.reads || op.locks) = true ∧ op.AllowedFor identity) →
      C (transaction body)
  session : ∀ {α : Type} {f : Session → App α},
    (∀ s, s.SpeaksFor identity signedIn →
      AfterReading C (Session.SpeaksFor identity signedIn) (f s)) →
      C ((TenantSaas.perform .session).bind f)

end TenantSaas
