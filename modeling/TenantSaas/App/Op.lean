import TenantSaas.Misc.Prog
import TenantSaas.Misc.DateTime
import TenantSaas.App.Request
import TenantSaas.Metering.Tables

/-!
# The calls of the Flask application

What the views and services ask of the world outside the process, of the process's own
mutable state, and of the clock.  `App` is code over these calls.
-/

namespace TenantSaas

open PyDateTime

/-- The two tables of `_TENANT_TABLE_WHITELIST` (`rds_service.py:28-31`). -/
inductive TenantTable where
  | tenantA
  | tenantB
  deriving DecidableEq

/-- A row of a tenant table (`database.py:18-30`). -/
structure UserRow where
  userId : String
  username : String
  email : String
  role : String
  phone : Option String
  department : Option String
  profileImage : Option String
  enabled : Bool
  passwordLastChanged : Option String
  firstLogin : Bool
  deriving DecidableEq

/-- `SELECT * .. WHERE` -/
inductive RowQuery where
  | byUserId (userId : String)
  | byUsername (username : String)
  /-- `(username LIKE t OR email LIKE t) ORDER BY username LIMIT size OFFSET offset` -/
  | page (like : String) (size : Nat) (offset : Nat)

/-- `SELECT role, enabled, COUNT(*) AS cnt .. GROUP BY role, enabled` -/
structure RoleCount where
  role : String
  enabled : Bool
  cnt : Nat

/-- The statements that write. -/
inductive RowWrite where
  | insert (row : UserRow)
  | updateProfile (userId : String) (fields : List (String × String))
  | updateEnabled (userId : String) (enabled : Bool)
  | updatePasswordChanged (userId : String) (today : String)
  | delete (userId : String)

/-- The `cognito-idp` calls of the admin functions. -/
inductive CognitoOp where
  | adminCreateUser (username : String) (attributes : List (String × String)) (password : String)
  | adminAddUserToGroup (username group : String)
  | adminDeleteUser (username : String)
  | adminEnableUser (username : String)
  | adminDisableUser (username : String)

/-- An entry of `_demo_cognito_users`. -/
structure DemoCognitoUser where
  sub : String
  email : String
  group : String
  status : String
  enabled : Bool
  deriving DecidableEq

/-- What `requests.post` brings back from the token endpoint. -/
inductive TokenReply where
  | unreachable
  | http (status : Nat) (body : Body)

abbrev DemoTable := List (String × UserRow)

inductive AppOp where
  -- one connection to RDS
  | connect
  | select (table : TenantTable) (query : RowQuery)
  | selectForUpdate (table : TenantTable) (userId : String)
  | countLike (table : TenantTable) (like : String)
  | countRoles (table : TenantTable)
  | write (table : TenantTable) (statement : RowWrite)
  | commit
  | rollback
  | close
  -- `_demo_db`
  | demoTable (tenant : String)
  | setDemoTable (tenant : String) (rows : DemoTable)
  -- Cognito
  | cognito (op : CognitoOp)
  | changePassword (accessToken : Json) (previous proposed : String)
  | tokenRequest (refreshToken : Json)
  | exchangeCode (code : String) (codeVerifier : Option String)
  | decodeJwt (token : String)
  | demoCognitoUser (username : String)
  | setDemoCognitoUser (username : String) (user : Option DemoCognitoUser)
  -- KMS
  | kmsEncrypt (plaintext : List UInt8)
  | kmsDecrypt (blob : List UInt8)
  -- usage
  | queryAggregates (pk : String)
  | sendMessage (body : Body) (tenantAttribute : String)
  | recordDemoEvent (event : Json)
  -- clock and random draws
  | uuid4
  | tempPassword
  | generatePkcePair
  | generateState
  | utcnow
  | time
  | today
  -- the session cookie
  | session
  | setSession (session : Session)
  -- `response.set_cookie` for `cognito_access_token`
  | setCookie (value : Json) (maxAge : Option Int)

/-- What each call answers. -/
abbrev AppOp.Res : AppOp → Type
  | select _ _ => List UserRow
  | selectForUpdate _ _ => Option String
  | countLike _ _ => Nat
  | countRoles _ => List RoleCount
  | write _ _ => Nat
  | demoTable _ => Option DemoTable
  | tokenRequest _ => TokenReply
  | exchangeCode _ _ => TokenReply
  | decodeJwt _ => Claims
  | demoCognitoUser _ => Option DemoCognitoUser
  | kmsEncrypt _ => List UInt8
  | kmsDecrypt _ => List UInt8
  | queryAggregates _ => List AggregateItem
  | uuid4 => String
  | tempPassword => String
  | generatePkcePair => String × String
  | generateState => String
  | utcnow => DateTime
  | time => ℚ
  | today => String
  | session => Session
  | _ => Unit

/-- Code of the Flask application. -/
abbrev App := Prog AppOp.Res PyError

/-- One call of the application. -/
def perform (op : AppOp) : App op.Res := Prog.perform op

theorem perform_calls {P : AppOp → Prop} {op : AppOp} (h : P op) : (perform op).Calls P :=
  (Prog.Calls.perform_iff op).mpr h

/-- `flash(message, category)` -/
def flash (message category : String) : App Unit := do
  let session ← perform .session
  perform (.setSession { session with flashes := session.flashes ++ [(category, message)] })

theorem flash_calls {P : AppOp → Prop} (hread : P .session) (hwrite : ∀ s, P (.setSession s))
    (message category : String) : (flash message category).Calls P :=
  Prog.Calls.bind (perform_calls hread) fun _ => perform_calls (hwrite _)

end TenantSaas
