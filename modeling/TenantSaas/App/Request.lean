import TenantSaas.Config
import TenantSaas.Python

/-!
# Requests, sessions and identities

The values Flask hands to a view: the request, the signed session cookie, and the identity
dict that the decorators put into `g.identity`.
-/

namespace TenantSaas

/-- `bool(v)` of a string that may be `None`. -/
def truthy : Option String → Bool
  | some s => s != ""
  | none => false

/-- `a or b` -/
def pyOr (a b : Option String) : Option String := if truthy a then a else b

@[simp] theorem truthy_none : truthy none = false := rfl
@[simp] theorem truthy_some (s : String) : truthy (some s) = (s != "") := rfl

theorem truthy_pyOr (a b : Option String) : truthy (pyOr a b) = (truthy a || truthy b) := by
  unfold pyOr
  by_cases ha : truthy a = true
  · simp [ha]
  · simp [ha]

theorem exists_of_truthy {a : Option String} (h : truthy a = true) : ∃ s, a = some s ∧ s ≠ "" := by
  cases a with
  | none => cases h
  | some s => exact ⟨s, rfl, by simpa using h⟩

/-- The identity dict; a key that some of its makers leave out is an option. -/
structure Identity where
  tenant : String
  role : String
  group : String
  username : Option String
  email : Option String
  sub : Option String
  userId : Option String
  profileComplete : Bool
  firstLogin : Option Bool
  passwordResetDone : Bool
  deriving DecidableEq

/-- An administrator of TenantA. -/
def sampleAdmin : Identity where
  tenant := "TenantA"
  role := "admin"
  group := "TenantA_admin"
  username := some "alice"
  email := some "alice@a.example"
  sub := some "sub-1"
  userId := some "u-1"
  profileComplete := true
  firstLogin := some false
  passwordResetDone := false

/-- The session cookie's contents, a missing key read as `None`; `flashes` are the messages
not shown yet. -/
structure Session where
  identity : Option Identity
  accessToken : Json
  refreshToken : Json
  tokenExpiresAt : Option ℚ
  oauthState : Option String
  oauthCodeVerifier : Option String
  flashes : List (String × String)

/-- `session.clear()` -/
def Session.cleared : Session := ⟨none, .null, .null, none, none, none, []⟩

structure Request where
  method : String
  path : String
  headers : String → Option String
  cookies : String → Option String
  args : String → Option String
  form : String → Option String

namespace Request

/-- `request.headers.get(name, "")` -/
def header (request : Request) (name : String) : String := (request.headers name).getD ""

/-- `request.form.get(name, "")` -/
def field (request : Request) (name : String) : String := (request.form name).getD ""

/-- `request.args.get(name, "")` -/
def arg (request : Request) (name : String) : String := (request.args name).getD ""

/-- `request.args.get("page", 1, type=int)` -/
def pageArg (request : Request) : Int :=
  ((request.args "page").bind Json.parseInt).getD 1

end Request

/-- The claims of a decoded token that the program reads. -/
structure Claims where
  /-- The list `cognito:groups`, of any values; a claim that is missing is an empty one. -/
  groups : List Json
  cognitoUsername : Option String
  username : Option String
  email : Option String
  sub : Option String
  tokenUse : Option String
  exp : Option ℚ

end TenantSaas
