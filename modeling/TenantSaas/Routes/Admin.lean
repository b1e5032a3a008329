import TenantSaas.Services.CognitoService
import TenantSaas.Web.Response

/-!
# Admin routes

`routes/admin.py`, entered with the identity `admin_required` put into `g`.
-/

namespace TenantSaas

namespace Admin

section Listing

variable (config : Config) (lower : String → String) (request : Request) (identity : Identity)

/-- `request.args.get("q", "").strip()` -/
def search : String := PyStr.strip (request.arg "q")

/-- `max(1, request.args.get("page", 1, type=int))` -/
def page : Nat := (max 1 request.pageArg).toNat

/-- `dashboard` (`admin.py:26-38`) -/
def dashboard : App Response := do
  let data ← listUsers config lower identity.tenant (search request) (page request) 8
  let session ← perform .session
  render (.adminDashboard identity.tenant (search request) data session.identity)

/-- `manage_users_page` (`admin.py:41-49`) -/
def manageUsersPage : App Response := do
  let data ← listUsers config lower identity.tenant (search request) (page request) 8
  let session ← perform .session
  render (.manageUsers identity.tenant (search request) data session.identity)

end Listing

/-- The form of `create_user`, as `admin.py:55-57` reads it. -/
structure NewUser where
  username : String
  email : String
  role : String

def NewUser.read (request : Request) : NewUser where
  username := PyStr.strip (request.field "username")
  email := PyStr.strip (request.field "email")
  role := PyStr.strip ((request.form "role").getD "user")

/-- `"@" not in email or "." not in email` -/
def badEmail (email : String) : Bool :=
  !PyStr.contains email "@" || !PyStr.contains email "."

/-- The checks of `create_user` (`admin.py:60-66`). -/
def NewUser.errors (user : NewUser) : List String :=
  (if user.username = "" then ["Username is required."] else []) ++
    (if badEmail user.email then ["Please enter a valid email address."] else []) ++
    (if user.role ≠ "admin" ∧ user.role ≠ "user" then ["Role must be either admin or user."]
      else [])

/-- `request.form.get("user_id", "").strip() or str(uuid.uuid4())[:8]` -/
def newUserId (request : Request) : App String :=
  let given := PyStr.strip (request.field "user_id")
  if given = "" then do
    let uuid ← perform .uuid4
    pure (PyStr.take uuid 8)
  else pure given

def createFailed : String := "We couldn't create that user. Please try again."
def removeFailed : String := "We couldn't remove that user. Please try again."
def updateFailed : String := "We couldn't update that user's status. Please try again."

/-- `create_user` (`admin.py:52-95`) -/
def createUser (config : Config) (request : Request) (identity : Identity) : App Response := do
  let user := NewUser.read request
  let userId ← newUserId request
  if user.errors ≠ [] then do
    flashErrors user.errors
    pure (.redirect .manageUsersPage)
  else
    tryCatch
      (do
        let cognitoResult ←
          createCognitoUser config user.username user.email identity.tenant user.role
        createUserRecord config identity.tenant userId user.username user.email user.role
        let session ← perform .session
        render (.createUser user.username user.email user.role userId identity.tenant
          cognitoResult.tempPassword session.identity))
      (fun _ => do
        flash createFailed "danger"
        pure (.redirect .manageUsersPage))

/-- `request.form.get("username", user_id)` -/
def formUsername (request : Request) (userId : String) : String :=
  (request.form "username").getD userId

/-- A form field sent as `"true"`. -/
def isTrue (request : Request) (name : String) : Bool := request.form name == some "true"

/-- `delete_user` (`admin.py:97-113`) -/
def deleteUser (config : Config) (request : Request) (identity : Identity) (userId : String) :
    App Response := do
  let hardDelete := isTrue request "hard_delete"
  let username := formUsername request userId
  tryCatch
    (do
      deleteCognitoUser config username
      deleteUserRecord config identity.tenant userId hardDelete
      flash ("User '" ++ username ++ "' was successfully removed.") "success")
    (fun _ => flash removeFailed "danger")
  pure (.redirect .manageUsersPage)

/-- `toggle_user` (`admin.py:116-128`) -/
def toggleUser (config : Config) (request : Request) (identity : Identity) (userId : String) :
    App Response := do
  let enable := isTrue request "enable"
  let username := formUsername request userId
  tryCatch
    (do
      cognitoSetEnabled config username enable
      setUserEnabled config identity.tenant userId enable
      flash ("User '" ++ username ++ "' has been " ++ (if enable then "enabled" else "disabled") ++
        ".") "success")
    (fun _ => flash updateFailed "danger")
  pure (.redirect .manageUsersPage)

end Admin

end TenantSaas
