import TenantSaas.Routes.Admin
import TenantSaas.Services.KmsService
import TenantSaas.Web.Decorators

/-!
# User routes

`routes/users.py`, entered with the identity `login_required` put into `g`.
-/

namespace TenantSaas

namespace Users

/-- `_resolve_user_id` (`users.py:24-28`) -/
def resolveUserId (identity : Identity) : Except PyError String :=
  match pyOr identity.userId identity.username with
  | some userId =>
    if userId = "" then
      .error (.valueError "Authenticated identity is missing both user_id and username.")
    else .ok userId
  | none => .error (.valueError "Authenticated identity is missing both user_id and username.")

/-- How many of the four profile fields are filled. -/
def filledFields (record : UserRow) : Nat :=
  [some record.username, some record.email, record.phone, record.department].countP truthy

/-- `_profile_completion` (`users.py:31-34`) -/
def profileCompletion (record : Option UserRow) : Nat :=
  match record with
  | some record => filledFields record * 25
  | none => 0

/-- `_get_current_identity` (`users.py:37-38`); `entered` is `g.identity`. -/
def getCurrentIdentity (entered : Identity) : App Identity := do
  let session ← perform .session
  pure (session.identity.getD entered)

/-- `_wants_json` (`users.py:41-61`) -/
def wantsJson (request : Request) : App Bool := do
  let accept := request.header "Accept"
  if accept = "application/json" then pure true
  else do
    let session ← perform .session
    let isBrowser := session.identity.isSome || PyStr.contains accept "text/html"
    pure (truthy (request.headers "Authorization") && !isBrowser)

/-- `dashboard` (`users.py:64-86`) -/
def dashboard (config : Config) (request : Request) (entered : Identity) : App Response :=
  profileSetupRequired entered do
    if entered.role = "admin" then pure (.redirect .adminDashboard)
    else do
      let identity ← getCurrentIdentity entered
      let userId ← Prog.ofExcept (resolveUserId identity)
      let record ← getUserById config entered.tenant userId
      let json ← wantsJson request
      if json then pure (.json 200 (.dashboard identity record))
      else render (.dashboard identity record (profileCompletion record))

/-- `phone.startswith("demo-enc:") or phone.startswith("enc:")` -/
def looksEncrypted (phone : String) : Bool :=
  PyStr.startswith phone demoPrefix || PyStr.startswith phone "enc:"

/-- The record `user_details_page` shows: a phone that looks encrypted is decrypted. -/
def shownRecord (record : Option UserRow) : App (Option UserRow) :=
  match record with
  | none => pure none
  | some row =>
    let phone := row.phone.getD ""
    if looksEncrypted phone then do
      let plain ← decryptField phone
      pure (some { row with phone := some plain })
    else pure (some row)

/-- `user_details_page` (`users.py:89-104`) -/
def userDetailsPage (config : Config) (entered : Identity) : App Response := do
  let identity ← getCurrentIdentity entered
  let userId ← Prog.ofExcept (resolveUserId identity)
  let record ← getUserById config entered.tenant userId
  let record ← shownRecord record
  render (.userProfile identity record (profileCompletion record))

/-- The fields of the profile form, stripped. -/
structure ProfileForm where
  name : String
  email : String
  phone : String
  department : String

def ProfileForm.read (request : Request) : ProfileForm where
  name := PyStr.strip (request.field "name")
  email := PyStr.strip (request.field "email")
  phone := PyStr.strip (request.field "phone")
  department := PyStr.strip (request.field "department")

/-- The checks of `user_details_update` (`users.py:123-127`). -/
def ProfileForm.errors (form : ProfileForm) : List String :=
  (if form.name = "" then ["Name is required."] else []) ++
    (if Admin.badEmail form.email then ["Please enter a valid email address."] else [])

/-- The columns `user_details_update` writes, once the phone is encrypted. -/
def ProfileForm.fields (form : ProfileForm) (phone : String) : List (String × String) :=
  [("username", form.name), ("email", form.email), ("phone", phone),
    ("department", form.department)]

/-- `if "identity" in session: session["identity"] = identity` -/
def keepIdentity (identity : Identity) : App Unit := do
  let session ← perform .session
  match session.identity with
  | some _ => perform (.setSession { session with identity := some identity })
  | none => pure ()

def invalidSession : String := "Your session is invalid. Please log in again."
def saveFailed : String := "Something went wrong while saving your profile. Please try again."

/-- `url_for("auth.login")`: there is no such endpoint. -/
def noSuchEndpoint : App Response := throw (.buildError "auth.login")

/-- The body of the `try` of `user_details_update` (`users.py:134-154`). -/
def saveProfile (config : Config) (tenant : String) (identity : Identity) (userId : String)
    (form : ProfileForm) : App Response := do
  let phone ← encryptField config form.phone
  upsertUserProfile config tenant userId (form.fields phone) identity.role
  keepIdentity { identity with profileComplete := form.phone != "" && form.department != "" }
  flash "Profile updated successfully." "success"
  pure (.redirect (if identity.role = "admin" then .adminDashboard else .userDashboard))

/-- `user_details_update` (`users.py:107-159`) -/
def userDetailsUpdate (config : Config) (request : Request) (entered : Identity) :
    App Response := do
  let identity ← getCurrentIdentity entered
  match resolveUserId identity with
  | .error _ => do
    flash invalidSession "danger"
    noSuchEndpoint
  | .ok userId =>
    let form := ProfileForm.read request
    if form.errors ≠ [] then do
      flashErrors form.errors
      pure (.redirect .userDetailsPage)
    else
      tryCatch (saveProfile config entered.tenant identity userId form) fun _ => do
        flash saveFailed "danger"
        pure (.redirect .userDetailsPage)

/-- `password_reset_page` (`users.py:160-163`) -/
def passwordResetPage (entered : Identity) : App Response := do
  let identity ← getCurrentIdentity entered
  render (.passwordReset (some identity))

/-- `session.get("access_token") or request.headers.get("Authorization", "").replace(..)` -/
def accessTokenOf (session : Session) (request : Request) : Json :=
  if session.accessToken.truthy then session.accessToken
  else .str (PyStr.replace (request.header "Authorization") "Bearer " "")

def resetFailed : String :=
  "Something went wrong while resetting your password. Please try again."

/-- `password_reset_update` (`users.py:166-202`) -/
def passwordResetUpdate (config : Config) (request : Request) (entered : Identity) :
    App Response := do
  let identity ← getCurrentIdentity entered
  match resolveUserId identity with
  | .error _ => do
    flash invalidSession "danger"
    noSuchEndpoint
  | .ok userId =>
    if request.field "new_password" ≠ request.field "confirm_password" then do
      flash "New password and confirmation do not match." "danger"
      pure (.redirect .passwordResetPage)
    else do
      let session ← perform .session
      tryCatch
        (do
          changePassword config (accessTokenOf session request) (request.field "current_password")
            (request.field "new_password")
          markPasswordChanged config entered.tenant userId
          flash "Password updated successfully." "success"
          pure (.redirect .userDetailsPage))
        (fun e => do
          match e with
          | .valueError message => flash message "danger"
          | _ => flash resetFailed "danger"
          pure (.redirect .passwordResetPage))

end Users

end TenantSaas
