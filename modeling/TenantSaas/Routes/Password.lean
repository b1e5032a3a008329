import TenantSaas.Routes.Users

/-!
# The password page

`routes/password.py`, entered with the identity `login_required` put into `g`.
-/

namespace TenantSaas

namespace Password

/-- The class of `_PASSWORD_RULES["symbol"]`. -/
def symbols : List Char :=
  ['!', '@', '#', '$', '%', '^', '&', '*', '(', ')', '_', '-', '+', '=', '[', ']', '{', '}', ';',
    ':', '\'', '"', ',', '.', '<', '>', '/', '?']

/-- `_PASSWORD_RULES["min_length"]` -/
def minLength : Nat := 10

/-- `_password_errors` (`password.py:41-55`) -/
def passwordErrors (password confirm : String) : List String :=
  let lacks (p : Char → Bool) : Bool := !password.toList.any p
  (if password.length < minLength then
      ["Password must be at least " ++ toString minLength ++ " characters long."] else []) ++
    (if lacks fun c => 'A' ≤ c && c ≤ 'Z' then
      ["Password must include at least one uppercase letter."] else []) ++
    (if lacks fun c => 'a' ≤ c && c ≤ 'z' then
      ["Password must include at least one lowercase letter."] else []) ++
    (if lacks PyStr.isDecimal then ["Password must include at least one number."] else []) ++
    (if lacks symbols.contains then
      ["Password must include at least one special character."] else []) ++
    (if password ≠ confirm then ["New password and confirmation do not match."] else [])

/-- `reset_page` (`password.py:58-61`) -/
def resetPage : App Response := do
  let session ← perform .session
  render (.passwordReset session.identity)

/-- The errors of `reset_submit` (`password.py:72-74`). -/
def submitErrors (request : Request) : List String :=
  (if request.field "current_password" = "" then ["Current password is required."] else []) ++
    passwordErrors (request.field "new_password") (request.field "confirm_password")

def signInAgain : String :=
  "Your session needs to be refreshed before changing your password. Please sign in again."
def changeFailed : String :=
  "We couldn't update your password. Please check your current password and try again."

/-- The body of the `try` of `reset_submit` (`password.py:92-107`). -/
def submitPassword (config : Config) (request : Request) (identity : Identity)
    (accessToken : Json) : App Response := do
  changePassword config accessToken (request.field "current_password")
    (request.field "new_password")
  let session ← perform .session
  perform (.setSession { session with
    identity := some { identity with passwordResetDone := true, firstLogin := some false } })
  flash "Your password has been updated successfully." "success"
  if !identity.profileComplete then pure (.redirect .userDetailsPage)
  else if identity.role = "admin" then pure (.redirect .adminDashboard)
  else pure (.redirect .userDashboard)

/-- `reset_submit` (`password.py:64-111`) -/
def resetSubmit (config : Config) (request : Request) : App Response := do
  let session ← perform .session
  match session.identity with
  | none => throw (.keyError "identity")
  | some identity =>
    if submitErrors request ≠ [] then do
      flashErrors (submitErrors request)
      render (.passwordReset (some identity))
    else if !session.accessToken.truthy && !config.demoMode then do
      flash signInAgain "warning"
      pure (.redirect .login)
    else
      tryCatch (submitPassword config request identity session.accessToken) fun _ => do
        flash changeFailed "danger"
        render (.passwordReset (some identity))

end Password

end TenantSaas
