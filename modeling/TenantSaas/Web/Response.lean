import TenantSaas.App.World
import TenantSaas.Services.BillingService
import TenantSaas.Services.RdsService

/-!
# Responses

What a view answers: a rendered template with its arguments, JSON, or a redirect.
-/

namespace TenantSaas

/-- The endpoints `url_for` is asked for. -/
inductive Endpoint where
  | login
  | userDashboard
  | userDetailsPage
  | passwordResetPage
  | adminDashboard
  | manageUsersPage
  deriving DecidableEq

/-- A template and the arguments of its `render_template`. -/
inductive Page where
  | dashboard (identity : Identity) (record : Option UserRow) (profileCompletion : Nat)
  | userProfile (identity : Identity) (record : Option UserRow) (profileCompletion : Nat)
  | passwordReset (identity : Option Identity)
  | adminDashboard (tenant search : String) (data : UserList) (identity : Option Identity)
  | manageUsers (tenant search : String) (data : UserList) (identity : Option Identity)
  | createUser (username email role userId tenant tempPassword : String)
      (identity : Option Identity)
  | billingDashboard (invoice : Invoice) (invoices : List Invoice) (currentPeriod : String)
  | error (code : Nat) (message : String)

/-- The body of a JSON response. -/
inductive Payload where
  | error (error : String)
  | dashboard (identity : Identity) (record : Option UserRow)
  | usage (tenantId billingPeriod plan : String) (includedRequests usageUnits overageUnits : Int)
  | invoices (tenantId : String) (invoices : List Invoice)

inductive Response where
  /-- A page, with the messages its layout shows. -/
  | page (status : Nat) (page : Page) (flashes : List (String × String))
  | json (status : Nat) (body : Payload)
  | redirect (endpoint : Endpoint)

def Response.status : Response → Nat
  | page status _ _ => status
  | json status _ => status
  | redirect _ => 302

/-- `render_template`; `base.html` shows the flashed messages and with that takes them out of
the session. -/
def render (page : Page) : App Response := do
  let session ← perform .session
  perform (.setSession { session with flashes := [] })
  pure (.page 200 page session.flashes)

/-- `for e in errors: flash(e, "danger")` -/
def flashErrors : List String → App Unit
  | [] => pure ()
  | e :: es => do
    flash e "danger"
    flashErrors es

/-- A form with errors changes the messages. -/
theorem run_flashErrors {world : World} (errors : List String) (s : AppState) : ∃ flashes tick,
    world.run (flashErrors errors) s =
      (.ok (), { s with session := { s.session with flashes := flashes }, tick := tick }) := by
  induction errors generalizing s with
  | nil => exact ⟨s.session.flashes, s.tick, rfl⟩
  | cons e errors ih =>
    obtain ⟨flashes, tick, hrest⟩ := ih (world.run (flash e "danger") s).2
    unfold flashErrors
    rw [World.run_bind_ok (run_flash e "danger" s)]
    rw [run_flash] at hrest
    exact ⟨flashes, tick, hrest⟩

/-- `error.html` hides the part of the layout that shows messages. -/
def serverError : Response := .page 500 (.error 500 "Something went wrong on our end.") []

section Calls

variable {P : AppOp → Prop} (hread : P .session) (hwrite : ∀ s, P (.setSession s))

include hread hwrite

theorem render_calls (page : Page) : (render page).Calls P :=
  Prog.Calls.bind (perform_calls hread) fun _ =>
    Prog.Calls.bind (perform_calls (hwrite _)) fun _ => trivial

theorem flashErrors_calls (errors : List String) : (flashErrors errors).Calls P := by
  induction errors with
  | nil => trivial
  | cons e errors ih => exact Prog.Calls.bind (flash_calls hread hwrite e _) fun _ => ih

end Calls

end TenantSaas
